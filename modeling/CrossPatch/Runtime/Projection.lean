import CrossPatch.Library.Runs
import CrossPatch.Runtime.QueueRefinement

/-!
# One projection of a broker result

The first call that commits leaves one pair of execution events and one test row for
each receipt; every later call finds them, answers the same result and writes nothing.
-/

namespace CrossPatch.Runtime.Projection

open CrossPatch.Broker.Store
open CrossPatch.Domain.Failure CrossPatch.Domain.Hashing CrossPatch.Domain.StateMachine
open CrossPatch.Library CrossPatch.Library.Attempt CrossPatch.Library.Calendar
open CrossPatch.Library.JsonText CrossPatch.Library.Runs CrossPatch.Library.Transaction
open CrossPatch.Runner.Results
open CrossPatch.Runtime.BrokerResults CrossPatch.Runtime.Protocol
open CrossPatch.Runtime.QueueRefinement
open CrossPatch.Runtime.Records CrossPatch.Runtime.Refinement CrossPatch.Runtime.Store
open CrossPatch.Runtime.Timeline

variable {services : Services} {stopwatch : Stopwatch} {db next : Database}
variable {incidentId warrantId evidenceId : String} {result : BrokerResult}

/-! ## What a projection leaves behind -/

/-- The test row of a receipt. -/
structure Records (services : Services) (stopwatch : Stopwatch) (warrantId evidenceId : String)
    (row : TestRunRecord) (receipt : ProcessReceipt) : Prop where
  plan : (row.planId, row.planSha256) = (receipt.planId, receipt.planSha256)
  holds : brokerReceiptResult services stopwatch receipt warrantId evidenceId = .ok row.result

/-- The event that names the evidence and the last test of a projection. -/
structure Concludes (event : TimelineEventRecord) (type : StateEventType) (evidenceId : String)
    (rows : List TestRunRecord) : Prop where
  evidence : textOf (event.payload.lookup "evidence_id") = some evidenceId
  test : ∃ row ∈ rows, textOf (event.payload.lookup
    (if type = .verified then "receipt_id" else "test_run_id")) = some row.id

/-- The incident, its events and its test rows after exactly one projection. -/
structure ProjectedOnce (services : Services) (stopwatch : Stopwatch)
    (incidentId warrantId : String) (result : BrokerResult) (db : Database) : Prop where
  incident : ∃ incident, db.incidents.find incidentId = some incident ∧
    incident.state = if result.status = .executed then .verified else .testFailed
  started : ∃ event, outcomeEvents db incidentId warrantId .executionStarted = [event]
  concluded : ∃ event evidenceId,
    outcomeEvents db incidentId warrantId (outcomeType result) = [event] ∧
    Concludes event (outcomeType result) evidenceId (db.testsOf incidentId warrantId) ∧
    List.Forall₂ (Records services stopwatch warrantId evidenceId)
      (db.testsOf incidentId warrantId) result.receipts
  unopposed : ∀ type, type ∈ [StateEventType.verified, .testFailed] → type ≠ outcomeType result →
    outcomeEvents db incidentId warrantId type = []
  agrees : result.status = .executed ↔ ∀ receipt ∈ result.receipts, receipt.passed = true
  work : ∃ work, db.works.find (executionWorkId warrantId) = some work ∧ work.status = .completed
  repair : result.status ≠ .executed →
    ∃ work, db.works.find (repairWorkId warrantId) = some work ∧ work.kind = .testRepair

/-- The test rows of the warrant name one evidence record. -/
def NamesEvidence (incidentId warrantId evidenceId : String) (db : Database) : Prop :=
  ∀ row ∈ db.testsOf incidentId warrantId,
    textOf (row.result.lookup "evidence_id") = some evidenceId

/-- No call has projected a result of the warrant. -/
structure Unprojected (incidentId warrantId : String) (db : Database) : Prop where
  events : ∀ type, type ∈ [StateEventType.executionStarted, .verified, .testFailed] →
    outcomeEvents db incidentId warrantId type = []
  tests : db.testsOf incidentId warrantId = []

/-- The durable result that a call projects. -/
def Durable (incidentId warrantId : String) (result : BrokerResult) (db : Database) : Prop :=
  ∃ record, db.broker.warrants warrantId = some record ∧ record.id = warrantId ∧
    record.incidentId = incidentId ∧ checkBrokerResult record warrantId = .ok result

/-- Every receipt is of another plan, as a warrant binds each plan once. -/
def DistinctPlans (result : BrokerResult) : Prop :=
  (result.receipts.map fun receipt => (receipt.planId, receipt.planSha256)).Nodup

/-! ## A projection that is already there -/

theorem checkBrokerResult_agrees {record : WarrantRecord}
    (checked : checkBrokerResult record warrantId = .ok result) :
    result.receipts ≠ [] ∧ (result.status = .executed ↔ result.receipts.all (·.passed) = true) ∧
      record.resultJson = some result ∧ (record.claimedAt).isSome = true := by
  simp only [checkBrokerResult, Attempt.bind_eq_ok, require_eq_ok, needed_eq_ok, Except.ok.injEq]
    at checked
  obtain ⟨current, complete, _, _, nonce, _, _, _, _, _, _, receipts, _, agrees, _, _, rfl⟩ :=
    checked
  split at complete
  · rename_i durable
    exact ⟨receipts, iff_of_eq agrees, complete, durable.2.1⟩
  · cases complete

theorem Records.evidence {row : TestRunRecord} {receipt : ProcessReceipt}
    (records : Records services stopwatch warrantId evidenceId row receipt) :
    textOf (row.result.lookup "evidence_id") = some evidenceId := by
  have holds := records.holds
  simp only [brokerReceiptResult, Attempt.bind_eq_ok, Except.ok.injEq] at holds
  obtain ⟨digest, _, payload⟩ := holds
  rw [← payload]
  rfl

theorem Records.warrant {row : TestRunRecord} {receipt : ProcessReceipt}
    (records : Records services stopwatch warrantId evidenceId row receipt) :
    row.result.lookup "warrant_id" = some (.str warrantId) := by
  have holds := records.holds
  simp only [brokerReceiptResult, Attempt.bind_eq_ok, Except.ok.injEq] at holds
  obtain ⟨digest, _, payload⟩ := holds
  rw [← payload]
  rfl

section Rows

variable {rows : List TestRunRecord} {receipts : List ProcessReceipt}

theorem evidences_of_records
    (records : List.Forall₂ (Records services stopwatch warrantId evidenceId) rows receipts) :
    rows.filterMap (fun row => textOf (row.result.lookup "evidence_id")) =
      List.replicate receipts.length evidenceId := by
  induction records with
  | nil => rfl
  | cons first _ ih =>
      rw [List.filterMap_cons, first.evidence, ih]
      rfl

theorem evidence_of_records
    (records : List.Forall₂ (Records services stopwatch warrantId evidenceId) rows receipts) :
    ∀ row ∈ rows, textOf (row.result.lookup "evidence_id") = some evidenceId := by
  induction records with
  | nil => simp
  | cons first _ ih => exact List.forall_mem_cons.mpr ⟨first.evidence, ih⟩

theorem plans_of_records
    (records : List.Forall₂ (Records services stopwatch warrantId evidenceId) rows receipts) :
    rows.map (fun row => (row.planId, row.planSha256)) =
      receipts.map fun receipt => (receipt.planId, receipt.planSha256) := by
  induction records with
  | nil => rfl
  | cons first _ ih => rw [List.map_cons, List.map_cons, first.plan, ih]

/-- The first row of a plan is the row of its receipt. -/
theorem row_of_receipt
    (records : List.Forall₂ (Records services stopwatch warrantId evidenceId) rows receipts)
    (distinct : (receipts.map fun receipt => (receipt.planId, receipt.planSha256)).Nodup)
    {receipt : ProcessReceipt} (member : receipt ∈ receipts) :
    ∃ row, (rows.find? fun row =>
        row.planId == receipt.planId && row.planSha256 == receipt.planSha256) = some row ∧
      Records services stopwatch warrantId evidenceId row receipt := by
  induction records with
  | nil => cases member
  | @cons row first rows rest head tail ih =>
      rw [List.map_cons, List.nodup_cons] at distinct
      have plan := Prod.mk.inj head.plan
      rcases List.mem_cons.mp member with rfl | later
      · refine ⟨row, ?_, head⟩
        simp [plan.1, plan.2]
      · have differs : ¬ (row.planId = receipt.planId ∧ row.planSha256 = receipt.planSha256) := by
          rintro ⟨id, digest⟩
          refine distinct.1 (List.mem_map.mpr ⟨receipt, later, ?_⟩)
          rw [← plan.1, ← plan.2, id, digest]
        obtain ⟨found, search, records⟩ := ih distinct.2 later
        refine ⟨found, ?_, records⟩
        rw [List.find?_cons_of_neg (by simpa using differs), search]

theorem receipts_recorded {record : WarrantRecord} (named : record.id = warrantId)
    (records : List.Forall₂ (Records services stopwatch warrantId evidenceId) rows receipts)
    (distinct : (receipts.map fun receipt => (receipt.planId, receipt.planSha256)).Nodup) :
    collect (receiptRecorded services stopwatch record evidenceId rows) receipts =
      .ok (receipts.map fun _ => true) := by
  rw [collect_eq_ok, List.map_map]
  refine List.map_congr_left fun receipt member => ?_
  obtain ⟨row, search, recorded⟩ := row_of_receipt records distinct member
  simp [receiptRecorded, search, named, recorded.holds, sameValue]

end Rows

/-- An earlier projection is found, and found in order. -/
theorem ProjectedOnce.projected {incident : IncidentRecord} {record : WarrantRecord}
    (once : ProjectedOnce services stopwatch incidentId warrantId result db)
    (found : db.incidents.find incidentId = some incident) (named : record.id = warrantId)
    (checked : checkBrokerResult record warrantId = .ok result) (distinct : DistinctPlans result) :
    projectedBrokerResultLocked services stopwatch db incident record result =
      .ok (some result) := by
  have state : incident.state =
      if result.status = .executed then .verified else .testFailed := by
    obtain ⟨current, present, state⟩ := once.incident
    rw [found, Option.some.injEq] at present
    exact present ▸ state
  obtain ⟨event, evidenceId, events, concludes, records⟩ := once.concluded
  obtain ⟨work, queued, completed⟩ := once.work
  obtain ⟨receipts, _⟩ := checkBrokerResult_agrees checked
  obtain ⟨row, member, test⟩ := concludes.test
  obtain rfl := Table.key_of_find found
  have length := records.length_eq
  have nonempty : db.testsOf incident.id warrantId ≠ [] := by
    rintro empty
    rw [empty, List.length_nil] at length
    exact receipts (List.length_eq_zero_iff.mp length.symm)
  have filled : result.receipts.length ≠ 0 := fun zero =>
    receipts (List.length_eq_zero_iff.mp zero)
  have repaired : (decide (result.status = .executed) ||
      (db.works.find (repairWorkId warrantId)).any fun row => row.kind = .testRepair) = true := by
    by_cases executed : result.status = .executed
    · simp [executed]
    · obtain ⟨repair, present, kind⟩ := once.repair executed
      simp [present, kind]
  have counts : consistentCounts db incident record result (db.testsOf incident.id warrantId) =
      true := by
    have plans : ((db.testsOf incident.id warrantId).map fun row =>
        (row.planId, row.planSha256)).Nodup := by
      rw [plans_of_records records]
      exact distinct
    simp only [consistentCounts, named, events, queued, repaired, evidences_of_records records,
      plans.dedup, List.length_map, List.length_singleton, length, state, Bool.and_true,
      List.replicate_dedup filled, Option.any_some, completed]
    simp
  have evidence : ((db.testsOf incident.id warrantId).filterMap fun row =>
      textOf (row.result.lookup "evidence_id")).head? = some evidenceId := by
    rw [evidences_of_records records, List.head?_replicate, if_neg filled]
  have valid : consistentRows services stopwatch db incident record result
      (db.testsOf incident.id warrantId) = .ok true := by
    have any : ((db.testsOf incident.id warrantId).any fun row =>
        textOf (event.payload.lookup
          (if outcomeType result = .verified then "receipt_id" else "test_run_id")) =
            some row.id) = true :=
      List.any_eq_true.mpr ⟨row, member, decide_eq_true test⟩
    simp only [consistentRows, evidence, named, events, List.head?_cons,
      receipts_recorded named records distinct, Attempt.ok_bind, concludes.evidence, any]
    simp
  simp [projectedBrokerResultLocked, named, nonempty, counts, valid, require]

/-- A call on a projected result answers it without a write. -/
theorem ProjectedOnce.replay
    (once : ProjectedOnce services stopwatch incidentId warrantId result db)
    (durable : Durable incidentId warrantId result db) (distinct : DistinctPlans result)
    (other : String) (testUuids eventUuids : Nat → String) (now : Instant) :
    (projectBrokerResult services stopwatch incidentId warrantId other testUuids eventUuids
      now).commit db = (.ok result, db) := by
  obtain ⟨record, finished, named, owner, checked⟩ := durable
  obtain ⟨incident, found, _⟩ := once.incident
  have projected := once.projected found named checked distinct
  have reaches : (projectBrokerResult services stopwatch incidentId warrantId other testUuids
      eventUuids now).Reaches db fun answer next => answer = result ∧ next = db := by
    simp only [projectBrokerResult, reaches_bind, reaches_read, reaches_lift, needed_eq_ok,
      Option.filter_eq_some_iff, decide_eq_true_eq]
    exact ⟨incident, found, record, ⟨finished, named, owner⟩, result, checked, some result,
      projected, reaches_pure.mpr ⟨rfl, rfl⟩⟩
  obtain ⟨answer, answered, rfl, same⟩ := reaches.commit
  exact Prod.ext answered same

/-! ## The first projection -/

/-- Appending, with what the new event says. -/
theorem ensures_event {incident : IncidentRecord} {type : EventType} {actor : String}
    {payload : Payload} {published : Bool} {uuid : String} {now : Instant}
    {Post : IncidentRecord → Database → Prop}
    (post : ∀ event state, event.incidentId = incident.id → event.type = type →
      event.payload = payload → reduce incident.state type payload = .ok state →
        Post (advanced incident event state now)
          { db with
            events := db.events ++ [event]
            incidents := db.incidents.write (advanced incident event state now) }) :
    (appendLocked services incident type actor payload published uuid now).Ensures db Post := by
  intro moved next appended
  obtain ⟨event, state, reduced, owner, kind, body, rfl, rfl⟩ := appendLocked_eq_ok appended
  exact post event state owner kind body reduced

/-- Queueing leaves a row of its kind and touches no other. -/
theorem ensures_enqueued {kind : WorkKind} {now : Instant} {Post : Unit → Database → Prop}
    (post : ∀ works : Table RuntimeWorkRecord.id,
      (∃ row, works.find (workId kind warrantId) = some row ∧ row.kind = kind) →
      (∀ id, id ≠ workId kind warrantId → works.find id = db.works.find id) →
        Post () { db with works := works }) :
    (enqueueRuntimeWorkLocked incidentId warrantId kind now).Ensures db Post := by
  simp only [enqueueRuntimeWorkLocked, ensures_bind, ensures_read]
  split
  · rename_i existing found
    rw [ensures_check]
    rintro ⟨_, _, same⟩
    exact post db.works ⟨existing, found, same⟩ fun _ _ => rfl
  · rename_i absent
    intro done next inserted
    simp only [insertWork, dif_pos absent] at inserted
    cases inserted
    refine post _ ⟨_, Table.find_insert_self absent, rfl⟩ fun id differs => ?_
    rw [Table.find_insert, if_neg differs]

/-- The rows that a projection adds, with their identifiers. -/
theorem recordTests_records {uuids : Nat → String} {now : Instant} {position : Nat}
    {receipts : List ProcessReceipt} :
    (recordTests services stopwatch incidentId warrantId evidenceId uuids now position
      receipts).Ensures db fun _ next => ∃ rows : List TestRunRecord,
        List.Forall₂ (Records services stopwatch warrantId evidenceId) rows receipts ∧
        TestRows incidentId warrantId rows ∧
        (receipts ≠ [] →
          ∃ row ∈ rows, row.id = "test_" ++ uuids (position + (receipts.length - 1))) ∧
        next = { db with testRuns := db.testRuns ++ rows } := by
  induction receipts generalizing db position with
  | nil => exact ensures_pure.mpr ⟨[], .nil, by simp [TestRows], by simp, by simp⟩
  | cons receipt rest ih =>
      simp only [recordTests, addTestRun, ensures_bind, ensures_lift, ensures_change]
      intro payload holds
      refine ih.mono ?_
      rintro _ _ ⟨rows, records, owners, last, rfl⟩
      let row : TestRunRecord :=
        ⟨"test_" ++ uuids position, incidentId, receipt.planId, receipt.planSha256, payload, now⟩
      have recorded : Records services stopwatch warrantId evidenceId row receipt := ⟨rfl, holds⟩
      refine ⟨row :: rows, .cons recorded records, ?_, fun _ => ?_, ?_⟩
      · rw [TestRows, List.forall_mem_cons]
        exact ⟨⟨rfl, recorded.warrant⟩, owners⟩
      · cases rest with
        | nil => exact ⟨row, List.mem_cons_self, rfl⟩
        | cons second others =>
            obtain ⟨final, member, id⟩ := last (by simp)
            refine ⟨final, List.mem_cons_of_mem _ member, ?_⟩
            rw [id]
            simp only [List.length_cons]
            congr 2
            omega
      · rw [List.append_assoc]
        rfl

theorem testsOf_append {rows : List TestRunRecord} (named : TestRows incidentId warrantId rows)
    (tests : next.testRuns = db.testRuns ++ rows) :
    next.testsOf incidentId warrantId = db.testsOf incidentId warrantId ++ rows := by
  have added : testsIn rows incidentId warrantId = rows := by
    rw [testsIn, List.filter_eq_self]
    intro row member
    rw [(named row member).1, (named row member).2]
    simp
  rw [Database.testsOf, tests]
  change List.filter _ _ = _
  rw [List.filter_append]
  exact congrArg (db.testsOf incidentId warrantId ++ ·) added

/-- An event counts for one warrant under one type. -/
theorem outcomeEvents_append {event : TimelineEventRecord} {type kind : StateEventType}
    (owner : event.incidentId = incidentId) (typed : event.type = .state kind)
    (named : event.payload.lookup "warrant_id" = some (.str warrantId))
    (events : next.events = db.events ++ [event]) :
    outcomeEvents next incidentId warrantId type =
      outcomeEvents db incidentId warrantId type ++ if kind = type then [event] else [] := by
  unfold outcomeEvents Database.eventsOf
  rw [events, List.filter_append, List.filter_append]
  congr 1
  by_cases same : kind = type
  · simp [owner, typed, named, textOf, same]
  · simp [owner, typed, same]

/-- The pieces of a projection, put together. -/
theorem projectedOnce_of {rows : List TestRunRecord} {first second : TimelineEventRecord}
    {incident : IncidentRecord} {work : RuntimeWorkRecord}
    (unprojected : Unprojected incidentId warrantId db)
    (agrees : result.status = .executed ↔ result.receipts.all (·.passed) = true)
    (found : next.incidents.find incidentId = some incident)
    (state : incident.state = if result.status = .executed then .verified else .testFailed)
    (owner : first.incidentId = incidentId ∧ second.incidentId = incidentId)
    (started : first.type = .state .executionStarted ∧
      first.payload.lookup "warrant_id" = some (.str warrantId))
    (ended : second.type = .state (outcomeType result) ∧
      second.payload.lookup "warrant_id" = some (.str warrantId))
    (concludes : Concludes second (outcomeType result) evidenceId rows)
    (events : next.events = db.events ++ [first] ++ [second])
    (records : List.Forall₂ (Records services stopwatch warrantId evidenceId) rows
      result.receipts)
    (named : TestRows incidentId warrantId rows) (tests : next.testRuns = db.testRuns ++ rows)
    (queued : next.works.find (executionWorkId warrantId) = some work)
    (completed : work.status = .completed)
    (repair : result.status ≠ .executed →
      ∃ work, next.works.find (repairWorkId warrantId) = some work ∧ work.kind = .testRepair) :
    ProjectedOnce services stopwatch incidentId warrantId result next ∧
      NamesEvidence incidentId warrantId evidenceId next := by
  have listed : ∀ type, type ∈ [StateEventType.executionStarted, .verified, .testFailed] →
      outcomeEvents next incidentId warrantId type =
        (if .executionStarted = type then [first] else []) ++
          if outcomeType result = type then [second] else [] := by
    intro type member
    have middle := @outcomeEvents_append db { db with events := db.events ++ [first] } incidentId
      warrantId first type .executionStarted owner.1 started.1 started.2 rfl
    have final := @outcomeEvents_append { db with events := db.events ++ [first] } next incidentId
      warrantId second type (outcomeType result) owner.2 ended.1 ended.2 events
    rw [final, middle, unprojected.events type member, List.nil_append]
  have rowsOf : next.testsOf incidentId warrantId = rows := by
    rw [testsOf_append named tests, unprojected.tests, List.nil_append]
  have isOutcome : outcomeType result = .verified ∨ outcomeType result = .testFailed := by
    unfold outcomeType
    split
    · exact Or.inl rfl
    · exact Or.inr rfl
  have notStarted : StateEventType.executionStarted ≠ outcomeType result := by
    rcases isOutcome with outcome | outcome <;> rw [outcome] <;> decide
  refine ⟨⟨⟨incident, found, state⟩, ⟨first, ?_⟩, ⟨second, evidenceId, ?_, rowsOf ▸ concludes,
    rowsOf ▸ records⟩, ?_, ?_, ⟨work, queued, completed⟩, repair⟩, ?_⟩
  · rw [listed _ (by simp), if_pos rfl, if_neg notStarted.symm, List.append_nil]
  · rw [listed _ (by rcases isOutcome with outcome | outcome <;> simp [outcome]),
      if_neg notStarted, if_pos rfl, List.nil_append]
  · intro type member differs
    rw [listed type (by simp only [List.mem_cons] at member ⊢; exact Or.inr member),
      if_neg (Ne.symm differs), if_neg ?_, List.append_nil]
    rintro rfl
    simp at member
  · rw [agrees, List.all_eq_true]
  · rw [NamesEvidence, rowsOf]
    exact evidence_of_records records

theorem outcome_of_passed (agrees : result.status = .executed ↔
      result.receipts.all (·.passed) = true) :
    (if result.receipts.all (·.passed) then StateEventType.verified else .testFailed) =
      outcomeType result := by
  unfold outcomeType
  by_cases executed : result.status = .executed
  · rw [if_pos executed, if_pos (agrees.mp executed)]
  · rw [if_neg executed, if_neg (fun passed => executed (agrees.mpr passed))]

theorem find_advanced {incident : IncidentRecord} {first second : TimelineEventRecord}
    {middle state : IncidentState} {now : Instant}
    (found : db.incidents.find incident.id = some incident) :
    ((db.incidents.write (advanced incident first middle now)).write
        (advanced (advanced incident first middle now) second state now)).find incident.id =
      some (advanced (advanced incident first middle now) second state now) := by
  have written : (db.incidents.write (advanced incident first middle now)).find
      (advanced incident first middle now).id = some _ := Table.find_write_self found
  exact Table.find_write_self written

theorem projectFresh_once {incident : IncidentRecord} {record : WarrantRecord}
    {testUuids eventUuids : Nat → String} {now : Instant}
    (found : db.incidents.find incident.id = some incident)
    (unprojected : Unprojected incident.id warrantId db) (receipts : result.receipts ≠ [])
    (agrees : result.status = .executed ↔ result.receipts.all (·.passed) = true) :
    (projectFresh services stopwatch incident record result warrantId evidenceId testUuids
      eventUuids now).Ensures db fun answer next => answer = result ∧
        (ProjectedOnce services stopwatch incident.id warrantId result next ∧
          NamesEvidence incident.id warrantId evidenceId next) ∧
        next.broker = db.broker := by
  simp only [projectFresh, concludeExecution, writeWork, ensures_bind, ensures_lift, ensures_pure,
    needed_eq_ok]
  intro claimedAt _ claimId _
  refine ensures_event fun first state owner kind body reduced => ?_
  refine recordTests_records.mono ?_
  rintro _ _ ⟨rows, records, named, last, rfl⟩
  refine ensures_event fun second final owner' kind' body' reduced' => ?_
  cases reduce_concluded reduced'
  simp only [ensures_read, Option.filter_eq_some_iff, ensures_change]
  rintro work ⟨queued, _⟩
  obtain ⟨lastRow, lastMember, lastId⟩ := last receipts
  rw [Nat.zero_add] at lastId
  have isExecution := Table.key_of_find queued
  have finished : (db.works.write (completedWork work now)).find (executionWorkId warrantId) =
      some (completedWork work now) := by
    rw [← isExecution] at queued ⊢
    exact Table.find_write_self queued
  have started : first.type = .state .executionStarted ∧
      first.payload.lookup "warrant_id" = some (.str warrantId) := ⟨kind, by rw [body]; rfl⟩
  have concluding : second.type = .state (outcomeType result) ∧
      second.payload.lookup "warrant_id" = some (.str warrantId) := by
    constructor
    · rw [kind', ← outcome_of_passed agrees]
      split <;> rfl
    · rw [body']
      split <;> rfl
  have concludes : Concludes second (outcomeType result) evidenceId rows := by
    refine ⟨?_, lastRow, lastMember, ?_⟩
    · rw [body']
      split <;> rfl
    · rw [body', lastId, ← outcome_of_passed agrees]
      split <;> rfl
  cases passed : result.receipts.all (·.passed) with
  | true =>
      have executed := agrees.mpr passed
      rw [if_pos rfl]
      refine ensures_publish fun _ => ⟨trivial, ?_, rfl⟩
      exact projectedOnce_of unprojected agrees (find_advanced found) (by simp [advanced, executed])
        ⟨owner, owner'⟩ started concluding concludes rfl records named rfl finished rfl
        (fun other => absurd executed other)
  | false =>
      have failed : result.status ≠ .executed := fun executed => by
        rw [agrees.mp executed] at passed
        cases passed
      rw [if_neg Bool.false_ne_true, ensures_bind]
      refine ensures_enqueued fun works repair others => ?_
      refine ensures_publish fun _ => ⟨trivial, ?_, rfl⟩
      have untouched : works.find (executionWorkId warrantId) = some (completedWork work now) := by
        refine (others _ fun same => ?_).trans finished
        exact absurd (@workId_injective .approvedExecution .testRepair _ _ same).1 (by decide)
      exact projectedOnce_of unprojected agrees (find_advanced found) (by simp [advanced, failed])
        ⟨owner, owner'⟩ started concluding concludes rfl records named rfl untouched rfl
        (fun _ => repair)

/-- The first call that commits leaves exactly one projection. -/
theorem project_first {testUuids eventUuids : Nat → String} {now : Instant}
    (unprojected : Unprojected incidentId warrantId db) :
    (projectBrokerResult services stopwatch incidentId warrantId evidenceId testUuids eventUuids
      now).Ensures db fun result next =>
        ProjectedOnce services stopwatch incidentId warrantId result next ∧
          NamesEvidence incidentId warrantId evidenceId next ∧
          Durable incidentId warrantId result next ∧ next.broker = db.broker := by
  simp only [projectBrokerResult, ensures_bind, ensures_read, ensures_lift, needed_eq_ok,
    Option.filter_eq_some_iff, decide_eq_true_eq]
  rintro incident found record ⟨finished, named, owner⟩ result checked projected projection
  obtain rfl := Table.key_of_find found
  obtain ⟨receipts, agrees, _⟩ := checkBrokerResult_agrees checked
  cases projected with
  | some earlier =>
      rw [projectedBrokerResultLocked, named, unprojected.tests, if_pos rfl] at projection
      cases projection
  | none =>
      refine (projectFresh_once found unprojected receipts agrees).mono ?_
      rintro answer next ⟨rfl, ⟨once, names⟩, broker⟩
      exact ⟨once, names, ⟨record, broker ▸ finished, named, owner, checked⟩, broker⟩

/-! ## Runs -/

/-- A call of `project_broker_result` on the warrant, a call that crashes before it
commits, and what other transactions do in between. -/
inductive Step where
  | call (evidenceId : String) (testUuids eventUuids : Nat → String) (now : Instant)
  | crashedCall (evidenceId : String) (testUuids eventUuids : Nat → String) (now : Instant)
  | others (after : Database)

/-- Calls answer their result or their failure. -/
def machine (services : Services) (stopwatch : Stopwatch) (incidentId warrantId : String) :
    Machine Database Step (Attempt BrokerResult) where
  step db
    | .call evidenceId testUuids eventUuids now =>
        let answer := (projectBrokerResult services stopwatch incidentId warrantId evidenceId
          testUuids eventUuids now).commit db
        (answer.2, [answer.1])
    | .crashedCall _ _ _ _ => (db, [])
    | .others after => (after, [])

/-- Other transactions leave the events and test rows of the warrant alone and, once there
are some, the state of the incident, the outcome of the work and the broker's row. -/
structure Beside (incidentId warrantId : String) (db after : Database) : Prop where
  events : ∀ type, type ∈ [StateEventType.executionStarted, .verified, .testFailed] →
    outcomeEvents after incidentId warrantId type = outcomeEvents db incidentId warrantId type
  tests : after.testsOf incidentId warrantId = db.testsOf incidentId warrantId
  state : db.testsOf incidentId warrantId ≠ [] →
    (after.incidents.find incidentId).map (·.state) = (db.incidents.find incidentId).map (·.state)
  execution : db.testsOf incidentId warrantId ≠ [] →
    ∀ work, db.works.find (executionWorkId warrantId) = some work → work.status = .completed →
      ∃ later, after.works.find (executionWorkId warrantId) = some later ∧
        later.status = .completed
  repair : db.testsOf incidentId warrantId ≠ [] →
    ∀ work, db.works.find (repairWorkId warrantId) = some work →
      ∃ later, after.works.find (repairWorkId warrantId) = some later ∧ later.kind = work.kind
  broker : db.testsOf incidentId warrantId ≠ [] →
    after.broker.warrants warrantId = db.broker.warrants warrantId

/-- The broker's results name each plan once, and the incident stays where the projection
put it. -/
def Admitted (incidentId warrantId : String) (db : Database) : Step → Prop
  | .call .. => ∀ result, Durable incidentId warrantId result db → DistinctPlans result
  | .crashedCall .. => True
  | .others after => Beside incidentId warrantId db after

theorem Unprojected.beside (unprojected : Unprojected incidentId warrantId db)
    (beside : Beside incidentId warrantId db next) : Unprojected incidentId warrantId next where
  events type member := (beside.events type member).trans (unprojected.events type member)
  tests := beside.tests.trans unprojected.tests

/-- The result of the warrant is projected and cannot change any more. -/
structure Settled (services : Services) (stopwatch : Stopwatch) (incidentId warrantId : String)
    (result : BrokerResult) (db : Database) : Prop where
  once : ProjectedOnce services stopwatch incidentId warrantId result db
  durable : Durable incidentId warrantId result db
  distinct : DistinctPlans result

theorem ProjectedOnce.tested
    (once : ProjectedOnce services stopwatch incidentId warrantId result db) :
    db.testsOf incidentId warrantId ≠ [] := by
  obtain ⟨event, evidenceId, _, concludes, _⟩ := once.concluded
  obtain ⟨row, member, _⟩ := concludes.test
  exact List.ne_nil_of_mem member

theorem outcomeType_mem (result : BrokerResult) :
    outcomeType result ∈ [StateEventType.executionStarted, .verified, .testFailed] := by
  unfold outcomeType
  split <;> simp

theorem Settled.beside
    (settled : Settled services stopwatch incidentId warrantId result db)
    (beside : Beside incidentId warrantId db next) :
    Settled services stopwatch incidentId warrantId result next := by
  obtain ⟨once, durable, distinct⟩ := settled
  have tested := once.tested
  refine ⟨?_, ?_, distinct⟩
  · obtain ⟨incident, found, state⟩ := once.incident
    obtain ⟨work, queued, completed⟩ := once.work
    have kept := beside.state tested
    rw [found, Option.map_some, Option.map_eq_some_iff] at kept
    obtain ⟨later, present, same⟩ := kept
    refine ⟨⟨later, present, same.trans state⟩, ?_, ?_, ?_, once.agrees, ?_, ?_⟩
    · rw [beside.events _ (by simp)]
      exact once.started
    · rw [beside.events _ (outcomeType_mem result), beside.tests]
      exact once.concluded
    · intro type member differs
      rw [beside.events type (List.mem_cons_of_mem _ member)]
      exact once.unopposed type member differs
    · exact beside.execution tested work queued completed
    · intro failed
      obtain ⟨repair, present, kind⟩ := once.repair failed
      obtain ⟨later, present', same⟩ := beside.repair tested repair present
      exact ⟨later, present', same.trans kind⟩
  · rw [Durable, beside.broker tested]
    exact durable

variable {steps : List Step}

theorem machine_call (evidenceId : String) (testUuids eventUuids : Nat → String) (now : Instant) :
    (machine services stopwatch incidentId warrantId).step db
        (.call evidenceId testUuids eventUuids now) =
      (((projectBrokerResult services stopwatch incidentId warrantId evidenceId testUuids eventUuids
          now).commit db).2,
        [((projectBrokerResult services stopwatch incidentId warrantId evidenceId testUuids
          eventUuids now).commit db).1]) := rfl

theorem call_broker {evidenceId : String} {testUuids eventUuids : Nat → String} {now : Instant}
    {result : BrokerResult} (unprojected : Unprojected incidentId warrantId db)
    (answered : (machine services stopwatch incidentId warrantId).events db
      (.call evidenceId testUuids eventUuids now) = [.ok result]) :
    ((machine services stopwatch incidentId warrantId).next db
      (.call evidenceId testUuids eventUuids now)).broker = db.broker := by
  rw [Machine.events, machine_call] at answered
  rw [Machine.next, machine_call]
  exact ((project_first unprojected).of_commit (List.singleton_inj.mp answered)).2.2.2

/-- One step on a settled projection. -/
theorem Settled.step {step : Step}
    (settled : Settled services stopwatch incidentId warrantId result db)
    (admitted : Admitted incidentId warrantId db step) :
    Settled services stopwatch incidentId warrantId result
      ((machine services stopwatch incidentId warrantId).next db step) := by
  cases step with
  | call evidenceId testUuids eventUuids now =>
      have replay := settled.once.replay settled.durable settled.distinct evidenceId testUuids
        eventUuids now
      rw [Machine.next, machine_call, replay]
      exact settled
  | crashedCall evidenceId testUuids eventUuids now => exact settled
  | others after => exact settled.beside admitted

theorem Settled.run (settled : Settled services stopwatch incidentId warrantId result db)
    (follows : (machine services stopwatch incidentId warrantId).Follows
      (Admitted incidentId warrantId) db steps) :
    Settled services stopwatch incidentId warrantId result
      ((machine services stopwatch incidentId warrantId).run db steps) :=
  (machine services stopwatch incidentId warrantId).run_invariant_of_follows
    (Settled services stopwatch incidentId warrantId result)
    (fun _ _ admitted settled => settled.step admitted) settled follows

/-- A call that answers an error has not written. -/
theorem call_error {step : Step} {error : Raised}
    (failed : (machine services stopwatch incidentId warrantId).events db step = [.error error]) :
    (machine services stopwatch incidentId warrantId).next db step = db := by
  cases step with
  | call evidenceId testUuids eventUuids now =>
      rw [Machine.events, machine_call, List.cons.injEq] at failed
      exact Transaction.rolled_back (Prod.ext failed.1 rfl)
  | crashedCall | others => cases failed

def Failing (answers : List (Attempt BrokerResult)) : Prop :=
  ∀ answer ∈ answers, ∃ error, answer = .error error

/-- All calls of a run fail, or all up to one that settles the projection. -/
def SettlesOnce (services : Services) (stopwatch : Stopwatch) (incidentId warrantId : String)
    (db : Database) (steps : List Step) : Prop :=
  (Unprojected incidentId warrantId
      ((machine services stopwatch incidentId warrantId).run db steps) ∧
    Failing ((machine services stopwatch incidentId warrantId).log db steps)) ∨
  ∃ result before call after, steps = before ++ call :: after ∧
    Failing ((machine services stopwatch incidentId warrantId).log db before) ∧
    (machine services stopwatch incidentId warrantId).events
      ((machine services stopwatch incidentId warrantId).run db before) call = [.ok result] ∧
    Settled services stopwatch incidentId warrantId result
      ((machine services stopwatch incidentId warrantId).run db (before ++ [call]))

/-- A step that settles nothing leaves the matter to the rest of the run. -/
theorem SettlesOnce.cons {step : Step}
    (failing : Failing ((machine services stopwatch incidentId warrantId).events db step))
    (rest : SettlesOnce services stopwatch incidentId warrantId
      ((machine services stopwatch incidentId warrantId).next db step) steps) :
    SettlesOnce services stopwatch incidentId warrantId db (step :: steps) := by
  rcases rest with ⟨final, errors⟩ | ⟨result, before, call, after, rfl, errors, rest⟩
  · left
    refine ⟨final, ?_⟩
    rw [Machine.log_cons]
    exact List.forall_mem_append.mpr ⟨failing, errors⟩
  · right
    refine ⟨result, step :: before, call, after, rfl, ?_, rest⟩
    rw [Machine.log_cons]
    exact List.forall_mem_append.mpr ⟨failing, errors⟩

theorem settlesOnce (unprojected : Unprojected incidentId warrantId db)
    (follows : (machine services stopwatch incidentId warrantId).Follows
      (Admitted incidentId warrantId) db steps) :
    SettlesOnce services stopwatch incidentId warrantId db steps := by
  induction steps generalizing db with
  | nil => exact Or.inl ⟨unprojected, by simp [Failing]⟩
  | cons step rest ih =>
      obtain ⟨admitted, later⟩ := follows
      cases step with
      | crashedCall =>
          refine SettlesOnce.cons ?_ (ih unprojected later)
          simp [Failing, Machine.events, machine]
      | others after =>
          refine SettlesOnce.cons ?_ (ih (unprojected.beside admitted) later)
          simp [Failing, Machine.events, machine]
      | call evidenceId testUuids eventUuids now =>
          cases outcome : ((projectBrokerResult services stopwatch incidentId warrantId evidenceId
              testUuids eventUuids now).commit db).1 with
          | error error =>
              have failed : (machine services stopwatch incidentId warrantId).events db
                  (.call evidenceId testUuids eventUuids now) = [.error error] := by
                rw [Machine.events, machine_call, outcome]
              refine SettlesOnce.cons ?_ (ih ?_ later)
              · rw [failed, Failing, List.forall_mem_singleton]
                exact ⟨error, rfl⟩
              · rw [call_error failed]
                exact unprojected
          | ok result =>
              obtain ⟨once, _, durable, broker⟩ := (project_first unprojected).of_commit outcome
              have same : Durable incidentId warrantId result db := by
                rw [Durable, ← broker]
                exact durable
              refine Or.inr ⟨result, [], _, rest, rfl, by simp [Failing], ?_, once, durable,
                admitted result same⟩
              rw [Machine.run_nil, Machine.events, machine_call, outcome]

/-- However calls, crashes and other transactions follow each other: a failing call changes
nothing, and the first call that commits leaves one projection, which every later call
answers without a write. -/
theorem projection_idempotent (services : Services) (stopwatch : Stopwatch)
    (incidentId warrantId : String) (db : Database) (steps : List Step)
    (unprojected : Unprojected incidentId warrantId db)
    (follows : (machine services stopwatch incidentId warrantId).Follows
      (Admitted incidentId warrantId) db steps) :
    (∀ before call after error, steps = before ++ call :: after →
      (machine services stopwatch incidentId warrantId).events
        ((machine services stopwatch incidentId warrantId).run db before) call = [.error error] →
      (machine services stopwatch incidentId warrantId).run db (before ++ [call]) =
        (machine services stopwatch incidentId warrantId).run db before) ∧
    ((Unprojected incidentId warrantId
        ((machine services stopwatch incidentId warrantId).run db steps) ∧
      Failing ((machine services stopwatch incidentId warrantId).log db steps)) ∨
    ∃ result before call after, steps = before ++ call :: after ∧
      Failing ((machine services stopwatch incidentId warrantId).log db before) ∧
      (machine services stopwatch incidentId warrantId).events
        ((machine services stopwatch incidentId warrantId).run db before) call = [.ok result] ∧
      ProjectedOnce services stopwatch incidentId warrantId result
        ((machine services stopwatch incidentId warrantId).run db steps) ∧
      ∀ middle evidenceId testUuids eventUuids now rest,
        after = middle ++ .call evidenceId testUuids eventUuids now :: rest →
          (machine services stopwatch incidentId warrantId).step
            ((machine services stopwatch incidentId warrantId).run db (before ++ call :: middle))
            (.call evidenceId testUuids eventUuids now) =
              ((machine services stopwatch incidentId warrantId).run db (before ++ call :: middle),
                [.ok result])) := by
  constructor
  · rintro before call after error rfl failed
    rw [Machine.run_append, Machine.run_cons, Machine.run_nil]
    exact call_error failed
  · rcases settlesOnce unprojected follows with
      ⟨still, errors⟩ | ⟨result, before, call, after, rfl, errors, answered, settled⟩
    · exact Or.inl ⟨still, errors⟩
    · right
      rw [List.append_cons] at follows
      obtain ⟨_, later⟩ := (Machine.follows_append _).mp follows
      refine ⟨result, before, call, after, rfl, errors, answered, ?_, ?_⟩
      · rw [List.append_cons, Machine.run_append]
        exact (settled.run later).once
      · rintro middle evidenceId testUuids eventUuids now rest rfl
        obtain ⟨earlier, _⟩ := (Machine.follows_append _).mp later
        have still := settled.run earlier
        rw [← Machine.run_append, ← List.append_cons] at still
        rw [machine_call, still.once.replay still.durable still.distinct]

end CrossPatch.Runtime.Projection
