import CrossPatch.Runtime.Projection
import CrossPatch.Runtime.ReviewPath

/-!
# When projections commit

A durable result of an approved incident can be projected; only the publication policy
for titles can still roll a verification back.
-/

namespace CrossPatch.Runtime.ExecutionPath

open CrossPatch.Broker.Approval CrossPatch.Broker.Claim CrossPatch.Broker.Store
open CrossPatch.Broker.Warrant
open CrossPatch.Domain.Failure CrossPatch.Domain.Hashing CrossPatch.Domain.StateMachine
open CrossPatch.Domain.Text
open CrossPatch.Evidence.Views
open CrossPatch.Library CrossPatch.Library.Attempt CrossPatch.Library.Calendar
open CrossPatch.Library.JsonText CrossPatch.Library.Octets CrossPatch.Library.Sha256
open CrossPatch.Library.Transaction
open CrossPatch.Runner.Results
open CrossPatch.Runtime.Authority CrossPatch.Runtime.BrokerResults
open CrossPatch.Runtime.Progress CrossPatch.Runtime.Projection
open CrossPatch.Runtime.Protocol
open CrossPatch.Runtime.Records CrossPatch.Runtime.Refinement CrossPatch.Runtime.ReviewPath
open CrossPatch.Runtime.Store CrossPatch.Runtime.Timeline

variable {services : Services} {stopwatch : Stopwatch} {db : Database}

/-! ## Receipts -/

theorem observation_encodes (tables : UnicodeTables) (observation : TrustedObservation) :
    Encodes tables observation.json := by
  refine normalize_obj_ok ["counts", "response_statuses"] rfl (by decide) (by decide) ?_
  simp only [List.forall_mem_cons]
  refine ⟨?_, ?_, by simp⟩
  · exact normalize_obj_ok ["receipts", "jobs", "deliveries"] rfl (by decide) (by decide) (by simp)
  · refine normalize_arr_ok fun item member => ?_
    obtain ⟨status, _, rfl⟩ := List.mem_map.mp member
    exact ⟨_, normalize_int _ _⟩

/-- The names of the fields that every receipt has, around the two optional ones. -/
def receiptKeys (optional : List String) : List String :=
  ["plan_id", "plan_sha256", "argv_sha256", "exit_code", "timed_out", "started_at", "finished_at",
   "stdout_sha256", "stderr_sha256", "stdout_bytes", "stderr_bytes", "stdout_truncated",
   "stderr_truncated", "supervisor_verified", "verification_code", "verification_sha256"] ++
  optional ++
  ["runner_request_sha256", "runner_service_identity_sha256", "workspace_provenance_sha256",
   "job_provenance_sha256", "candidate_executor_boot_sha256",
   "candidate_executor_replacement_sha256"]

/-- The keys of a receipt, whatever it observed. -/
theorem receipt_keys (receipt : ProcessReceipt) :
    (receipt.members.map Prod.fst).all isAscii = true ∧ (receipt.members.map Prod.fst).Nodup := by
  have keys : ∃ optional, optional ∈ [[], ["trusted_observation"], ["trusted_observation_sha256"],
      ["trusted_observation", "trusted_observation_sha256"]] ∧
        receipt.members.map Prod.fst = receiptKeys optional := by
    cases observation : receipt.trustedObservation <;>
      cases digest : receipt.trustedObservationSha256 <;>
        simp [ProcessReceipt.members, receiptKeys, observation, digest]
  obtain ⟨optional, listed, keys⟩ := keys
  rw [keys]
  simp only [List.mem_cons, List.not_mem_nil, or_false] at listed
  rcases listed with rfl | rfl | rfl | rfl <;> decide

theorem receipt_values (tables : UnicodeTables) (receipt : ProcessReceipt) :
    ∀ member ∈ receipt.members, ∃ value,
      Domain.Hashing.normalize tables member.2 = .ok value := by
  have observed : ∀ observation : TrustedObservation, ∃ value,
      Domain.Hashing.normalize tables observation.json = .ok value := observation_encodes tables
  unfold ProcessReceipt.members
  cases receipt.exitCode <;> cases receipt.trustedObservation <;>
    cases receipt.trustedObservationSha256 <;> simp [observed]

theorem receipt_encodes (tables : UnicodeTables) (receipt : ProcessReceipt) :
    Encodes tables (.obj receipt.members) :=
  normalize_obj_ok _ rfl (receipt_keys receipt).1 (receipt_keys receipt).2
    (receipt_values tables receipt)

theorem brokerReceiptResult_ok (services : Services) (stopwatch : Stopwatch)
    (receipt : ProcessReceipt) (warrantId evidenceId : String) :
    ∃ payload, brokerReceiptResult services stopwatch receipt warrantId evidenceId =
      .ok payload := by
  obtain ⟨digest, hashed, _⟩ := (receipt_encodes services.tables receipt).sha256Hex
  simp only [brokerReceiptResult, hashed, ok_bind]
  exact ⟨_, rfl⟩

theorem recordTests_reaches {incidentId warrantId evidenceId : String} {uuids : Nat → String}
    {now : Instant} {position : Nat} {receipts : List ProcessReceipt}
    {Post : Unit → Database → Prop}
    (post : ∀ rows, Post () { db with testRuns := db.testRuns ++ rows }) :
    (recordTests services stopwatch incidentId warrantId evidenceId uuids now position
      receipts).Reaches db Post := by
  induction receipts generalizing db position with
  | nil =>
      have same := post []
      rw [List.append_nil] at same
      exact reaches_pure.mpr same
  | cons receipt rest ih =>
      obtain ⟨payload, held⟩ := brokerReceiptResult_ok services stopwatch receipt warrantId
        evidenceId
      simp only [recordTests, addTestRun, reaches_bind, reaches_lift, reaches_change, held,
        Except.ok.injEq, exists_eq_left']
      refine ih fun rows => ?_
      rw [List.append_assoc]
      exact post _

/-! ## Claims -/

theorem isLowerHex_tail {character : Char} (digit : isLowerHex character = true) :
    isIdentifierTail character = true := by
  have all : hexDigits.all isIdentifierTail = true := by decide
  exact List.all_eq_true.mp all character (List.contains_iff_mem.mp digit)

theorem shortIso_ascii (instant : Instant) :
    ∀ character ∈ (shortIso instant "+00:00").toList, character.toNat < 128 := by
  intro character member
  rw [shortIso, String.toList_append, String.toList_ofList, List.mem_append] at member
  rcases member with shown | zone
  · split at shown
    · exact isoText_ascii instant character (List.mem_of_mem_take shown)
    · exact isoText_ascii instant character shown
  · have all : "+00:00".toList.all (fun character => character.toNat < 128) = true := by decide
    exact of_decide_eq_true (List.all_eq_true.mp all character zone)

theorem isIdentifier_claim {digest : String} (hashed : isSha256 digest = true) :
    isIdentifier ("claim_" ++ String.ofList (digest.toList.take 32)) = true := by
  rw [isSha256, Bool.and_eq_true, List.all_eq_true] at hashed
  have characters : ("claim_" ++ String.ofList (digest.toList.take 32)).toList =
      'c' :: (['l', 'a', 'i', 'm', '_'] ++ digest.toList.take 32) := by
    simp only [String.toList_append, String.toList_ofList]
    rfl
  rw [isIdentifier, characters]
  simp only [List.all_append, Bool.and_eq_true, decide_eq_true_eq]
  refine ⟨⟨by decide, by decide, ?_⟩, ?_⟩
  · rw [List.all_eq_true]
    intro character member
    exact isLowerHex_tail (hashed.2 character (List.mem_of_mem_take member))
  · rw [List.length_append, List.length_take]
    simp only [List.length_cons, List.length_nil]
    omega

/-- Every claim has an identifier. -/
theorem claimIdentifier_ok {warrantId : String} (named : isIdentifier warrantId = true)
    (claimedAt : Instant) :
    ∃ claimId, claimIdentifier warrantId claimedAt = .ok claimId ∧ isIdentifier claimId = true := by
  have ascii : isAscii (warrantId ++ ":" ++ shortIso claimedAt "+00:00") = true := by
    refine isAscii_of_forall fun character member => ?_
    have plain := isIdentifier_ascii named
    rw [isAscii, List.all_eq_true] at plain
    rw [String.toList_append, String.toList_append, List.mem_append, List.mem_append] at member
    rcases member with (inside | colon) | time
    · exact of_decide_eq_true (plain character inside)
    · rw [show ":".toList = [':'] from rfl, List.mem_singleton] at colon
      exact colon ▸ by decide
    · exact shortIso_ascii claimedAt character time
  simp only [claimIdentifier, require_true ascii, ok_bind]
  exact ⟨_, rfl, isIdentifier_claim (hexdigest_isSha256 _)⟩

/-! ## Projections -/

theorem reduce_executing {claimId warrantId : String}
    (names : isIdentifier claimId = true ∧ isIdentifier warrantId = true) :
    reduce .approved (.state .executionStarted)
      [("claim_id", .str claimId), ("warrant_id", .str warrantId)] = .ok .executing := by
  have typed : typedEventFromPayload .executionStarted
      [("claim_id", .str claimId), ("warrant_id", .str warrantId)] =
        .ok (.executionStarted claimId warrantId) := by
    simp [typedEventFromPayload, textField, List.lookup, malformed, Event.newExecutionStarted,
      checkProof, require, names, mapFailure]
  simp only [reduce, typed, ok_bind]
  rfl

theorem reduce_outcome {passed : Bool} {testId warrantId evidenceId : String}
    (names : isIdentifier testId = true ∧ isIdentifier warrantId = true) :
    reduce .executing (if passed then .state .verified else .state .testFailed)
      [(if passed then "receipt_id" else "test_run_id", .str testId),
       ("warrant_id", .str warrantId), ("evidence_id", .str evidenceId)] =
        .ok (if passed then .verified else .testFailed) := by
  cases passed with
  | false => rfl
  | true =>
      have typed : typedEventFromPayload .verified
          [("receipt_id", .str testId), ("warrant_id", .str warrantId),
           ("evidence_id", .str evidenceId)] = .ok (.verified testId warrantId) := by
        simp [typedEventFromPayload, textField, List.lookup, malformed, Event.newVerified,
          checkProof, require, names, mapFailure]
      simp only [reduce, if_true, typed, ok_bind]
      rfl

/-- An approved incident with a durable result that has not been projected. -/
structure Ready (incident : IncidentRecord) (record : WarrantRecord) (result : BrokerResult)
    (db : Database) : Prop where
  stage : Stage db incident
  approved : incident.state = .approved
  row : db.broker.warrants record.id = some record
  owner : record.incidentId = incident.id
  named : isIdentifier record.id = true
  checked : checkBrokerResult record record.id = .ok result
  untested : db.testsOf incident.id record.id = []
  work : ∃ work, db.works.find (executionWorkId record.id) = some work ∧
    work.incidentId = incident.id ∧ work.warrantId = record.id ∧ work.kind = .approvedExecution
  unrepaired : db.works.find (repairWorkId record.id) = none

/-- A failed test leaves the incident to its repair. -/
def AwaitsRepair (incident : IncidentRecord) (record : WarrantRecord) (db : Database) : Prop :=
  (∃ moved, Stage db moved ∧ moved.id = incident.id ∧ moved.state = .testFailed) ∧
    (∃ repair, db.works.find (repairWorkId record.id) = some repair ∧ repair.status = .pending) ∧
    ∃ work, db.works.find (executionWorkId record.id) = some work ∧
      work.incidentId = incident.id ∧ work.status = .completed

theorem outcome_encodes {tables : UnicodeTables} {passed : Bool}
    {testId warrantId evidenceId : String} :
    Encodes tables (.obj [(if passed then "receipt_id" else "test_run_id", .str testId),
      ("warrant_id", .str warrantId), ("evidence_id", .str evidenceId)]) := by
  cases passed with
  | true =>
      exact normalize_obj_ok ["receipt_id", "warrant_id", "evidence_id"] rfl (by decide) (by decide)
        (by simp)
  | false =>
      exact normalize_obj_ok ["test_run_id", "warrant_id", "evidence_id"] rfl (by decide)
        (by decide) (by simp)

/-- A failed test leaves its repair in the queue. -/
def queueRepair (passed : Bool) (incidentId warrantId : String) (now : Instant) : Tx Unit :=
  if passed then pure () else enqueueRuntimeWorkLocked incidentId warrantId .testRepair now

theorem queueRepair_bind {passed : Bool} {incidentId warrantId : String} {now : Instant}
    {rest : Tx Unit} {answer : Unit × Database} :
    (if passed = true then rest
      else do
        enqueueRuntimeWorkLocked incidentId warrantId .testRepair now
        rest).run db = .ok answer ↔
      ∃ done middle, (queueRepair passed incidentId warrantId now).run db = .ok (done, middle) ∧
        rest.run middle = .ok answer := by
  cases passed with
  | true => simp [queueRepair]
  | false => simp [queueRepair]

/-- What a projection records before it refreshes the case. -/
def recordProjection (services : Services) (stopwatch : Stopwatch) (incident : IncidentRecord)
    (record : WarrantRecord) (result : BrokerResult) (evidenceId : String)
    (testUuids eventUuids : Nat → String) (now : Instant) : Tx IncidentRecord := do
  let claimedAt ← Transaction.lift
    (needed record.claimedAt ⟨.valueError, "broker result is not durably complete"⟩)
  let claimId ← Transaction.lift (claimIdentifier record.id claimedAt)
  let started ← appendLocked services incident (.state .executionStarted) "broker"
    [("claim_id", .str claimId), ("warrant_id", .str record.id)] true (eventUuids 0) now
  recordTests services stopwatch incident.id record.id evidenceId testUuids now 0 result.receipts
  let lastTest := "test_" ++ testUuids (result.receipts.length - 1)
  let passed := result.receipts.all (·.passed)
  let moved ← appendLocked services started
    (if passed then .state .verified else .state .testFailed) "broker"
    [(if passed then "receipt_id" else "test_run_id", .str lastTest),
     ("warrant_id", .str record.id), ("evidence_id", .str evidenceId)] true (eventUuids 1) now
  let db ← Transaction.read
  let work ← Transaction.lift (needed
    ((db.works.find (executionWorkId record.id)).filter fun row =>
      row.incidentId = started.id ∧ row.warrantId = record.id ∧ row.kind = .approvedExecution)
    ⟨.valueError, "broker result has no matching durable execution work"⟩)
  writeWork (completedWork work now)
  queueRepair passed started.id record.id now
  pure moved

/-- A projection records, and then refreshes the case. -/
theorem projectFresh_eq_ok {incident : IncidentRecord} {record : WarrantRecord}
    {result answer : BrokerResult} {evidenceId : String} {testUuids eventUuids : Nat → String}
    {now : Instant} {next : Database} :
    (projectFresh services stopwatch incident record result record.id evidenceId testUuids
        eventUuids now).run db = .ok (answer, next) ↔
      answer = result ∧ ∃ moved staged,
        (recordProjection services stopwatch incident record result evidenceId testUuids eventUuids
          now).run db = .ok (moved, staged) ∧
        (publishLocked services incident.id now).run staged = .ok ((), next) := by
  have owner : ∀ {held : IncidentRecord} {type actor payload shown uuid} {earlier later},
      (appendLocked services incident type actor payload shown uuid now).run earlier =
        .ok (held, later) → held.id = incident.id := by
    intro held type actor payload shown uuid earlier later appended
    obtain ⟨_, _, _, _, _, _, rfl, _⟩ := appendLocked_eq_ok appended
    rfl
  simp only [projectFresh, concludeExecution, recordProjection, Transaction.bind_eq_ok,
    Transaction.pure_eq_ok, Prod.mk.injEq, queueRepair_bind]
  constructor
  · rintro ⟨claimedAt, db1, claimed, claimId, db2, identified, started, db3, appended, _, db4, tests,
      _, db5, ⟨moved, db6, concluded, current, db7, seen, work, db8, queued, _, db9, completed, _,
        db10, repaired, published⟩, rfl, rfl⟩
    rw [owner appended] at queued repaired published
    refine ⟨rfl, moved, db10, ⟨claimedAt, db1, claimed, claimId, db2, identified, started, db3,
      appended, _, db4, tests, moved, db6, concluded, current, db7, seen, work, db8, ?_, _, db9,
      completed, (), db10, ?_, rfl, rfl⟩, published⟩
    · rw [owner appended]
      exact queued
    · rw [owner appended]
      exact repaired
  · rintro ⟨rfl, moved, staged, ⟨claimedAt, db1, claimed, claimId, db2, identified, started, db3,
      appended, _, db4, tests, moved, db6, concluded, current, db7, seen, work, db8, queued, _, db9,
      completed, _, db10, repaired, rfl, rfl⟩, published⟩
    refine ⟨claimedAt, db1, claimed, claimId, db2, identified, started, db3, appended, _, db4, tests,
      (), next, ⟨moved, db6, concluded, current, db7, seen, work, db8, queued, _, db9, completed, (),
        staged, repaired, ?_⟩, rfl, rfl⟩
    rw [owner appended]
    exact published

/-- The outcome of a projection, before the case is refreshed. -/
structure Recorded (db : Database) (incident : IncidentRecord) (record : WarrantRecord)
    (result : BrokerResult) (moved : IncidentRecord) (staged : Database) : Prop where
  stage : Stage staged moved
  moved : Moved incident (if result.receipts.all (·.passed) then .verified else .testFailed) moved
  completed : ∃ work, staged.works.find (executionWorkId record.id) = some work ∧
    work.incidentId = incident.id ∧ work.status = .completed
  repair : result.receipts.all (·.passed) = false →
    ∃ repair, staged.works.find (repairWorkId record.id) = some repair ∧
      repair.incidentId = incident.id ∧ repair.status = .pending
  others : ∀ id, id ≠ executionWorkId record.id → id ≠ repairWorkId record.id →
    staged.works.find id = db.works.find id

/-- The records of a projection never fail. -/
theorem Ready.records {incident : IncidentRecord} {record : WarrantRecord}
    {result : BrokerResult} (ready : Ready incident record result db)
    {evidenceId : String} {testUuids eventUuids : Nat → String} (now : Instant)
    (tested : isIdentifier ("test_" ++ testUuids (result.receipts.length - 1)) = true) :
    (recordProjection services stopwatch incident record result evidenceId testUuids eventUuids
      now).Reaches db (Recorded db incident record result) := by
  obtain ⟨_, _, _, claimed⟩ := checkBrokerResult_agrees ready.checked
  obtain ⟨claimedAt, claimedAt_eq⟩ := Option.isSome_iff_exists.mp claimed
  obtain ⟨claimId, identified, claimNamed⟩ := claimIdentifier_ok ready.named claimedAt
  obtain ⟨work, queued, workOwner, workWarrant, workKind⟩ := ready.work
  have named := Table.key_of_find queued
  have key : (completedWork work now).id = executionWorkId record.id := named
  have current : db.works.find (completedWork work now).id = some work := by rw [key, queued]
  have differs : executionWorkId record.id ≠ repairWorkId record.id := by
    intro same
    exact absurd (@workId_injective .approvedExecution .testRepair _ _ same).1 (by decide)
  have written : ∀ id, (db.works.write (completedWork work now)).find id =
      if id = executionWorkId record.id then some (completedWork work now)
      else db.works.find id := by
    intro id
    rw [Table.find_write current, key]
  simp only [recordProjection, reaches_bind, reaches_lift, needed_eq_ok]
  refine ⟨claimedAt, claimedAt_eq, claimId, identified, ?_⟩
  refine ready.stage.append (by rw [ready.approved]; exact reduce_executing ⟨claimNamed, ready.named⟩)
    ?_ fun first started executing => ?_
  · exact normalize_obj_ok ["claim_id", "warrant_id"] rfl (by decide) (by decide) (by simp)
  refine recordTests_reaches fun rows => ?_
  refine (executing.elsewhere (by rfl) (by rfl) (by rfl)).append
    (reduce_outcome ⟨tested, ready.named⟩) outcome_encodes fun second concluded final => ?_
  simp only [reaches_read, Option.filter_eq_some_iff, decide_eq_true_eq, writeWork, reaches_change]
  refine ⟨work, ⟨queued, workOwner, workWarrant, workKind⟩, ?_⟩
  have moved := fun outcome => (@moved_advanced incident first .executing now started).trans
    (@moved_advanced _ second outcome now concluded)
  cases passed : result.receipts.all (·.passed) with
  | true =>
      rw [passed] at final
      simp only [queueRepair, if_true, reaches_pure]
      refine ⟨final.elsewhere (by rfl) (by rfl) (by rfl), by rw [passed]; exact moved _,
        ⟨completedWork work now, ?_, workOwner, rfl⟩, ?_, ?_⟩
      · exact (written _).trans (if_pos rfl)
      · intro failed
        cases passed.symm.trans failed
      · exact fun id first _ => (written id).trans (if_neg first)
  | false =>
      rw [passed] at final
      have fresh : (db.works.write (completedWork work now)).find
          (workId .testRepair record.id) = none :=
        (written _).trans ((if_neg differs.symm).trans ready.unrepaired)
      rw [queueRepair, if_neg Bool.false_ne_true]
      refine reaches_enqueue fresh fun works repair present owner _ _ waiting others => ?_
      refine reaches_pure.mpr ⟨final.elsewhere (by rfl) (by rfl) (by rfl),
        by rw [passed]; exact moved _, ⟨completedWork work now, ?_, workOwner, rfl⟩,
        fun _ => ⟨repair, present, owner, waiting⟩, ?_⟩
      · exact (others _ differs).trans ((written _).trans (if_pos rfl))
      · exact fun id first second =>
          (others id second).trans ((written id).trans (if_neg first))

/-- A projection of an approved incident only depends on whether its case is refreshed. -/
theorem Ready.project_eq_ok {incident : IncidentRecord} {record : WarrantRecord}
    {result answer : BrokerResult} {next : Database} (ready : Ready incident record result db)
    {evidenceId : String} {testUuids eventUuids : Nat → String} {now : Instant} :
    (projectBrokerResult services stopwatch incident.id record.id evidenceId testUuids eventUuids
        now).run db = .ok (answer, next) ↔
      answer = result ∧ ∃ moved staged,
        (recordProjection services stopwatch incident record result evidenceId testUuids eventUuids
          now).run db = .ok (moved, staged) ∧
        (publishLocked services incident.id now).run staged = .ok ((), next) := by
  have untouched : projectedBrokerResultLocked services stopwatch db incident record result =
      .ok none := by simp [projectedBrokerResultLocked, ready.untested]
  rw [← projectFresh_eq_ok]
  simp only [projectBrokerResult, Transaction.bind_eq_ok, Transaction.read_eq_ok,
    Transaction.lift_eq_ok, Prod.mk.injEq, needed_eq_ok, Option.filter_eq_some_iff,
    decide_eq_true_eq]
  constructor
  · rintro ⟨_, _, ⟨rfl, rfl⟩, current, _, ⟨found, rfl⟩, row, _, ⟨⟨present, _⟩, rfl⟩, outcome, _,
      ⟨checked, rfl⟩, projected, _, ⟨fresh, rfl⟩, projects⟩
    rw [ready.stage.found, Option.some.injEq] at found
    subst found
    rw [ready.row, Option.some.injEq] at present
    subst present
    rw [ready.checked, Except.ok.injEq] at checked
    subst checked
    rw [untouched, Except.ok.injEq] at fresh
    subst fresh
    exact projects
  · intro projects
    exact ⟨db, db, ⟨rfl, rfl⟩, incident, db, ⟨ready.stage.found, rfl⟩, record, db,
      ⟨⟨ready.row, rfl, ready.owner⟩, rfl⟩, result, db, ⟨ready.checked, rfl⟩, none, db,
      ⟨untouched, rfl⟩, projects⟩

theorem Recorded.owner {incident : IncidentRecord} {record : WarrantRecord} {result : BrokerResult}
    {moved : IncidentRecord} {staged : Database}
    (recorded : Recorded db incident record result moved staged) : moved.id = incident.id := by
  rw [recorded.moved.rest]

/-- The title of an operator incident is shown once its execution has passed. -/
theorem Recorded.publishes_iff {incident : IncidentRecord} {record : WarrantRecord}
    {result : BrokerResult} {moved : IncidentRecord} {staged : Database}
    (recorded : Recorded db incident record result moved staged) :
    publishes moved = true ↔
      incident.liveTrial = false ∧ result.receipts.all (·.passed) = true := by
  have state := recorded.moved.state
  rw [publishes, Bool.and_eq_true, Bool.not_eq_true', decide_eq_true_eq, state,
    recorded.moved.rest]
  cases passed : result.receipts.all (·.passed) with
  | true => simp
  | false => simp

/-- The refresh of a projection, without which nothing of it is kept. -/
theorem Recorded.publish_iff {incident : IncidentRecord} {record : WarrantRecord}
    {result : BrokerResult} {moved : IncidentRecord} {staged : Database}
    (recorded : Recorded db incident record result moved staged) {now : Instant} :
    (∃ next, (publishLocked services incident.id now).run staged = .ok ((), next)) ↔
      (incident.liveTrial = false → result.receipts.all (·.passed) = true →
        services.publicTitleIssues incident.title = []) ∧
      RendersCase services staged moved := by
  have title : moved.title = incident.title := by
    rw [recorded.moved.rest]
  rw [publish_commits_iff (recorded.owner ▸ recorded.stage.found)
    (recorded.owner ▸ recorded.stage.unpublished), recorded.publishes_iff, title, and_imp]

/-- A failed test that is kept leaves the incident to its repair. -/
theorem Recorded.awaitsRepair {incident : IncidentRecord} {record : WarrantRecord}
    {result : BrokerResult} {moved : IncidentRecord} {staged next : Database} {now : Instant}
    (recorded : Recorded db incident record result moved staged)
    (failed : result.receipts.all (·.passed) = false)
    (published : (publishLocked services incident.id now).run staged = .ok ((), next)) :
    AwaitsRepair incident record next := by
  have owner := recorded.owner
  have hidden : publishes moved = false := by
    rw [Bool.eq_false_iff, ne_eq, recorded.publishes_iff, failed]
    simp
  obtain ⟨cases, rfl, shown⟩ := publish_leaves (owner ▸ recorded.stage.found)
    (owner ▸ recorded.stage.unpublished) () next published
  have state := recorded.moved.state
  rw [failed, if_neg Bool.false_ne_true] at state
  obtain ⟨repair, queued, _, waiting⟩ := recorded.repair failed
  refine ⟨⟨moved, ⟨recorded.stage.found, ⟨recorded.stage.chained.sequence,
    recorded.stage.chained.head⟩, ?_⟩, owner, state⟩, ⟨repair, queued, waiting⟩, recorded.completed⟩
  intro row present
  rw [owner] at present
  rw [shown row present, hidden]

/-- A projection commits if the case that it leaves can be rendered, under a title that may be
shown. -/
theorem Ready.project_reaches {incident : IncidentRecord} {record : WarrantRecord}
    {result : BrokerResult} (ready : Ready incident record result db) (renders : Renders services)
    (titled : result.status = .executed → incident.liveTrial = false →
      services.publicTitleIssues incident.title = [])
    {evidenceId : String} {testUuids eventUuids : Nat → String} (now : Instant)
    (tested : isIdentifier ("test_" ++ testUuids (result.receipts.length - 1)) = true) :
    (projectBrokerResult services stopwatch incident.id record.id evidenceId testUuids eventUuids
      now).Reaches db fun answer next => answer = result ∧
        (result.status ≠ .executed → AwaitsRepair incident record next ∧
          ∀ id, id ≠ executionWorkId record.id → id ≠ repairWorkId record.id →
            next.works.find id = db.works.find id) := by
  obtain ⟨moved, staged, recorded, outcome⟩ :=
    @Ready.records services stopwatch db incident record result ready evidenceId testUuids
      eventUuids now tested
  obtain ⟨_, agrees, _⟩ := checkBrokerResult_agrees ready.checked
  have shown : incident.liveTrial = false → result.receipts.all (·.passed) = true →
      services.publicTitleIssues incident.title = [] :=
    fun operator passed => titled (agrees.mpr passed) operator
  obtain ⟨next, published⟩ := outcome.publish_iff.mpr ⟨shown, renders staged moved⟩
  refine ⟨result, next, ready.project_eq_ok.mpr ⟨rfl, moved, staged, recorded, published⟩, rfl, ?_⟩
  intro unexecuted
  have failed : result.receipts.all (·.passed) = false := by
    rw [Bool.eq_false_iff]
    exact fun passed => unexecuted (agrees.mpr passed)
  refine ⟨outcome.awaitsRepair failed published, ?_⟩
  obtain ⟨cases, rfl⟩ := publishLocked_eq_ok published
  exact outcome.others

/-! ## Executions -/

/-- A row that the broker finished can be projected. -/
theorem checkBrokerResult_of {record : WarrantRecord} {result : BrokerResult}
    (consumed : record.state = .consumed) (written : record.resultJson = some result)
    (times : record.claimedAt.isSome = true ∧ record.finishedAt.isSome = true)
    (named : result.warrantId = record.id) (nonce : result.nonceSha256 = some record.nonceSha256)
    (ascii : isAscii record.nonceSha256 = true) (receipts : result.receipts ≠ [])
    (agrees : result.status = .executed ↔ result.receipts.all (·.passed) = true)
    (projectable : result.status = .executed ∨ result.status = .testFailed) :
    checkBrokerResult record record.id = .ok result := by
  have compared : compareDigest record.nonceSha256 record.nonceSha256 = .ok true :=
    compareDigest_eq_ok_true.mpr ⟨ascii, rfl⟩
  simp only [checkBrokerResult, consumed, times, written, named, nonce, needed, compared,
    and_self, if_true, ok_bind, require_true, receipts, ne_eq, not_false_eq_true, projectable,
    require_true (propext agrees)]

/-- What the broker reports about an execution that ran the tests of a warrant. -/
structure Reports (document : WarrantDocument) (result : BrokerResult) : Prop where
  warrant : result.warrantId = document.warrantId
  nonce : result.nonceSha256 = some (hexdigest (utf8 document.nonce))
  receipts : result.receipts ≠ []
  agrees : result.status = .executed ↔ result.receipts.all (·.passed) = true
  projectable : result.status = .executed ∨ result.status = .testFailed

section Execution

variable {gateway : Gateway} {incidentId : String} {document : WarrantDocument}
  {approval : WarrantApproval}

/-- The claim of the work row of an authorized warrant leaves the warrant authorized. -/
theorem claimWork_reaches
    (authorized : Authorized gateway incidentId document approval .approved db)
    (ownerId : String) (now : Instant) :
    (claimRuntimeWork (executionWorkId document.warrantId) ownerId now).Reaches db fun _ next =>
      Authorized gateway incidentId document approval .approved next := by
  obtain ⟨incident, stage, identified, approved⟩ := authorized.stage
  obtain ⟨work, queued, owner, _⟩ := authorized.work
  have present : db.incidents.find work.incidentId = some incident := by
    rw [owner, ← identified, stage.found]
  simp only [claimRuntimeWork, reaches_bind, reaches_read, queued]
  split
  · exact reaches_pure.mpr authorized
  · rw [reaches_bind]
    refine reaches_getIncident.mpr ⟨incident, present, ?_⟩
    rw [if_neg (by simp [approved])]
    simp only [writeWork, reaches_bind, reaches_change, reaches_pure]
    exact ⟨⟨incident, stage.elsewhere rfl rfl rfl, identified, approved⟩, authorized.row,
      authorized.authority, (authorized.rewritten queued (by exact ⟨rfl, rfl, rfl, rfl⟩)).1,
      (authorized.rewritten queued (by exact ⟨rfl, rfl, rfl, rfl⟩)).2, authorized.tests⟩

/-- An authorized warrant is claimed and finished, and its result can be projected. -/
theorem ready_of_executed
    (authorized : Authorized gateway incidentId document approval .approved db)
    (legible : Legible gateway document approval) (owner : document.incidentId = incidentId)
    (named : isIdentifier document.warrantId = true) {claimedAt finishedAt : Instant}
    (unexpired : claimedAt ≤ document.expiresAt) {validator : ClaimValidator}
    {validated : AuthoritySnapshot}
    (accepted : validator document approval claimedAt
      (AuthoritySnapshot.fromWarrant document gateway.policy.repositoryRoot) = .ok validated)
    {result : BrokerResult} (reports : Reports document result) :
    ∃ incident record, incident.id = incidentId ∧ record.id = document.warrantId ∧
      Ready incident record result
        { db with
          broker := ((db.broker.claimWarrant gateway.services.tables gateway.services.codec
            document.warrantId (some claimedAt) validator).2.finish document.warrantId result
              (some finishedAt)).2 } := by
  obtain ⟨incident, stage, identified, approved⟩ := authorized.stage
  obtain ⟨record, found, warrant, owned, nonce, _⟩ := authorized.row
  obtain ⟨work, queued, workOwner, workWarrant, kind⟩ := authorized.work
  have differs : repairWorkId document.warrantId ≠ executionWorkId document.warrantId := by
    intro same
    exact absurd (@workId_injective .testRepair .approvedExecution _ _ same).1 (by decide)
  let row : WarrantRecord :=
    { record with
      state := .consumed
      claimedAt := some claimedAt
      nonceConsumedAt := some claimedAt
      resultJson := some result
      finishedAt := some finishedAt
      updatedAt := finishedAt }
  have finished : ((db.broker.put document.warrantId
      { record with
        state := .consuming
        claimedAt := some claimedAt
        nonceConsumedAt := some claimedAt
        updatedAt := claimedAt }).finish document.warrantId result (some finishedAt)).2.warrants
          document.warrantId = some row := by
    simp [PostgresWarrantStore.finish, PostgresWarrantStore.put, PostgresWarrantStore.databaseNow,
      row]
  have checked : checkBrokerResult row row.id = .ok result := by
    refine checkBrokerResult_of rfl rfl ⟨rfl, rfl⟩ (reports.warrant.trans warrant.symm) ?_ ?_
      reports.receipts reports.agrees reports.projectable
    · rw [reports.nonce, ← nonce]
    · change isAscii record.nonceSha256 = true
      rw [nonce]
      exact isSha256_ascii (hexdigest_isSha256 _)
  rw [claim_of_authorized found authorized legible owner unexpired accepted]
  refine ⟨incident, row, identified, warrant, ⟨stage.elsewhere rfl rfl rfl, approved, ?_,
    owned.trans identified.symm, ?_, checked, ?_, ⟨work, ?_, workOwner.trans identified.symm,
      workWarrant.trans warrant.symm, kind⟩, ?_⟩⟩
  · exact (congrArg (PostgresWarrantStore.warrants _) warrant).trans finished
  · rw [show row.id = document.warrantId from warrant, named]
  · change testsIn db.testRuns _ _ = []
    rw [authorized.tests]
    rfl
  · rw [show row.id = document.warrantId from warrant]
    exact queued
  · rw [show row.id = document.warrantId from warrant]
    exact authorized.only _ differs

end Execution

/-! ## Evidence -/

theorem envelope_encodes (tables : UnicodeTables) (envelope : UntrustedEvidenceEnvelope) :
    Encodes tables envelope.json := by
  have tags : ∀ tag : SanitizationTag, ∃ value,
      Domain.Hashing.normalize tables tag.json = .ok value := fun tag =>
    normalize_obj_ok ["kind", "raw_byte_start", "raw_byte_end", "raw_sha256", "sanitized_sha256"]
      rfl (by decide) (by decide) (by simp)
  refine normalize_obj_ok ["classification", "evidence_id", "incident_id", "kind", "provenance",
    "provenance_sha256", "provenance_tags", "text", "raw_sha256", "sanitized_sha256",
    "raw_size_bytes", "sanitized_size_bytes", "truncated", "tags"] rfl (by decide) (by decide) ?_
  have kinds := @normalize_arr_ok tables (envelope.provenanceTags.map fun tag => .str tag.value)
    (by simp)
  have listed := @normalize_arr_ok tables (envelope.tags.map (·.json)) (by
    intro item member
    obtain ⟨tag, _, rfl⟩ := List.mem_map.mp member
    exact tags tag)
  simp [kinds, listed]

/-- Evidence of an incident that is not published yet can be recorded. -/
theorem recordEvidence_reaches {incident : IncidentRecord} {envelope : UntrustedEvidenceEnvelope}
    {evidenceId : String} {now : Instant} (stage : Stage db incident) (renders : Renders services)
    (hidden : publishes incident = false) (owner : envelope.incidentId = incident.id) :
    (recordEvidence services envelope evidenceId true now).Reaches db fun _ next =>
      Stage next incident ∧ next.broker = db.broker ∧ next.works = db.works ∧
        next.testRuns = db.testRuns := by
  obtain ⟨normalized, normalizes⟩ := envelope_encodes services.tables envelope
  simp only [recordEvidence, addEvidence, reaches_bind, reaches_lift, reaches_change, if_true,
    canonicalJson_ok normalizes, Except.ok.injEq, exists_eq_left', owner]
  refine (stage.elsewhere (by rfl) (by rfl) (by rfl)).publish (renders _ _) hidden fun cases shown => ?_
  exact ⟨shown, rfl, rfl, rfl⟩

theorem Ready.elsewhere {incident : IncidentRecord} {record : WarrantRecord}
    {result : BrokerResult} {next : Database} (ready : Ready incident record result db)
    (stage : Stage next incident) (broker : next.broker = db.broker) (works : next.works = db.works)
    (tests : next.testRuns = db.testRuns) : Ready incident record result next where
  stage := stage
  approved := ready.approved
  row := by rw [broker, ready.row]
  owner := ready.owner
  named := ready.named
  checked := ready.checked
  untested := by rw [Database.testsOf, tests]; exact ready.untested
  work := by rw [works]; exact ready.work
  unrepaired := by rw [works]; exact ready.unrepaired

end CrossPatch.Runtime.ExecutionPath
