import CrossPatch.Runtime.Launcher

/-!
# The records around a projection

An execution leaves an evidence record before its projection and an event after it, each
in a transaction of its own.  They are left exactly once as long as no attempt stops
between the first of the three transactions and the last.
-/

namespace CrossPatch.Runtime.SideRecords

open CrossPatch.Broker.Cancellation CrossPatch.Broker.Claim CrossPatch.Broker.Store
open CrossPatch.Domain.Failure CrossPatch.Domain.Hashing CrossPatch.Domain.StateMachine
open CrossPatch.Domain.Text
open CrossPatch.Evidence.Views
open CrossPatch.Library CrossPatch.Library.Attempt CrossPatch.Library.Calendar
open CrossPatch.Library.JsonText CrossPatch.Library.Octets CrossPatch.Library.Runs
open CrossPatch.Library.Sha256 CrossPatch.Library.Transaction
open CrossPatch.Runner.Results
open CrossPatch.Runtime.BrokerResults CrossPatch.Runtime.ExecutionAuthority
open CrossPatch.Runtime.ExecutionPath CrossPatch.Runtime.Launcher CrossPatch.Runtime.Progress
open CrossPatch.Runtime.Projection CrossPatch.Runtime.QueueRefinement
open CrossPatch.Runtime.Records CrossPatch.Runtime.Refinement CrossPatch.Runtime.Store
open CrossPatch.Runtime.Timeline

variable {launcher : BundledIncidentLauncher} {incidentId warrantId : String}
variable {result : BrokerResult} {db next : Database}

/-! ## The two records -/

/-- The published evidence of the incident whose raw bytes are the durable result. -/
def receiptEvidence (tables : UnicodeTables) (incidentId : String) (result : BrokerResult)
    (db : Database) : List EvidenceRecord :=
  db.evidence.filter fun record =>
    record.incidentId == incidentId && record.published &&
      decide (sha256Hex tables (resultDocument result) = .ok record.rawSha256)

def completions (incidentId warrantId : String) (db : Database) : List TimelineEventRecord :=
  (db.eventsOf incidentId).filter fun event =>
    event.type = .bailiffCompleted ∧ textOf (event.payload.lookup "warrant_id") = some warrantId

/-- What other transactions, and the Bailiff, leave alone. -/
structure Aside (tables : UnicodeTables) (incidentId warrantId : String) (result : BrokerResult)
    (db after : Database) : Prop where
  beside : Beside incidentId warrantId db after
  evidence : receiptEvidence tables incidentId result after =
    receiptEvidence tables incidentId result db
  completed : completions incidentId warrantId after = completions incidentId warrantId db
  bound : ∀ record, after.broker.warrants warrantId = some record →
    ∀ written, record.resultJson = some written → written = result

/-- An attempt that has recorded its evidence commits the projection and the completion. -/
def Uninterrupted (launcher : BundledIncidentLauncher) (incidentId warrantId : String)
    (result : BrokerResult) (world : World) : Action → Prop
  | .start => True
  | .crash =>
      match world.position with
      | .projecting _ _ | .completing _ => False
      | _ => True
  | .others after =>
      Aside launcher.services.tables incidentId warrantId result world.db after
  | .proceed input =>
      match world.position with
      | .asking =>
          Aside launcher.services.tables incidentId warrantId result world.db input.resumed
      | .projecting _ evidenceId =>
          ∃ answer, ((projectBrokerResult launcher.services launcher.stopwatch incidentId warrantId
            evidenceId input.testUuids input.eventUuids input.now).commit world.db).1 = .ok answer
      | .completing status =>
          ((appendEvent launcher.services incidentId .bailiffCompleted "Bailiff"
            [("warrant_id", .str warrantId), ("status", .str (statusValue status))] true
            (input.eventUuids 0) input.now).commit world.db).1 = .ok ()
      | _ => True

/-! ## What the transactions of an attempt change -/

theorem eventsOf_append {event : TimelineEventRecord} (events : next.events = db.events ++ [event])
    (owner : event.incidentId = incidentId) :
    next.eventsOf incidentId = db.eventsOf incidentId ++ [event] := by
  simp [Database.eventsOf, events, owner]

/-- Events of other types are neither outcomes nor completions. -/
theorem completions_append {event : TimelineEventRecord}
    (events : next.events = db.events ++ [event]) (owner : event.incidentId = incidentId)
    (other : event.type ≠ .bailiffCompleted) :
    completions incidentId warrantId next = completions incidentId warrantId db := by
  rw [completions, eventsOf_append events owner, List.filter_append]
  simp [completions, other]

theorem outcomes_append {event : TimelineEventRecord} {type : StateEventType}
    (events : next.events = db.events ++ [event]) (owner : event.incidentId = incidentId)
    (other : event.type ≠ .state type) :
    outcomeEvents next incidentId warrantId type = outcomeEvents db incidentId warrantId type := by
  rw [outcomeEvents, eventsOf_append events owner, List.filter_append]
  simp [outcomeEvents, other]

/-- Recording evidence adds one row. -/
theorem recordEvidence_row {services : Services} {envelope : UntrustedEvidenceEnvelope}
    {evidenceId : String} {now : Instant} :
    (recordEvidence services envelope evidenceId true now).Ensures db fun _ next =>
      ∃ row cases, row.id = evidenceId ∧ row.incidentId = envelope.incidentId ∧
        row.published = true ∧ row.rawSha256 = envelope.rawSha256 ∧
        next = { db with evidence := db.evidence ++ [row], cases := cases } := by
  simp only [recordEvidence, addEvidence, ensures_bind, ensures_lift, ensures_change, if_true]
  intro encoded _
  exact ensures_publish fun cases => ⟨_, cases, rfl, rfl, rfl, rfl, rfl⟩

theorem ingest_digest {sanitizer : Sanitizer} {kind : EvidenceKind} {raw : Bytes}
    {provenance evidenceId : String} {stored : Attempt Unit}
    {envelope : UntrustedEvidenceEnvelope}
    (ingested : ingest sanitizer incidentId kind raw provenance evidenceId stored = .ok envelope) :
    envelope.incidentId = incidentId ∧ envelope.rawSha256 = hexdigest raw := by
  simp only [ingest, Attempt.bind_eq_ok, require_eq_ok, Except.ok.injEq] at ingested
  obtain ⟨_, _, _, same, _, _, rfl⟩ := ingested
  exact ⟨rfl, same.symm⟩

/-- The evidence of an attempt is the evidence of the result. -/
theorem recordReceipt_ok {input : Input} {evidenceId : String}
    (recorded : recordReceipt launcher incidentId input result db = (.ok evidenceId, next)) :
    ∃ row cases, row.id = evidenceId ∧
      receiptEvidence launcher.services.tables incidentId result next =
        receiptEvidence launcher.services.tables incidentId result db ++ [row] ∧
      next = { db with evidence := db.evidence ++ [row], cases := cases } := by
  unfold recordReceipt at recorded
  dsimp only at recorded
  split at recorded
  · cases recorded
  · rename_i envelope built
    obtain ⟨raw, encoded, ingested⟩ := Attempt.bind_eq_ok.mp built
    obtain ⟨owner, digest⟩ := ingest_digest ingested
    split at recorded
    · rename_i done after committed
      cases recorded
      obtain ⟨row, cases, id, rowOwner, published, rowDigest, reached⟩ :=
        recordEvidence_row.of_commit (congrArg Prod.fst committed)
      have same : next = { db with evidence := db.evidence ++ [row], cases := cases } :=
        (congrArg Prod.snd committed).symm.trans reached
      refine ⟨row, cases, id, ?_, same⟩
      have hashed : sha256Hex launcher.services.tables (resultDocument result) =
          .ok row.rawSha256 := by
        rw [rowDigest, digest]
        simp [sha256Hex, encoded]
      rw [receiptEvidence, same, List.filter_append]
      simp [receiptEvidence, rowOwner.trans owner, published, hashed]
    · cases recorded

theorem recordReceipt_error {input : Input} {raised : Raised}
    (failed : recordReceipt launcher incidentId input result db = (.error raised, next)) :
    next = db := by
  unfold recordReceipt at failed
  dsimp only at failed
  split at failed
  · cases failed
    rfl
  · split at failed
    · cases failed
    · rename_i error after committed
      cases failed
      exact rolled_back committed

/-- A projection adds no evidence and completes nothing. -/
theorem project_aside {services : Services} {stopwatch : Stopwatch} {evidenceId : String}
    {testUuids eventUuids : Nat → String} {now : Instant} :
    (projectBrokerResult services stopwatch incidentId warrantId evidenceId testUuids eventUuids
      now).Ensures db fun _ next => next.evidence = db.evidence ∧
        completions incidentId warrantId next = completions incidentId warrantId db := by
  simp only [projectBrokerResult, projectFresh, concludeExecution, writeWork, ensures_bind,
    ensures_read, ensures_lift, needed_eq_ok, Option.filter_eq_some_iff, decide_eq_true_eq]
  rintro incident found record _ answer _ projected _
  obtain rfl := Table.key_of_find found
  cases projected with
  | some earlier => exact ensures_pure.mpr ⟨rfl, rfl⟩
  | none =>
      simp only [ensures_bind, ensures_lift, needed_eq_ok, ensures_pure]
      intro claimedAt _ claimId _
      refine ensures_event fun first state owner kind _ _ => ?_
      refine recordTests_ensures.mono ?_
      rintro _ _ ⟨rows, _, _, rfl⟩
      refine ensures_event fun second state owner' kind' _ _ => ?_
      simp only [ensures_read, ensures_change]
      intro work _
      -- both events are about the execution itself
      have untouched : ∀ after : Database, after.events = db.events ++ [first] ++ [second] →
          completions incident.id warrantId after = completions incident.id warrantId db := by
        intro after events
        have started : completions incident.id warrantId
            { db with events := db.events ++ [first] } = completions incident.id warrantId db :=
          completions_append rfl owner (by rw [kind]; simp)
        rw [← started]
        refine completions_append events owner' ?_
        rw [kind']
        split <;> simp
      split
      · exact ensures_publish fun _ => ⟨rfl, untouched _ rfl⟩
      · rw [ensures_bind]
        refine ensures_enqueued fun works _ _ => ?_
        exact ensures_publish fun _ => ⟨rfl, untouched _ rfl⟩

/-- A recorded failure is neither an outcome nor a completion. -/
theorem recordExecutionFailure_aside {services : Services} {errorCode uuid : String}
    {now : Instant} :
    (recordExecutionFailure services incidentId warrantId errorCode uuid now).Ensures db
      fun _ next => next.evidence = db.evidence ∧ next.testRuns = db.testRuns ∧
        next.broker = db.broker ∧
        completions incidentId warrantId next = completions incidentId warrantId db ∧
        ∀ type, type ∈ [StateEventType.executionStarted, .verified, .testFailed] →
          outcomeEvents next incidentId warrantId type =
            outcomeEvents db incidentId warrantId type := by
  simp only [recordExecutionFailure, writeWork, ensures_bind, ensures_read, ensures_lift,
    needed_eq_ok]
  rintro incident found work _
  obtain rfl := Table.key_of_find found
  refine ensures_event fun event state owner kind _ _ => ?_
  simp only [ensures_change]
  refine ensures_publish fun _ => ⟨rfl, rfl, rfl, ?_, fun type member => ?_⟩
  · exact completions_append rfl owner (by rw [kind]; simp)
  · refine outcomes_append rfl owner ?_
    rw [kind]
    rintro same
    cases same
    simp at member

/-- The completion adds its event and leaves the projection alone. -/
theorem complete_aside {services : Services} {status : BrokerStatus} {uuid : String}
    {now : Instant} :
    (appendEvent services incidentId .bailiffCompleted "Bailiff"
      [("warrant_id", .str warrantId), ("status", .str (statusValue status))] true uuid
      now).Ensures db fun _ next => next.evidence = db.evidence ∧ next.broker = db.broker ∧
        Beside incidentId warrantId db next ∧
        ∃ event, completions incidentId warrantId next =
          completions incidentId warrantId db ++ [event] := by
  simp only [appendEvent, ensures_bind, ensures_getIncident, if_true]
  intro incident found
  obtain rfl := Table.key_of_find found
  refine ensures_event fun event state owner kind body reduced => ?_
  refine ensures_publish fun cases => ⟨rfl, rfl, ?_, event, ?_⟩
  · refine ⟨fun type _ => ?_, rfl, fun _ => ?_, fun _ work present done => ⟨work, present, done⟩,
      fun _ work present => ⟨work, present, rfl⟩, fun _ => rfl⟩
    · exact outcomes_append rfl owner (by rw [kind]; simp)
    · cases reduced
      change ((db.incidents.write (advanced incident event incident.state now)).find
        incident.id).map _ = _
      have written : (db.incidents.write (advanced incident event incident.state now)).find
          incident.id = some _ := @Table.find_write_self _ _ IncidentRecord.id _ _ _ _ found
      rw [written, found]
      rfl
  · rw [completions, eventsOf_append rfl owner, List.filter_append]
    congr 1
    simp [kind, body, textOf]

/-! ## The invariant -/

/-- Nothing has been recorded for the warrant. -/
structure Clean (launcher : BundledIncidentLauncher) (incidentId warrantId : String)
    (result : BrokerResult) (db : Database) : Prop where
  unprojected : Unprojected incidentId warrantId db
  evidence : receiptEvidence launcher.services.tables incidentId result db = []
  completed : completions incidentId warrantId db = []

/-- The evidence of an attempt has been recorded. -/
structure Noted (launcher : BundledIncidentLauncher) (incidentId warrantId : String)
    (result : BrokerResult) (evidenceId : String) (db : Database) : Prop where
  unprojected : Unprojected incidentId warrantId db
  evidence : ∃ row, receiptEvidence launcher.services.tables incidentId result db = [row] ∧
    row.id = evidenceId
  completed : completions incidentId warrantId db = []

/-- The result has been projected, with its evidence. -/
structure Known (launcher : BundledIncidentLauncher) (incidentId warrantId : String)
    (result : BrokerResult) (db : Database) : Prop where
  settled : Settled launcher.services launcher.stopwatch incidentId warrantId result db
  evidence : ∃ row, receiptEvidence launcher.services.tables incidentId result db = [row] ∧
    NamesEvidence incidentId warrantId row.id db

/-- The broker's durable result of the warrant, once there is one, is `result`. -/
def Bound (warrantId : String) (result : BrokerResult) (db : Database) : Prop :=
  ∀ record, db.broker.warrants warrantId = some record →
    ∀ written, record.resultJson = some written → written = result

/-- What has been recorded where an attempt stands. -/
def Stands (launcher : BundledIncidentLauncher) (incidentId warrantId : String)
    (result : BrokerResult) (db : Database) : Position → Prop
  | .idle | .looking =>
      Clean launcher incidentId warrantId result db ∨
        (Known launcher incidentId warrantId result db ∧
          ∃ event, completions incidentId warrantId db = [event])
  | .reading | .asking | .rereading _ | .refusing _ =>
      Clean launcher incidentId warrantId result db
  | .recording _ found => Clean launcher incidentId warrantId result db ∧ found = result
  | .projecting _ evidenceId => Noted launcher incidentId warrantId result evidenceId db
  | .completing _ =>
      Known launcher incidentId warrantId result db ∧ completions incidentId warrantId db = []

theorem Clean.aside (clean : Clean launcher incidentId warrantId result db)
    (aside : Aside launcher.services.tables incidentId warrantId result db next) :
    Clean launcher incidentId warrantId result next :=
  ⟨clean.unprojected.beside aside.beside, aside.evidence.trans clean.evidence,
    aside.completed.trans clean.completed⟩

theorem Known.aside (known : Known launcher incidentId warrantId result db)
    (beside : Beside incidentId warrantId db next)
    (evidence : receiptEvidence launcher.services.tables incidentId result next =
      receiptEvidence launcher.services.tables incidentId result db) :
    Known launcher incidentId warrantId result next := by
  obtain ⟨row, listed, names⟩ := known.evidence
  refine ⟨known.settled.beside beside, row, evidence.trans listed, ?_⟩
  rw [NamesEvidence, beside.tests]
  exact names

theorem Stands.aside {position : Position}
    (stands : Stands launcher incidentId warrantId result db position)
    (aside : Aside launcher.services.tables incidentId warrantId result db next) :
    Stands launcher incidentId warrantId result next position := by
  cases position with
  | idle | looking =>
      rcases stands with clean | ⟨known, event, completed⟩
      · exact Or.inl (clean.aside aside)
      · exact Or.inr ⟨known.aside aside.beside aside.evidence, event,
          aside.completed.trans completed⟩
  | reading | asking | rereading | refusing => exact Clean.aside stands aside
  | recording => exact ⟨stands.1.aside aside, stands.2⟩
  | projecting =>
      obtain ⟨row, listed, id⟩ := stands.evidence
      exact ⟨stands.unprojected.beside aside.beside, ⟨row, aside.evidence.trans listed, id⟩,
        aside.completed.trans stands.completed⟩
  | completing =>
      exact ⟨stands.1.aside aside.beside aside.evidence, aside.completed.trans stands.2⟩

theorem completedBrokerResult_bound (bound : Bound warrantId result db) {found : BrokerResult}
    (completed : completedBrokerResult incidentId warrantId db = some found) : found = result := by
  rw [completedBrokerResult, Option.bind_eq_some_iff] at completed
  obtain ⟨record, present, written⟩ := completed
  rw [Option.filter_eq_some_iff] at present
  exact bound record present.1 found written

/-- A new attempt goes on exactly if nothing has been recorded. -/
theorem look_clean (clean : Clean launcher incidentId warrantId result db) :
    look launcher incidentId warrantId db = .idle ∨
      look launcher incidentId warrantId db = .reading := by
  unfold look projectedBrokerResult
  cases found : db.incidents.find incidentId with
  | none => exact Or.inl rfl
  | some incident =>
      obtain rfl := Table.key_of_find found
      simp only [needed, ok_bind]
      cases present : (db.broker.warrants warrantId).filter fun record => record.id = warrantId with
      | none => exact Or.inl rfl
      | some record =>
          have named : record.id = warrantId := by
            rw [Option.filter_eq_some_iff, decide_eq_true_eq] at present
            exact present.2
          simp only [ok_bind]
          cases record.resultJson with
          | none => exact Or.inr rfl
          | some written =>
              have untested := clean.unprojected.tests
              rw [← named] at untested
              simp [projectedBrokerResultLocked, untested]

theorem look_known (known : Known launcher incidentId warrantId result db) :
    look launcher incidentId warrantId db = .idle := by
  obtain ⟨record, present, named, _, checked⟩ := known.settled.durable
  obtain ⟨incident, found, _⟩ := known.settled.once.incident
  obtain ⟨_, _, written, _⟩ := checkBrokerResult_agrees checked
  have projected := known.settled.once.projected found named checked known.settled.distinct
  have row : (db.broker.warrants warrantId).filter (fun record => record.id = warrantId) =
      some record := by
    rw [Option.filter_eq_some_iff]
    exact ⟨present, decide_eq_true named⟩
  simp [look, projectedBrokerResult, found, row, needed, written, projected]

/-- An attempt whose exception nobody handles, or which is refused, has recorded nothing. -/
theorem stands_afterRaise (clean : Clean launcher incidentId warrantId result db)
    (errorCode : String) (raised : Raised) :
    Stands launcher incidentId warrantId result db (afterRaise errorCode raised) := by
  unfold afterRaise
  split
  · exact clean
  · exact Or.inl clean

/-! ## Steps -/

/-- What holds of every state of a run. -/
structure Sound (launcher : BundledIncidentLauncher) (incidentId warrantId : String)
    (result : BrokerResult) (world : World) : Prop where
  bound : Bound warrantId result world.db
  stands : Stands launcher incidentId warrantId result world.db world.position

theorem sound_recording {input : Input} {bailiffFailure : Option String}
    (bound : Bound warrantId result db)
    (clean : Clean launcher incidentId warrantId result db) :
    Sound launcher incidentId warrantId result
      (proceed launcher incidentId warrantId input ⟨db, .recording bailiffFailure result⟩) := by
  simp only [proceed]
  split
  · rename_i evidenceId next recorded
    obtain ⟨row, cases, id, listed, rfl⟩ := recordReceipt_ok recorded
    refine ⟨bound, ⟨clean.unprojected.events, clean.unprojected.tests⟩, ⟨row, ?_, id⟩,
      clean.completed⟩
    rw [listed, clean.evidence, List.nil_append]
  · rename_i raised next failed
    obtain rfl := recordReceipt_error failed
    exact ⟨bound, stands_afterRaise clean _ _⟩

theorem sound_projecting {input : Input} {bailiffFailure : Option String} {evidenceId : String}
    (bound : Bound warrantId result db) (distinct : DistinctPlans result)
    (noted : Noted launcher incidentId warrantId result evidenceId db) {answer : BrokerResult}
    (commits : ((projectBrokerResult launcher.services launcher.stopwatch incidentId warrantId
      evidenceId input.testUuids input.eventUuids input.now).commit db).1 = .ok answer) :
    Sound launcher incidentId warrantId result
      (proceed launcher incidentId warrantId input ⟨db, .projecting bailiffFailure evidenceId⟩) := by
  obtain ⟨once, names, durable, broker⟩ := (project_first noted.unprojected).of_commit commits
  obtain ⟨evidence, completed⟩ := project_aside.of_commit commits
  obtain ⟨row, listed, rfl⟩ := noted.evidence
  obtain ⟨record, present, named, owner, checked⟩ := durable
  have same : answer = result := by
    refine bound record (broker ▸ present) answer ?_
    exact (checkBrokerResult_agrees checked).2.2.1
  subst same
  simp only [proceed]
  split
  · rename_i projected next committed
    have reached := congrArg Prod.snd committed
    dsimp only at reached
    rw [reached] at once names evidence completed broker present
    refine ⟨?_, ⟨⟨once, ⟨record, present, named, owner, checked⟩, distinct⟩, row, ?_, names⟩, ?_⟩
    · rw [Bound, broker]
      exact bound
    · rw [receiptEvidence, evidence]
      exact listed
    · exact completed.trans noted.completed
  · rename_i raised next failed
    rw [congrArg Prod.fst failed] at commits
    cases commits

theorem sound_completing {input : Input} {status : BrokerStatus}
    (bound : Bound warrantId result db)
    (known : Known launcher incidentId warrantId result db)
    (completed : completions incidentId warrantId db = [])
    (commits : ((appendEvent launcher.services incidentId .bailiffCompleted "Bailiff"
      [("warrant_id", .str warrantId), ("status", .str (statusValue status))] true
      (input.eventUuids 0) input.now).commit db).1 = .ok ()) :
    Sound launcher incidentId warrantId result
      (proceed launcher incidentId warrantId input ⟨db, .completing status⟩) := by
  obtain ⟨evidence, broker, beside, event, listed⟩ := complete_aside.of_commit commits
  simp only [proceed]
  refine ⟨?_, Or.inr ⟨known.aside beside ?_, event, ?_⟩⟩
  · rw [Bound, broker]
    exact bound
  · rw [receiptEvidence, evidence]
    rfl
  · rw [listed, completed, List.nil_append]

theorem sound_refusing {input : Input} {errorCode : String} (bound : Bound warrantId result db)
    (clean : Clean launcher incidentId warrantId result db) :
    Sound launcher incidentId warrantId result
      (proceed launcher incidentId warrantId input ⟨db, .refusing errorCode⟩) := by
  simp only [proceed]
  cases outcome : ((recordExecutionFailure launcher.services incidentId warrantId errorCode
      (input.eventUuids 0) input.now).commit db).1 with
  | error raised =>
      have same : ((recordExecutionFailure launcher.services incidentId warrantId errorCode
          (input.eventUuids 0) input.now).commit db).2 = db := rolled_back (Prod.ext outcome rfl)
      rw [same]
      exact ⟨bound, Or.inl clean⟩
  | ok done =>
      obtain ⟨evidence, tests, broker, completed, events⟩ :=
        recordExecutionFailure_aside.of_commit outcome
      refine ⟨?_, Or.inl ⟨⟨fun type member => ?_, ?_⟩, ?_, completed.trans clean.completed⟩⟩
      · rw [Bound, broker]
        exact bound
      · exact (events type member).trans (clean.unprojected.events type member)
      · rw [Database.testsOf, tests]
        exact clean.unprojected.tests
      · rw [receiptEvidence, evidence]
        exact clean.evidence

theorem sound_step (distinct : DistinctPlans result) {world : World} {action : Action}
    (allowed : Uninterrupted launcher incidentId warrantId result world action)
    (sound : Sound launcher incidentId warrantId result world) :
    Sound launcher incidentId warrantId result
      ((machine launcher incidentId warrantId).next world action) := by
  obtain ⟨db, position⟩ := world
  obtain ⟨bound, stands⟩ := sound
  cases action with
  | start =>
      cases position with
      | idle => exact ⟨bound, stands⟩
      | _ => exact ⟨bound, stands⟩
  | others after => exact ⟨allowed.bound, stands.aside allowed⟩
  | crash =>
      refine ⟨bound, ?_⟩
      cases position with
      | idle | looking => exact stands
      | reading | asking | rereading | refusing => exact Or.inl stands
      | recording => exact Or.inl stands.1
      | projecting | completing => exact allowed.elim
  | proceed input =>
      change Sound launcher incidentId warrantId result
        (proceed launcher incidentId warrantId input ⟨db, position⟩)
      cases position with
      | idle => exact ⟨bound, stands⟩
      | looking =>
          refine ⟨bound, ?_⟩
          change Stands launcher incidentId warrantId result db
            (look launcher incidentId warrantId db)
          rcases stands with clean | ⟨known, completed⟩
          · rcases look_clean clean with ended | goesOn
            · rw [ended]
              exact Or.inl clean
            · rw [goesOn]
              exact clean
          · rw [look_known known]
            exact Or.inr ⟨known, completed⟩
      | reading =>
          simp only [proceed]
          split
          · rename_i found completed
            exact ⟨bound, stands, completedBrokerResult_bound bound completed⟩
          · refine ⟨bound, ?_⟩
            dsimp only
            split
            · exact stands
            · exact stands
      | asking => exact ⟨allowed.bound, Clean.aside stands allowed⟩
      | rereading bailiffFailure =>
          simp only [proceed]
          split
          · rename_i found completed
            exact ⟨bound, stands, completedBrokerResult_bound bound completed⟩
          · exact ⟨bound, stands⟩
      | recording bailiffFailure found =>
          obtain ⟨clean, rfl⟩ := stands
          exact sound_recording bound clean
      | projecting bailiffFailure evidenceId =>
          obtain ⟨answer, commits⟩ := allowed
          exact sound_projecting bound distinct stands commits
      | completing status => exact sound_completing bound stands.1 stands.2 allowed
      | refusing errorCode => exact sound_refusing bound stands

/-! ## Runs -/

/-- One evidence record, named by the test rows and by the outcome, and one completion. -/
def ExactlyOnce (launcher : BundledIncidentLauncher) (incidentId warrantId : String)
    (result : BrokerResult) (db : Database) : Prop :=
  ∃ row event outcome,
    receiptEvidence launcher.services.tables incidentId result db = [row] ∧
    completions incidentId warrantId db = [event] ∧
    NamesEvidence incidentId warrantId row.id db ∧
    outcomeEvents db incidentId warrantId (outcomeType result) = [outcome] ∧
    textOf (outcome.payload.lookup "evidence_id") = some row.id

theorem Known.outcome (known : Known launcher incidentId warrantId result db) {row : EvidenceRecord}
    (names : NamesEvidence incidentId warrantId row.id db) :
    ∃ outcome, outcomeEvents db incidentId warrantId (outcomeType result) = [outcome] ∧
      textOf (outcome.payload.lookup "evidence_id") = some row.id := by
  obtain ⟨outcome, evidenceId, listed, concludes, records⟩ := known.settled.once.concluded
  obtain ⟨test, member, _⟩ := concludes.test
  refine ⟨outcome, listed, ?_⟩
  rw [concludes.evidence, ← evidence_of_records records test member, names test member]

theorem run_sound {actions : List Action} (clean : Clean launcher incidentId warrantId result db)
    (bound : Bound warrantId result db) (distinct : DistinctPlans result)
    (uninterrupted : (machine launcher incidentId warrantId).Follows
      (Uninterrupted launcher incidentId warrantId result) ⟨db, .idle⟩ actions) :
    Sound launcher incidentId warrantId result
      ((machine launcher incidentId warrantId).run ⟨db, .idle⟩ actions) := by
  have initial : Sound launcher incidentId warrantId result ⟨db, .idle⟩ := ⟨bound, Or.inl clean⟩
  exact (machine launcher incidentId warrantId).run_invariant_of_follows
    (Sound launcher incidentId warrantId result)
    (fun _ _ allowed sound => sound_step distinct allowed sound) initial uninterrupted

/-- As long as no attempt stops between its evidence and its completion, an idle launcher
leaves a projected result with its two records exactly once. -/
theorem side_records_exactly_once (launcher : BundledIncidentLauncher)
    (incidentId warrantId : String) (result : BrokerResult) (db : Database)
    (actions : List Action) (clean : Clean launcher incidentId warrantId result db)
    (bound : Bound warrantId result db) (distinct : DistinctPlans result)
    (uninterrupted : (machine launcher incidentId warrantId).Follows
      (Uninterrupted launcher incidentId warrantId result) ⟨db, .idle⟩ actions)
    (drained : ((machine launcher incidentId warrantId).run ⟨db, .idle⟩ actions).position = .idle)
    (projected : ((machine launcher incidentId warrantId).run ⟨db, .idle⟩ actions).db.testsOf
      incidentId warrantId ≠ []) :
    ExactlyOnce launcher incidentId warrantId result
      ((machine launcher incidentId warrantId).run ⟨db, .idle⟩ actions).db := by
  have stands := (run_sound clean bound distinct uninterrupted).stands
  rw [drained] at stands
  rcases stands with clean | ⟨known, event, completed⟩
  · exact absurd clean.unprojected.tests projected
  · obtain ⟨row, listed, names⟩ := known.evidence
    obtain ⟨outcome, concluded, named⟩ := known.outcome names
    exact ⟨row, event, outcome, listed, completed, names, concluded, named⟩

/-! ## Crashes in between -/

/-- An attempt up to its projection. -/
def upToProjection (input : Input) : List Action :=
  [.start, .proceed input, .proceed input, .proceed input, .proceed input]

section Crashes

variable {incident : IncidentRecord} {record : WarrantRecord} {input : Input}

/-- On a durable result with a failed test, an attempt reaches the gap after its
projection. -/
theorem attempt_projects (ready : Ready incident record result db)
    (renders : Renders launcher.services) (hashes : Hashes launcher.sanitizer)
    (stored : input.stored = .ok ()) (failed : result.status ≠ .executed)
    (tested : isIdentifier ("test_" ++ input.testUuids (result.receipts.length - 1)) = true) :
    (machine launcher incident.id record.id).Follows
        (Uninterrupted launcher incident.id record.id result) ⟨db, .idle⟩
        (upToProjection input) ∧
      ∃ next, (machine launcher incident.id record.id).run ⟨db, .idle⟩ (upToProjection input) =
          ⟨next, .completing result.status⟩ ∧ AwaitsRepair incident record next := by
  obtain ⟨noted, recorded, still⟩ := recordReceipt_ready ready renders hashes stored
  obtain ⟨answer, answered, rfl, awaits⟩ := (@Ready.project_reaches launcher.services
    launcher.stopwatch noted incident record result still renders
    (fun executed => absurd executed failed) ("ev_" ++ input.evidenceUuid) input.testUuids
    input.eventUuids input.now tested).commit
  have looked : (machine launcher incident.id record.id).next ⟨db, .looking⟩ (.proceed input) =
      ⟨db, .reading⟩ := by
    change World.mk db (look launcher incident.id record.id db) = _
    rw [look_ready ready]
  have found : (machine launcher incident.id record.id).next ⟨db, .reading⟩ (.proceed input) =
      ⟨db, .recording none answer⟩ := by
    change proceed launcher incident.id record.id input ⟨db, .reading⟩ = _
    simp only [proceed, completed_ready ready]
  have noting : (machine launcher incident.id record.id).next ⟨db, .recording none answer⟩
      (.proceed input) = ⟨noted, .projecting none ("ev_" ++ input.evidenceUuid)⟩ := by
    change proceed launcher incident.id record.id input ⟨db, .recording none answer⟩ = _
    simp only [proceed, recorded]
  have projects : (machine launcher incident.id record.id).next
      ⟨noted, .projecting none ("ev_" ++ input.evidenceUuid)⟩ (.proceed input) =
        ⟨((projectBrokerResult launcher.services launcher.stopwatch incident.id record.id
          ("ev_" ++ input.evidenceUuid) input.testUuids input.eventUuids input.now).commit
            noted).2, .completing answer.status⟩ := by
    change proceed launcher incident.id record.id input
      ⟨noted, .projecting none ("ev_" ++ input.evidenceUuid)⟩ = _
    simp only [proceed]
    split
    · rename_i projected next committed
      rw [committed] at answered ⊢
      cases answered
      rfl
    · rename_i raised next error
      rw [error] at answered
      cases answered
  have started : (machine launcher incident.id record.id).next ⟨db, .idle⟩ .start =
      ⟨db, .looking⟩ := rfl
  refine ⟨?_, _, ?_, (awaits failed).1⟩
  · refine ⟨trivial, ?_⟩
    rw [started]
    refine ⟨trivial, ?_⟩
    rw [looked]
    refine ⟨trivial, ?_⟩
    rw [found]
    refine ⟨trivial, ?_⟩
    rw [noting]
    exact ⟨⟨answer, answered⟩, trivial⟩
  · rw [upToProjection, Machine.run_cons, started, Machine.run_cons, looked, Machine.run_cons,
      found, Machine.run_cons, noting, Machine.run_cons, projects, Machine.run_nil]

/-- The attempt goes on to its completion. -/
theorem attempt_completes (renders : Renders launcher.services)
    (awaits : AwaitsRepair incident record db) (status : BrokerStatus) :
    ((appendEvent launcher.services incident.id .bailiffCompleted "Bailiff"
      [("warrant_id", .str record.id), ("status", .str (statusValue status))] true
      (input.eventUuids 0) input.now).commit db).1 = .ok () := by
  obtain ⟨⟨moved, stage, identified, state⟩, _⟩ := awaits
  have encodes : Encodes launcher.services.tables
      (.obj [("warrant_id", .str record.id), ("status", .str (statusValue status))]) :=
    normalize_obj_ok ["warrant_id", "status"] rfl (by decide) (by decide) (by simp)
  have reaches := @Stage.appendEvent launcher.services db moved stage renders .bailiffCompleted
    "Bailiff" [("warrant_id", .str record.id), ("status", .str (statusValue status))]
    (input.eventUuids 0) input.now moved.state (fun _ _ => True) rfl encodes
    (by rw [state]; decide) (fun _ _ _ _ _ => trivial)
  rw [identified] at reaches
  obtain ⟨_, answered, _⟩ := reaches.commit
  exact answered

/-- A crash between the projection and the completion loses the completion. -/
theorem crash_loses_completion (ready : Ready incident record result db)
    (renders : Renders launcher.services) (hashes : Hashes launcher.sanitizer)
    (stored : input.stored = .ok ()) (failed : result.status ≠ .executed)
    (tested : isIdentifier ("test_" ++ input.testUuids (result.receipts.length - 1)) = true)
    (clean : Clean launcher incident.id record.id result db) (bound : Bound record.id result db)
    (distinct : DistinctPlans result) :
    ((machine launcher incident.id record.id).run ⟨db, .idle⟩
      (upToProjection input ++ [.crash])).position = .idle ∧
    ((machine launcher incident.id record.id).run ⟨db, .idle⟩
      (upToProjection input ++ [.crash])).db.testsOf incident.id record.id ≠ [] ∧
    ¬ ExactlyOnce launcher incident.id record.id result
      ((machine launcher incident.id record.id).run ⟨db, .idle⟩
        (upToProjection input ++ [.crash])).db := by
  obtain ⟨follows, next, reached, _⟩ :=
    attempt_projects ready renders hashes stored failed tested
  have sound := run_sound clean bound distinct follows
  rw [reached] at sound
  obtain ⟨known, completed⟩ := sound.stands
  rw [Machine.run_append, reached]
  refine ⟨rfl, known.settled.once.tested, ?_⟩
  rintro ⟨_, event, _, _, listed, _⟩
  have none : completions incident.id record.id next = [] := completed
  change completions incident.id record.id next = [event] at listed
  rw [none] at listed
  cases listed

end Crashes

theorem executionFinished_clean :
    Clean sampleLauncher approvedIncident.id sampleConsumed.id sampleFailedResult
      executionFinished where
  unprojected := ⟨fun _ _ => rfl, rfl⟩
  evidence := rfl
  completed := rfl

theorem executionFinished_bound :
    Bound sampleConsumed.id sampleFailedResult executionFinished := by
  intro record present written stored
  have row : executionFinished.broker.warrants sampleConsumed.id = some sampleConsumed := rfl
  rw [row, Option.some.injEq] at present
  subst present
  exact (Option.some.inj stored).symm

theorem sampleFailedResult_distinct : DistinctPlans sampleFailedResult :=
  List.nodup_singleton _

/-- A failed test that is projected and completed by one attempt. -/
theorem sample_side_records :
    ExactlyOnce sampleLauncher approvedIncident.id sampleConsumed.id sampleFailedResult
      ((machine sampleLauncher approvedIncident.id sampleConsumed.id).run ⟨executionFinished, .idle⟩
        (upToProjection sampleAnswers ++ [.proceed sampleAnswers])).db := by
  obtain ⟨follows, next, reached, awaits⟩ := @attempt_projects sampleLauncher sampleFailedResult
    executionFinished approvedIncident sampleConsumed sampleAnswers executionFinished_ready
    (sample_renders sampleIdle) sampleSanitizer_hashes rfl (by decide) (by decide)
  have commits := @attempt_completes sampleLauncher next approvedIncident sampleConsumed
    sampleAnswers (sample_renders sampleIdle) awaits sampleFailedResult.status
  have whole : (machine sampleLauncher approvedIncident.id sampleConsumed.id).Follows
      (Uninterrupted sampleLauncher approvedIncident.id sampleConsumed.id sampleFailedResult)
      ⟨executionFinished, .idle⟩ (upToProjection sampleAnswers ++ [.proceed sampleAnswers]) := by
    rw [Machine.follows_append, reached]
    exact ⟨follows, commits, trivial⟩
  have sound := run_sound executionFinished_clean executionFinished_bound
    sampleFailedResult_distinct follows
  have beside := (complete_aside.of_commit commits).2.2.1
  rw [reached] at sound
  refine side_records_exactly_once sampleLauncher approvedIncident.id sampleConsumed.id
    sampleFailedResult executionFinished _ executionFinished_clean executionFinished_bound
    sampleFailedResult_distinct whole ?_ ?_
  · rw [Machine.run_append, reached]
    rfl
  · rw [Machine.run_append, reached]
    exact beside.tests ▸ sound.stands.1.settled.once.tested

/-- A failed test that is projected by an attempt that crashes right after it. -/
theorem sample_completion_lost :
    ((machine sampleLauncher approvedIncident.id sampleConsumed.id).run ⟨executionFinished, .idle⟩
      (upToProjection sampleAnswers ++ [.crash])).position = .idle ∧
    ((machine sampleLauncher approvedIncident.id sampleConsumed.id).run ⟨executionFinished, .idle⟩
      (upToProjection sampleAnswers ++ [.crash])).db.testsOf approvedIncident.id
        sampleConsumed.id ≠ [] ∧
    ¬ ExactlyOnce sampleLauncher approvedIncident.id sampleConsumed.id sampleFailedResult
      ((machine sampleLauncher approvedIncident.id sampleConsumed.id).run ⟨executionFinished, .idle⟩
        (upToProjection sampleAnswers ++ [.crash])).db :=
  crash_loses_completion executionFinished_ready (sample_renders sampleIdle)
    sampleSanitizer_hashes (rfl : sampleAnswers.stored = .ok ()) (by decide) (by decide)
    executionFinished_clean executionFinished_bound sampleFailedResult_distinct

end CrossPatch.Runtime.SideRecords
