import CrossPatch.Runtime.Refinement

/-!
# The work queue and the broker refine the protocol

The transactions on work rows, the projection of broker results with its failure
path, the recovery of interrupted work, and the broker's own transactions.
-/

namespace CrossPatch.Runtime.QueueRefinement

open CrossPatch.Broker.Store
open CrossPatch.Domain.Failure CrossPatch.Domain.StateMachine
open CrossPatch.Library CrossPatch.Library.Attempt CrossPatch.Library.Calendar
open CrossPatch.Library.JsonText CrossPatch.Library.Octets CrossPatch.Library.Transaction
open CrossPatch.Runner.Results
open CrossPatch.Runtime.BrokerResults CrossPatch.Runtime.Protocol CrossPatch.Runtime.Records
open CrossPatch.Runtime.Refinement CrossPatch.Runtime.Store CrossPatch.Runtime.Timeline

variable {regime : Regime} {services : Services} {db : Database}

theorem view_work {id : String} {work : RuntimeWorkRecord}
    (found : db.works.find id = some work) : (view db).works id = some (workView work) := by
  simp [view, viewOf, found]

/-- A work row is rewritten with another status. -/
theorem view_setStatus {work row : RuntimeWorkRecord} {status : WorkStatus}
    {incidents : Table IncidentRecord.id} {controls : Table ControlWarrantRecord.id}
    {warrants : String → Option WarrantRecord} {works : Table RuntimeWorkRecord.id}
    {tests : List TestRunRecord} (found : works.find work.id = some work)
    (rewritten : row.id = work.id ∧ workView row = { workView work with status := status }) :
    viewOf incidents controls warrants (works.write row) tests =
      (viewOf incidents controls warrants works tests).setWork work.id
        { workView work with status := status } := by
  have current : works.find row.id = some work := by rw [rewritten.1, found]
  rw [viewOf_writeWork current, rewritten.1, rewritten.2]

theorem step_of {next : Database} {after : View} (viewed : view next = after)
    (step : Step regime (view db) after) : Step regime (view db) (view next) := by
  rw [viewed]
  exact step

theorem terminal_idle {state : IncidentState} (terminal : state ∈ terminalStates) :
    state ∉ activeStates := by
  cases state <;> first | exact absurd terminal (by decide) | decide

/-! ## Claiming and requeueing -/

theorem claimRuntimeWork_refines {id ownerId : String} {now : Instant} :
    (claimRuntimeWork id ownerId now).Ensures db
      fun _ next => Refines regime (view db) (view next) := by
  simp only [claimRuntimeWork, ensures_bind, ensures_read]
  split
  · exact ensures_pure.mpr (Refines.refl _)
  · rename_i work found
    obtain rfl := Table.key_of_find found
    refine ensures_ite (fun _ => ensures_pure.mpr (Refines.refl _)) (fun waiting => ?_)
    simp only [ensures_bind, ensures_getIncident]
    intro incident owned
    refine ensures_ite (fun _ => ?_) (fun agrees => ?_)
    · refine ensures_ite (fun terminal => ?_) (fun _ => ?_)
      · simp only [writeWork, ensures_bind, ensures_change, ensures_pure]
        refine refines_of (view_setStatus found (by exact ⟨rfl, rfl⟩)) (.inl ?_)
        exact .released (view_work found) (view_incident owned) (terminal_idle terminal)
      · rw [ensures_lift]
        intro _ impossible
        cases impossible
    · simp only [writeWork, ensures_bind, ensures_change, ensures_pure]
      refine refines_of (view_setStatus found (by exact ⟨rfl, rfl⟩)) (.inl ?_)
      refine .claimed (view_work found) (not_not.mp waiting) (view_incident owned) ?_
      intro execution
      by_contra other
      exact agrees ⟨execution, other⟩

theorem requeueRow_refines {row : RuntimeWorkRecord} {now : Instant}
    (recovers : regime.requeues) (found : db.works.find row.id = some row)
    (running : row.status = .running) :
    (requeueRow now row).Ensures db fun _ next => Step regime (view db) (view next) ∧
      ∃ changed, changed.id = row.id ∧ next = { db with works := db.works.write changed } := by
  simp only [requeueRow, writeWork, ensures_bind, ensures_getIncident, ensures_change]
  intro incident owned
  by_cases terminal : incident.state ∈ terminalStates
  · simp only [if_pos terminal]
    refine ⟨step_of (view_setStatus found (by exact ⟨rfl, rfl⟩)) ?_, completedWork row now, rfl,
      rfl⟩
    exact .released (view_work found) (view_incident owned) (terminal_idle terminal)
  · simp only [if_neg terminal]
    refine ⟨step_of (view_setStatus found (by exact ⟨rfl, rfl⟩)) ?_, _, by rfl, rfl⟩
    exact .requeued (view_work found) running recovers

/-- The rows are those read at the start, so each is still current when its turn comes. -/
theorem requeueRows_refines {rows : List RuntimeWorkRecord} {now : Instant}
    (recovers : regime.requeues) (distinct : (rows.map RuntimeWorkRecord.id).Nodup)
    (current : ∀ row ∈ rows, db.works.find row.id = some row ∧ row.status = .running) :
    (requeueRows now rows).Ensures db fun _ next => Steps regime (view db) (view next) ∧
      next.incidents = db.incidents := by
  induction rows generalizing db with
  | nil => exact ensures_pure.mpr ⟨.refl, rfl⟩
  | cons row rest ih =>
      obtain ⟨found, running⟩ := current row List.mem_cons_self
      rw [List.map_cons, List.nodup_cons] at distinct
      simp only [requeueRows, ensures_bind]
      refine (requeueRow_refines recovers found running).mono ?_
      rintro _ _ ⟨step, changed, named, rfl⟩
      refine (ih distinct.2 ?_).mono ?_
      · intro later member
        obtain ⟨laterFound, laterRunning⟩ := current later (List.mem_cons_of_mem _ member)
        have differs : later.id ≠ changed.id := by
          intro same
          exact distinct.1 (named ▸ same ▸ List.mem_map_of_mem member)
        refine ⟨?_, laterRunning⟩
        rw [Table.find_write (named ▸ found), if_neg differs, laterFound]
      · rintro _ next ⟨steps, incidents⟩
        exact ⟨.head step steps, incidents⟩

theorem requeueInterruptedRuntimeWork_refines {now : Instant} (recovers : regime.requeues) :
    (requeueInterruptedRuntimeWork now).Ensures db
      fun _ next => Refines regime (view db) (view next) := by
  simp only [requeueInterruptedRuntimeWork, ensures_bind, ensures_read]
  refine (requeueRows_refines recovers ?_ ?_).mono ?_
  · exact db.works.unique.sublist (List.filter_sublist.map _)
  · intro row member
    obtain ⟨listed, running⟩ := List.mem_filter.mp member
    exact ⟨Table.find_of_mem listed, of_decide_eq_true running⟩
  · rintro _ next ⟨steps, incidents⟩
    refine .inr ⟨steps, ?_⟩
    intro incident current found _
    simpa [view, viewOf, incidents] using found

/-! ## Failed work -/

theorem reduce_backgroundFailed {state next : IncidentState} {payload : Payload}
    (reduced : reduce state (.state .backgroundTaskFailed) payload = .ok next) :
    next = .humanEscalation ∧ state ∈ activeStates := by
  have moved := reduce_table reduced (by decide)
  cases state <;> simp [transitionTable, activeStates] at moved <;>
    exact ⟨moved.symm, by decide⟩

/-- Work that ends with the escalation of an incident. -/
theorem failed_refines {incident : IncidentRecord} {work row : RuntimeWorkRecord}
    (named : db.incidents.find incident.id = some incident)
    (found : db.works.find work.id = some work) (active : incident.state ∈ activeStates)
    (owner : work.incidentId = incident.id ∨ regime.strays (view db) work.id)
    (rewritten : row.id = work.id ∧ workView row = { workView work with status := .completed })
    (event : TimelineEventRecord) (now : Instant) :
    Refines regime (view db)
      (viewOf (db.incidents.write (advanced incident event .humanEscalation now))
        db.controlWarrants db.broker.warrants (db.works.write row) db.testRuns) := by
  rw [view_setStatus found rewritten, view_append named]
  exact .inl (.failed (view_work found) (view_incident named) active owner)

/-- Work that ends after its incident went idle. -/
theorem released_refines {incident : IncidentRecord} {work row : RuntimeWorkRecord}
    (owned : db.incidents.find work.incidentId = some incident)
    (found : db.works.find work.id = some work) (idle : incident.state ∉ activeStates)
    (rewritten : row.id = work.id ∧ workView row = { workView work with status := .completed })
    (event : TimelineEventRecord) (now : Instant) :
    Refines regime (view db)
      (viewOf (db.incidents.write (advanced incident event incident.state now))
        db.controlWarrants db.broker.warrants (db.works.write row) db.testRuns) := by
  have owner := Table.key_of_find owned
  have present : db.incidents.find incident.id = some incident := by rw [owner, owned]
  have same := setIncident_self (view_incident present)
  rw [view_setStatus found rewritten, view_append present]
  refine .inl ?_
  change Step regime (view db) (((view db).setIncident incident.id (standing incident)).setWork
    work.id { workView work with status := .completed })
  rw [same]
  exact .released (view_work found) (view_incident owned) idle

theorem failRuntimeWork_refines {id operation failureOutcome uuid : String} {now : Instant} :
    (failRuntimeWork services id operation failureOutcome uuid now).Ensures db
      fun _ next => Refines regime (view db) (view next) := by
  simp only [failRuntimeWork, ensures_bind, ensures_getWork, ensures_getIncident]
  intro work found incident owned
  obtain rfl := Table.key_of_find found
  refine ensures_ite (fun _ => ensures_check.mpr fun _ => Refines.refl _) (fun _ => ?_)
  simp only [writeWork, ensures_bind, ensures_change]
  refine ensures_append fun event state reduced => ?_
  refine ensures_publish fun _ => ?_
  by_cases active : incident.state ∈ activeStates
  · rw [if_pos active] at reduced
    obtain ⟨rfl, _⟩ := reduce_backgroundFailed reduced
    have owner := Table.key_of_find owned
    exact failed_refines (owner ▸ owned) found active (.inl owner.symm) (by exact ⟨rfl, rfl⟩) event
      now
  · rw [if_neg active] at reduced
    cases reduced
    exact released_refines owned found active (by exact ⟨rfl, rfl⟩) event now

theorem reduce_executionFailed {state next : IncidentState} {payload : Payload}
    (reduced : reduce state (.state .executionFailed) payload = .ok next) :
    next = .humanEscalation ∧ state ∈ [.approved, .executing] := by
  have moved := reduce_table reduced (by decide)
  cases state <;> simp [transitionTable] at moved <;> exact ⟨moved.symm, by decide⟩

theorem recordExecutionFailure_refines {incidentId warrantId errorCode uuid : String}
    {now : Instant}
    (owner : ∀ incident work, db.incidents.find incidentId = some incident →
      incident.state ∈ [.approved, .executing] →
      db.works.find (executionWorkId warrantId) = some work →
        work.incidentId = incidentId ∨ regime.strays (view db) (executionWorkId warrantId)) :
    (recordExecutionFailure services incidentId warrantId errorCode uuid now).Ensures db
      fun _ next => Refines regime (view db) (view next) := by
  simp only [recordExecutionFailure, writeWork, ensures_bind, ensures_read, ensures_lift,
    needed_eq_ok, ensures_change]
  intro incident present work found
  obtain rfl := Table.key_of_find present
  have named := Table.key_of_find found
  refine ensures_append fun event state reduced => ?_
  refine ensures_publish fun _ => ?_
  obtain ⟨rfl, executing⟩ := reduce_executionFailed reduced
  have active : incident.state ∈ activeStates := by
    simp only [List.mem_cons, List.not_mem_nil, or_false] at executing
    rcases executing with approved | executing
    · exact approved ▸ by decide
    · exact executing ▸ by decide
  have owned := owner incident work present executing found
  rw [← named] at found owned
  exact failed_refines present found active owned (by exact ⟨rfl, rfl⟩) event now

/-! ## Completed repairs -/

/-- The latest control row is as recent as any of its incident. -/
theorem latestControl_superseded {incidentId warrantId : String} {control : ControlWarrantRecord}
    (latest : db.latestControl incidentId = some control) (differs : control.id ≠ warrantId) :
    Superseded (view db) incidentId warrantId := by
  have member := List.argmax_mem latest
  obtain ⟨listed, owned⟩ := List.mem_filter.mp member
  refine ⟨control.id, controlView control, differs, view_control (Table.find_of_mem listed),
    by simpa [controlView] using owned, ?_⟩
  intro other row present owner
  obtain ⟨current, found, rfl⟩ := Option.map_eq_some_iff.mp present
  have inIncident : current ∈ db.controlsOf incidentId :=
    List.mem_filter.mpr ⟨Table.mem_of_find found, by simpa [controlView] using owner⟩
  have ordered := List.le_of_mem_argmax inIncident latest
  rcases Prod.Lex.le_iff.mp ordered with earlier | ⟨same, _⟩
  · exact le_of_lt earlier
  · exact le_of_eq same

theorem superseded_of_outcome {incident : IncidentRecord} {warrantId : String}
    (outcome : repairHasDurableOutcome db incident warrantId = true) :
    incident.state = .humanEscalation ∨ incident.state = .blocked ∨
      Superseded (view db) incident.id warrantId := by
  rw [repairHasDurableOutcome, Bool.or_eq_true, decide_eq_true_eq] at outcome
  rcases outcome with (escalated | blocked) | later
  · exact .inl escalated
  · exact .inr (.inl blocked)
  · refine .inr (.inr ?_)
    cases latest : db.latestControl incident.id with
    | none => simp [latest] at later
    | some control =>
        simp only [latest, bne_iff_ne, ne_eq] at later
        exact latestControl_superseded latest later

theorem completeRepairWork_refines {incidentId warrantId : String} {now : Instant}
    (owner : ∀ incident work, db.incidents.find incidentId = some incident →
      repairHasDurableOutcome db incident warrantId = true →
      db.works.find (repairWorkId warrantId) = some work →
        work.incidentId = incidentId ∨ regime.strays (view db) (repairWorkId warrantId)) :
    (completeRepairWork incidentId warrantId now).Ensures db
      fun _ next => Refines regime (view db) (view next) := by
  simp only [completeRepairWork, writeWork, ensures_bind, ensures_getIncident, ensures_getWork,
    ensures_read, ensures_check, ensures_change]
  intro incident present work found outcome
  have owned := owner incident work present outcome found
  have named := Table.key_of_find found
  obtain rfl := Table.key_of_find present
  refine refines_of (view_setStatus (named ▸ found) (by exact ⟨rfl, rfl⟩)) ?_
  rw [named]
  exact .inl (.repairCompleted (view_work found) (view_incident present)
    (superseded_of_outcome outcome) owned)

/-! ## Interrupted incidents -/

theorem noEntry_move {before : View} {incident : String} {next : Standing}
    (enters : next.state ≠ .testFailed) : NoEntry before (before.setIncident incident next) := by
  intro other current found failed
  grind

/-- One step in front of others, none of which enters `TEST_FAILED`. -/
theorem quietly {middle next : Database} {after : View}
    (rest : Steps regime (view middle) (view next) ∧ NoEntry (view middle) (view next))
    (viewed : view middle = after) (step : Step regime (view db) after)
    (quiet : NoEntry (view db) after) :
    Steps regime (view db) (view next) ∧ NoEntry (view db) (view next) := by
  subst viewed
  exact ⟨.head step rest.1, rest.2.since quiet⟩

theorem failClosedRows_refines {uuids : Nat → String} {now : Instant} {position : Nat}
    {rows : List IncidentRecord} (distinct : (rows.map IncidentRecord.id).Nodup)
    (current : ∀ row ∈ rows, db.incidents.find row.id = some row) :
    (failClosedRows services uuids now position rows).Ensures db
      fun _ next => Steps regime (view db) (view next) ∧ NoEntry (view db) (view next) := by
  induction rows generalizing db position with
  | nil => exact ensures_pure.mpr ⟨.refl, fun _ _ found _ => found⟩
  | cons row rest ih =>
      have found := current row List.mem_cons_self
      rw [List.map_cons, List.nodup_cons] at distinct
      simp only [failClosedRows, ensures_bind]
      refine ensures_append fun event state reduced => ?_
      obtain ⟨rfl, active⟩ := reduce_backgroundFailed reduced
      refine ensures_publish fun _ => ?_
      refine (ih distinct.2 ?_).mono ?_
      · intro later member
        have differs : later.id ≠ row.id := by
          intro same
          exact distinct.1 (same ▸ List.mem_map_of_mem member)
        have written := @Table.find_write _ _ _ _ db.incidents
          (advanced row event .humanEscalation now) row found later.id
        exact written.trans ((if_neg differs).trans (current later (List.mem_cons_of_mem _ member)))
      · intro _ next rest
        have moves : Moves row.state .humanEscalation := table_moves (by decide)
          (reduce_table reduced (by decide))
        have viewed := @view_append db.incidents db.controlWarrants db.broker.warrants db.works
          db.testRuns row row found event .humanEscalation now
        exact quietly rest viewed (.moved (view_incident found) moves) (noEntry_move (by simp))

theorem failClosedInterruptedIncidents_refines {uuids : Nat → String} {now : Instant} :
    (failClosedInterruptedIncidents services uuids now).Ensures db
      fun _ next => Refines regime (view db) (view next) := by
  simp only [failClosedInterruptedIncidents, ensures_bind, ensures_read]
  refine (@failClosedRows_refines regime services _ _ _ _ _ ?_ ?_).mono
    fun _ next quiet => .inr quiet
  · have permuted := List.perm_insertionSort (fun left right : IncidentRecord =>
      toLex (left.createdAt.micros, left.id) ≤ toLex (right.createdAt.micros, right.id))
        (db.incidents.rows.filter fun incident =>
          decide (incident.state ∈ interruptedStates) && !hasActiveWork db incident.id)
    refine ((permuted.map IncidentRecord.id).nodup_iff).mpr ?_
    exact db.incidents.unique.sublist (List.filter_sublist.map _)
  · intro row member
    rw [List.mem_insertionSort] at member
    exact Table.find_of_mem (List.mem_of_mem_filter member)

/-! ## Projection -/

/-- The test rows of one projection. -/
def TestRows (incidentId warrantId : String) (rows : List TestRunRecord) : Prop :=
  ∀ row ∈ rows, row.incidentId = incidentId ∧
    row.result.lookup "warrant_id" = some (.str warrantId)

variable {stopwatch : Stopwatch}

theorem recordTests_ensures {incidentId warrantId evidenceId : String} {uuids : Nat → String}
    {now : Instant} {position : Nat} {receipts : List ProcessReceipt} :
    (recordTests services stopwatch incidentId warrantId evidenceId uuids now position
      receipts).Ensures db fun _ next => ∃ rows, rows.length = receipts.length ∧
        TestRows incidentId warrantId rows ∧
        next = { db with testRuns := db.testRuns ++ rows } := by
  induction receipts generalizing db position with
  | nil => exact ensures_pure.mpr ⟨[], rfl, by simp [TestRows], by simp⟩
  | cons receipt rest ih =>
      simp only [recordTests, addTestRun, brokerReceiptResult, ensures_bind, ensures_lift,
        Attempt.bind_eq_ok, Except.ok.injEq, ensures_change]
      rintro result ⟨digest, _, rfl⟩
      refine ih.mono ?_
      rintro _ _ ⟨rows, length, named, rfl⟩
      refine ⟨_, ?_, ?_, congrArg (fun tests => { db with testRuns := tests })
        (List.append_assoc _ _ _)⟩
      · rw [List.length_append, length, List.length_singleton, List.length_cons, Nat.add_comm]
      · intro row member
        rcases List.mem_append.mp member with first | later
        · rw [List.mem_singleton.mp first]
          exact ⟨rfl, rfl⟩
        · exact named row later

theorem viewOf_tests {incidents : Table IncidentRecord.id}
    {controls : Table ControlWarrantRecord.id} {warrants : String → Option WarrantRecord}
    {works : Table RuntimeWorkRecord.id} {tests rows : List TestRunRecord}
    {incidentId warrantId : String} (named : TestRows incidentId warrantId rows)
    (nonempty : rows ≠ []) :
    viewOf incidents controls warrants works (tests ++ rows) =
      (viewOf incidents controls warrants works tests).markTested incidentId warrantId := by
  refine View.ext rfl rfl rfl rfl ?_
  funext other third
  have added : testsIn rows other third ≠ [] ↔ other = incidentId ∧ third = warrantId := by
    constructor
    · intro present
      obtain ⟨row, member⟩ := List.exists_mem_of_ne_nil _ present
      obtain ⟨listed, matching⟩ := List.mem_filter.mp member
      obtain ⟨owner, warrant⟩ := named row listed
      simp only [warrant, Bool.and_eq_true, beq_iff_eq] at matching
      exact ⟨matching.1 ▸ owner, matching.2.symm⟩
    · rintro ⟨rfl, rfl⟩ empty
      obtain ⟨row, listed⟩ := List.exists_mem_of_ne_nil _ nonempty
      obtain ⟨owner, warrant⟩ := named row listed
      have matching : row ∈ testsIn rows other third :=
        List.mem_filter.mpr ⟨listed, by simp [owner, warrant]⟩
      rw [empty] at matching
      cases matching
  simp only [viewOf, View.markTested_tested, ← added, testsIn, List.filter_append, ne_eq,
    List.append_eq_nil_iff, not_and_or]

theorem checkBrokerResult_eq_ok {record : WarrantRecord} {warrantId : String}
    {result : BrokerResult} (checked : checkBrokerResult record warrantId = .ok result) :
    record.state = .consumed ∧ result.receipts ≠ [] := by
  simp only [checkBrokerResult, Attempt.bind_eq_ok, require_eq_ok, needed_eq_ok, Except.ok.injEq]
    at checked
  obtain ⟨current, complete, _, _, nonce, _, _, _, _, _, _, receipts, _, _, _, _, rfl⟩ := checked
  split at complete
  · rename_i durable
    exact ⟨durable.1, receipts⟩
  · cases complete

theorem reduce_started {state next : IncidentState} {payload : Payload}
    (reduced : reduce state (.state .executionStarted) payload = .ok next) :
    state = .approved ∧ next = .executing := by
  have moved := reduce_table reduced (by decide)
  cases state <;> simp [transitionTable] at moved
  exact ⟨rfl, moved.symm⟩

theorem reduce_concluded {state next : IncidentState} {payload : Payload} {passed : Bool}
    (reduced : reduce state (if passed then .state .verified else .state .testFailed) payload =
      .ok next) : next = if passed then .verified else .testFailed := by
  cases passed
  · have moved := reduce_table reduced (by decide)
    cases state <;> simp [transitionTable] at moved
    exact moved.symm
  · have moved := reduce_table reduced (by decide)
    cases state <;> simp [transitionTable] at moved
    exact moved.symm

/-- The rows that a projection leaves behind, before a repair is queued. -/
theorem projected_view {incident : IncidentRecord} {work row : RuntimeWorkRecord}
    {rows : List TestRunRecord} {warrantId : String} {middle next : IncidentState}
    (found : db.incidents.find incident.id = some incident)
    (queued : db.works.find work.id = some work) (named : TestRows incident.id warrantId rows)
    (nonempty : rows ≠ [])
    (rewritten : row.id = work.id ∧ workView row = { workView work with status := .completed })
    (first second : TimelineEventRecord) (now : Instant) :
    viewOf
        ((db.incidents.write (advanced incident first middle now)).write
          (advanced (advanced incident first middle now) second next now))
        db.controlWarrants db.broker.warrants (db.works.write row) (db.testRuns ++ rows) =
      (((view db).markTested incident.id warrantId).setIncident incident.id
        ⟨next, incident.pendingWarrantId⟩).setWork work.id
          { workView work with status := .completed } := by
  have written : (db.incidents.write (advanced incident first middle now)).find
      (advanced incident first middle now).id = _ := Table.find_write_self found
  rw [view_setStatus queued rewritten, view_append written, view_append found,
    viewOf_tests named nonempty, show (advanced incident first middle now).id = incident.id from rfl,
    setIncident_twice]
  rfl

theorem testFailed_refines {incident : IncidentRecord} {work row : RuntimeWorkRecord}
    {rows : List TestRunRecord} {warrantId : String} {works : Table RuntimeWorkRecord.id}
    (found : db.incidents.find incident.id = some incident) (approved : incident.state = .approved)
    (finished : (view db).warrants warrantId = some ⟨incident.id, .consumed⟩)
    (untested : ¬ (view db).tested incident.id warrantId)
    (queued : db.works.find (executionWorkId warrantId) = some work)
    (named : TestRows incident.id warrantId rows) (nonempty : rows ≠ [])
    (rewritten : row.id = work.id ∧ workView row = { workView work with status := .completed })
    (enqueued : ∀ incidents controls warrants tests,
      viewOf incidents controls warrants works tests =
        (viewOf incidents controls warrants (db.works.write row) tests).enqueue
          ⟨incident.id, warrantId, .testRepair, .pending⟩)
    (first second : TimelineEventRecord) (now : Instant) :
    Refines regime (view db)
      (viewOf
        ((db.incidents.write (advanced incident first .executing now)).write
          (advanced (advanced incident first .executing now) second .testFailed now))
        db.controlWarrants db.broker.warrants works (db.testRuns ++ rows)) := by
  have isExecution := Table.key_of_find queued
  rw [enqueued, projected_view found (isExecution ▸ queued) named nonempty rewritten first second
    now, isExecution]
  exact .inl (.testFailed (view_incident found) approved finished untested (view_work queued))

theorem concludeExecution_refines {incident : IncidentRecord} {record : WarrantRecord}
    {result : BrokerResult} {warrantId evidenceId : String} {testUuids eventUuids : Nat → String}
    {rows : List TestRunRecord} {events : List TimelineEventRecord} {now : Instant}
    (found : db.incidents.find incident.id = some incident) (approved : incident.state = .approved)
    (finished : db.broker.warrants warrantId = some record)
    (consumed : record.state = .consumed ∧ record.incidentId = incident.id)
    (untested : db.testsOf incident.id warrantId = [])
    (named : TestRows incident.id warrantId rows) (nonempty : rows ≠ [])
    (first : TimelineEventRecord) :
    (concludeExecution services (advanced incident first .executing now) result warrantId evidenceId
      testUuids eventUuids now).Ensures
        { db with
          incidents := db.incidents.write (advanced incident first .executing now)
          events := events
          testRuns := db.testRuns ++ rows }
      fun _ next => Refines regime (view db) (view next) := by
  have broker : (view db).warrants warrantId = some ⟨incident.id, .consumed⟩ := by
    simp [view, viewOf, finished, authorization, consumed.1, consumed.2]
  have fresh : ¬ (view db).tested incident.id warrantId := fun tested => tested untested
  simp only [concludeExecution, writeWork, ensures_bind]
  refine ensures_append fun second state reduced => ?_
  cases reduce_concluded reduced
  simp only [ensures_read, ensures_lift, needed_eq_ok, Option.filter_eq_some_iff, ensures_change]
  rintro work ⟨queued, _⟩
  have isExecution := Table.key_of_find queued
  have present : db.works.find work.id = some work := isExecution ▸ queued
  cases passed : result.receipts.all (·.passed) with
  | true =>
      refine ensures_publish fun _ => ?_
      refine refines_of (projected_view found present named nonempty (by exact ⟨rfl, rfl⟩) first
        second now) (.inl ?_)
      rw [isExecution]
      exact .verified (view_incident found) approved broker fresh (view_work queued)
  | false =>
      simp only [Bool.false_eq_true, if_false, ensures_bind]
      refine ensures_enqueue fun works enqueued => ?_
      refine ensures_publish fun _ => ?_
      exact testFailed_refines found approved broker fresh queued named nonempty
        (by exact ⟨rfl, rfl⟩) enqueued first second now

theorem projectFresh_refines {incident : IncidentRecord} {record : WarrantRecord}
    {result : BrokerResult} {warrantId evidenceId : String} {testUuids eventUuids : Nat → String}
    {now : Instant} (found : db.incidents.find incident.id = some incident)
    (finished : db.broker.warrants warrantId = some record)
    (consumed : record.state = .consumed ∧ record.incidentId = incident.id)
    (receipts : result.receipts ≠ []) (untested : db.testsOf incident.id warrantId = []) :
    (projectFresh services stopwatch incident record result warrantId evidenceId testUuids
      eventUuids now).Ensures db fun _ next => Refines regime (view db) (view next) := by
  simp only [projectFresh, ensures_bind, ensures_lift, ensures_pure]
  intro claimedAt _ claimId _
  refine ensures_append fun first state reduced => ?_
  obtain ⟨approved, rfl⟩ := reduce_started reduced
  refine recordTests_ensures.mono ?_
  rintro _ _ ⟨rows, length, named, rfl⟩
  have nonempty : rows ≠ [] := by
    rintro rfl
    exact receipts (List.length_eq_zero_iff.mp length.symm)
  exact concludeExecution_refines found approved finished consumed untested named nonempty first

theorem untested_of_projected {incident : IncidentRecord} {record : WarrantRecord}
    {result : BrokerResult}
    (projection : projectedBrokerResultLocked services stopwatch db incident record result =
      .ok none) : db.testsOf incident.id record.id = [] := by
  by_contra present
  simp only [projectedBrokerResultLocked, if_neg present] at projection
  split at projection
  · obtain ⟨_, _, rest⟩ := Attempt.bind_eq_ok.mp projection
    obtain ⟨_, _, impossible⟩ := Attempt.bind_eq_ok.mp rest
    cases impossible
  · cases projection

theorem projectBrokerResult_refines {incidentId warrantId evidenceId : String}
    {testUuids eventUuids : Nat → String} {now : Instant} :
    (projectBrokerResult services stopwatch incidentId warrantId evidenceId testUuids eventUuids
      now).Ensures db fun _ next => Refines regime (view db) (view next) := by
  simp only [projectBrokerResult, ensures_bind, ensures_read, ensures_lift, needed_eq_ok,
    Option.filter_eq_some_iff, decide_eq_true_eq]
  rintro incident found record ⟨finished, rfl, owner⟩ result checked projected projection
  obtain rfl := Table.key_of_find found
  obtain ⟨consumed, receipts⟩ := checkBrokerResult_eq_ok checked
  cases projected with
  | some earlier => exact ensures_pure.mpr (Refines.refl _)
  | none =>
      exact projectFresh_refines found finished ⟨consumed, owner⟩ receipts
        (untested_of_projected projection)

/-! ## The broker -/

/-- A claim leaves the store alone or moves one approved row, without touching its
incident. -/
theorem claimWarrant_put (store : PostgresWarrantStore) (tables : Domain.Text.UnicodeTables)
    (codec : Codec) (warrantId : String) (clock : Option Instant) (validator : ClaimValidator) :
    (store.claimWarrant tables codec warrantId clock validator).2 = store ∨
      ∃ record next, store.warrants warrantId = some record ∧
        Advances record.state next.state ∧ next.incidentId = record.incidentId ∧
        (store.claimWarrant tables codec warrantId clock validator).2 =
          store.put warrantId next := by
  unfold PostgresWarrantStore.claimWarrant
  cases found : store.warrants warrantId with
  | none => exact .inl rfl
  | some record =>
      dsimp only
      split
      · exact .inl rfl
      · rename_i approved
        have state : record.state = .approved := not_not.mp approved
        have moved {next : WarrantRecord} (advances : Advances .approved next.state)
            (same : next.incidentId = record.incidentId) :
            store.put warrantId next = store ∨
              ∃ row later, some record = some row ∧ Advances row.state later.state ∧
                later.incidentId = row.incidentId ∧
                store.put warrantId next = store.put warrantId later :=
          .inr ⟨record, next, rfl, state ▸ advances, same, rfl⟩
        cases clock with
        | none => exact .inl rfl
        | some now =>
            dsimp only [PostgresWarrantStore.databaseNow]
            split
            · split
              · exact moved .rejected rfl
              · exact .inl rfl
            · split
              · exact moved .rejected rfl
              · split
                · exact moved .expired rfl
                · split
                  · exact moved .rejected rfl
                  · split
                    · exact .inl rfl
                    · exact moved .rejected rfl
                    · exact moved .claimed rfl

theorem finish_put (store : PostgresWarrantStore) (warrantId : String) (result : BrokerResult)
    (clock : Option Instant) :
    (store.finish warrantId result clock).2 = store ∨
      ∃ record next, store.warrants warrantId = some record ∧
        Advances record.state next.state ∧ next.incidentId = record.incidentId ∧
        (store.finish warrantId result clock).2 = store.put warrantId next := by
  unfold PostgresWarrantStore.finish
  cases found : store.warrants warrantId with
  | none => exact .inl rfl
  | some record =>
      dsimp only
      split
      · exact .inl rfl
      · rename_i consuming
        have state : record.state = .consuming := not_not.mp consuming
        cases clock with
        | none => exact .inl rfl
        | some now =>
            refine .inr ⟨record, { record with
              state := .consumed
              resultJson := some result
              finishedAt := some now
              updatedAt := now }, rfl, ?_, rfl, rfl⟩
            rw [state]
            exact .finished

theorem broker_refines {store : PostgresWarrantStore} {warrantId : String}
    (moved : store = db.broker ∨ ∃ record next, db.broker.warrants warrantId = some record ∧
      Advances record.state next.state ∧ next.incidentId = record.incidentId ∧
      store = db.broker.put warrantId next) :
    Refines regime (view db) (view { db with broker := store }) := by
  rcases moved with rfl | ⟨record, next, found, advances, owner, rfl⟩
  · exact Refines.refl _
  · have row : (view db).warrants warrantId = some (authorization record) := by
      simp [view, viewOf, found]
    refine refines_of viewOf_putWarrant ?_
    rw [show authorization next = { authorization record with state := next.state } by
      rw [authorization, owner, authorization]]
    exact .inl (.brokerMoved row advances)

end CrossPatch.Runtime.QueueRefinement
