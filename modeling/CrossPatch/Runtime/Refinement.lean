import CrossPatch.Runtime.Authority
import CrossPatch.Runtime.BrokerResults
import CrossPatch.Runtime.Staffing

/-!
# The store refines the protocol

Each transaction that commits takes the view of the database along one step of the
warrant protocol, or along several none of which enters `TEST_FAILED`.
-/

namespace CrossPatch.Runtime.Refinement

open CrossPatch.Broker.Store
open CrossPatch.Domain.Failure CrossPatch.Domain.Seats CrossPatch.Domain.StateMachine
open CrossPatch.Evidence.Views
open CrossPatch.Library CrossPatch.Library.Attempt CrossPatch.Library.Calendar
open CrossPatch.Library.JsonText CrossPatch.Library.Octets CrossPatch.Library.Transaction
open CrossPatch.Runner.Results
open CrossPatch.Runtime.Authority CrossPatch.Runtime.BrokerResults CrossPatch.Runtime.Protocol
open CrossPatch.Runtime.Records CrossPatch.Runtime.Store CrossPatch.Runtime.Timeline

/-! ## The view of a database -/

def standing (incident : IncidentRecord) : Standing := ⟨incident.state, incident.pendingWarrantId⟩

def controlView (control : ControlWarrantRecord) : Control :=
  ⟨control.incidentId, control.status, control.createdAt.micros⟩

def authorization (record : WarrantRecord) : Authorization := ⟨record.incidentId, record.state⟩

def workView (work : RuntimeWorkRecord) : Work :=
  ⟨work.incidentId, work.warrantId, work.kind, work.status⟩

def viewOf (incidents : Table IncidentRecord.id) (controls : Table ControlWarrantRecord.id)
    (warrants : String → Option WarrantRecord) (works : Table RuntimeWorkRecord.id)
    (tests : List TestRunRecord) : View where
  incidents id := (incidents.find id).map standing
  controls id := (controls.find id).map controlView
  warrants id := (warrants id).map authorization
  works id := (works.find id).map workView
  tested incidentId warrantId := testsIn tests incidentId warrantId ≠ []

def view (db : Database) : View :=
  viewOf db.incidents db.controlWarrants db.broker.warrants db.works db.testRuns

section Writes

variable {incidents : Table IncidentRecord.id} {controls : Table ControlWarrantRecord.id}
  {warrants : String → Option WarrantRecord} {works : Table RuntimeWorkRecord.id}
  {tests : List TestRunRecord}

theorem viewOf_writeIncident {row current : IncidentRecord}
    (found : incidents.find row.id = some current) :
    viewOf (incidents.write row) controls warrants works tests =
      (viewOf incidents controls warrants works tests).setIncident row.id (standing row) := by
  refine View.ext ?_ rfl rfl rfl rfl
  funext id
  simp only [viewOf, View.setIncident_incidents, Table.find_write found]
  split <;> rfl

theorem viewOf_insertIncident {row : IncidentRecord} (fresh : incidents.find row.id = none) :
    viewOf (incidents.insert row fresh) controls warrants works tests =
      (viewOf incidents controls warrants works tests).setIncident row.id (standing row) := by
  refine View.ext ?_ rfl rfl rfl rfl
  funext id
  simp only [viewOf, View.setIncident_incidents, Table.find_insert fresh]
  split <;> rfl

theorem viewOf_writeControl {row current : ControlWarrantRecord}
    (found : controls.find row.id = some current) :
    viewOf incidents (controls.write row) warrants works tests =
      (viewOf incidents controls warrants works tests).setControl row.id (controlView row) := by
  refine View.ext rfl ?_ rfl rfl rfl
  funext id
  simp only [viewOf, View.setControl_controls, Table.find_write found]
  split <;> rfl

theorem viewOf_insertControl {row : ControlWarrantRecord} (fresh : controls.find row.id = none) :
    viewOf incidents (controls.insert row fresh) warrants works tests =
      (viewOf incidents controls warrants works tests).setControl row.id (controlView row) := by
  refine View.ext rfl ?_ rfl rfl rfl
  funext id
  simp only [viewOf, View.setControl_controls, Table.find_insert fresh]
  split <;> rfl

theorem viewOf_writeWork {row current : RuntimeWorkRecord}
    (found : works.find row.id = some current) :
    viewOf incidents controls warrants (works.write row) tests =
      (viewOf incidents controls warrants works tests).setWork row.id (workView row) := by
  refine View.ext rfl rfl rfl ?_ rfl
  funext id
  simp only [viewOf, View.setWork_works, Table.find_write found]
  split <;> rfl

theorem viewOf_insertWork {row : RuntimeWorkRecord} (fresh : works.find row.id = none)
    (named : row.id = workId row.kind row.warrantId) :
    viewOf incidents controls warrants (works.insert row fresh) tests =
      (viewOf incidents controls warrants works tests).enqueue (workView row) := by
  refine View.ext rfl rfl rfl ?_ rfl
  funext id
  simp only [viewOf, View.enqueue_works, Table.find_insert fresh, workView, ← named]
  by_cases same : id = row.id
  · subst same
    simp [fresh, workView]
  · simp [same]

theorem viewOf_putWarrant {id : String} {record : WarrantRecord} :
    viewOf incidents controls (Function.update warrants id (some record)) works tests =
      (viewOf incidents controls warrants works tests).setWarrant id (authorization record) := by
  refine View.ext rfl rfl ?_ rfl rfl
  funext other
  simp only [viewOf, View.setWarrant_warrants, Function.update_apply]
  split <;> rfl

end Writes

/-! ## Refinement of a commit -/

def NoEntry (before after : View) : Prop :=
  ∀ incident standing, after.incidents incident = some standing →
    standing.state = .testFailed → before.incidents incident = some standing

def Refines (regime : Regime) (before after : View) : Prop :=
  Step regime before after ∨ (Steps regime before after ∧ NoEntry before after)

section Refines

variable {regime : Regime} {before middle after : View}

theorem Refines.refl (view : View) : Refines regime view view :=
  .inr ⟨.refl, fun _ _ found _ => found⟩

theorem Refines.steps (refines : Refines regime before after) : Steps regime before after := by
  rcases refines with step | ⟨steps, _⟩
  · exact .single step
  · exact steps

theorem NoEntry.since (second : NoEntry middle after) (first : NoEntry before middle) :
    NoEntry before after :=
  fun incident standing found failed =>
    first incident standing (second incident standing found failed) failed

theorem setIncident_self {view : View} {incident : String} {standing : Standing}
    (found : view.incidents incident = some standing) :
    view.setIncident incident standing = view := by
  refine View.ext ?_ rfl rfl rfl rfl
  funext other
  by_cases same : other = incident
  · simp [same, found]
  · simp [same]

theorem setIncident_twice (view : View) (incident : String) (first second : Standing) :
    (view.setIncident incident first).setIncident incident second =
      view.setIncident incident second := by
  refine View.ext ?_ rfl rfl rfl rfl
  funext other
  by_cases same : other = incident
  · simp [same]
  · simp [same]

end Refines

/-! ## Appending events -/

/-- Types of events that move an incident without a warrant, or not at all. -/
def plainTypes : List StateEventType :=
  [.reproductionStarted, .evidenceCaptured, .reproductionPassed, .reproductionInconclusive,
   .analysisStarted, .patchRequested, .patchProposed, .retryStarted, .backgroundTaskFailed]

def isPlain : EventType → Bool
  | .state type => decide (type ∈ plainTypes)
  | _ => true

theorem table_moves {state next : IncidentState} {type : StateEventType}
    (plain : type ∈ plainTypes) (moved : transitionTable state type = some next) :
    Moves state next := by
  simp only [plainTypes, List.mem_cons, List.not_mem_nil, or_false] at plain
  rcases plain with rfl | rfl | rfl | rfl | rfl | rfl | rfl | rfl | rfl <;> cases state <;>
    simp only [transitionTable, activeStates, reduceCtorEq, Option.some.injEq, List.mem_cons,
      List.not_mem_nil, or_false, or_self, or_true, if_true, if_false] at moved <;>
    subst moved <;> constructor <;> simp

theorem plain_moves {state next : IncidentState} {type : EventType} {payload : Payload}
    (plain : isPlain type = true) (reduced : reduce state type payload = .ok next) :
    next = state ∨ Moves state next := by
  cases type with
  | state type =>
      have listed : type ∈ plainTypes := of_decide_eq_true plain
      refine .inr (table_moves listed (reduce_table reduced ?_))
      rintro rfl
      exact absurd listed (by decide)
  | _ =>
      cases reduced
      exact .inl rfl

/-- Verdicts other than CLEAR move an incident without a warrant. -/
theorem verdict_moves {state next : IncidentState} {payload : Payload} {verdict : Verdict}
    (reduced : reduce state (.state .verdict) payload = .ok next)
    (named : textField payload "verdict" = .ok verdict.value) (unclear : verdict ≠ .clear) :
    Moves state next := by
  obtain ⟨target, ⟨_, from_, rfl⟩ | ⟨rfl, rfl⟩⟩ := reduce_verdict reduced named
  · cases state <;> first | exact absurd from_ (by decide) | (constructor <;> simp)
  · cases verdict with
    | clear => exact absurd rfl unclear
    | remand =>
        by_cases isCounsel : target = some .counsel <;> constructor <;>
          simp [transitionVerdict, isCounsel]
    | block => constructor <;> simp [transitionVerdict]
    | abstain => constructor <;> simp [transitionVerdict]

theorem verdict_clears {state next : IncidentState} {payload : Payload}
    (reduced : reduce state (.state .verdict) payload = .ok next)
    (named : textField payload "verdict" = .ok Verdict.clear.value) :
    state = .reviewing ∧ next = .approvalPending := by
  obtain ⟨target, ⟨impossible, _⟩ | ⟨reviewing, rfl⟩⟩ := reduce_verdict reduced named
  · cases impossible
  · exact ⟨reviewing, rfl⟩

section Transactions

variable {regime : Regime} {services : Services} {db : Database}

@[simp]
theorem ensures_getIncident {incidentId : String} {Post : IncidentRecord → Database → Prop} :
    (getIncident incidentId).Ensures db Post ↔
      ∀ incident, db.incidents.find incidentId = some incident → Post incident db := by
  simp [getIncident, needed_eq_ok]

@[simp]
theorem ensures_getControl {warrantId : String} {Post : ControlWarrantRecord → Database → Prop} :
    (getControl warrantId).Ensures db Post ↔
      ∀ control, db.controlWarrants.find warrantId = some control → Post control db := by
  simp [getControl, needed_eq_ok]

@[simp]
theorem ensures_getWork {id : String} {Post : RuntimeWorkRecord → Database → Prop} :
    (getWork id).Ensures db Post ↔
      ∀ work, db.works.find id = some work → Post work db := by
  simp [getWork, needed_eq_ok]

/-- The incident after one event. -/
def advanced (incident : IncidentRecord) (event : TimelineEventRecord) (state : IncidentState)
    (now : Instant) : IncidentRecord :=
  { incident with
    nextEventSequence := event.sequence + 1
    eventChainHead := some event.eventHash
    updatedAt := now
    state := state }

theorem ensures_append {incident : IncidentRecord} {type : EventType} {actor : String}
    {payload : Payload} {published : Bool} {uuid : String} {now : Instant}
    {Post : IncidentRecord → Database → Prop}
    (post : ∀ event state, reduce incident.state type payload = .ok state →
      Post (advanced incident event state now)
        { db with
          events := db.events ++ [event]
          incidents := db.incidents.write (advanced incident event state now) }) :
    (appendLocked services incident type actor payload published uuid now).Ensures db Post := by
  intro moved next appended
  obtain ⟨event, state, reduced, _, _, _, rfl, rfl⟩ := appendLocked_eq_ok appended
  exact post event state reduced

theorem ensures_publish {incidentId : String} {now : Instant} {Post : Unit → Database → Prop}
    (post : ∀ cases, Post () { db with cases := cases }) :
    (publishLocked services incidentId now).Ensures db Post := by
  intro done next published
  obtain ⟨cases, rfl⟩ := publishLocked_eq_ok published
  exact post cases

theorem view_incident {incidentId : String} {incident : IncidentRecord}
    (found : db.incidents.find incidentId = some incident) :
    (view db).incidents incidentId = some (standing incident) := by
  simp [view, viewOf, found]

/-- A move without a warrant, or no move at all. -/
theorem refines_move {before : View} {incident : String} {current : Standing}
    {next : IncidentState} (found : before.incidents incident = some current)
    (moves : next = current.state ∨ Moves current.state next) :
    Refines regime before (before.setIncident incident ⟨next, current.pending⟩) := by
  rcases moves with rfl | moves
  · rw [setIncident_self found]
    exact Refines.refl before
  · exact .inl (.moved found moves)

theorem view_append {incidents : Table IncidentRecord.id} {controls : Table ControlWarrantRecord.id}
    {warrants : String → Option WarrantRecord} {works : Table RuntimeWorkRecord.id}
    {tests : List TestRunRecord} {incident current : IncidentRecord}
    (found : incidents.find incident.id = some current) (event : TimelineEventRecord)
    (state : IncidentState) (now : Instant) :
    viewOf (incidents.write (advanced incident event state now)) controls warrants works tests =
      (viewOf incidents controls warrants works tests).setIncident incident.id
        ⟨state, incident.pendingWarrantId⟩ :=
  @viewOf_writeIncident _ _ _ _ _ (advanced incident event state now) current found

theorem refines_of {next : Database} {after : View} (viewed : view next = after)
    (refines : Refines regime (view db) after) : Refines regime (view db) (view next) := by
  rw [viewed]
  exact refines

/-- Nothing that the protocol sees has changed. -/
theorem refines_same {next : Database} (same : view next = view db) :
    Refines regime (view db) (view next) :=
  refines_of same (Refines.refl (view db))

theorem append_refines {incident : IncidentRecord}
    (found : db.incidents.find incident.id = some incident) {state : IncidentState}
    (moves : state = incident.state ∨ Moves incident.state state) (event : TimelineEventRecord)
    (now : Instant) :
    Refines regime (view db)
      (viewOf (db.incidents.write (advanced incident event state now)) db.controlWarrants
        db.broker.warrants db.works db.testRuns) := by
  rw [view_append found]
  exact refines_move (view_incident found) moves

/-- Two events in one transaction, of which at most one moves the incident. -/
theorem append_twice_refines {incident : IncidentRecord}
    (found : db.incidents.find incident.id = some incident) {middle state : IncidentState}
    (moves : state = incident.state ∨ Moves incident.state state)
    (first second : TimelineEventRecord) (earlier later : Instant) :
    Refines regime (view db)
      (viewOf ((db.incidents.write (advanced incident first middle earlier)).write
          (advanced (advanced incident first middle earlier) second state later))
        db.controlWarrants db.broker.warrants db.works db.testRuns) := by
  have written : (db.incidents.write (advanced incident first middle earlier)).find
      (advanced incident first middle earlier).id = _ := Table.find_write_self found
  rw [view_append written, view_append found, show (advanced incident first middle earlier).id =
    incident.id from rfl, setIncident_twice]
  exact refines_move (view_incident found) moves

theorem appendEvent_refines {incidentId : String} {type : EventType} {actor : String}
    {payload : Payload} {published : Bool} {uuid : String} {now : Instant}
    (plain : isPlain type = true) :
    (appendEvent services incidentId type actor payload published uuid now).Ensures db
      fun _ next => Refines regime (view db) (view next) := by
  simp only [appendEvent, ensures_bind, ensures_getIncident]
  intro incident found
  obtain rfl := Table.key_of_find found
  refine ensures_append fun event state reduced => ?_
  have moved := @append_refines regime _ _ found _ (plain_moves plain reduced) event now
  exact ensures_ite (fun _ => ensures_publish fun _ => moved) (fun _ => ensures_pure.mpr moved)

theorem createIncident_refines {input : NewIncident} {uuid : String} {now : Instant} :
    (createIncident services input uuid now).Ensures db
      fun _ next => Refines regime (view db) (view next) := by
  simp only [createIncident, ensures_bind, ensures_lift]
  intro profile _ done next inserted
  simp only [insertIncident] at inserted
  split at inserted
  · rename_i fresh
    cases inserted
    refine ensures_append fun event state reduced => ?_
    cases reduced
    refine ensures_publish fun _ => ?_
    have opened : (view db).incidents (openedRecord input now).id = none := by
      simp [view, viewOf, fresh]
    have viewed := @view_append _ db.controlWarrants db.broker.warrants db.works db.testRuns _ _
      (Table.find_insert_self fresh) event .opened now
    rw [viewOf_insertIncident fresh, setIncident_twice] at viewed
    exact refines_of viewed (.inl (.opened opened))
  · cases inserted

theorem recordEvidence_refines {envelope : UntrustedEvidenceEnvelope} {evidenceId : String}
    {published : Bool} {now : Instant} :
    (recordEvidence services envelope evidenceId published now).Ensures db
      fun _ next => Refines regime (view db) (view next) := by
  simp only [recordEvidence, addEvidence, ensures_bind, ensures_lift, ensures_change]
  intro encoded _
  exact ensures_ite (fun _ => ensures_publish fun _ => refines_same rfl)
    (fun _ => ensures_pure.mpr (refines_same rfl))

theorem prepareSeat_refines {incidentId : String} {seat : Seat} {phase : String}
    {uuids : Nat → String} {clock : Nat → Instant} :
    (prepareSeat services incidentId seat phase uuids clock).Ensures db
      fun _ next => Refines regime (view db) (view next) := by
  simp only [prepareSeat, ensures_bind, ensures_getIncident]
  intro incident found
  obtain rfl := Table.key_of_find found
  refine ensures_ite (fun _ => ?_) (fun _ => ?_)
  · simp only [ensures_bind]
    refine ensures_append fun first state reduced => ?_
    refine ensures_append fun second same unreduced => ?_
    cases unreduced
    refine ensures_publish fun _ => ?_
    exact append_twice_refines found (plain_moves rfl reduced) first second _ _
  · simp only [ensures_bind, ensures_pure]
    refine ensures_append fun event state reduced => ?_
    cases reduced
    refine ensures_publish fun _ => ?_
    exact append_refines found (.inl rfl) event _

theorem recordSeatOutput_refines {incidentId : String} {seat : Seat} {effort : Effort}
    {phase : String} {output : SeatOutput} {escalationCount : Nat} {uuids : Nat → String}
    {now : Instant} :
    (recordSeatOutput services incidentId seat effort phase output escalationCount uuids
      now).Ensures db fun _ next => Refines regime (view db) (view next) := by
  cases output with
  | counsel counsel =>
      simp only [recordSeatOutput, addAgentRun, addCandidate, ensures_bind, ensures_lift,
        ensures_getIncident, ensures_change, ensures_read, ensures_pure]
      intro encoded _ semantic _ incident found allowedPaths _
      obtain rfl := Table.key_of_find found
      refine ensures_append fun first state reduced => ?_
      cases reduced
      refine ensures_ite (fun _ => ?_) (fun _ => ?_)
      · simp only [ensures_bind]
        refine ensures_append fun second state reduced => ?_
        refine ensures_publish fun _ => ?_
        exact @append_twice_refines regime db _ found _ _ (plain_moves rfl reduced) first second _ _
      · simp only [ensures_bind, ensures_pure]
        refine ensures_publish fun _ => ?_
        exact @append_refines regime db _ found _ (.inl rfl) first _
  | _ =>
      simp only [recordSeatOutput, addAgentRun, ensures_bind, ensures_lift, ensures_getIncident,
        ensures_change, ensures_pure]
      intro encoded _ semantic _ incident found
      obtain rfl := Table.key_of_find found
      refine ensures_append fun first state reduced => ?_
      cases reduced
      refine ensures_publish fun _ => ?_
      exact @append_refines regime db _ found _ (.inl rfl) first _

/-! ## Verdicts -/

variable {gateway : Gateway}

theorem abstainMembers_verdict (reason : String) (failureCode : Option String) :
    textField (abstainMembers reason failureCode) "verdict" = .ok Verdict.abstain.value := rfl

theorem members_verdict (output : MagistrateOutput) :
    textField output.members "verdict" = .ok output.verdict.value := rfl

theorem failClosedAbstain_refines {incidentId reason : String} {failureCode : Option String}
    {uuids : Nat → String} {now : Instant} :
    (failClosedAbstain gateway incidentId reason failureCode uuids now).Ensures db
      fun _ next => Refines regime (view db) (view next) := by
  simp only [failClosedAbstain, appendVerdict, addVerdict, ensures_bind, ensures_lift,
    ensures_getIncident, ensures_change]
  intro encoded _ incident found
  obtain rfl := Table.key_of_find found
  refine ensures_append fun event state reduced => ?_
  refine ensures_publish fun _ => ?_
  have moves := verdict_moves reduced (abstainMembers_verdict reason failureCode) (by decide)
  exact @append_refines regime db _ found _ (.inr moves) event _

theorem recordVerdict_refines {incidentId : String} {output : MagistrateOutput}
    {uuids : Nat → String} {now : Instant} (clears : output.verdict = .clear → regime.clears) :
    (recordVerdict gateway incidentId output uuids now).Ensures db
      fun _ next => Refines regime (view db) (view next) := by
  simp only [recordVerdict, appendVerdict, addVerdict, ensures_bind, ensures_lift,
    ensures_getIncident, ensures_change]
  intro encoded _ incident found
  obtain rfl := Table.key_of_find found
  refine ensures_append fun event state reduced => ?_
  refine ensures_publish fun _ => ?_
  by_cases clear : output.verdict = .clear
  · obtain ⟨reviewing, rfl⟩ := verdict_clears reduced (clear ▸ members_verdict output)
    refine refines_of (view_append found event .approvalPending now) ?_
    exact .inl (.cleared (view_incident found) reviewing (clears clear))
  · have moves := verdict_moves reduced (members_verdict output) clear
    exact @append_refines regime db _ found _ (.inr moves) event _

theorem rejectDuplicateRetry_refines {incidentId : String} {seat : Seat} {effort : Effort}
    {phase : String} {output : SeatOutput} {reason : String} {uuids : Nat → String}
    {now : Instant} :
    (rejectDuplicateRetry gateway incidentId seat effort phase output reason uuids now).Ensures db
      fun _ next => Refines regime (view db) (view next) := by
  simp only [rejectDuplicateRetry, appendVerdict, addVerdict, addAgentRun, ensures_bind,
    ensures_lift, ensures_check, ensures_getIncident, ensures_change]
  intro _ _ encoded _ semantic _ abstain _ incident found
  obtain rfl := Table.key_of_find found
  refine ensures_append fun first state reduced => ?_
  cases reduced
  refine ensures_append fun second state reduced => ?_
  refine ensures_publish fun _ => ?_
  have moves := verdict_moves reduced (abstainMembers_verdict _ _) (by decide)
  exact @append_twice_refines regime db _ found _ _ (.inr moves) first second _ _

/-! ## The approval gate -/

theorem reviewedRun_frame {incidentId : String} {seat : Seat} {phase : String}
    {output : SeatOutput} {encoded : Bytes} {uuid : String} {now : Instant} :
    (reviewedRun gateway incidentId seat phase output encoded uuid now).Ensures db
      fun _ next => ∃ runs, next = { db with agentRuns := runs } := by
  simp only [reviewedRun, ensures_bind, ensures_read]
  split
  · exact ensures_pure.mpr ⟨db.agentRuns, rfl⟩
  · simp only [addAgentRun, ensures_bind, ensures_lift, ensures_change, ensures_pure]
    intro semantic _
    exact ⟨_, rfl⟩

theorem reviewedCandidate_frame {incidentId : String} {counsel : CounselOutput}
    {run : AgentRunRecord} {allowedPaths : List String} {uuid : String} {now : Instant} :
    (reviewedCandidate incidentId counsel run allowedPaths uuid now).Ensures db
      fun _ next => ∃ candidates, next = { db with candidates := candidates } := by
  simp only [reviewedCandidate, ensures_bind, ensures_read]
  split
  · simp only [ensures_bind, ensures_check, ensures_pure]
    intro _
    exact ⟨db.candidates, rfl⟩
  · simp only [addCandidate, ensures_bind, ensures_change, ensures_pure]
    exact ⟨_, rfl⟩

/-- Gathering the reviewed material may record missing runs and candidates. -/
theorem gatherMaterial_frame {incident : IncidentRecord} {output : MagistrateOutput}
    {counsel : CounselOutput} {allowedPaths : List String} {uuids : Nat → String}
    {now : Instant} :
    (gatherMaterial gateway incident output counsel allowedPaths uuids now).Ensures db
      fun _ next => ∃ runs candidates,
        next = { db with agentRuns := runs, candidates := candidates } := by
  simp only [gatherMaterial, ensures_bind, ensures_read, ensures_lift, ensures_check, ensures_pure]
  intro _ _ _ _ _ _ _ _ _ _ _ _ _ _ _ _ _
  refine reviewedRun_frame.mono ?_
  rintro counselRun _ ⟨runs, rfl⟩
  refine reviewedCandidate_frame.mono ?_
  rintro candidateId _ ⟨candidates, rfl⟩
  intro _ _
  refine reviewedRun_frame.mono ?_
  rintro magistrateRun _ ⟨later, rfl⟩
  exact ⟨later, candidates, rfl⟩

theorem ensures_insertControl {control : ControlWarrantRecord} {Post : Unit → Database → Prop}
    (post : ∀ fresh : db.controlWarrants.find control.id = none,
      Post () { db with controlWarrants := db.controlWarrants.insert control fresh }) :
    (insertControl control).Ensures db Post := by
  intro done next inserted
  simp only [insertControl] at inserted
  split at inserted
  · rename_i fresh
    cases inserted
    exact post fresh
  · cases inserted

/-- The rows that an opened approval leaves behind. -/
theorem approvalOpened_refines {incident : IncidentRecord} {control : ControlWarrantRecord}
    {now : Instant} (found : db.incidents.find incident.id = some incident)
    (reviewing : incident.state = .reviewing)
    (fresh : db.controlWarrants.find control.id = none)
    (owner : control.incidentId = incident.id) (pending : control.status = .pendingApproval)
    (event : TimelineEventRecord)
    (timely : regime.timely (view db) incident.id control.createdAt.micros) :
    Refines regime (view db)
      (viewOf
        (db.incidents.write
          (advanced { incident with pendingWarrantId := some control.id } event .approvalPending now))
        (db.controlWarrants.insert control fresh) db.broker.warrants db.works db.testRuns) := by
  have written : db.incidents.find
      { incident with pendingWarrantId := some control.id }.id = some incident := found
  rw [view_append written, viewOf_insertControl fresh, controlView, owner, pending]
  have absent : (view db).controls control.id = none := by simp [view, viewOf, fresh]
  exact .inl (.approvalOpened (view_incident found) reviewing absent timely)

theorem openApproval_refines {incidentId : String} {output : MagistrateOutput}
    {seatOutputs : Seat → Option SeatOutput} {uuids : Nat → String} {now : Instant}
    (timely : regime.timely (view db) incidentId now.micros) :
    (openApproval gateway incidentId output seatOutputs uuids now).Ensures db
      fun _ next => Refines regime (view db) (view next) := by
  simp only [openApproval, ensures_bind, ensures_check, ensures_lift, ensures_getIncident]
  intro clear counsel _ allowedPaths _ _ _ incident found reviewing
  obtain rfl := Table.key_of_find found
  refine gatherMaterial_frame.mono ?_
  rintro ⟨material, magistrateRun, verdictBytes⟩ _ ⟨runs, candidates, rfl⟩
  intro document _ canonical _ authority _
  refine ensures_insertControl fun fresh => ?_
  simp only [appendVerdict, addVerdict, ensures_bind, ensures_change]
  refine ensures_append fun event state reduced => ?_
  obtain ⟨_, rfl⟩ := verdict_clears reduced ((members_verdict output).trans (by rw [clear]))
  refine ensures_publish fun _ => ?_
  rw [ensures_pure]
  exact approvalOpened_refines found reviewing fresh rfl rfl event timely

/-! ## Decisions -/

theorem ensures_pendingControl {warrantId warrantSha256 : String}
    {Post : ControlWarrantRecord → Database → Prop}
    (post : ∀ control, db.controlWarrants.find control.id = some control →
      control.id = warrantId → control.status = .pendingApproval → Post control db) :
    (pendingControl warrantId warrantSha256).Ensures db Post := by
  simp only [pendingControl, ensures_bind, ensures_getControl, ensures_check, ensures_lift,
    ensures_pure]
  intro control found pending _ _ _
  have named := Table.key_of_find found
  exact post control (named ▸ found) named pending

theorem view_control {control : ControlWarrantRecord}
    (found : db.controlWarrants.find control.id = some control) :
    (view db).controls control.id = some (controlView control) := by
  simp [view, viewOf, found]

/-- The rows that a decision other than an approval leaves behind. -/
theorem settled_refines {control row : ControlWarrantRecord} {incident released : IncidentRecord}
    {status : ControlStatus} {next : IncidentState}
    (decided : db.controlWarrants.find control.id = some control)
    (pending : control.status = .pendingApproval)
    (found : db.incidents.find control.incidentId = some incident)
    (releases : Releases status next)
    (rewritten : row.id = control.id ∧ controlView row = { controlView control with status })
    (freed : released.id = incident.id ∧ released.pendingWarrantId = none)
    (event : TimelineEventRecord) (now : Instant) :
    Refines regime (view db)
      (viewOf (db.incidents.write (advanced released event next now))
        (db.controlWarrants.write row) db.broker.warrants db.works db.testRuns) := by
  have owner := Table.key_of_find found
  have present : db.incidents.find released.id = some incident := by rw [freed.1, owner, found]
  have current : db.controlWarrants.find row.id = some control := by rw [rewritten.1, decided]
  rw [view_append present, viewOf_writeControl current, rewritten.1, rewritten.2, freed.1, freed.2,
    owner]
  exact .inl (.settled (view_control decided) pending (view_incident found) releases)

theorem reduce_expired {state next : IncidentState} {payload : Payload}
    (reduced : reduce state (.state .warrantExpired) payload = .ok next) :
    next = .humanEscalation := by
  have moved := reduce_table reduced (by decide)
  cases state <;> simp [transitionTable] at moved
  exact moved.symm

theorem reduce_revised {state next : IncidentState} {payload : Payload}
    (reduced : reduce state (.state .revisionRequested) payload = .ok next) :
    next = .patching := by
  have moved := reduce_table reduced (by decide)
  cases state <;> simp [transitionTable] at moved
  exact moved.symm

theorem reduce_approved {state next : IncidentState} {payload : Payload}
    (reduced : reduce state (.state .warrantApproved) payload = .ok next) :
    next = .approved := by
  have moved := reduce_table reduced (by decide)
  cases state <;> simp [transitionTable] at moved
  exact moved.symm

theorem expireWarrantIfNeeded_refines {warrantId warrantSha256 actor uuid : String}
    {now : Instant} :
    (expireWarrantIfNeeded gateway warrantId warrantSha256 actor uuid now).Ensures db
      fun _ next => Refines regime (view db) (view next) := by
  simp only [expireWarrantIfNeeded, ensures_bind]
  refine ensures_pendingControl fun control decided named pending => ?_
  refine ensures_ite (fun _ => ensures_pure.mpr (Refines.refl _)) (fun _ => ?_)
  simp only [settleControl, writeControl, ensures_bind, ensures_getIncident, ensures_change,
    ensures_pure]
  intro incident found
  refine ensures_append fun event state reduced => ?_
  cases reduce_expired reduced
  refine ensures_publish fun _ => ?_
  exact settled_refines decided pending found .expired (by exact ⟨rfl, rfl⟩)
    (by exact ⟨rfl, rfl⟩) event now

theorem requestRevision_refines {warrantId warrantSha256 : String}
    {guidance : UntrustedEvidenceEnvelope} {actor uuid : String} {now : Instant} :
    (requestRevision gateway warrantId warrantSha256 guidance actor uuid now).Ensures db
      fun _ next => Refines regime (view db) (view next) := by
  simp only [requestRevision, ensures_bind]
  refine ensures_pendingControl fun control decided named pending => ?_
  simp only [settleControl, writeControl, addEvidence, ensures_bind, ensures_check, ensures_read,
    ensures_lift, needed_eq_ok, Option.filter_eq_some_iff, ensures_change, ensures_pure]
  rintro _ incident ⟨found, _⟩ encoded _
  refine ensures_append fun event state reduced => ?_
  cases reduce_revised reduced
  refine ensures_publish fun _ => ?_
  exact settled_refines decided pending found .revised (by exact ⟨rfl, rfl⟩)
    (by exact ⟨rfl, rfl⟩) event now

theorem rejectLocked_refines {control : ControlWarrantRecord} {incident : IncidentRecord}
    {warrantSha256 actor : String} {reason : Option String} {uuid : String} {now : Instant}
    (decided : db.controlWarrants.find control.id = some control)
    (pending : control.status = .pendingApproval)
    (found : db.incidents.find control.incidentId = some incident) :
    (rejectLocked gateway control incident warrantSha256 actor reason uuid now).Ensures db
      fun _ next => Refines regime (view db) (view next) := by
  simp only [rejectLocked, settleControl, writeControl, ensures_bind, ensures_change, ensures_pure]
  refine ensures_append fun event state reduced => ?_
  cases reduced
  refine ensures_publish fun _ => ?_
  exact settled_refines decided pending found .rejected (by exact ⟨rfl, rfl⟩)
    (by exact ⟨rfl, rfl⟩) event now

/-- Queueing adds a row unless there is one. -/
theorem ensures_enqueue {incidentId warrantId : String} {kind : WorkKind} {now : Instant}
    {Post : Unit → Database → Prop}
    (post : ∀ works,
      (∀ incidents controls warrants tests,
        viewOf incidents controls warrants works tests =
          (viewOf incidents controls warrants db.works tests).enqueue
            ⟨incidentId, warrantId, kind, .pending⟩) →
      Post () { db with works := works }) :
    (enqueueRuntimeWorkLocked incidentId warrantId kind now).Ensures db Post := by
  simp only [enqueueRuntimeWorkLocked, ensures_bind, ensures_read]
  split
  · rename_i existing found
    rw [ensures_check]
    intro _
    refine post db.works ?_
    intro incidents controls warrants tests
    refine View.ext rfl rfl rfl ?_ rfl
    funext id
    by_cases same : id = workId kind warrantId
    · simp [viewOf, same, found]
    · simp [same]
  · rename_i absent
    intro done next inserted
    simp only [insertWork, dif_pos absent] at inserted
    cases inserted
    refine post _ ?_
    intro incidents controls warrants tests
    exact viewOf_insertWork absent rfl

theorem ensures_insertWarrant {record : WarrantRecord} {Post : Unit → Database → Prop}
    (post : ∀ nonces, db.broker.warrants record.id = none →
      Post () { db with
        broker := { db.broker.put record.id record with nonces := nonces } }) :
    (insertWarrant record).Ensures db Post := by
  intro done next inserted
  simp only [insertWarrant] at inserted
  split at inserted
  · rename_i fresh
    cases inserted
    exact post _ fresh.1
  · cases inserted

/-- The rows that an approval leaves behind. -/
theorem approved_refines {control row : ControlWarrantRecord} {incident released : IncidentRecord}
    {record : WarrantRecord} {works : Table RuntimeWorkRecord.id}
    (decided : db.controlWarrants.find control.id = some control)
    (pending : control.status = .pendingApproval)
    (found : db.incidents.find control.incidentId = some incident)
    (unused : db.broker.warrants control.id = none)
    (queued : ∀ incidents controls warrants tests,
      viewOf incidents controls warrants works tests =
        (viewOf incidents controls warrants db.works tests).enqueue
          ⟨incident.id, control.id, .approvedExecution, .pending⟩)
    (rewritten : row.id = control.id ∧
      controlView row = { controlView control with status := .approved })
    (freed : released.id = incident.id ∧ released.pendingWarrantId = none)
    (issued : record.id = control.id ∧ authorization record = ⟨incident.id, .approved⟩)
    (event : TimelineEventRecord) (now : Instant) :
    Refines regime (view db)
      (viewOf (db.incidents.write (advanced released event .approved now))
        (db.controlWarrants.write row)
        (Function.update db.broker.warrants record.id (some record)) works db.testRuns) := by
  have owner := Table.key_of_find found
  have present : db.incidents.find released.id = some incident := by rw [freed.1, owner, found]
  have current : db.controlWarrants.find row.id = some control := by rw [rewritten.1, decided]
  rw [queued, view_append present, viewOf_writeControl current, viewOf_putWarrant, rewritten.1,
    rewritten.2, freed.1, freed.2, issued.1, issued.2, owner]
  exact .inl (.approved (view_control decided) pending (view_incident found)
    (by simp [view, viewOf, unused]))

theorem approveLocked_refines {control : ControlWarrantRecord} {incident : IncidentRecord}
    {document : Broker.Warrant.WarrantDocument} {warrantSha256 actor uuid : String}
    {now : Instant} (decided : db.controlWarrants.find control.id = some control)
    (pending : control.status = .pendingApproval)
    (found : db.incidents.find control.incidentId = some incident) :
    (approveLocked gateway control document incident warrantSha256 actor uuid now).Ensures db
      fun _ next => Refines regime (view db) (view next) := by
  simp only [approveLocked, authorizeExecution, settleControl, writeControl, ensures_bind,
    ensures_check, ensures_lift, ensures_change, ensures_pure]
  intro _ approval _ _ _ approvalJson _
  refine ensures_insertWarrant fun nonces unused => ?_
  refine ensures_append fun event state reduced => ?_
  cases reduce_approved reduced
  refine ensures_enqueue fun works queued => ?_
  refine ensures_publish fun _ => ?_
  exact approved_refines decided pending found unused queued (by exact ⟨rfl, rfl⟩)
    (by exact ⟨rfl, rfl⟩) (by exact ⟨rfl, rfl⟩) event now

theorem decideLocked_refines {warrantId : String} {approve : Bool} {warrantSha256 actor : String}
    {reason : Option String} {uuid : String} {now : Instant} :
    (decideLocked gateway warrantId approve warrantSha256 actor reason uuid now).Ensures db
      fun _ next => Refines regime (view db) (view next) := by
  simp only [decideLocked, ensures_bind]
  refine ensures_pendingControl fun control decided named pending => ?_
  simp only [ensures_lift, ensures_getIncident]
  intro document _ incident found
  exact ensures_ite (fun _ => approveLocked_refines decided pending found)
    (fun _ => rejectLocked_refines decided pending found)

end Transactions

end CrossPatch.Runtime.Refinement
