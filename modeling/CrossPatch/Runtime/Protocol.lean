import CrossPatch.Broker.Lifecycle
import CrossPatch.Runtime.Store

/-!
# The warrant protocol

What the control plane and the broker have to agree on, without documents,
timelines or clocks: the standing of each incident, the control rows, the
broker's rows, the work queue, and which warrants have had their tests projected.
The steps are those of the whole system, under a regime that limits when approvals
open, whether interrupted work is requeued, whose work is completed in the name of
another incident, and whether a verdict alone takes an incident to the gate.
-/

namespace CrossPatch.Runtime.Protocol

open CrossPatch.Broker.Store
open CrossPatch.Domain.StateMachine
open CrossPatch.Runtime.Records CrossPatch.Runtime.Store

/-- State and pending warrant of an incident. -/
structure Standing where
  state : IncidentState
  pending : Option String

structure Control where
  incident : String
  status : ControlStatus
  createdAt : Int

structure Authorization where
  incident : String
  state : WarrantState

structure Work where
  incident : String
  warrant : String
  kind : WorkKind
  status : WorkStatus

@[ext]
structure View where
  incidents : String → Option Standing
  controls : String → Option Control
  warrants : String → Option Authorization
  works : String → Option Work
  tested : String → String → Prop

namespace View

def empty : View where
  incidents _ := none
  controls _ := none
  warrants _ := none
  works _ := none
  tested _ _ := False

@[simps]
def setIncident (view : View) (incident : String) (standing : Standing) : View :=
  { view with
    incidents := fun other => if other = incident then some standing else view.incidents other }

@[simps]
def setControl (view : View) (warrant : String) (control : Control) : View :=
  { view with
    controls := fun other => if other = warrant then some control else view.controls other }

@[simps]
def setWarrant (view : View) (warrant : String) (authorization : Authorization) : View :=
  { view with
    warrants := fun other => if other = warrant then some authorization else view.warrants other }

@[simps]
def setWork (view : View) (id : String) (work : Work) : View :=
  { view with works := fun other => if other = id then some work else view.works other }

@[simps]
def markTested (view : View) (incident warrant : String) : View :=
  { view with
    tested := fun other otherWarrant =>
      view.tested other otherWarrant ∨ (other = incident ∧ otherWarrant = warrant) }

/-- Queue a work item unless its row exists. -/
@[simps]
def enqueue (view : View) (work : Work) : View :=
  { view with
    works := fun other =>
      if other = workId work.kind work.warrant ∧ view.works other = none then some work
      else view.works other }

attribute [grind =] setIncident_incidents setIncident_controls setIncident_warrants
  setIncident_works setIncident_tested setControl_incidents setControl_controls
  setControl_warrants setControl_works setControl_tested setWarrant_incidents
  setWarrant_controls setWarrant_warrants setWarrant_works setWarrant_tested setWork_incidents
  setWork_controls setWork_warrants setWork_works setWork_tested markTested_incidents
  markTested_controls markTested_warrants markTested_works markTested_tested enqueue_incidents
  enqueue_controls enqueue_warrants enqueue_works enqueue_tested

end View

/-! ## Steps -/

/-- Moves of an incident that no warrant takes part in: the approval gate and the
terminal states are not left, no state of the warrant lifecycle is entered, and an
approved incident can only be escalated. -/
structure Moves (state next : IncidentState) : Prop where
  leaves : state ∉ [.approvalPending, .blocked, .verified, .humanEscalation]
  enters : next ∉ [.approvalPending, .approved, .executing, .testFailed, .verified]
  escalates : state = .approved → next = .humanEscalation

/-- How the gate is left without an approval. -/
inductive Releases : ControlStatus → IncidentState → Prop where
  | expired : Releases .expired .humanEscalation
  | rejected : Releases .rejected .blocked
  | revised : Releases .rejected .patching

/-- The broker's one-way lifecycle. -/
inductive Advances : WarrantState → WarrantState → Prop where
  | claimed : Advances .approved .consuming
  | rejected : Advances .approved .rejected
  | expired : Advances .approved .expired
  | finished : Advances .consuming .consumed

/-- Another control row of the incident is as recent as any. -/
def Superseded (view : View) (incident warrant : String) : Prop :=
  ∃ other control, other ≠ warrant ∧ view.controls other = some control ∧
    control.incident = incident ∧
    ∀ third row, view.controls third = some row → row.incident = incident →
      row.createdAt ≤ control.createdAt

/-- Conditions on the time of new control rows, on recovery, on the work rows that are
completed for an incident that does not own them, and on verdicts. -/
structure Regime where
  timely : View → String → Int → Prop
  requeues : Prop
  strays : View → String → Prop
  clears : Prop

inductive Step (regime : Regime) (view : View) : View → Prop where
  | opened {incident : String} (fresh : view.incidents incident = none) :
      Step regime view (view.setIncident incident ⟨.opened, none⟩)
  | moved {incident : String} {standing : Standing} {next : IncidentState}
      (found : view.incidents incident = some standing) (moves : Moves standing.state next) :
      Step regime view (view.setIncident incident ⟨next, standing.pending⟩)
  | cleared {incident : String} {standing : Standing}
      (found : view.incidents incident = some standing)
      (reviewing : standing.state = .reviewing) (clears : regime.clears) :
      Step regime view (view.setIncident incident ⟨.approvalPending, standing.pending⟩)
  | approvalOpened {incident warrant : String} {standing : Standing} {now : Int}
      (found : view.incidents incident = some standing)
      (reviewing : standing.state = .reviewing) (fresh : view.controls warrant = none)
      (timely : regime.timely view incident now) :
      Step regime view
        ((view.setControl warrant ⟨incident, .pendingApproval, now⟩).setIncident incident
          ⟨.approvalPending, some warrant⟩)
  | settled {warrant : String} {control : Control} {standing : Standing}
      {status : ControlStatus} {next : IncidentState}
      (decided : view.controls warrant = some control)
      (pending : control.status = .pendingApproval)
      (found : view.incidents control.incident = some standing)
      (releases : Releases status next) :
      Step regime view
        ((view.setControl warrant { control with status := status }).setIncident control.incident
          ⟨next, none⟩)
  | approved {warrant : String} {control : Control} {standing : Standing}
      (decided : view.controls warrant = some control)
      (pending : control.status = .pendingApproval)
      (found : view.incidents control.incident = some standing)
      (unused : view.warrants warrant = none) :
      Step regime view
        ((((view.setWarrant warrant ⟨control.incident, .approved⟩).setControl warrant
          { control with status := .approved }).setIncident control.incident
            ⟨.approved, none⟩).enqueue
              ⟨control.incident, warrant, .approvedExecution, .pending⟩)
  | brokerMoved {warrant : String} {authorization : Authorization} {next : WarrantState}
      (found : view.warrants warrant = some authorization)
      (advances : Advances authorization.state next) :
      Step regime view (view.setWarrant warrant { authorization with state := next })
  | verified {incident warrant : String} {standing : Standing} {work : Work}
      (found : view.incidents incident = some standing) (approved : standing.state = .approved)
      (finished : view.warrants warrant = some ⟨incident, .consumed⟩)
      (untested : ¬ view.tested incident warrant)
      (queued : view.works (executionWorkId warrant) = some work) :
      Step regime view
        (((view.markTested incident warrant).setIncident incident
          ⟨.verified, standing.pending⟩).setWork (executionWorkId warrant)
            { work with status := .completed })
  | testFailed {incident warrant : String} {standing : Standing} {work : Work}
      (found : view.incidents incident = some standing) (approved : standing.state = .approved)
      (finished : view.warrants warrant = some ⟨incident, .consumed⟩)
      (untested : ¬ view.tested incident warrant)
      (queued : view.works (executionWorkId warrant) = some work) :
      Step regime view
        ((((view.markTested incident warrant).setIncident incident
          ⟨.testFailed, standing.pending⟩).setWork (executionWorkId warrant)
            { work with status := .completed }).enqueue
              ⟨incident, warrant, .testRepair, .pending⟩)
  | claimed {id : String} {work : Work} {standing : Standing}
      (found : view.works id = some work) (waiting : work.status = .pending)
      (incident : view.incidents work.incident = some standing)
      (agrees : work.kind = .approvedExecution → standing.state = .approved) :
      Step regime view (view.setWork id { work with status := .running })
  | requeued {id : String} {work : Work} (found : view.works id = some work)
      (interrupted : work.status = .running) (recovers : regime.requeues) :
      Step regime view (view.setWork id { work with status := .pending })
  | released {id : String} {work : Work} {standing : Standing}
      (found : view.works id = some work)
      (incident : view.incidents work.incident = some standing)
      (idle : standing.state ∉ activeStates) :
      Step regime view (view.setWork id { work with status := .completed })
  | failed {id incident : String} {work : Work} {standing : Standing}
      (found : view.works id = some work)
      (named : view.incidents incident = some standing)
      (active : standing.state ∈ activeStates)
      (owner : work.incident = incident ∨ regime.strays view id) :
      Step regime view
        ((view.setIncident incident ⟨.humanEscalation, standing.pending⟩).setWork id
          { work with status := .completed })
  | repairCompleted {warrant incident : String} {work : Work} {standing : Standing}
      (found : view.works (repairWorkId warrant) = some work)
      (named : view.incidents incident = some standing)
      (outcome : standing.state = .humanEscalation ∨ standing.state = .blocked ∨
        Superseded view incident warrant)
      (owner : work.incident = incident ∨ regime.strays view (repairWorkId warrant)) :
      Step regime view (view.setWork (repairWorkId warrant) { work with status := .completed })

abbrev Steps (regime : Regime) : View → View → Prop :=
  Relation.ReflTransGen (Step regime)

/-- What every step preserves, sequences of steps preserve. -/
theorem Steps.preserve {regime : Regime} {Inv : View → Prop}
    (step : ∀ {before after}, Step regime before after → Inv before → Inv after)
    {before after : View} (steps : Steps regime before after) (initial : Inv before) :
    Inv after := by
  induction steps with
  | refl => exact initial
  | tail _ last ih => exact step last ih

/-! ## Work identifiers -/

theorem workId_injective {left right : WorkKind} {warrant other : String}
    (same : workId left warrant = workId right other) : left = right ∧ warrant = other := by
  have lists := congrArg String.toList same
  cases left <;> cases right <;>
    simp [workId, executionWorkId, repairWorkId, String.toList_append, String.toList_inj] at lists ⊢
  all_goals exact lists

/-! ## The approval gate -/

/-- A pending control row is the pending warrant of its incident, which is at the gate,
and no other incident has one. -/
structure Gated (view : View) : Prop where
  incidentOf : ∀ {warrant control}, view.controls warrant = some control →
    control.status = .pendingApproval →
      ∃ standing, view.incidents control.incident = some standing ∧
        standing.state = .approvalPending ∧ standing.pending = some warrant
  released : ∀ {incident standing}, view.incidents incident = some standing →
    standing.state ≠ .approvalPending → standing.pending = none

namespace Gated

variable {before after : View}

/-- The gate is read off incidents and control rows alone. -/
theorem congr (gated : Gated before) (incidents : after.incidents = before.incidents)
    (controls : after.controls = before.controls) : Gated after := by
  obtain ⟨incidentOf, released⟩ := gated
  constructor
  · rwa [incidents, controls]
  · rwa [incidents]

/-- An incident may move freely away from the gate. -/
theorem move (gated : Gated before) {incident : String} {standing : Standing}
    {next : IncidentState} (found : before.incidents incident = some standing)
    (away : standing.state ≠ .approvalPending) :
    Gated (before.setIncident incident ⟨next, standing.pending⟩) := by
  obtain ⟨incidentOf, released⟩ := gated
  constructor <;> grind

/-- Whatever a decision does, the decided row and the gate of its incident close. -/
theorem close (gated : Gated before) {warrant : String} {control : Control}
    {status : ControlStatus} {next : IncidentState}
    (decided : before.controls warrant = some control)
    (pending : control.status = .pendingApproval) (closes : status ≠ .pendingApproval) :
    Gated ((before.setControl warrant { control with status := status }).setIncident
      control.incident ⟨next, none⟩) := by
  obtain ⟨current, present, _, only⟩ := gated.incidentOf decided pending
  refine ⟨?_, ?_⟩
  · have incidentOf := @gated.incidentOf
    grind
  · have released := @gated.released
    grind

theorem step {regime : Regime} (step : Step regime before after)
    (gated : Gated before) : Gated after := by
  cases step with
  | opened fresh =>
      obtain ⟨incidentOf, released⟩ := gated
      constructor <;> grind
  | moved found moves =>
      have leaves := moves.leaves
      exact gated.move found (by grind)
  | cleared found reviewing clears => exact gated.move found (by simp [reviewing])
  | approvalOpened found reviewing fresh timely =>
      refine ⟨?_, ?_⟩
      · have incidentOf := @gated.incidentOf
        grind
      · have released := @gated.released
        grind
  | settled decided pending found releases =>
      cases releases <;> exact gated.close decided pending (by decide)
  | approved decided pending found unused =>
      exact (gated.close decided pending (by decide)).congr rfl rfl
  | brokerMoved found advances => exact gated.congr rfl rfl
  | verified found approved finished untested queued =>
      exact (gated.move found (by simp [approved])).congr rfl rfl
  | testFailed found approved finished untested queued =>
      exact (gated.move found (by simp [approved])).congr rfl rfl
  | claimed found waiting incident agrees => exact gated.congr rfl rfl
  | requeued found interrupted recovers => exact gated.congr rfl rfl
  | released found incident idle => exact gated.congr rfl rfl
  | failed found named active owner =>
      refine (gated.move named ?_).congr rfl rfl
      intro atGate
      rw [atGate] at active
      exact absurd active (by decide)
  | repairCompleted found named outcome owner => exact gated.congr rfl rfl

end Gated

/-- An incident at the gate waits for the pending control row that it names. -/
def Awaited (view : View) : Prop :=
  ∀ incident standing, view.incidents incident = some standing →
    standing.state = .approvalPending →
      ∃ warrant control, standing.pending = some warrant ∧
        view.controls warrant = some control ∧ control.incident = incident ∧
        control.status = .pendingApproval

namespace Awaited

variable {before after : View}

theorem congr (awaited : Awaited before) (incidents : after.incidents = before.incidents)
    (controls : after.controls = before.controls) : Awaited after := by
  unfold Awaited
  rw [incidents, controls]
  exact awaited

theorem move (awaited : Awaited before) {incident : String} {next : Standing}
    (stays : next.state ≠ .approvalPending) : Awaited (before.setIncident incident next) := by
  intro other standing seen atGate
  have differs : other ≠ incident := by grind
  exact awaited other standing (by simpa [differs] using seen) atGate

/-- A write to a control row does not concern the gates of other incidents. -/
theorem other (awaited : Awaited before) {incident other warrant : String}
    {control : Control} {next standing : Standing} (differs : other ≠ incident)
    (owned : ∀ current, before.controls warrant = some current → current.incident = incident)
    (seen : (before.setIncident incident next).incidents other = some standing)
    (atGate : standing.state = .approvalPending) :
    ∃ otherWarrant otherControl, standing.pending = some otherWarrant ∧
      (before.setControl warrant control).controls otherWarrant = some otherControl ∧
      otherControl.incident = other ∧ otherControl.status = .pendingApproval := by
  obtain ⟨otherWarrant, otherControl, named, row, rest⟩ :=
    awaited other standing (by simpa [differs] using seen) atGate
  have untouched : otherWarrant ≠ warrant := by
    rintro rfl
    exact differs (rest.1 ▸ owned _ row)
  exact ⟨otherWarrant, otherControl, named, by simpa [untouched] using row, rest⟩

/-- A decision takes its incident away from the gate. -/
theorem close (awaited : Awaited before) {warrant : String} {control : Control}
    {status : ControlStatus} {next : IncidentState}
    (decided : before.controls warrant = some control) (leaves : next ≠ .approvalPending) :
    Awaited ((before.setControl warrant { control with status := status }).setIncident
      control.incident ⟨next, none⟩) := by
  intro other standing seen atGate
  have differs : other ≠ control.incident := by grind
  refine awaited.other differs ?_ seen atGate
  grind

/-- Where no verdict alone opens the gate, only `open_approval` does. -/
theorem step {regime : Regime} (gatekept : ¬ regime.clears) (step : Step regime before after)
    (awaited : Awaited before) : Awaited after := by
  cases step with
  | opened fresh => exact awaited.move (by decide)
  | moved found moves =>
      have enters := moves.enters
      exact awaited.move (by grind)
  | cleared found reviewing clears => exact absurd clears gatekept
  | @approvalOpened incident warrant standing now found reviewing fresh timely =>
      intro other current seen atGate
      by_cases same : other = incident
      · subst same
        rw [View.setIncident_incidents, if_pos rfl, Option.some.injEq] at seen
        subst seen
        exact ⟨warrant, ⟨other, .pendingApproval, now⟩, rfl, by simp, rfl, rfl⟩
      · refine awaited.other same ?_ seen atGate
        intro row present
        rw [fresh] at present
        cases present
  | settled decided pending found releases =>
      cases releases <;> exact awaited.close decided (by decide)
  | approved decided pending found unused =>
      exact (awaited.close decided (by decide)).congr rfl rfl
  | brokerMoved found advances => exact awaited.congr rfl rfl
  | verified found approved finished untested queued =>
      exact (awaited.move (by simp)).congr rfl rfl
  | testFailed found approved finished untested queued =>
      exact (awaited.move (by simp)).congr rfl rfl
  | claimed found waiting incident agrees => exact awaited.congr rfl rfl
  | requeued found interrupted recovers => exact awaited.congr rfl rfl
  | released found incident idle => exact awaited.congr rfl rfl
  | failed found named active owner => exact (awaited.move (by simp)).congr rfl rfl
  | repairCompleted found named outcome owner => exact awaited.congr rfl rfl

theorem empty : Awaited View.empty := by
  intro incident standing seen
  cases seen

end Awaited

/-- An escalated incident stays escalated. -/
theorem escalated_step {regime : Regime} {before after : View} (step : Step regime before after)
    (gated : Gated before) {incident : String}
    (escalated : ∃ standing, before.incidents incident = some standing ∧
      standing.state = .humanEscalation) :
    ∃ standing, after.incidents incident = some standing ∧ standing.state = .humanEscalation := by
  obtain ⟨standing, present, state⟩ := escalated
  cases step with
  | moved found moves =>
      have leaves := moves.leaves
      exact ⟨standing, by grind, state⟩
  | settled decided pending found releases =>
      obtain ⟨_, gate, atGate, _⟩ := gated.incidentOf decided pending
      exact ⟨standing, by grind, state⟩
  | approved decided pending found unused =>
      obtain ⟨_, gate, atGate, _⟩ := gated.incidentOf decided pending
      exact ⟨standing, by grind, state⟩
  | failed found named active owner =>
      have idle : standing.state ∉ activeStates := by
        rw [state]
        decide
      exact ⟨standing, by grind, state⟩
  | opened | cleared | approvalOpened | verified | testFailed => exact ⟨standing, by grind, state⟩
  | brokerMoved | claimed | requeued | released | repairCompleted =>
      exact ⟨standing, present, state⟩

/-! ## Authority behind the rows -/

/-- A control row is approved exactly when the broker has a row for it, and then
its execution is queued; work and tests belong to approved rows. -/
structure Backed (view : View) : Prop where
  controlOf : ∀ {warrant authorization}, view.warrants warrant = some authorization →
    ∃ control, view.controls warrant = some control ∧ control.status = .approved ∧
      control.incident = authorization.incident
  warrantOf : ∀ {warrant control}, view.controls warrant = some control →
    control.status = .approved → ∃ authorization, view.warrants warrant = some authorization
  workOf : ∀ {warrant control}, view.controls warrant = some control →
    control.status = .approved → ∃ work, view.works (executionWorkId warrant) = some work
  workFor : ∀ {id work}, view.works id = some work →
    id = workId work.kind work.warrant ∧
      ∃ control, view.controls work.warrant = some control ∧ control.status = .approved ∧
        control.incident = work.incident
  consumed : ∀ {incident warrant}, view.tested incident warrant →
    view.warrants warrant = some ⟨incident, .consumed⟩

namespace Backed

variable {before after : View}

/-- The standing of incidents plays no part. -/
theorem congr (backed : Backed before) (controls : after.controls = before.controls)
    (warrants : after.warrants = before.warrants) (works : after.works = before.works)
    (tested : after.tested = before.tested) : Backed after := by
  obtain ⟨controlOf, warrantOf, workOf, workFor, consumed⟩ := backed
  constructor
  · rwa [warrants, controls]
  · rwa [warrants, controls]
  · rwa [works, controls]
  · rwa [works, controls]
  · rwa [tested, warrants]

/-- Work rows change their status only. -/
theorem setStatus (backed : Backed before) {id : String} {work : Work}
    (found : before.works id = some work) (status : WorkStatus) :
    Backed (before.setWork id { work with status := status }) := by
  obtain ⟨controlOf, warrantOf, workOf, workFor, consumed⟩ := backed
  constructor <;> grind

theorem enqueue (backed : Backed before) {work : Work} {control : Control}
    (found : before.controls work.warrant = some control) (approved : control.status = .approved)
    (owner : control.incident = work.incident) : Backed (before.enqueue work) := by
  obtain ⟨controlOf, warrantOf, workOf, workFor, consumed⟩ := backed
  constructor <;> grind

/-- A row that is not approved may come and go. -/
theorem setControl (backed : Backed before) {warrant : String} {control : Control}
    (unapproved : ∀ current, before.controls warrant = some current → current.status ≠ .approved)
    (stays : control.status ≠ .approved) : Backed (before.setControl warrant control) := by
  obtain ⟨controlOf, warrantOf, workOf, workFor, consumed⟩ := backed
  constructor <;> grind

theorem advance (backed : Backed before) {warrant : String} {authorization : Authorization}
    {next : WarrantState} (found : before.warrants warrant = some authorization)
    (advances : Advances authorization.state next) :
    Backed (before.setWarrant warrant { authorization with state := next }) := by
  have unfinished : authorization.state ≠ .consumed := by
    intro finished
    rw [finished] at advances
    cases advances
  obtain ⟨controlOf, warrantOf, workOf, workFor, consumed⟩ := backed
  constructor <;> grind

theorem markTested (backed : Backed before) {incident warrant : String}
    (finished : before.warrants warrant = some ⟨incident, .consumed⟩) :
    Backed (before.markTested incident warrant) := by
  obtain ⟨controlOf, warrantOf, workOf, workFor, consumed⟩ := backed
  constructor <;> grind

/-- The writes of an approval, with the work that it queues. -/
theorem authorize (backed : Backed before) {warrant : String} {control : Control}
    (decided : before.controls warrant = some control) (unused : before.warrants warrant = none) :
    Backed (((before.setWarrant warrant ⟨control.incident, .approved⟩).setControl warrant
      { control with status := .approved }).enqueue
        ⟨control.incident, warrant, .approvedExecution, .pending⟩) := by
  obtain ⟨controlOf, warrantOf, workOf, workFor, consumed⟩ := backed
  constructor
  · intro other authorization present
    by_cases same : other = warrant
    · exact ⟨{ control with status := .approved }, by simp [same], rfl, by grind⟩
    · obtain ⟨row, found, rest⟩ := controlOf (by simpa [same] using present)
      exact ⟨row, by simpa [same] using found, rest⟩
  · intro other row present status
    by_cases same : other = warrant
    · exact ⟨⟨control.incident, .approved⟩, by simp [same]⟩
    · obtain ⟨authorization, found⟩ := warrantOf (by simpa [same] using present) status
      exact ⟨authorization, by simpa [same] using found⟩
  · intro other row present status
    by_cases same : other = warrant
    · subst same
      by_cases absent : before.works (executionWorkId other) = none
      · exact ⟨_, by simp [workId, absent]; rfl⟩
      · obtain ⟨work, queued⟩ := Option.ne_none_iff_exists'.mp absent
        exact ⟨work, by simp [queued]⟩
    · obtain ⟨work, queued⟩ := workOf (by simpa [same] using present) status
      exact ⟨work, by simp [queued]⟩
  · intro id work present
    by_cases added : id = workId .approvedExecution warrant ∧ before.works id = none
    · simp only [View.enqueue_works, View.setControl_works, View.setWarrant_works, if_pos added,
        Option.some.injEq] at present
      subst present
      exact ⟨added.1, { control with status := .approved }, by simp, rfl, rfl⟩
    · simp only [View.enqueue_works, View.setControl_works, View.setWarrant_works, if_neg added]
        at present
      obtain ⟨named, row, found, status, owner⟩ := workFor present
      exact ⟨named, by grind⟩
  · grind

theorem step {regime : Regime} (step : Step regime before after)
    (backed : Backed before) : Backed after := by
  cases step with
  | opened fresh => exact backed.congr rfl rfl rfl rfl
  | moved found moves => exact backed.congr rfl rfl rfl rfl
  | cleared found reviewing clears => exact backed.congr rfl rfl rfl rfl
  | approvalOpened found reviewing fresh timely =>
      refine (backed.setControl ?_ (by simp)).congr rfl rfl rfl rfl
      intro current present
      rw [fresh] at present
      cases present
  | settled decided pending found releases =>
      refine (backed.setControl ?_ ?_).congr rfl rfl rfl rfl
      · grind
      · cases releases <;> simp
  | approved decided pending found unused =>
      exact (backed.authorize decided unused).congr rfl rfl rfl rfl
  | brokerMoved found advances => exact backed.advance found advances
  | verified found approved finished untested queued =>
      exact ((backed.markTested finished).setStatus queued .completed).congr rfl rfl rfl rfl
  | testFailed found approved finished untested queued =>
      obtain ⟨control, row, status, owner⟩ := backed.controlOf finished
      have recorded := (backed.markTested finished).setStatus queued .completed
      exact (@enqueue _ recorded ⟨_, _, .testRepair, .pending⟩ control row status owner).congr
        rfl rfl rfl rfl
  | claimed found waiting incident agrees => exact backed.setStatus found _
  | requeued found interrupted recovers => exact backed.setStatus found _
  | released found incident idle => exact backed.setStatus found _
  | failed found named active owner => exact (backed.setStatus found _).congr rfl rfl rfl rfl
  | repairCompleted found named outcome owner => exact backed.setStatus found _

end Backed

/-! ## Outstanding warrants -/

/-- An approved warrant whose tests have not been projected. -/
def Outstanding (view : View) (incident warrant : String) : Prop :=
  ∃ control, view.controls warrant = some control ∧ control.status = .approved ∧
    control.incident = incident ∧ ¬ view.tested incident warrant

/-- An incident has at most one outstanding warrant, which it acquires with its
approval and loses with the projection of the tests, unless it was escalated. -/
structure Exclusive (view : View) : Prop where
  unique : ∀ {incident warrant other}, Outstanding view incident warrant →
    Outstanding view incident other → warrant = other
  stateOf : ∀ {incident warrant}, Outstanding view incident warrant →
    ∃ standing, view.incidents incident = some standing ∧
      (standing.state = .approved ∨ standing.state = .humanEscalation)
  warrantOf : ∀ {incident standing}, view.incidents incident = some standing →
    standing.state = .approved → ∃ warrant, Outstanding view incident warrant

section Outstanding

variable {view : View} {incident warrant other : String} {control : Control}

theorem outstanding_setControl
    (unapproved : ∀ current, view.controls other = some current → current.status ≠ .approved)
    (stays : control.status ≠ .approved) :
    Outstanding (view.setControl other control) incident warrant ↔
      Outstanding view incident warrant := by
  unfold Outstanding
  by_cases same : warrant = other
  · subst same
    constructor
    · rintro ⟨row, present, status, _⟩
      rw [View.setControl_controls, if_pos rfl, Option.some.injEq] at present
      exact absurd (present ▸ status) stays
    · rintro ⟨row, present, status, _⟩
      exact absurd status (unapproved row present)
  · simp [same]

theorem outstanding_markTested {tested : String} :
    Outstanding (view.markTested tested other) incident warrant ↔
      Outstanding view incident warrant ∧ ¬ (incident = tested ∧ warrant = other) := by
  unfold Outstanding
  grind

/-- A new approval is outstanding, as its tests cannot have been projected. -/
theorem outstanding_approve (backed : Backed view)
    (decided : view.controls other = some control) (pending : control.status = .pendingApproval)
    (unused : view.warrants other = none) :
    Outstanding (view.setControl other { control with status := .approved }) incident warrant ↔
      Outstanding view incident warrant ∨ (incident = control.incident ∧ warrant = other) := by
  have untested : ¬ view.tested incident other := by
    intro tested
    rw [backed.consumed tested] at unused
    cases unused
  unfold Outstanding
  grind

end Outstanding

namespace Exclusive

variable {before after : View}

/-- Steps that neither approve nor project keep the outstanding warrants; they must
not enter `APPROVED`, and from there or from escalation only escalate. -/
theorem carry (exclusive : Exclusive before)
    (same : ∀ incident warrant, Outstanding after incident warrant ↔
      Outstanding before incident warrant)
    (stays : ∀ {incident standing}, before.incidents incident = some standing →
      (standing.state = .approved ∨ standing.state = .humanEscalation) →
        ∃ next, after.incidents incident = some next ∧
          (next.state = .approved ∨ next.state = .humanEscalation))
    (came : ∀ {incident standing}, after.incidents incident = some standing →
      standing.state = .approved →
        ∃ earlier, before.incidents incident = some earlier ∧ earlier.state = .approved) :
    Exclusive after := by
  constructor
  · intro incident warrant other first second
    exact exclusive.unique ((same _ _).mp first) ((same _ _).mp second)
  · intro incident warrant outstanding
    obtain ⟨standing, found, state⟩ := exclusive.stateOf ((same _ _).mp outstanding)
    exact stays found state
  · intro incident standing found approved
    obtain ⟨earlier, present, state⟩ := came found approved
    obtain ⟨warrant, outstanding⟩ := exclusive.warrantOf present state
    exact ⟨warrant, (same _ _).mpr outstanding⟩

/-- Steps that leave incidents, control rows and tests alone. -/
theorem congr (exclusive : Exclusive before) (incidents : after.incidents = before.incidents)
    (controls : after.controls = before.controls) (tested : after.tested = before.tested) :
    Exclusive after := by
  refine exclusive.carry ?_ ?_ ?_
  · intro incident warrant
    unfold Outstanding
    rw [controls, tested]
  · intro incident standing found state
    exact ⟨standing, incidents ▸ found, state⟩
  · intro incident standing found state
    exact ⟨standing, incidents ▸ found, state⟩

/-- A move of one incident among states other than `APPROVED`, or out of it into
escalation. -/
theorem move (exclusive : Exclusive before) {incident : String} {next : Standing}
    (enters : next.state ≠ .approved)
    (escalates : ∀ standing, before.incidents incident = some standing →
      (standing.state = .approved ∨ standing.state = .humanEscalation) →
        next.state = .humanEscalation) :
    Exclusive (before.setIncident incident next) := by
  refine exclusive.carry (fun _ _ => Iff.rfl) ?_ ?_
  · grind
  · grind

theorem setControl (exclusive : Exclusive before) {warrant : String} {control : Control}
    (unapproved : ∀ current, before.controls warrant = some current → current.status ≠ .approved)
    (stays : control.status ≠ .approved) : Exclusive (before.setControl warrant control) := by
  refine exclusive.carry ?_ ?_ ?_
  · intro _ _
    exact outstanding_setControl unapproved stays
  · intro incident standing found state
    exact ⟨standing, found, state⟩
  · intro incident standing found state
    exact ⟨standing, found, state⟩

/-- The projection of the tests retires the one outstanding warrant. -/
theorem project (exclusive : Exclusive before) {incident warrant : String} {next : Standing}
    (outstanding : Outstanding before incident warrant) (leaves : next.state ≠ .approved) :
    Exclusive ((before.markTested incident warrant).setIncident incident next) := by
  have retired : ∀ other, ¬ Outstanding (before.markTested incident warrant) incident other := by
    intro other current
    obtain ⟨earlier, differs⟩ := outstanding_markTested.mp current
    exact differs ⟨rfl, exclusive.unique earlier outstanding⟩
  have others : ∀ {other third},
      Outstanding ((before.markTested incident warrant).setIncident incident next) other third →
        other ≠ incident ∧ Outstanding before other third := by
    intro other third current
    have marked : Outstanding (before.markTested incident warrant) other third := current
    refine ⟨?_, (outstanding_markTested.mp marked).1⟩
    rintro rfl
    exact retired third marked
  constructor
  · intro other first second inFirst inSecond
    exact exclusive.unique (others inFirst).2 (others inSecond).2
  · intro other third current
    obtain ⟨differs, earlier⟩ := others current
    obtain ⟨standing, found, state⟩ := exclusive.stateOf earlier
    exact ⟨standing, by simpa [differs] using found, state⟩
  · intro other standing found approved
    have differs : other ≠ incident := by grind
    obtain ⟨third, earlier⟩ := exclusive.warrantOf (by simpa [differs] using found) approved
    exact ⟨third, outstanding_markTested.mpr ⟨earlier, fun same => differs same.1⟩⟩

/-- An approval is made at the gate, where nothing is outstanding. -/
theorem approve (exclusive : Exclusive before) (gated : Gated before) (backed : Backed before)
    {warrant : String} {control : Control} (decided : before.controls warrant = some control)
    (pending : control.status = .pendingApproval) (unused : before.warrants warrant = none) :
    Exclusive ((before.setControl warrant { control with status := .approved }).setIncident
      control.incident ⟨.approved, none⟩) := by
  obtain ⟨standing, found, atGate, _⟩ := gated.incidentOf decided pending
  have nothing : ∀ other, ¬ Outstanding before control.incident other := by
    intro other outstanding
    obtain ⟨current, present, state⟩ := exclusive.stateOf outstanding
    grind
  have cases : ∀ {other third},
      Outstanding (before.setControl warrant { control with status := .approved }) other third →
        Outstanding before other third ∨ (other = control.incident ∧ third = warrant) :=
    fun current => (outstanding_approve backed decided pending unused).mp current
  constructor
  · intro other first second inFirst inSecond
    rcases cases inFirst with earlier | ⟨rfl, rfl⟩
    · rcases cases inSecond with later | ⟨rfl, rfl⟩
      · exact exclusive.unique earlier later
      · exact absurd earlier (nothing first)
    · rcases cases inSecond with later | ⟨_, rfl⟩
      · exact absurd later (nothing second)
      · rfl
  · intro other third current
    rcases cases current with earlier | ⟨rfl, rfl⟩
    · have differs : other ≠ control.incident := by
        rintro rfl
        exact nothing third earlier
      obtain ⟨present, seen, state⟩ := exclusive.stateOf earlier
      exact ⟨present, by simpa [differs] using seen, state⟩
    · exact ⟨⟨.approved, none⟩, by simp, .inl rfl⟩
  · intro other present seen approved
    by_cases same : other = control.incident
    · exact ⟨warrant, (outstanding_approve backed decided pending unused).mpr (.inr ⟨same, rfl⟩)⟩
    · obtain ⟨third, earlier⟩ := exclusive.warrantOf (by simpa [same] using seen) approved
      exact ⟨third, (outstanding_approve backed decided pending unused).mpr (.inl earlier)⟩

end Exclusive

/-! ## Coherence -/

structure Coherent (view : View) : Prop where
  gated : Gated view
  backed : Backed view
  exclusive : Exclusive view

namespace Coherent

variable {before after : View}

/-- A broker row that is not yet consumed belongs to an outstanding warrant. -/
theorem outstanding (coherent : Coherent before) {warrant : String}
    {authorization : Authorization} (found : before.warrants warrant = some authorization)
    (untested : ¬ before.tested authorization.incident warrant) :
    Outstanding before authorization.incident warrant := by
  obtain ⟨control, row, status, owner⟩ := coherent.backed.controlOf found
  exact ⟨control, row, status, owner, untested⟩

theorem exclusive_step {regime : Regime} (step : Step regime before after)
    (coherent : Coherent before) : Exclusive after := by
  have exclusive := coherent.exclusive
  cases step with
  | opened fresh => exact exclusive.move (by simp) (by grind)
  | moved found moves =>
      obtain ⟨leaves, enters, escalates⟩ := moves
      exact exclusive.move (by grind) (by grind)
  | cleared found reviewing clears => exact exclusive.move (by simp) (by grind)
  | approvalOpened found reviewing fresh timely =>
      refine (exclusive.setControl ?_ ?_).move ?_ ?_ <;> grind
  | settled decided pending found releases =>
      obtain ⟨standing, present, atGate, _⟩ := coherent.gated.incidentOf decided pending
      cases releases <;> refine (exclusive.setControl ?_ ?_).move ?_ ?_ <;> grind
  | approved decided pending found unused =>
      exact (exclusive.approve coherent.gated coherent.backed decided pending unused).congr
        rfl rfl rfl
  | brokerMoved found advances => exact exclusive.congr rfl rfl rfl
  | verified found approved finished untested queued =>
      exact (exclusive.project (coherent.outstanding finished untested) (by simp)).congr
        rfl rfl rfl
  | testFailed found approved finished untested queued =>
      exact (exclusive.project (coherent.outstanding finished untested) (by simp)).congr
        rfl rfl rfl
  | claimed found waiting incident agrees => exact exclusive.congr rfl rfl rfl
  | requeued found interrupted recovers => exact exclusive.congr rfl rfl rfl
  | released found incident idle => exact exclusive.congr rfl rfl rfl
  | failed found named active owner =>
      exact (exclusive.move (by simp) (fun _ _ _ => rfl)).congr rfl rfl rfl
  | repairCompleted found named outcome owner => exact exclusive.congr rfl rfl rfl

theorem step {regime : Regime} (step : Step regime before after)
    (coherent : Coherent before) : Coherent after :=
  ⟨coherent.gated.step step, coherent.backed.step step, coherent.exclusive_step step⟩

theorem empty : Coherent View.empty where
  gated := by constructor <;> simp [View.empty]
  backed := by constructor <;> simp [View.empty]
  exclusive := by constructor <;> simp [View.empty, Outstanding]

/-- Broker rows that are not finished belong to outstanding warrants. -/
theorem outstanding_of_live (coherent : Coherent before) {warrant : String}
    {authorization : Authorization} (found : before.warrants warrant = some authorization)
    (live : authorization.state = .approved ∨ authorization.state = .consuming) :
    Outstanding before authorization.incident warrant := by
  refine coherent.outstanding found fun tested => ?_
  rw [coherent.backed.consumed tested] at found
  grind

/-- Two live broker rows of one incident are the same row. -/
theorem live_unique (coherent : Coherent before) {warrant other : String}
    {first second : Authorization} (found : before.warrants warrant = some first)
    (seen : before.warrants other = some second) (same : first.incident = second.incident)
    (live : first.state = .approved ∨ first.state = .consuming)
    (alive : second.state = .approved ∨ second.state = .consuming) : warrant = other := by
  have inFirst := coherent.outstanding_of_live found live
  have inSecond := coherent.outstanding_of_live seen alive
  exact coherent.exclusive.unique inFirst (same ▸ inSecond)

end Coherent

end CrossPatch.Runtime.Protocol
