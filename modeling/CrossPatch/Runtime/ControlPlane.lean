import CrossPatch.Library.Runs
import CrossPatch.Runtime.QueueRefinement

/-!
# The combined control plane and broker

The whole system as a machine whose actions are the transactions of the runtime
store, of the authority gateway and of the mutation broker, in any order and with
any arguments that the callers promise.  A transaction that raises is rolled back,
and a crash falls between two actions.
-/

namespace CrossPatch.Runtime.ControlPlane

open CrossPatch.Broker.Store
open CrossPatch.Domain.Failure CrossPatch.Domain.Seats CrossPatch.Domain.StateMachine
open CrossPatch.Evidence.Views
open CrossPatch.Library CrossPatch.Library.Calendar CrossPatch.Library.Runs
open CrossPatch.Runtime.Authority CrossPatch.Runtime.BrokerResults CrossPatch.Runtime.Protocol
open CrossPatch.Runtime.QueueRefinement CrossPatch.Runtime.Records CrossPatch.Runtime.Refinement
open CrossPatch.Runtime.Staffing CrossPatch.Runtime.Store

/-- What the system is configured with. -/
structure Plant where
  gateway : Gateway
  stopwatch : Stopwatch
  validator : ClaimValidator

/-- The two transactions of `decide_warrant` are two actions. -/
inductive Action where
  | createIncident (input : NewIncident) (uuid : String) (now : Instant)
  | appendEvent (incidentId : String) (type : EventType) (actor : String) (payload : Payload)
      (published : Bool) (uuid : String) (now : Instant)
  | recordEvidence (envelope : UntrustedEvidenceEnvelope) (evidenceId : String)
      (published : Bool) (now : Instant)
  | prepareSeat (incidentId : String) (seat : Seat) (phase : String) (uuids : Nat → String)
      (clock : Nat → Instant)
  | recordSeatOutput (incidentId : String) (seat : Seat) (effort : Effort) (phase : String)
      (output : SeatOutput) (escalationCount : Nat) (uuids : Nat → String) (now : Instant)
  | failClosedAbstain (incidentId reason : String) (failureCode : Option String)
      (uuids : Nat → String) (now : Instant)
  | recordVerdict (incidentId : String) (output : MagistrateOutput) (uuids : Nat → String)
      (now : Instant)
  | rejectDuplicateRetry (incidentId : String) (seat : Seat) (effort : Effort) (phase : String)
      (output : SeatOutput) (reason : String) (uuids : Nat → String) (now : Instant)
  | openApproval (incidentId : String) (output : MagistrateOutput)
      (seatOutputs : Seat → Option SeatOutput) (uuids : Nat → String) (now : Instant)
  | expireWarrantIfNeeded (warrantId warrantSha256 actor uuid : String) (now : Instant)
  | decideLocked (warrantId : String) (approve : Bool) (warrantSha256 actor : String)
      (reason : Option String) (uuid : String) (now : Instant)
  | requestRevision (warrantId warrantSha256 : String) (guidance : UntrustedEvidenceEnvelope)
      (actor uuid : String) (now : Instant)
  | claimRuntimeWork (id ownerId : String) (now : Instant)
  | failRuntimeWork (id operation failureOutcome uuid : String) (now : Instant)
  | completeRepairWork (incidentId warrantId : String) (now : Instant)
  | requeueInterruptedRuntimeWork (now : Instant)
  | failClosedInterruptedIncidents (uuids : Nat → String) (now : Instant)
  | projectBrokerResult (incidentId warrantId evidenceId : String)
      (testUuids eventUuids : Nat → String) (now : Instant)
  | recordExecutionFailure (incidentId warrantId errorCode uuid : String) (now : Instant)
  | claimWarrant (warrantId : String) (clock : Option Instant)
  | finish (warrantId : String) (result : BrokerResult) (clock : Option Instant)

/-- The claims of work rows, as the dispatcher sees them. -/
inductive Observation where
  | workClaimed (id : String)
  deriving DecidableEq

def settle {α : Type} (transaction : Tx α) (db : Database) : Database × List Observation :=
  ((transaction.commit db).2, [])

def settleClaim (id : String) (claim : Tx (Option RuntimeWorkRecord)) (db : Database) :
    Database × List Observation :=
  match claim.commit db with
  | (.ok (some _), next) => (next, [.workClaimed id])
  | (_, next) => (next, [])

section Machine

variable (plant : Plant)

def perform (db : Database) : Action → Database × List Observation
  | .createIncident input uuid now =>
      settle (createIncident plant.gateway.services input uuid now) db
  | .appendEvent incidentId type actor payload published uuid now =>
      settle
        (appendEvent plant.gateway.services incidentId type actor payload published uuid now) db
  | .recordEvidence envelope evidenceId published now =>
      settle (recordEvidence plant.gateway.services envelope evidenceId published now) db
  | .prepareSeat incidentId seat phase uuids clock =>
      settle (prepareSeat plant.gateway.services incidentId seat phase uuids clock) db
  | .recordSeatOutput incidentId seat effort phase output escalationCount uuids now =>
      settle (recordSeatOutput plant.gateway.services incidentId seat effort phase output
        escalationCount uuids now) db
  | .failClosedAbstain incidentId reason failureCode uuids now =>
      settle (failClosedAbstain plant.gateway incidentId reason failureCode uuids now) db
  | .recordVerdict incidentId output uuids now =>
      settle (recordVerdict plant.gateway incidentId output uuids now) db
  | .rejectDuplicateRetry incidentId seat effort phase output reason uuids now =>
      settle (rejectDuplicateRetry plant.gateway incidentId seat effort phase output reason uuids
        now) db
  | .openApproval incidentId output seatOutputs uuids now =>
      settle (openApproval plant.gateway incidentId output seatOutputs uuids now) db
  | .expireWarrantIfNeeded warrantId warrantSha256 actor uuid now =>
      settle (expireWarrantIfNeeded plant.gateway warrantId warrantSha256 actor uuid now) db
  | .decideLocked warrantId approve warrantSha256 actor reason uuid now =>
      settle (decideLocked plant.gateway warrantId approve warrantSha256 actor reason uuid now) db
  | .requestRevision warrantId warrantSha256 guidance actor uuid now =>
      settle (requestRevision plant.gateway warrantId warrantSha256 guidance actor uuid now) db
  | .claimRuntimeWork id ownerId now => settleClaim id (claimRuntimeWork id ownerId now) db
  | .failRuntimeWork id operation failureOutcome uuid now =>
      settle (failRuntimeWork plant.gateway.services id operation failureOutcome uuid now) db
  | .completeRepairWork incidentId warrantId now =>
      settle (completeRepairWork incidentId warrantId now) db
  | .requeueInterruptedRuntimeWork now => settle (requeueInterruptedRuntimeWork now) db
  | .failClosedInterruptedIncidents uuids now =>
      settle (failClosedInterruptedIncidents plant.gateway.services uuids now) db
  | .projectBrokerResult incidentId warrantId evidenceId testUuids eventUuids now =>
      settle (projectBrokerResult plant.gateway.services plant.stopwatch incidentId warrantId
        evidenceId testUuids eventUuids now) db
  | .recordExecutionFailure incidentId warrantId errorCode uuid now =>
      settle (recordExecutionFailure plant.gateway.services incidentId warrantId errorCode uuid
        now) db
  | .claimWarrant warrantId clock =>
      ({ db with broker := (db.broker.claimWarrant plant.gateway.services.tables
          plant.gateway.services.codec warrantId clock plant.validator).2 }, [])
  | .finish warrantId result clock =>
      ({ db with broker := (db.broker.finish warrantId result clock).2 }, [])

def machine : Machine Database Action Observation := ⟨perform plant⟩

end Machine

/-! ## Conditions on runs -/

/-- What the callers promise: events appended directly do not touch the warrant
lifecycle. -/
def Promised (_db : Database) : Action → Prop
  | .appendEvent _ type _ _ _ _ _ => isPlain type = true
  | _ => True

/-- A CLEAR verdict goes through `open_approval`. -/
def Gatekept : Action → Prop
  | .recordVerdict _ output _ _ => output.verdict ≠ .clear
  | _ => True

/-- The incident of an unfinished work row waits for it. -/
def Wanted (db : Database) (work : RuntimeWorkRecord) : Prop :=
  work.status ≠ .completed ∧ ∃ incident, db.incidents.find work.incidentId = some incident ∧
    ((work.kind = .approvedExecution ∧ incident.state = .approved) ∨
      (work.kind = .testRepair ∧ incident.state = .testFailed ∧
        repairHasDurableOutcome db incident work.warrantId = false))

/-- A call that passes the checks on its incident and completes a work row that another
incident waits for. -/
def Strays (db : Database) : Action → Prop
  | .completeRepairWork incidentId warrantId _ =>
      ∃ incident work, db.incidents.find incidentId = some incident ∧
        repairHasDurableOutcome db incident warrantId = true ∧
        db.works.find (repairWorkId warrantId) = some work ∧
        work.incidentId ≠ incidentId ∧ Wanted db work
  | .recordExecutionFailure incidentId warrantId _ _ _ =>
      ∃ incident work, db.incidents.find incidentId = some incident ∧
        incident.state ∈ [.approved, .executing] ∧
        db.works.find (executionWorkId warrantId) = some work ∧
        work.incidentId ≠ incidentId ∧ Wanted db work
  | _ => False

/-- Control rows of one incident are created at increasing times. -/
def Increases (db : Database) : Action → Prop
  | .openApproval incidentId _ _ _ now =>
      ∀ control ∈ db.controlsOf incidentId, control.createdAt < now
  | _ => True

def Requeues : Action → Prop
  | .requeueInterruptedRuntimeWork _ => True
  | _ => False

/-- The action respects the regime. -/
def Admits (regime : Regime) (db : Database) : Action → Prop
  | .openApproval incidentId _ _ _ now => regime.timely (view db) incidentId now.micros
  | .requeueInterruptedRuntimeWork _ => regime.requeues
  | .recordVerdict _ output _ _ => output.verdict = .clear → regime.clears
  | .completeRepairWork incidentId warrantId _ =>
      ∀ incident work, db.incidents.find incidentId = some incident →
        repairHasDurableOutcome db incident warrantId = true →
        db.works.find (repairWorkId warrantId) = some work →
          work.incidentId = incidentId ∨ regime.strays (view db) (repairWorkId warrantId)
  | .recordExecutionFailure incidentId warrantId _ _ _ =>
      ∀ incident work, db.incidents.find incidentId = some incident →
        incident.state ∈ [.approved, .executing] →
        db.works.find (executionWorkId warrantId) = some work →
          work.incidentId = incidentId ∨ regime.strays (view db) (executionWorkId warrantId)
  | _ => True

/-! ## Every action refines the protocol -/

theorem settle_refines {α : Type} {regime : Regime} {transaction : Tx α} {db : Database}
    (ensures : transaction.Ensures db fun _ next => Refines regime (view db) (view next)) :
    Refines regime (view db) (view (settle transaction db).1) :=
  Transaction.commit_of_ensures ensures (Refines.refl _)

theorem settleClaim_fst (id : String) (claim : Tx (Option RuntimeWorkRecord)) (db : Database) :
    (settleClaim id claim db).1 = (claim.commit db).2 := by
  unfold settleClaim
  split
  · rename_i outcome
    rw [outcome]
  · rename_i outcome
    rw [outcome]

theorem perform_refines {plant : Plant} {regime : Regime} {db : Database} {action : Action}
    (promised : Promised db action) (admits : Admits regime db action) :
    Refines regime (view db) (view ((machine plant).next db action)) := by
  cases action with
  | createIncident => exact settle_refines createIncident_refines
  | appendEvent => exact settle_refines (appendEvent_refines promised)
  | recordEvidence => exact settle_refines recordEvidence_refines
  | prepareSeat => exact settle_refines prepareSeat_refines
  | recordSeatOutput => exact settle_refines recordSeatOutput_refines
  | failClosedAbstain => exact settle_refines failClosedAbstain_refines
  | recordVerdict => exact settle_refines (recordVerdict_refines admits)
  | rejectDuplicateRetry => exact settle_refines rejectDuplicateRetry_refines
  | openApproval => exact settle_refines (openApproval_refines admits)
  | expireWarrantIfNeeded => exact settle_refines expireWarrantIfNeeded_refines
  | decideLocked => exact settle_refines decideLocked_refines
  | requestRevision => exact settle_refines requestRevision_refines
  | claimRuntimeWork id ownerId now =>
      change Refines regime (view db) (view (settleClaim _ _ _).1)
      rw [settleClaim_fst]
      exact settle_refines claimRuntimeWork_refines
  | failRuntimeWork => exact settle_refines failRuntimeWork_refines
  | completeRepairWork => exact settle_refines (completeRepairWork_refines admits)
  | requeueInterruptedRuntimeWork =>
      exact settle_refines (requeueInterruptedRuntimeWork_refines admits)
  | failClosedInterruptedIncidents =>
      exact settle_refines failClosedInterruptedIncidents_refines
  | projectBrokerResult => exact settle_refines projectBrokerResult_refines
  | recordExecutionFailure => exact settle_refines (recordExecutionFailure_refines admits)
  | claimWarrant => exact broker_refines (claimWarrant_put _ _ _ _ _ _)
  | finish => exact broker_refines (finish_put _ _ _ _)

/-! ## Calls of several transactions -/

section Calls

variable (plant : Plant) (db : Database)

/-- A run of transactions that keep the conditions in any state. -/
def Composes (final : Database) : Prop :=
  ∃ actions, final = (machine plant).run db actions ∧
    ∀ action ∈ actions, ∀ db, Promised db action ∧ Gatekept action

theorem Composes.nothing : Composes plant db db := ⟨[], rfl, fun _ member => nomatch member⟩

variable {plant db} in
theorem Composes.then {final : Database} {action : Action} (composes : Composes plant db final)
    (keeps : ∀ db, Promised db action ∧ Gatekept action) :
    Composes plant db ((machine plant).next final action) := by
  obtain ⟨actions, rfl, kept⟩ := composes
  refine ⟨actions ++ [action], by rw [Machine.run_append, Machine.run_cons, Machine.run_nil], ?_⟩
  intro other member
  rcases List.mem_append.mp member with earlier | last
  · exact kept other earlier
  · rw [List.mem_singleton.mp last]
    exact keeps

theorem reviewEvent_plain {state : IncidentState} {type : StateEventType}
    (event : reviewEvent state = .ok (some type)) : isPlain (.state type) = true := by
  cases state <;> cases event <;> rfl

/-- A call that takes an incident into review is a run of transactions. -/
theorem beginReview_composes (incidentId uuid : String) (now : Instant) :
    Composes plant db (beginReview plant.gateway incidentId uuid now db).2 := by
  unfold beginReview
  split
  · exact .nothing plant db
  · rename_i type event
    obtain ⟨incident, _, moved⟩ := Attempt.bind_eq_ok.mp event
    exact @Composes.then plant db db
      (.appendEvent incidentId (.state type) "orchestrator" [] true uuid now) (.nothing plant db)
      fun _ => ⟨reviewEvent_plain moved, trivial⟩
  · exact .nothing plant db

theorem recordEscalation_composes (incidentId : String) (seat : Seat) (effort : Effort)
    (escalationCount : Nat) (reason message uuid : String) (now : Instant) :
    Composes plant db ((recordEscalation plant.gateway incidentId seat effort escalationCount
      reason message uuid now).commit db).2 :=
  @Composes.then plant db db (.appendEvent incidentId .reasoningEscalated seat.value
    [("seat", .str seat.value), ("effort", .str effort.value),
     ("escalation_count", .int escalationCount), ("reason", .str reason),
     ("message", .str message)] true uuid now) (.nothing plant db) fun _ => ⟨rfl, trivial⟩

/-- So is a decision, which may expire its warrant first. -/
theorem decideWarrant_composes (warrantId : String) (approve : Bool)
    (warrantSha256 actor : String) (reason : Option String) (uuids : Nat → String)
    (now : Instant) :
    Composes plant db (decideWarrant plant.gateway warrantId approve warrantSha256 actor reason
      uuids now db).2 := by
  have expired := @Composes.then plant db db
    (.expireWarrantIfNeeded warrantId warrantSha256 actor (uuids 0) now) (.nothing plant db)
    fun _ => ⟨trivial, trivial⟩
  have decided : ∀ current, Composes plant db current → Composes plant db
      ((decideLocked plant.gateway warrantId approve warrantSha256 actor reason (uuids 1)
        now).commit current).2 := fun current composes =>
    @Composes.then plant db current
      (.decideLocked warrantId approve warrantSha256 actor reason (uuids 1) now) composes
      fun _ => ⟨trivial, trivial⟩
  have next : (machine plant).next db
      (.expireWarrantIfNeeded warrantId warrantSha256 actor (uuids 0) now) =
        ((expireWarrantIfNeeded plant.gateway warrantId warrantSha256 actor (uuids 0)
          now).commit db).2 := rfl
  rw [next] at expired
  unfold decideWarrant
  split
  · split
    · rename_i outcome
      rwa [outcome] at expired
    · rename_i outcome
      rw [outcome] at expired
      exact decided _ expired
    · rename_i outcome
      rwa [outcome] at expired
  · exact decided db (.nothing plant db)

end Calls

/-! ## Reachable states -/

theorem view_empty : view Database.empty = View.empty := by
  refine View.ext ?_ ?_ ?_ ?_ ?_
  · rfl
  · rfl
  · rfl
  · rfl
  · funext incidentId warrantId
    simp [view, viewOf, View.empty, Database.empty, testsIn]

/-- No conditions at all. -/
def anyRegime : Regime := ⟨fun _ _ _ => True, True, fun _ _ => True, True⟩

theorem admits_any (db : Database) (action : Action) : Admits anyRegime db action := by
  cases action with
  | recordVerdict => exact fun _ => trivial
  | completeRepairWork => exact fun _ _ _ _ _ => .inr trivial
  | recordExecutionFailure => exact fun _ _ _ _ _ => .inr trivial
  | _ => trivial

variable {plant : Plant}

theorem coherent_step {db : Database} {action : Action} (promised : Promised db action)
    (coherent : Coherent (view db)) : Coherent (view ((machine plant).next db action)) :=
  (perform_refines promised (admits_any db action)).steps.preserve Coherent.step coherent

theorem run_coherent {actions : List Action}
    (follows : (machine plant).Follows Promised Database.empty actions) :
    Coherent (view ((machine plant).run Database.empty actions)) := by
  refine (machine plant).run_invariant_of_follows (fun db => Coherent (view db)) ?_ ?_ follows
  · intro db action promised coherent
    exact coherent_step promised coherent
  · rw [view_empty]
    exact Coherent.empty

/-- The incident has been escalated. -/
def Escalated (db : Database) (incidentId : String) : Prop :=
  ∃ incident, db.incidents.find incidentId = some incident ∧ incident.state = .humanEscalation

/-- Nothing takes an escalated incident up again. -/
theorem run_escalated {db : Database} {incidentId : String} {actions : List Action}
    (coherent : Coherent (view db)) (escalated : Escalated db incidentId)
    (follows : (machine plant).Follows Promised db actions) :
    Escalated ((machine plant).run db actions) incidentId := by
  have seen : ∀ db, Escalated db incidentId ↔ ∃ standing,
      (view db).incidents incidentId = some standing ∧ standing.state = .humanEscalation := by
    intro db
    constructor
    · rintro ⟨incident, found, state⟩
      exact ⟨standing incident, view_incident found, state⟩
    · rintro ⟨current, found, state⟩
      obtain ⟨incident, stored, rfl⟩ := Option.map_eq_some_iff.mp found
      exact ⟨incident, stored, state⟩
  refine ((machine plant).run_invariant_of_follows
    (fun db => Coherent (view db) ∧ Escalated db incidentId) ?_ ⟨coherent, escalated⟩ follows).2
  rintro db action promised ⟨coherent, escalated⟩
  rw [seen] at escalated ⊢
  refine (@Steps.preserve anyRegime (fun current => Coherent current ∧ ∃ standing,
    current.incidents incidentId = some standing ∧ standing.state = .humanEscalation) ?_ _ _
      (perform_refines promised (admits_any db action)).steps ⟨coherent, escalated⟩)
  rintro before after step ⟨coherent, escalated⟩
  exact ⟨coherent.step step, escalated_step step coherent.gated escalated⟩

/-! ## Pending warrants -/

/-- The four tables of the warrant lifecycle in step. -/
structure PendingWarrants (db : Database) : Prop where
  gate : ∀ incident ∈ db.incidents.rows, incident.state = .approvalPending ↔
    ∃ control ∈ db.controlsOf incident.id, control.status = .pendingApproval ∧
      (∀ other ∈ db.controlsOf incident.id, other.status = .pendingApproval → other = control) ∧
      incident.pendingWarrantId = some control.id
  elsewhere : ∀ incident ∈ db.incidents.rows, incident.state ≠ .approvalPending →
    (∀ control ∈ db.controlsOf incident.id, control.status ≠ .pendingApproval) ∧
      incident.pendingWarrantId = none
  approved : ∀ control ∈ db.controlWarrants.rows, control.status = .approved ↔
    ∃ record work, db.broker.warrants control.id = some record ∧
      record.incidentId = control.incidentId ∧
      db.works.find (executionWorkId control.id) = some work ∧
      work.incidentId = control.incidentId ∧ work.warrantId = control.id ∧
      work.kind = .approvedExecution
  single : ∀ {first second record other}, db.broker.warrants first = some record →
    db.broker.warrants second = some other → record.incidentId = other.incidentId →
      (record.state = .approved ∨ record.state = .consuming) →
      (other.state = .approved ∨ other.state = .consuming) → first = second

theorem mem_controlsOf {db : Database} {incidentId : String} {control : ControlWarrantRecord} :
    control ∈ db.controlsOf incidentId ↔
      db.controlWarrants.find control.id = some control ∧ control.incidentId = incidentId := by
  simp [Database.controlsOf, Table.mem_rows_iff]

section Gate

variable {db : Database} (coherent : Coherent (view db)) (awaited : Awaited (view db))

include coherent

/-- A pending control row is the pending warrant of its incident, which is at the gate. -/
theorem incident_of_pending {incident : IncidentRecord} {control : ControlWarrantRecord}
    (listed : incident ∈ db.incidents.rows) (owned : control ∈ db.controlsOf incident.id)
    (pending : control.status = .pendingApproval) :
    incident.state = .approvalPending ∧ incident.pendingWarrantId = some control.id := by
  obtain ⟨found, owner⟩ := mem_controlsOf.mp owned
  obtain ⟨current, present, atGate, named⟩ :=
    coherent.gated.incidentOf (view_control found) pending
  change (view db).incidents control.incidentId = some current at present
  rw [owner, view_incident (Table.find_of_mem listed), Option.some.injEq] at present
  subst present
  exact ⟨atGate, named⟩

omit coherent in
include awaited in
theorem pending_of_gate {incident : IncidentRecord} (listed : incident ∈ db.incidents.rows)
    (atGate : incident.state = .approvalPending) :
    ∃ control ∈ db.controlsOf incident.id, control.status = .pendingApproval ∧
      incident.pendingWarrantId = some control.id := by
  obtain ⟨warrant, row, named, present, owner, pending⟩ :=
    awaited _ _ (view_incident (Table.find_of_mem listed)) atGate
  obtain ⟨control, found, rfl⟩ := Option.map_eq_some_iff.mp present
  have isWarrant := Table.key_of_find found
  exact ⟨control, mem_controlsOf.mpr ⟨isWarrant ▸ found, owner⟩, pending, isWarrant ▸ named⟩

theorem approved_iff {control : ControlWarrantRecord}
    (found : db.controlWarrants.find control.id = some control) :
    control.status = .approved ↔
      ∃ record work, db.broker.warrants control.id = some record ∧
        record.incidentId = control.incidentId ∧
        db.works.find (executionWorkId control.id) = some work ∧
        work.incidentId = control.incidentId ∧ work.warrantId = control.id ∧
        work.kind = .approvedExecution := by
  have row := view_control found
  constructor
  · intro approved
    obtain ⟨issued, present⟩ := coherent.backed.warrantOf row approved
    obtain ⟨queued, waiting⟩ := coherent.backed.workOf row approved
    obtain ⟨record, recorded, rfl⟩ := Option.map_eq_some_iff.mp present
    obtain ⟨work, listed, rfl⟩ := Option.map_eq_some_iff.mp waiting
    obtain ⟨other, same, _, owner⟩ := coherent.backed.controlOf present
    obtain ⟨named, third, behind, _, owned⟩ := coherent.backed.workFor waiting
    obtain ⟨kind, warrant⟩ :=
      @workId_injective .approvedExecution _ control.id work.warrantId named
    change (view db).controls work.warrantId = some third at behind
    rw [← warrant, row, Option.some.injEq] at behind
    rw [row, Option.some.injEq] at same
    subst behind same
    exact ⟨record, work, recorded, owner.symm, listed, owned.symm, warrant.symm, kind.symm⟩
  · rintro ⟨record, work, recorded, _⟩
    have present : (view db).warrants control.id = some (authorization record) := by
      simp [view, viewOf, recorded]
    obtain ⟨other, same, approved, _⟩ := coherent.backed.controlOf present
    rw [row, Option.some.injEq] at same
    subst same
    exact approved

include awaited in
theorem pendingWarrants_of_coherent : PendingWarrants db where
  gate := by
    intro incident listed
    constructor
    · intro atGate
      obtain ⟨control, owned, pending, named⟩ := pending_of_gate awaited listed atGate
      refine ⟨control, owned, pending, ?_, named⟩
      intro other otherOwned otherPending
      have same := (incident_of_pending coherent listed otherOwned otherPending).2
      rw [named, Option.some.injEq] at same
      have first := (mem_controlsOf.mp owned).1
      have second := (mem_controlsOf.mp otherOwned).1
      rw [← same, first, Option.some.injEq] at second
      exact second.symm
    · rintro ⟨control, owned, pending, _⟩
      exact (incident_of_pending coherent listed owned pending).1
  elsewhere := by
    intro incident listed away
    refine ⟨?_, coherent.gated.released (view_incident (Table.find_of_mem listed)) away⟩
    intro control owned pending
    exact away (incident_of_pending coherent listed owned pending).1
  approved := by
    intro control listed
    exact approved_iff coherent (Table.find_of_mem listed)
  single := by
    intro first second record other found seen same live alive
    have inFirst : (view db).warrants first = some (authorization record) := by
      simp [view, viewOf, found]
    have inSecond : (view db).warrants second = some (authorization other) := by
      simp [view, viewOf, seen]
    exact coherent.live_unique inFirst inSecond same live alive

end Gate

/-- Nothing but `open_approval` takes an incident to the gate. -/
def gatekeptRegime : Regime := ⟨fun _ _ _ => True, True, fun _ _ => True, False⟩

theorem admits_gatekept {db : Database} {action : Action} (gatekept : Gatekept action) :
    Admits gatekeptRegime db action := by
  cases action with
  | recordVerdict => exact fun clear => absurd clear gatekept
  | completeRepairWork => exact fun _ _ _ _ _ => .inr trivial
  | recordExecutionFailure => exact fun _ _ _ _ _ => .inr trivial
  | _ => trivial

theorem run_awaited {actions : List Action}
    (follows : (machine plant).Follows (fun db action => Promised db action ∧ Gatekept action)
      Database.empty actions) :
    Awaited (view ((machine plant).run Database.empty actions)) := by
  refine (machine plant).run_invariant_of_follows (fun db => Awaited (view db)) ?_ ?_ follows
  · rintro db action ⟨promised, gatekept⟩ awaited
    exact (perform_refines promised (admits_gatekept gatekept)).steps.preserve
      (Awaited.step not_false) awaited
  · rw [view_empty]
    exact Awaited.empty

/-- While CLEAR verdicts go through `open_approval`, in every reachable state an incident
is at the approval gate exactly while one control row of it is pending, approved control
rows are those with a broker row and queued execution, and an incident has at most one
live broker row. -/
theorem pending_warrant_invariant (plant : Plant) (actions : List Action)
    (follows : (machine plant).Follows (fun db action => Promised db action ∧ Gatekept action)
      Database.empty actions) :
    PendingWarrants ((machine plant).run Database.empty actions) :=
  pendingWarrants_of_coherent (run_coherent (follows.mono fun _ _ _ both => both.1))
    (run_awaited follows)

end CrossPatch.Runtime.ControlPlane
