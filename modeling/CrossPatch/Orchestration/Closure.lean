import CrossPatch.Orchestration.Steps

/-!
# The coordinator fails closed

However the agents, the gateway and the citation authority behave, a call clears its
incident only with the warrant that the gateway returned for validated outputs, every
exception is reported as an abstention, and an approval is not opened once anything has
failed.
-/

namespace CrossPatch.Orchestration.Closure

open CrossPatch.Domain.Failure CrossPatch.Domain.Seats CrossPatch.Domain.Semantics
open CrossPatch.Domain.StateMachine hiding remandTargets
open CrossPatch.Library CrossPatch.Library.Procedure
open CrossPatch.Orchestration.Bounds CrossPatch.Orchestration.Coordinator
open CrossPatch.Orchestration.Escalation CrossPatch.Orchestration.Steps
open Relation (ReflTransGen)

section Segments

variable {World : Type} (restored : List (Seat × SeatOutput)) (incidentId : String)

/-- The last call opened an approval, after calls of which none has failed, for a
verdict and outputs that were validated.  The outputs are those at the start with the
ones that were recorded since in their place. -/
structure Approval (start : Outputs) (room next : Room World) (magistrate : MagistrateOutput)
    (outputs : Outputs) (answer : Except Fault String) : Prop where
  last : ∃ segment before, Smooth incidentId start room before segment ∧
    before.outputs = outputs ∧ next.phases = before.phases ∧
    next.calls = before.calls ++ [.openApproval incidentId magistrate outputs answer]
  clears : magistrate.verdict = .clear
  untargeted : (.magistrate, .magistrate magistrate) ∈ restored ∨ magistrate.remandTarget = none
  vouched : Vouched restored incidentId next.calls .magistrate (.magistrate magistrate)
  all : AllVouched restored incidentId next.calls outputs

/-- How the body of a call returns. -/
inductive Concluded (start : Outputs) (room next : Room World) : Option CoordinatorResult → Prop where
  | cleared (magistrate : MagistrateOutput) (outputs : Outputs) (warrantId : String)
      (approval : Approval restored incidentId start room next magistrate outputs (.ok warrantId)) :
      Concluded start room next (some ⟨.clear, outputs, some warrantId, none⟩)
  | decided (verdict : Verdict) (outputs : Outputs) (smooth : Smoothly incidentId start room next)
      (final : verdict ≠ .clear) :
      Concluded start room next (some ⟨verdict, outputs, none, none⟩)
  | cutOff (smooth : Smoothly incidentId start room next) : Concluded start room next none

/-- How it raises: before an approval is opened, or because that raises. -/
def Raised (start : Outputs) (room next : Room World) (error : Fault) : Prop :=
  Quietly incidentId error room next ∨
    ∃ magistrate outputs,
      Approval restored incidentId start room next magistrate outputs (.error error)

variable (tables : SemanticTables)

def Concludes (room : Room World) (body : Coordination World (Option CoordinatorResult)) : Prop :=
  Checked restored incidentId room → body.Meets room
    (fun result next => ReflTransGen (Step tables restored incidentId) room next ∧
      Concluded restored incidentId room.outputs room next result)
    fun error next => ReflTransGen (Step tables restored incidentId) room next ∧
      Raised restored incidentId room.outputs room next error

end Segments

section Bodies

variable {World : Type} {tables : SemanticTables} {restored : List (Seat × SeatOutput)}
variable {collaborators : Collaborators World} {incident : IncidentInput} {fuel : Nat}
variable {incidentId : String} {start : Outputs} {room next last : Room World}

theorem Smoothly.approval (smooth : Smoothly incidentId start room next)
    {magistrate : MagistrateOutput} {outputs : Outputs} {answer : Except Fault String}
    (approval : Approval restored incidentId next.outputs next last magistrate outputs answer) :
    Approval restored incidentId start room last magistrate outputs answer := by
  obtain ⟨segment, smooth⟩ := smooth
  obtain ⟨others, before, smoother, holds, phases, calls⟩ := approval.last
  exact { approval with last := ⟨_, before, smooth.trans smoother, holds, phases, calls⟩ }

theorem Concluded.smoothly (smooth : Smoothly incidentId start room next)
    {result : Option CoordinatorResult}
    (concluded : Concluded restored incidentId next.outputs next last result) :
    Concluded restored incidentId start room last result := by
  cases concluded with
  | cleared magistrate outputs warrantId approval =>
      exact .cleared magistrate outputs warrantId (Smoothly.approval smooth approval)
  | decided verdict outputs smoother final =>
      exact .decided verdict outputs (smooth.trans smoother) final
  | cutOff smoother => exact .cutOff (smooth.trans smoother)

theorem Raised.smoothly (smooth : Smoothly incidentId start room next) {error : Fault}
    (raised : Raised restored incidentId next.outputs next last error) :
    Raised restored incidentId start room last error := by
  obtain quiet | ⟨magistrate, outputs, approval⟩ := raised
  · exact .inl (smooth.quietly quiet)
  · exact .inr ⟨magistrate, outputs, Smoothly.approval smooth approval⟩

theorem Concludes.after {α : Type} {first : Coordination World α}
    {continuation : α → Coordination World (Option CoordinatorResult)}
    {Value : α → Room World → Prop} (starts : Leads tables restored incidentId room first Value)
    (continues : ∀ value middle, Value value middle →
      Concludes restored incidentId tables middle (continuation value)) :
    Concludes restored incidentId tables room (first >>= continuation) := by
  intro checked
  rw [meets_bind]
  refine (starts checked).mono (fun value middle led => ?_) fun error after led => ?_
  · obtain ⟨steps, smooth, held⟩ := led
    refine (continues value middle held (steps_checked steps checked)).mono
      (fun result after concludes => ?_) fun error after raises => ?_
    · exact ⟨steps.trans concludes.1, concludes.2.smoothly smooth⟩
    · exact ⟨steps.trans raises.1, raises.2.smoothly smooth⟩
  · exact ⟨led.1, .inl led.2⟩

theorem concludes_raise {error : Fault} (new : error.isPersisted = false) :
    Concludes restored incidentId tables room
      (raise error : Coordination World (Option CoordinatorResult)) :=
  fun _ => ⟨.refl, .inl (quietly_refl room new)⟩

/-- A verdict with a remand target is of the right type if it remands only. -/
theorem Vouched.untargeted {calls : List Call} {magistrate : MagistrateOutput}
    (vouched : Vouched restored incidentId calls .magistrate (.magistrate magistrate))
    (final : magistrate.verdict ≠ .remand) :
    (.magistrate, .magistrate magistrate) ∈ restored ∨ magistrate.remandTarget = none := by
  obtain known | ⟨typed, -⟩ := vouched
  · exact .inl known
  · refine .inr (Option.not_isSome_iff_eq_none.mp fun targeted => ?_)
    simp [checkType, SeatOutput.seat, final, targeted] at typed

theorem concludes_conclude {magistrate : MagistrateOutput}
    (vouched : Vouched restored incident.incidentId room.calls .magistrate
      (.magistrate magistrate)) :
    Concludes restored incident.incidentId tables room
      (conclude collaborators incident magistrate) := by
  intro checked
  simp only [conclude, meets_bind, meets_modify, meets_get]
  have retains := @Step.retained _ tables restored incident.incidentId room
  refine meets_ite (fun clears => ?_) (fun final => ?_)
  · simp only [meets_bind, meets_ask, meets_pure]
    have opens : ∀ answer world, Step tables restored incident.incidentId
        ({ room with retained := some room.outputs } : Room World)
        (({ room with retained := some room.outputs } : Room World).noted
          (.openApproval incident.incidentId magistrate room.outputs answer) world) :=
      fun answer world => .approval magistrate answer world vouched clears
    have approval : ∀ answer world, Approval restored incident.incidentId room.outputs room
        (({ room with retained := some room.outputs } : Room World).noted
          (.openApproval incident.incidentId magistrate room.outputs answer) world)
        magistrate room.outputs answer := by
      intro answer world
      refine ⟨⟨[], room, .refl room, rfl, rfl, rfl⟩, clears, ?_, ?_, ?_⟩
      · exact Vouched.untargeted vouched (by simp [clears])
      · exact vouched.later fun _ => List.mem_append_left _
      · exact checked.current.later fun _ => List.mem_append_left _
    refine meets_of_forall (fun warrantId world => ?_) fun error world => ?_
    · exact ⟨.head retains (.single (opens _ world)), .cleared _ _ _ (approval _ world)⟩
    · exact ⟨.head retains (.single (opens _ world)), .inr ⟨_, _, approval _ world⟩⟩
  · simp only [meets_bind, meets_ask, meets_pure]
    let note := Call.recordVerdict incident.incidentId magistrate
    refine meets_of_forall (fun value world => ?_) fun error world => ?_
    · exact ⟨.head retains (.single (.asked (note (.ok value)) world rfl rfl)),
        .decided _ _ ⟨_, @smooth_call _ _ _ _ (note (.ok value)) rfl rfl rfl rfl rfl rfl⟩ final⟩
    · exact ⟨.head retains (.single (.asked (note (.error error)) world rfl rfl)),
        .inl (@quietly_call _ _ _ _ _ (note (.error error)) rfl rfl rfl rfl)⟩

theorem concludes_resolveVerdict {magistrate : MagistrateOutput}
    (vouched : Vouched restored incident.incidentId room.calls .magistrate
      (.magistrate magistrate)) :
    Concludes restored incident.incidentId tables room
      (resolveVerdict tables collaborators incident fuel magistrate) := by
  induction fuel generalizing magistrate room with
  | zero => exact fun _ => ⟨.refl, .cutOff (.refl room)⟩
  | succ fuel continues =>
      unfold resolveVerdict
      split
      · refine .after leads_remand fun output middle reviewed => ?_
        split
        · exact continues reviewed
        · exact concludes_raise rfl
      · exact concludes_conclude vouched

theorem concludes_resolveOutput {output : Option SeatOutput}
    (vouched : ∀ known, output = some known →
      Vouched restored incident.incidentId room.calls .magistrate known) :
    Concludes restored incident.incidentId tables room
      (resolveOutput tables collaborators incident fuel output) := by
  unfold resolveOutput
  split
  · exact concludes_resolveVerdict (vouched _ rfl)
  · exact concludes_raise rfl

theorem concludes_after_run {seat : Seat} {phase : String} (judges : seat = .magistrate) :
    Concludes restored incident.incidentId tables room (do
      let magistrate ← runSeat tables collaborators incident seat phase
      resolveOutput tables collaborators incident fuel (some magistrate)) := by
  subst judges
  refine .after leads_runSeat fun output middle vouched => concludes_resolveOutput ?_
  intro known same
  cases same
  exact vouched

theorem concludes_review :
    Concludes restored incident.incidentId tables room
      (Coordinator.review tables collaborators incident fuel) := by
  refine .after leads_runInitialHandoff fun _ _ _ => ?_
  refine .after leads_runSeat fun _ _ _ => ?_
  refine .after leads_runSeat fun _ _ _ => ?_
  exact .after leads_runSeat fun _ _ _ => concludes_after_run rfl

theorem leads_beginReview :
    Leads tables restored incident.incidentId room
      (ask (.beginReview incident.incidentId) (collaborators.beginReview incident.incidentId))
      fun _ _ => True :=
  (leads_ask (by exact ⟨fun _ => rfl, fun _ => rfl, fun _ => rfl⟩)).mono fun _ _ _ => trivial

/-- The end of a revision, after Counsel's retry. -/
theorem concludes_challengedRevision :
    Concludes restored incident.incidentId tables room (do
      let _ ← runSeat tables collaborators incident .prosecutor "human-revision-challenge"
      let magistrate ← runSeat tables collaborators incident .magistrate "human-revision-review"
      resolveOutput tables collaborators incident fuel (some magistrate)) :=
  .after leads_runSeat fun _ _ _ => concludes_after_run rfl

theorem concludes_revise :
    Concludes restored incident.incidentId tables room
      (revise tables collaborators incident fuel) := by
  refine .after leads_beginReview fun _ _ _ => ?_
  exact .after leads_escalate fun _ _ _ => concludes_challengedRevision

theorem leads_repairPatch :
    Leads tables restored incident.incidentId room (repairPatch tables collaborators incident)
      fun _ _ => True := by
  refine leads_get.bind fun _ _ _ _ => ?_
  split
  · exact leads_pure trivial
  · refine leads_beginReview.bind fun _ _ _ _ => ?_
    exact leads_escalate.bind fun _ _ _ _ => leads_pure trivial

theorem leads_challengeRepair :
    Leads tables restored incident.incidentId room (challengeRepair tables collaborators incident)
      fun _ _ => True := by
  refine leads_get.bind fun _ _ _ _ => ?_
  split
  · exact leads_pure trivial
  · exact leads_runSeat.bind fun _ _ _ _ => leads_pure trivial

/-- The end of a repair, after Counsel's retry. -/
theorem concludes_challenged :
    Concludes restored incident.incidentId tables room (do
      challengeRepair tables collaborators incident
      judgeRepair tables collaborators incident fuel) := by
  refine .after leads_challengeRepair fun _ _ _ => ?_
  refine .after leads_get fun current middle same => ?_
  subst same
  split
  · intro checked
    refine concludes_resolveOutput (fun known found => ?_) checked
    exact checked.current _ (Outputs.get_mem found)
  · exact concludes_after_run rfl

theorem concludes_repair :
    Concludes restored incident.incidentId tables room
      (repair tables collaborators incident fuel) :=
  .after leads_repairPatch fun _ _ _ => concludes_challenged

end Bodies

/-! ## Calls -/

section Calls

variable {World : Type} (tables : SemanticTables) (collaborators : Collaborators World)
variable (fuel : Nat)

/-- What a call does outside of its `try`. -/
def opening : Entry → Coordination World Unit
  | .runIncident incident => do
      modify fun room => { room with outputs := .empty }
      ask (.beginReview incident.incidentId) (collaborators.beginReview incident.incidentId)
  | .resumeAfterTest _ _ => resumable
  | .resumeAfterRevision _ => resumable

/-- The body of the `try`. -/
def attempted : Entry → Coordination World (Option CoordinatorResult)
  | .runIncident incident => Coordinator.review tables collaborators incident fuel
  | .resumeAfterTest incident _ => repair tables collaborators incident fuel
  | .resumeAfterRevision incident => revise tables collaborators incident fuel

/-- The test was not passed. -/
def reviews : Entry → Bool
  | .resumeAfterTest _ testPassed => !testPassed
  | _ => true

/-- The outputs that a call starts from. -/
def startingOutputs (room : Room World) (entry : Entry) : Outputs :=
  if resumes entry then room.retained.getD .empty else .empty

variable {tables collaborators fuel}

theorem call_eq {entry : Entry} (reviewing : reviews entry = true) :
    entry.call tables collaborators fuel =
      opening collaborators entry >>= fun _ =>
        (attempted tables collaborators fuel entry).rescue
          (failClosed collaborators (incidentOf entry)) := by
  cases entry with
  | runIncident incident => exact (Procedure.bind_assoc _ _ _).symm
  | resumeAfterTest incident testPassed =>
      cases testPassed with
      | false => rfl
      | true => cases reviewing
  | resumeAfterRevision incident => rfl

variable {restored : List (Seat × SeatOutput)} {incidentId : String} {room next : Room World}

/-- The incident of a call. -/
abbrev entryId (entry : Entry) : String := (incidentOf entry).incidentId

theorem opens_resumable :
    resumable.Meets room
      (fun _ next => ReflTransGen (Step tables restored incidentId) room next ∧
        Smoothly incidentId (room.retained.getD .empty) room next ∧
          next.outputs = room.retained.getD .empty)
      fun error next => ReflTransGen (Step tables restored incidentId) room next ∧
        Quietly incidentId error room next := by
  unfold resumable
  rw [meets_bind, meets_get]
  split
  · rename_i outputs known
    refine meets_ite (fun _ => ⟨.refl, quietly_refl room rfl⟩) fun _ => ?_
    refine ⟨.single (.resumed outputs known), ⟨[], (List.append_nil _).symm,
      fun _ impossible => (by cases impossible), fun _ => ?_, fun _ _ => rfl⟩, ?_⟩
    · rw [known]
      rfl
    · rw [known]
      rfl
  · exact ⟨.refl, quietly_refl room rfl⟩

theorem opening_meets {entry : Entry} :
    (opening collaborators entry).Meets room
      (fun _ next => ReflTransGen (Step tables restored (entryId entry)) room next ∧
        Smoothly (entryId entry) (startingOutputs room entry) room next ∧
          next.outputs = startingOutputs room entry)
      fun error next => ReflTransGen (Step tables restored (entryId entry)) room next ∧
        Quietly (entryId entry) error room next := by
  cases entry with
  | runIncident incident =>
      simp only [opening, meets_bind, meets_modify, meets_ask]
      let note := Call.beginReview incident.incidentId
      have clears := @Step.cleared _ tables restored incident.incidentId room
      refine meets_of_forall (fun value world => ?_) fun error world => ?_
      · refine ⟨.tail (.single clears) (.asked (note (.ok value)) world rfl rfl), ?_, rfl⟩
        let cleared : Room World := { room with outputs := .empty }
        have called := @smooth_call _ incident.incidentId cleared
          (cleared.noted (note (.ok value)) world) (note (.ok value)) rfl rfl rfl rfl rfl rfl
        exact ⟨_, called.calls, called.good, called.outputs, called.phases⟩
      · exact ⟨.tail (.single clears) (.asked (note (.error error)) world rfl rfl),
          quietly_call rfl rfl rfl rfl⟩
  | resumeAfterTest incident testPassed => exact opens_resumable
  | resumeAfterRevision incident => exact opens_resumable

theorem concludes_attempted {entry : Entry} :
    Concludes restored (entryId entry) tables room
      (attempted tables collaborators fuel entry) := by
  cases entry with
  | runIncident incident => exact concludes_review
  | resumeAfterTest incident testPassed => exact concludes_repair
  | resumeAfterRevision incident => exact concludes_revise

/-- The exception has been reported as an abstention, unless it had been reported before it
was raised. -/
inductive Abstained (incidentId : String) (room next : Room World) : Fault → Prop where
  | reported {error : Fault} (new : error.isPersisted = false)
      (calls : next.calls =
        room.calls ++ [.failClosedAbstain incidentId (failureReason error) (.ok ())]) :
      Abstained incidentId room next error
  | known (message : String) (calls : next.calls = room.calls) :
      Abstained incidentId room next (.alreadyPersisted message)

theorem failClosed_closes {incident : IncidentInput} {error : Fault}
    (caught : error.isException = true) :
    (failClosed collaborators incident error).Meets room
      (fun result next => result = some ⟨.abstain, room.outputs, none, some (failureReason error)⟩ ∧
        Abstained incident.incidentId room next error)
      fun raised next => error.isPersisted = false ∧ next.calls =
        room.calls ++
          [.failClosedAbstain incident.incidentId (failureReason error) (.error raised)] := by
  unfold failClosed
  rw [if_pos caught]
  dsimp only
  split
  · exact ⟨rfl, .known _ rfl⟩
  · rename_i other
    have new : error.isPersisted = false := by
      cases error with
      | alreadyPersisted message => exact absurd rfl (other message)
      | _ => rfl
    simp only [meets_bind, meets_ask, meets_modify, meets_get, meets_pure]
    exact meets_of_forall (fun _ _ => ⟨rfl, .reported new rfl⟩) fun _ _ => ⟨new, rfl⟩

theorem failClosed_foreign {incident : IncidentInput} {error : Fault}
    (foreign : error.isException = false) :
    (failClosed collaborators incident error).Meets room (fun _ _ => False)
      fun raised next => raised = error ∧ next = room := by
  unfold failClosed
  rw [if_neg (by simp [foreign])]
  exact ⟨rfl, rfl⟩

/-! ## Reached rooms -/

theorem failClosed_steps {incident : IncidentInput} {error : Fault} :
    (failClosed collaborators incident error).Meets room
      (fun _ next => ReflTransGen (Step tables restored incident.incidentId) room next)
      fun _ next => ReflTransGen (Step tables restored incident.incidentId) room next := by
  unfold failClosed
  refine meets_ite (fun _ => ?_) fun _ => .refl
  dsimp only
  split
  · exact .single .retained
  · simp only [meets_bind, meets_ask, meets_modify, meets_get, meets_pure]
    refine meets_of_forall (fun _ world => ?_) fun _ world => ?_
    · exact .tail (.single (.asked _ world rfl rfl)) .retained
    · exact .single (.asked _ world rfl rfl)

theorem entry_steps {entry : Entry} (checked : Checked restored (entryId entry) room) :
    (entry.call tables collaborators fuel).Meets room
      (fun _ next => ReflTransGen (Step tables restored (entryId entry)) room next)
      fun _ next => ReflTransGen (Step tables restored (entryId entry)) room next := by
  cases reviewing : reviews entry with
  | true =>
      rw [call_eq reviewing, meets_bind]
      refine opening_meets.mono (fun _ opened led => ?_) fun _ _ led => led.1
      obtain ⟨steps, -, -⟩ := led
      rw [meets_rescue]
      refine (concludes_attempted (steps_checked steps checked)).mono
        (fun _ _ concludes => steps.trans concludes.1) fun error middle raises => ?_
      have raising := steps.trans raises.1
      exact failClosed_steps.mono (fun _ _ more => raising.trans more)
        fun _ _ more => raising.trans more
  | false =>
      cases entry with
      | runIncident incident => cases reviewing
      | resumeAfterRevision incident => cases reviewing
      | resumeAfterTest incident testPassed =>
          cases testPassed with
          | false => cases reviewing
          | true =>
              change (resumable >>= fun _ => _).Meets room _ _
              rw [meets_bind]
              exact opens_resumable.mono (fun _ _ led => led.1) fun _ _ led => led.1

theorem lifetime_steps {entries : List Entry} (own : ∀ entry ∈ entries, entryId entry = incidentId)
    (checked : Checked restored incidentId room) :
    (lifetime tables collaborators fuel entries).Meets room
      (fun _ next => ReflTransGen (Step tables restored incidentId) room next) fun _ _ => False := by
  induction entries generalizing room with
  | nil => exact .refl
  | cons entry entries continues =>
      simp only [lifetime, meets_bind, meets_attempt, meets_pure]
      have steps : ∀ middle : Room World,
          ReflTransGen (Step tables restored incidentId) room middle →
          (lifetime tables collaborators fuel entries).Meets middle
            (fun _ next => ReflTransGen (Step tables restored incidentId) room next)
            fun _ _ => False := fun middle moved =>
        (continues (fun other among => own other (List.mem_cons_of_mem _ among))
          (steps_checked moved checked)).mono (fun _ _ more => moved.trans more) fun _ _ => id
      obtain rfl := own entry List.mem_cons_self
      exact (entry_steps checked).mono (fun _ middle moved => steps middle moved)
        fun _ middle moved => steps middle moved

/-- A coordinator into which outputs may have been restored. -/
def Room.hydrated (tracker : EscalationTracker) (retained : Option Outputs)
    (phases : Seat → Option String) (world : World) : Room World where
  tracker := tracker
  outputs := .empty
  retained := retained
  phases := phases
  calls := []
  world := world

def restoredOutputs (retained : Option Outputs) : List (Seat × SeatOutput) :=
  retained.elim [] Outputs.entries

theorem checked_hydrated (tracker : EscalationTracker) (retained : Option Outputs)
    (phases : Seat → Option String) (world : World) :
    Checked (restoredOutputs retained) incidentId
      (Room.hydrated tracker retained phases world) := by
  refine ⟨fun _ impossible => (by cases impossible), fun outputs known entry among => ?_⟩
  have same : retained = some outputs := known
  subst same
  exact .inl among

theorem roomAfter_steps {entries : List Entry} (own : ∀ entry ∈ entries, entryId entry = incidentId)
    (checked : Checked restored incidentId room) :
    ReflTransGen (Step tables restored incidentId) room
      (roomAfter tables collaborators fuel entries room) := by
  have steps := @lifetime_steps _ tables collaborators fuel restored incidentId room entries own
    checked
  unfold Meets at steps
  unfold roomAfter
  split at steps
  · rename_i outcome
    rw [outcome]
    exact steps
  · exact steps.elim

/-! ## Closure -/

def isAbstention : Call → Bool
  | .failClosedAbstain .. => true
  | _ => false

/-- The outputs are those that were recorded last. -/
def Current (calls : List Call) (outputs : Outputs) : Prop :=
  ∀ seat output, lastOutput seat calls = some output → outputs.get seat = some output

/-- All that was called since is for the incident; no call that failed comes before the
opening of an approval, which is for the outputs that were recorded last, and after it comes
at most an abstention. -/
def Guarded (incidentId : String) (room next : Room World) : Prop :=
  ∃ segment, next.calls = room.calls ++ segment ∧ (∀ call ∈ segment, subject call = incidentId) ∧
    ∀ before call after outputs, segment = before ++ call :: after → offered call = some outputs →
      (∀ other ∈ before, isApproval other = false ∧ failed other = false) ∧
        (∀ other ∈ after, isAbstention other = true) ∧ Current before outputs

theorem Guarded.unopened {segment : List Call} (calls : next.calls = room.calls ++ segment)
    (silent : ∀ call ∈ segment, subject call = incidentId ∧ isApproval call = false) :
    Guarded incidentId room next := by
  refine ⟨segment, calls, fun call among => (silent call among).1,
    fun before call after outputs split offers => ?_⟩
  have none := (silent call (split ▸ List.mem_append_right _ List.mem_cons_self)).2
  rw [isApproval, offers] at none
  cases none

theorem Guarded.quiet {error : Fault} (quiet : Quietly incidentId error room next) :
    Guarded incidentId room next := by
  obtain ⟨segment, calls, silent, -⟩ := quiet
  exact .unopened calls silent

theorem Guarded.smooth {start : Outputs} (smooth : Smoothly incidentId start room next) :
    Guarded incidentId room next := by
  obtain ⟨segment, smooth⟩ := smooth
  exact .unopened smooth.calls fun call among =>
    ⟨(smooth.good call among).1, (smooth.good call among).2.1⟩

theorem Guarded.approval {segment rest : List Call} {opened : Call} {held : Outputs}
    (calls : next.calls = room.calls ++ (segment ++ opened :: rest))
    (own : ∀ call ∈ segment ++ opened :: rest, subject call = incidentId)
    (good : ∀ call ∈ segment, isApproval call = false ∧ failed call = false)
    (closes : ∀ call ∈ rest, isAbstention call = true)
    (opens : offered opened = some held) (current : Current segment held) :
    Guarded incidentId room next := by
  refine ⟨segment ++ opened :: rest, calls, own, fun before call after outputs split offers => ?_⟩
  -- the approval is the one call of its kind, so that what precedes it is the segment
  have here : segment = before ∧ opened = call ∧ rest = after := by
    obtain ⟨more, same, tail⟩ | ⟨more, same, tail⟩ := List.append_eq_append_iff.mp split
    · cases more with
      | nil =>
          rw [List.append_nil] at same
          exact ⟨same.symm, List.cons.inj tail⟩
      | cons first others =>
          obtain ⟨-, tail⟩ := List.cons.inj tail
          have closing := closes call (tail ▸ List.mem_append_right _ List.mem_cons_self)
          cases call with
          | openApproval => cases closing
          | _ => cases offers
    · cases more with
      | nil =>
          obtain ⟨first, later⟩ := List.cons.inj tail
          rw [List.append_nil] at same
          exact ⟨same, first.symm, later.symm⟩
      | cons first others =>
          obtain ⟨rfl, -⟩ := List.cons.inj tail
          have none := (good call (same ▸ List.mem_append_right _ List.mem_cons_self)).1
          rw [isApproval, offers] at none
          cases none
  obtain ⟨rfl, rfl, rfl⟩ := here
  rw [opens] at offers
  cases offers
  exact ⟨good, closes, current⟩

/-- What is called after an approval is at most the abstention. -/
theorem Guarded.opened {start : Outputs} {middle : Room World} {magistrate : MagistrateOutput}
    {outputs : Outputs} {answer : Except Fault String} {closing : List Call}
    (approval : Approval restored incidentId start room middle magistrate outputs answer)
    (calls : next.calls = middle.calls ++ closing)
    (closes : ∀ call ∈ closing, subject call = incidentId ∧ isAbstention call = true) :
    Guarded incidentId room next := by
  obtain ⟨segment, before, smooth, rfl, -, last⟩ := approval.last
  refine .approval (?_ : next.calls = room.calls ++ (segment ++
    .openApproval incidentId magistrate before.outputs answer :: closing)) (fun call among => ?_)
    (fun call among => (smooth.good call among).2) (fun call among => (closes call among).2) rfl
    fun seat output recorded => ?_
  · rw [calls, last, smooth.calls]
    simp
  · obtain among | among := List.mem_append.mp among
    · exact (smooth.good call among).1
    · obtain rfl | among := List.mem_cons.mp among
      · rfl
      · exact (closes call among).1
  · rw [smooth.outputs, recorded, Option.some_or]

/-- What is called after an exception is at most the abstention. -/
theorem Guarded.raised {start : Outputs} {middle : Room World} {error : Fault}
    {closing : List Call} (raised : Raised restored incidentId start room middle error)
    (calls : next.calls = middle.calls ++ closing)
    (closes : ∀ call ∈ closing, subject call = incidentId ∧ isAbstention call = true) :
    Guarded incidentId room next := by
  obtain ⟨segment, before, quiet, -⟩ | ⟨magistrate, outputs, approval⟩ := raised
  · refine .unopened (by rw [calls, before, List.append_assoc]) fun call among => ?_
    obtain among | among := List.mem_append.mp among
    · exact quiet call among
    · obtain ⟨own, closing⟩ := closes call among
      cases call with
      | openApproval => cases closing
      | _ => exact ⟨own, rfl⟩
  · exact .opened approval calls closes

theorem Abstained.closing {error : Fault} (abstained : Abstained incidentId room next error) :
    ∃ closing, next.calls = room.calls ++ closing ∧
      ∀ call ∈ closing, subject call = incidentId ∧ isAbstention call = true := by
  cases abstained with
  | known message calls =>
      exact ⟨[], by rw [calls, List.append_nil], fun _ impossible => by cases impossible⟩
  | reported new calls =>
      refine ⟨_, calls, fun call among => ?_⟩
      obtain rfl := List.mem_singleton.mp among
      exact ⟨rfl, rfl⟩

variable (tables collaborators fuel restored)

structure FailsClosed (room : Room World) (entry : Entry) : Prop where
  /-- An incident is cleared with the warrant that was opened for it. -/
  clears : (entry.call tables collaborators fuel).Meets room
    (fun result next => ∀ decided, result = some decided → decided.verdict = .clear →
      ∃ magistrate warrantId, decided.pendingWarrantId = some warrantId ∧
        Approval restored (entryId entry) (startingOutputs room entry) room next magistrate
          decided.seatOutputs (.ok warrantId))
    fun _ _ => True
  /-- Every exception of the body ends in an abstention, or in the exception of the
  attempt to write it. -/
  abstains : ∀ opened, (opening collaborators entry).run room = (.ok (), opened) →
    ∀ error middle,
      (attempted tables collaborators fuel entry).run opened = (.error error, middle) →
      Raised restored (entryId entry) opened.outputs opened middle error ∧
        (error.isException = true → (entry.call tables collaborators fuel).Meets room
          (fun result next =>
            result = some ⟨.abstain, middle.outputs, none, some (failureReason error)⟩ ∧
              Abstained (entryId entry) middle next error)
          fun raised next => error.isPersisted = false ∧ next.calls = middle.calls ++
            [.failClosedAbstain (entryId entry) (failureReason error) (.error raised)])
  /-- After a failure no approval is opened, and every call is for the incident. -/
  guarded : (entry.call tables collaborators fuel).Meets room
    (fun _ next => Guarded (entryId entry) room next)
    fun _ next => Guarded (entryId entry) room next

variable {tables collaborators fuel restored}

/-- The ways in which a call can end. -/
theorem call_meets {entry : Entry} (reviewing : reviews entry = true)
    (checked : Checked restored (entryId entry) room)
    {Returns : Option CoordinatorResult → Room World → Prop}
    {Raises : Fault → Room World → Prop}
    (unopened : ∀ error next, Quietly (entryId entry) error room next → Raises error next)
    (concluded : ∀ result next,
      Concluded restored (entryId entry) (startingOutputs room entry) room next result →
      Returns result next)
    (caught : ∀ error middle next,
      Raised restored (entryId entry) (startingOutputs room entry) room middle error →
      Abstained (entryId entry) middle next error →
      Returns (some ⟨.abstain, middle.outputs, none, some (failureReason error)⟩) next)
    (unwritten : ∀ error middle raised next,
      Raised restored (entryId entry) (startingOutputs room entry) room middle error →
      next.calls = middle.calls ++
        [.failClosedAbstain (entryId entry) (failureReason error) (.error raised)] →
      Raises raised next)
    (foreign : ∀ error next,
      Raised restored (entryId entry) (startingOutputs room entry) room next error →
      Raises error next) :
    (entry.call tables collaborators fuel).Meets room Returns Raises := by
  have opens := @opening_meets _ tables collaborators restored room entry
  rw [call_eq reviewing, meets_bind]
  refine opens.mono (fun _ opened led => ?_) fun error next led => unopened error next led.2
  obtain ⟨steps, smooth, -⟩ := led
  rw [meets_rescue]
  refine (concludes_attempted (steps_checked steps checked)).mono (fun result next concludes => ?_)
    fun error middle raises => ?_
  · exact concluded result next (concludes.2.smoothly smooth)
  · have raised := raises.2.smoothly smooth
    cases exceptional : error.isException with
    | true =>
        refine (failClosed_closes exceptional).mono (fun result next closes => ?_) fun _ next lost => ?_
        · rw [closes.1]
          exact caught error middle next raised closes.2
        · exact unwritten error middle _ next raised lost.2
    | false =>
        refine (failClosed_foreign exceptional).mono (fun _ _ => False.elim) fun _ next same => ?_
        obtain ⟨rfl, rfl⟩ := same
        exact foreign _ _ raised

theorem clears_of_checked {entry : Entry} (reviewing : reviews entry = true)
    (checked : Checked restored (entryId entry) room) :
    (entry.call tables collaborators fuel).Meets room
      (fun result next => ∀ decided, result = some decided → decided.verdict = .clear →
        ∃ magistrate warrantId, decided.pendingWarrantId = some warrantId ∧
          Approval restored (entryId entry) (startingOutputs room entry) room next magistrate
            decided.seatOutputs (.ok warrantId))
      fun _ _ => True := by
  refine call_meets reviewing checked (fun _ _ _ => trivial) (fun result next concluded => ?_)
    (fun error middle next _ _ => ?_) (fun _ _ _ _ _ _ => trivial) fun _ _ _ => trivial
  · intro decided same clears
    cases concluded with
    | cleared magistrate outputs warrantId approval =>
        cases same
        exact ⟨magistrate, warrantId, rfl, approval⟩
    | decided verdict outputs smoother final =>
        cases same
        exact absurd clears final
    | cutOff => cases same
  · intro decided same clears
    cases same
    cases clears

theorem guarded_of_checked {entry : Entry} (reviewing : reviews entry = true)
    (checked : Checked restored (entryId entry) room) :
    (entry.call tables collaborators fuel).Meets room
      (fun _ next => Guarded (entryId entry) room next)
      fun _ next => Guarded (entryId entry) room next := by
  have nothing : ∀ next : Room World, next.calls = next.calls ++ [] := fun _ =>
    (List.append_nil _).symm
  refine call_meets reviewing checked (fun _ _ quiet => .quiet quiet) (fun result next concluded => ?_)
    (fun error middle next raised abstained => ?_) (fun error middle _ next raised calls => ?_)
    fun error next raised => .raised raised (nothing next) fun _ impossible => by cases impossible
  · cases concluded with
    | cleared magistrate outputs warrantId approval =>
        exact .opened approval (nothing next) fun _ impossible => by cases impossible
    | decided verdict outputs smooth final => exact .smooth smooth
    | cutOff smooth => exact .smooth smooth
  · obtain ⟨closing, calls, closes⟩ := abstained.closing
    exact .raised raised calls closes
  · refine .raised raised calls fun call among => ?_
    obtain rfl := List.mem_singleton.mp among
    exact ⟨rfl, rfl⟩

theorem abstains_of_checked {entry : Entry} (reviewing : reviews entry = true)
    (checked : Checked restored (entryId entry) room) {opened middle : Room World} {error : Fault}
    (opens : (opening collaborators entry).run room = (.ok (), opened))
    (raises : (attempted tables collaborators fuel entry).run opened = (.error error, middle)) :
    Raised restored (entryId entry) opened.outputs opened middle error ∧
      (error.isException = true → (entry.call tables collaborators fuel).Meets room
        (fun result next =>
          result = some ⟨.abstain, middle.outputs, none, some (failureReason error)⟩ ∧
            Abstained (entryId entry) middle next error)
        fun raised next => error.isPersisted = false ∧ next.calls = middle.calls ++
          [.failClosedAbstain (entryId entry) (failureReason error) (.error raised)]) := by
  have steps := (@opening_meets _ tables collaborators restored room entry).returned opens
  have raised := (concludes_attempted (steps_checked steps.1 checked)).raised raises
  refine ⟨raised.2, fun caught => ?_⟩
  rw [call_eq reviewing, meets_bind]
  refine meets_of_returned opens ?_
  rw [meets_rescue]
  exact meets_of_raised raises (failClosed_closes caught)

/-- Over any calls before for the same incident, of a coordinator into which outputs may have
been restored, and with collaborators that behave in any way, every call fails closed. -/
theorem coordination_fails_closed (tracker : EscalationTracker) (retained : Option Outputs)
    (phases : Seat → Option String) (world : World) (entries : List Entry) (entry : Entry)
    (own : ∀ other ∈ entries, entryId other = entryId entry) (reviewing : reviews entry = true) :
    FailsClosed tables collaborators fuel (restoredOutputs retained)
      (roomAfter tables collaborators fuel entries (Room.hydrated tracker retained phases world))
      entry := by
  have start := @checked_hydrated _ (entryId entry) tracker retained phases world
  have checked := steps_checked
    (@roomAfter_steps _ tables collaborators fuel _ _ _ entries own start) start
  exact
    { clears := clears_of_checked reviewing checked
      abstains := fun _ opens _ _ raises => abstains_of_checked reviewing checked opens raises
      guarded := guarded_of_checked reviewing checked }

end Calls

/-! ## A repaired patch -/

/-- Counsel answers with the first patch, then with the second, then with the first
again, and the Magistrate clears.  The world counts Counsel's runs. -/
def alternatingCollaborators : Collaborators Nat where
  runInspectorToProsecutor _ _ _ _ := pure (.result firstInspector firstProsecutor)
  runSeat seat _ _ _ :=
    match seat with
    | .inspector => pure (.output (.inspector firstInspector))
    | .prosecutor => pure (.output (.prosecutor firstProsecutor))
    | .counsel => do
        let runs ← get
        modify (· + 1)
        pure (.output (.counsel (if runs = 1 then secondPatch else firstPatch)))
    | .magistrate => pure (.output (.magistrate (ruling none)))
    | .bailiff => pure .other
  deferred := none
  containsAll _ _ := pure true
  beginReview _ := pure ()
  failClosedAbstain _ _ := pure ()
  recordVerdict _ _ := pure ()
  openApproval _ _ _ := pure "warrant-1"
  recordEscalation _ _ _ _ _ _ := pure ()
  rejectDuplicateRetry _ _ _ _ _ _ := pure ()

/-- The repair of a patch that was approved and failed its test. -/
theorem repair_fails_closed :
    FailsClosed sampleTables alternatingCollaborators 7 (restoredOutputs none)
      (roomAfter sampleTables alternatingCollaborators 7 [.runIncident scriptedIncident]
        (Room.hydrated .empty none (fun _ => none) 0))
      (.resumeAfterTest scriptedIncident false) :=
  coordination_fails_closed .empty none (fun _ => none) 0 [.runIncident scriptedIncident] _
    (by decide) rfl

end CrossPatch.Orchestration.Closure
