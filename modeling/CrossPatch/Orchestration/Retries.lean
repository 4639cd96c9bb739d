import CrossPatch.Orchestration.Closure

/-!
# Retries are compared with the output before them

The tracker keeps one fingerprint for each seat, that of the output recorded last.  A
retry is accepted if its fingerprint differs from that one; outputs further back are
not remembered.  A patch that failed its test is thus replaced before an approval is
opened again, and can come back after another one took its place.
-/

namespace CrossPatch.Orchestration.Retries

open CrossPatch.Domain.Failure CrossPatch.Domain.Seats CrossPatch.Domain.Semantics
open CrossPatch.Domain.StateMachine hiding remandTargets
open CrossPatch.Library CrossPatch.Library.Procedure
open CrossPatch.Orchestration.Bounds CrossPatch.Orchestration.Closure
open CrossPatch.Orchestration.Coordinator CrossPatch.Orchestration.Escalation
open CrossPatch.Orchestration.Steps
open Relation (ReflTransGen)

/-! ## Fingerprints -/

section History

variable (tables : SemanticTables) (initial : Seat → Option String)

/-- The fingerprint of the output that was recorded last for a seat, in these calls or
before them. -/
def lastFingerprint (seat : Seat) (calls : List Call) : Option String :=
  match lastOutput seat calls with
  | some output => (semanticFingerprint tables output).toOption
  | none => initial seat

/-- Every accepted retry differs from what was recorded for its seat before it. -/
def Material (calls : List Call) : Prop :=
  ∀ before incidentId seat output fingerprint,
    before ++ [.acceptRetry incidentId seat output (.ok fingerprint)] <+: calls →
    semanticFingerprint tables output = .ok fingerprint ∧
      ∃ previous, lastFingerprint tables initial seat before = some previous ∧
        previous ≠ fingerprint

variable {World : Type}

/-- The tracker holds what was recorded last. -/
structure Consistent (room : Room World) : Prop where
  tracked : ∀ seat, (room.tracker.states seat).map (·.fingerprint) =
    lastFingerprint tables initial seat room.calls
  material : Material tables initial room.calls

variable {tables initial}

theorem lastFingerprint_silent {seat : Seat} {calls more : List Call}
    (silent : lastOutput seat more = none) :
    lastFingerprint tables initial seat (calls ++ more) =
      lastFingerprint tables initial seat calls := by
  unfold lastFingerprint
  rw [lastOutput_append, silent, Option.none_or]

theorem lastFingerprint_recorded {seat : Seat} {output : SeatOutput} {calls more : List Call}
    (recorded : lastOutput seat more = some output) :
    lastFingerprint tables initial seat (calls ++ more) =
      (semanticFingerprint tables output).toOption := by
  unfold lastFingerprint
  rw [lastOutput_append, recorded, Option.some_or]

theorem lastOutput_single (seat : Seat) (call : Call) :
    lastOutput seat [call] = outputOf seat call := by
  rw [lastOutput_cons]
  exact Option.none_or

theorem Material.append {calls : List Call} {call : Call} (material : Material tables initial calls)
    (new : ∀ incidentId seat output fingerprint,
      call = .acceptRetry incidentId seat output (.ok fingerprint) →
      semanticFingerprint tables output = .ok fingerprint ∧
        ∃ previous, lastFingerprint tables initial seat calls = some previous ∧
          previous ≠ fingerprint) :
    Material tables initial (calls ++ [call]) := by
  intro before incidentId seat output fingerprint among
  obtain same | earlier := List.prefix_concat_iff.mp among
  · obtain ⟨rfl, last⟩ := List.append_inj' same rfl
    exact new incidentId seat output fingerprint (List.cons.inj last).1.symm
  · exact material before incidentId seat output fingerprint earlier

/-- A call that records nothing. -/
theorem Consistent.noted {room : Room World} {call : Call} (world : World)
    (consistent : Consistent tables initial room) (silent : ∀ seat, outputOf seat call = none)
    (other : ∀ incidentId seat output fingerprint,
      call ≠ .acceptRetry incidentId seat output (.ok fingerprint)) :
    Consistent tables initial (room.noted call world) := by
  refine ⟨fun seat => ?_,
    consistent.material.append fun incidentId seat output fingerprint same => ?_⟩
  · simp only [Room.noted]
    rw [lastFingerprint_silent (by rw [lastOutput_single, silent])]
    exact consistent.tracked seat
  · exact absurd same (other incidentId seat output fingerprint)

/-- A change of the tracker that keeps the fingerprint. -/
theorem Consistent.put {room : Room World} {seat : Seat} {state changed : SeatState}
    (consistent : Consistent tables initial room) (found : room.tracker.states seat = some state)
    (same : changed.fingerprint = state.fingerprint) :
    Consistent tables initial { room with tracker := room.tracker.put seat changed } := by
  refine ⟨fun other => ?_, consistent.material⟩
  rw [← consistent.tracked other, EscalationTracker.put_states]
  split
  · rename_i here
    subst here
    rw [found]
    simp only [Option.map_some, same]
  · rfl

/-- A call that records the output of which the tracker takes the fingerprint over. -/
theorem Consistent.recorded {room : Room World} {seat : Seat} {changed : SeatState} {call : Call}
    {output : SeatOutput} (consistent : Consistent tables initial room)
    (records : ∀ other, outputOf other call = if seat = other then some output else none)
    (known : semanticFingerprint tables output = .ok changed.fingerprint)
    (new : ∀ incidentId seat output fingerprint,
      call = .acceptRetry incidentId seat output (.ok fingerprint) →
      semanticFingerprint tables output = .ok fingerprint ∧
        ∃ previous, lastFingerprint tables initial seat room.calls = some previous ∧
          previous ≠ fingerprint) :
    Consistent tables initial
      (({ room with tracker := room.tracker.put seat changed } : Room World).noted
        call room.world) := by
  refine ⟨fun other => ?_, consistent.material.append new⟩
  simp only [Room.noted]
  rw [EscalationTracker.put_states]
  by_cases same : other = seat
  · subst same
    rw [if_pos rfl, lastFingerprint_recorded (by rw [lastOutput_single, records, if_pos rfl]), known]
    rfl
  · rw [if_neg same, lastFingerprint_silent
      (by rw [lastOutput_single, records, if_neg (Ne.symm same)])]
    exact consistent.tracked other

variable {restored : List (Seat × SeatOutput)} {incidentId : String} {room next : Room World}

theorem Step.consistent (step : Step tables restored incidentId room next)
    (consistent : Consistent tables initial room) : Consistent tables initial next := by
  cases step with
  | asked call world plain =>
      refine consistent.noted world (outputOf_of_plain plain)
        fun incidentId seat output fingerprint same => ?_
      subst same
      cases plain
  | approval magistrate answer world =>
      exact consistent.noted world (fun _ => rfl) fun _ _ _ _ impossible => by cases impossible
  | recorded seat output fingerprint known =>
      exact consistent.recorded (fun _ => rfl) known fun _ _ _ _ impossible => by cases impossible
  | unrecorded seat output error =>
      exact consistent.noted _ (fun _ => rfl) fun _ _ _ _ impossible => by cases impossible
  | granted seat state reason found => exact consistent.put found rfl
  | accepted seat state output fingerprint found known differs =>
      refine consistent.recorded (fun _ => rfl) known fun _ _ _ _ same => ?_
      cases same
      refine ⟨known, state.fingerprint, ?_, differs.symm⟩
      rw [← consistent.tracked seat, found]
      rfl
  | duplicate seat state output error found =>
      have settles := consistent.put found (rfl : (settled state).fingerprint = state.fingerprint)
      exact @Consistent.noted tables initial _ _ (.acceptRetry incidentId seat output (.error error))
        _ settles (fun _ => rfl) fun _ _ _ _ impossible => by cases impossible
  | unaccepted seat output error =>
      exact consistent.noted _ (fun _ => rfl) fun _ _ _ _ impossible => by cases impossible
  | kept | retained | cleared | resumed => exact ⟨consistent.tracked, consistent.material⟩

theorem steps_consistent (steps : ReflTransGen (Step tables restored incidentId) room next)
    (consistent : Consistent tables initial room) : Consistent tables initial next := by
  induction steps with
  | refl => exact consistent
  | tail _ step before => exact Step.consistent step before

/-- If a retry was refused since, no approval was opened since. -/
def RefusalsClose (room next : Room World) : Prop :=
  ∃ segment, next.calls = room.calls ++ segment ∧
    ∀ incidentId seat output error, .acceptRetry incidentId seat output (.error error) ∈ segment →
      ∀ call ∈ segment, isApproval call = false

/-- Approvals were opened for the outputs recorded last in the call. -/
def OffersCurrent (room next : Room World) : Prop :=
  ∃ segment, next.calls = room.calls ++ segment ∧
    ∀ before call after outputs, segment = before ++ call :: after →
      offered call = some outputs → Current before outputs

theorem RefusalsClose.of_guarded (guarded : Guarded incidentId room next) :
    RefusalsClose room next := by
  obtain ⟨segment, calls, -, guards⟩ := guarded
  refine ⟨segment, calls, fun _ seat output error refused call among => ?_⟩
  by_contra opened
  obtain ⟨before, after, split⟩ := List.append_of_mem among
  have approves : isApproval call = true := by simpa using opened
  obtain ⟨outputs, offers⟩ := Option.isSome_iff_exists.mp approves
  obtain ⟨good, closing, -⟩ := guards before call after outputs split offers
  rw [split] at refused
  obtain early | late := List.mem_append.mp refused
  · cases (good _ early).2
  · obtain same | late := List.mem_cons.mp late
    · subst same
      cases offers
    · cases closing _ late

theorem OffersCurrent.of_guarded (guarded : Guarded incidentId room next) :
    OffersCurrent room next := by
  obtain ⟨segment, calls, -, guards⟩ := guarded
  exact ⟨segment, calls, fun before call after outputs split offers =>
    (guards before call after outputs split offers).2.2⟩

end History

/-! ## The first output of Counsel -/

section Counsel

variable {World : Type}

/-- No approval was opened, and nothing was recorded for Counsel. -/
def Idle (calls : List Call) : Prop :=
  ∀ call ∈ calls, isApproval call = false ∧ outputOf .counsel call = none

/-- Counsel has neither been heard nor skipped. -/
def Rested (room next : Room World) : Prop :=
  ∃ segment, next.calls = room.calls ++ segment ∧ Idle segment ∧
    next.phases .counsel = room.phases .counsel

/-- What came first is a retry of Counsel's that was accepted. -/
def Retried (room next : Room World) : Prop :=
  ∃ early incidentId output fingerprint late, next.calls = room.calls ++
    (early ++ .acceptRetry incidentId .counsel output (.ok fingerprint) :: late) ∧ Idle early

def Heard (room next : Room World) : Prop := Rested room next ∨ Retried room next

variable {room next last : Room World}

theorem Idle.append {calls more : List Call} (idle : Idle calls) (still : Idle more) :
    Idle (calls ++ more) := by
  intro call among
  obtain among | among := List.mem_append.mp among
  · exact idle call among
  · exact still call among

theorem Idle.lastOutput {calls : List Call} (idle : Idle calls) :
    lastOutput .counsel calls = none := by
  unfold Steps.lastOutput
  rw [List.filterMap_eq_nil_iff.mpr fun call among => (idle call among).2]
  rfl

theorem Rested.refl (room : Room World) : Rested room room :=
  ⟨[], (List.append_nil _).symm, fun _ impossible => (by cases impossible), rfl⟩

theorem Rested.trans (first : Rested room next) (second : Rested next last) : Rested room last := by
  obtain ⟨segment, calls, idle, phase⟩ := first
  obtain ⟨others, more, still, same⟩ := second
  exact ⟨segment ++ others, by rw [more, calls, List.append_assoc], idle.append still,
    same.trans phase⟩

theorem Retried.later (retried : Retried room next) (grown : next.calls <+: last.calls) :
    Retried room last := by
  obtain ⟨early, incidentId, output, fingerprint, late, calls, idle⟩ := retried
  obtain ⟨more, longer⟩ := grown
  refine ⟨early, incidentId, output, fingerprint, late ++ more, ?_, idle⟩
  rw [← longer, calls]
  simp

theorem Rested.retried (rested : Rested room next) (retried : Retried next last) :
    Retried room last := by
  obtain ⟨segment, before, idle, -⟩ := rested
  obtain ⟨early, incidentId, output, fingerprint, late, calls, still⟩ := retried
  refine ⟨segment ++ early, incidentId, output, fingerprint, late, ?_, idle.append still⟩
  rw [calls, before]
  simp

theorem Rested.grown (rested : Rested room next) : room.calls <+: next.calls := by
  obtain ⟨segment, calls, -⟩ := rested
  exact ⟨segment, calls.symm⟩

theorem Heard.trans (first : Heard room next) (second : Rested next last) : Heard room last := by
  obtain rested | retried := first
  · exact .inl (rested.trans second)
  · exact .inr (retried.later second.grown)

theorem Rested.heard (rested : Rested room next) (heard : Heard next last) : Heard room last := by
  obtain more | retried := heard
  · exact .inl (rested.trans more)
  · exact .inr (rested.retried retried)

/-- The procedure asks for things and records nothing. -/
def Rests {α : Type} (body : Coordination World α) : Prop :=
  ∀ room, body.Meets room (fun _ next => Rested room next) fun _ next => Rested room next

section Rules

variable {α β : Type}

theorem Rests.bind {first : Coordination World α} {continuation : α → Coordination World β}
    (rests : Rests first) (continues : ∀ value, Rests (continuation value)) :
    Rests (first >>= continuation) := by
  intro room
  rw [meets_bind]
  refine (rests room).mono (fun value middle rested => ?_) fun _ _ rested => rested
  exact (continues value middle).mono (fun _ _ more => rested.trans more)
    fun _ _ more => rested.trans more

theorem rests_pure (value : α) : Rests (pure value : Coordination World α) :=
  fun room => .refl room

theorem rests_raise (error : Fault) : Rests (raise error : Coordination World α) :=
  fun room => .refl room

theorem rests_get : Rests (get : Coordination World (Room World)) := fun room => .refl room

theorem rests_modify {update : Room World → Room World}
    (silent : ∀ room, (update room).calls = room.calls ∧ (update room).phases = room.phases) :
    Rests (modify update : Coordination World Unit) := by
  intro room
  obtain ⟨calls, phases⟩ := silent room
  exact ⟨[], by simpa using calls, fun _ impossible => (by cases impossible), by rw [phases]⟩

theorem rests_ofExcept (attempt : Except Fault α) :
    Rests (ofExcept attempt : Coordination World α) := by
  intro room
  rw [meets_ofExcept]
  cases attempt <;> exact .refl room

theorem rests_ofAttempt (attempt : Attempt α) :
    Rests (ofAttempt attempt : Coordination World α) := by
  intro room
  rw [meets_ofAttempt]
  cases attempt <;> exact .refl room

theorem rests_track (operation : Tracking α) : Rests (track operation : Coordination World α) := by
  intro room
  rw [meets_track]
  exact meets_of_forall (fun _ _ => .refl room) fun _ _ => .refl room

theorem rested_noted {call : Call} (world : World) (other : isApproval call = false)
    (silent : outputOf .counsel call = none) : Rested room (room.noted call world) := by
  refine ⟨[call], rfl, fun known among => ?_, rfl⟩
  obtain rfl := List.mem_singleton.mp among
  exact ⟨other, silent⟩

theorem rests_ask {note : Except Fault α → Call} {body : Procedure Fault World α}
    (plain : ∀ answer, isPlain (note answer) = true) : Rests (ask note body) := by
  intro room
  rw [meets_ask]
  have noted : ∀ answer world, Rested room (room.noted (note answer) world) := fun answer world =>
    rested_noted world (isApproval_of_plain (plain answer)) (outputOf_of_plain (plain answer) _)
  exact meets_of_forall (fun _ _ => noted _ _) fun _ _ => noted _ _

theorem Rests.rescue {body : Coordination World α} {handler : Fault → Coordination World α}
    (tries : Rests body) (handles : ∀ error, Rests (handler error)) :
    Rests (body.rescue handler) := by
  intro room
  rw [meets_rescue]
  refine (tries room).mono (fun _ _ rested => rested) fun error middle rested => ?_
  exact (handles error middle).mono (fun _ _ more => rested.trans more)
    fun _ _ more => rested.trans more

end Rules

section Parts

variable {tables : SemanticTables} {collaborators : Collaborators World} {incident : IncidentInput}
variable {seat : Seat}

theorem rests_request {phase : String} :
    Rests (request tables incident phase : Coordination World AgentRunInput) := by
  refine rests_get.bind fun _ => (rests_ofAttempt _).bind fun _ => ?_
  split
  · exact rests_pure _
  · exact rests_raise _

theorem rests_validate {returned : Returned} :
    Rests (validate collaborators incident.incidentId seat returned) := by
  unfold validate validateWith
  refine (rests_ofExcept _).bind fun output => ?_
  split
  · exact rests_pure _
  split
  · exact rests_raise _
  refine (rests_ask fun _ => rfl).bind fun contained => ?_
  split
  · exact rests_pure _
  · exact rests_raise _

theorem rests_decideEscalation {reason : String} :
    Rests (decideEscalation collaborators incident seat reason) := by
  refine (rests_track _).bind fun pending => ?_
  cases pending with
  | some decision => exact rests_pure _
  | none =>
      refine ((rests_track _).rescue fun _ => rests_raise _).bind fun decision => ?_
      exact (rests_ask fun _ => rfl).bind fun _ => rests_pure _

theorem rests_resumable : Rests (resumable : Coordination World Unit) := by
  refine rests_get.bind fun room => ?_
  split
  · split
    · exact rests_raise _
    · exact rests_modify fun _ => ⟨rfl, rfl⟩
  · exact rests_raise _

theorem rests_failClosed {error : Fault} : Rests (failClosed collaborators incident error) := by
  have closed : ∀ reason : String, Rests (do
      modify fun room : Room World => { room with retained := some room.outputs }
      let room ← get
      pure (some ⟨.abstain, room.outputs, none, some reason⟩) :
        Coordination World (Option CoordinatorResult)) := fun reason =>
    Rests.bind (rests_modify fun _ => ⟨rfl, rfl⟩) fun _ => rests_get.bind fun _ => rests_pure _
  unfold failClosed
  split
  · dsimp only
    split
    · exact closed _
    · exact (rests_ask fun _ => rfl).bind fun _ => closed _
  · exact rests_raise _

/-- If it returns, Counsel has retried. -/
def RetriesFirst {α : Type} (body : Coordination World α) : Prop :=
  ∀ room, body.Meets room (fun _ next => Retried room next) fun _ next => Heard room next

theorem Rests.retriesFirst {α β : Type} {first : Coordination World α}
    {continuation : α → Coordination World β} (rests : Rests first)
    (continues : ∀ value, RetriesFirst (continuation value)) : RetriesFirst (first >>= continuation) := by
  intro room
  rw [meets_bind]
  refine (rests room).mono (fun value middle rested => ?_) fun _ _ rested => .inl rested
  exact (continues value middle).mono (fun _ _ retried => rested.retried retried)
    fun _ _ heard => rested.heard heard

theorem RetriesFirst.bind {α β : Type} {first : Coordination World α}
    {continuation : α → Coordination World β} (retries : RetriesFirst first)
    (continues : ∀ value, Rests (continuation value)) : RetriesFirst (first >>= continuation) := by
  intro room
  rw [meets_bind]
  refine (retries room).mono (fun value middle retried => ?_) fun _ _ heard => heard
  exact (continues value middle).mono (fun _ _ rested => retried.later rested.grown)
    fun _ _ rested => .inr (retried.later rested.grown)

theorem retries_runRetry {phase : String} {effort : Effort} :
    RetriesFirst (runRetry tables collaborators incident .counsel phase effort) := by
  refine rests_request.retriesFirst fun input => ?_
  refine (rests_ask fun _ => rfl).retriesFirst fun returned => ?_
  refine rests_validate.retriesFirst fun validated => fun room => ?_
  rw [meets_bind, meets_rescue, meets_consult]
  refine meets_of_forall (fun fingerprint tracker => ?_) fun error tracker => ?_
  · have retried : ∀ next : Room World, room.calls ++
        [.acceptRetry incident.incidentId .counsel validated (.ok fingerprint)] <+: next.calls →
        Retried room next := by
      rintro next ⟨late, calls⟩
      refine ⟨[], incident.incidentId, validated, fingerprint, late, ?_,
        fun _ impossible => by cases impossible⟩
      rw [← calls]
      simp
    dsimp only
    split
    · exact retried _ List.prefix_rfl
    · rw [meets_bind, meets_ask]
      exact meets_of_forall (fun _ _ => retried _ (List.prefix_append _ _))
        fun _ _ => .inr (retried _ (List.prefix_append _ _))
  · exact .inl (rested_noted _ rfl rfl)

theorem retries_escalate {reason phase : String} :
    RetriesFirst (escalate tables collaborators incident .counsel reason phase) := by
  refine rests_decideEscalation.retriesFirst fun decision => fun room => ?_
  rw [meets_rescue]
  refine (retries_runRetry room).mono (fun _ _ retried => retried) fun error middle heard => ?_
  unfold rejectAttempt
  split
  · rw [meets_bind, meets_ask]
    exact meets_of_forall (fun _ world => heard.trans (rested_noted world rfl rfl))
      fun _ world => heard.trans (rested_noted world rfl rfl)
  · exact heard

variable {restored : List (Seat × SeatOutput)} {incidentId : String} {fuel : Nat}

/-- After the retry of Counsel anything may follow. -/
theorem heard_of_retries {α : Type} {first : Coordination World α}
    {continuation : α → Coordination World (Option CoordinatorResult)}
    {Value : α → Room World → Prop} {room : Room World}
    (retries : first.Meets room (fun _ next => Retried room next) fun _ next => Heard room next)
    (leads : Leads tables restored incidentId room first Value)
    (concludes : ∀ value middle,
      Concludes restored incidentId tables middle (continuation value))
    (checked : Checked restored incidentId room) :
    (first >>= continuation).Meets room (fun _ next => Heard room next)
      fun _ next => Heard room next := by
  rw [meets_bind]
  refine (retries.both (leads checked)).mono (fun value middle both => ?_) fun _ _ both => both.1
  obtain ⟨retried, steps, -⟩ := both
  exact (concludes value middle (steps_checked steps checked)).mono
    (fun _ _ concluded => .inr (retried.later (steps_grow concluded.1)))
    fun _ _ raised => .inr (retried.later (steps_grow raised.1))

theorem retries_repairPatch {room : Room World}
    (unmarked : room.phases .counsel ≠ some "test-failure-repair") :
    (repairPatch tables collaborators incident).Meets room (fun _ next => Retried room next)
      fun _ next => Heard room next := by
  rw [repairPatch, meets_bind, meets_get, if_neg unmarked]
  refine (rests_ask fun _ => rfl).retriesFirst (fun _ => ?_) room
  exact retries_escalate.bind fun _ => rests_pure ()

/-- A call that goes on with outputs hears Counsel first unless its phase marks the repair
as done. -/
theorem attempted_heard {entry : Entry} {room : Room World} (resuming : resumes entry = true)
    (unmarked : room.phases .counsel ≠ some "test-failure-repair")
    (checked : Checked restored (entryId entry) room) :
    (attempted tables collaborators fuel entry).Meets room (fun _ next => Heard room next)
      fun _ next => Heard room next := by
  cases entry with
  | runIncident incident => cases resuming
  | resumeAfterTest incident testPassed =>
      exact heard_of_retries (retries_repairPatch unmarked) leads_repairPatch
        (fun _ _ => concludes_challenged) checked
  | resumeAfterRevision incident =>
      have rests := @rests_ask World Unit (.beginReview incident.incidentId)
        (collaborators.beginReview incident.incidentId) (fun _ => rfl) room
      have leads := @leads_beginReview _ tables _ collaborators incident room checked
      change (revise tables collaborators incident fuel).Meets room _ _
      rw [revise, meets_bind]
      refine (rests.both leads).mono (fun _ middle both => ?_)
        fun _ _ both => .inl both.1
      obtain ⟨rested, steps, -⟩ := both
      exact (heard_of_retries (retries_escalate middle) leads_escalate
        (fun _ _ => concludes_challengedRevision) (steps_checked steps checked)).mono
        (fun _ _ heard => rested.heard heard) fun _ _ heard => rested.heard heard

/-- Every call that goes on with outputs does. -/
theorem entry_heard {entry : Entry} {room : Room World} (resuming : resumes entry = true)
    (unmarked : room.phases .counsel ≠ some "test-failure-repair")
    (checked : Checked restored (entryId entry) room) :
    (entry.call tables collaborators fuel).Meets room (fun _ next => Heard room next)
      fun _ next => Heard room next := by
  cases reviewing : reviews entry with
  | true =>
      have opens := @opening_meets _ tables collaborators restored room entry
      have rests : (opening collaborators entry).Meets room (fun _ next => Rested room next)
          fun _ next => Rested room next := by
        cases entry with
        | runIncident incident => cases resuming
        | resumeAfterTest | resumeAfterRevision => exact rests_resumable room
      rw [call_eq reviewing, meets_bind]
      refine (rests.both opens).mono (fun _ opened both => ?_) fun _ _ both => .inl both.1
      obtain ⟨rested, steps, -⟩ := both
      have still : opened.phases .counsel ≠ some "test-failure-repair" := by
        obtain ⟨_, -, -, same⟩ := rested
        rw [same]
        exact unmarked
      rw [meets_rescue]
      refine (attempted_heard resuming still (steps_checked steps checked)).mono
        (fun _ _ heard => rested.heard heard) fun error middle heard => ?_
      exact (rests_failClosed middle).mono
        (fun _ _ more => rested.heard (heard.trans more))
        fun _ _ more => rested.heard (heard.trans more)
  | false =>
      cases entry with
      | runIncident incident => cases resuming
      | resumeAfterRevision incident => cases reviewing
      | resumeAfterTest incident testPassed =>
          cases testPassed with
          | false => cases reviewing
          | true =>
              have rests : Rests ((Entry.resumeAfterTest incident true).call tables collaborators
                  fuel) :=
                rests_resumable.bind fun _ => rests_get.bind fun _ => rests_pure _
              exact (rests room).mono (fun _ _ rested => .inl rested) fun _ _ rested => .inl rested

/-- Counsel's first output after a room in which the repair is not marked as done is an
accepted retry, however many calls it takes. -/
theorem lifetime_heard {entries : List Entry} {start room : Room World}
    (later : ∀ entry ∈ entries, resumes entry = true ∧ entryId entry = incidentId)
    (unmarked : start.phases .counsel ≠ some "test-failure-repair") (heard : Heard start room)
    (checked : Checked restored incidentId room) :
    (lifetime tables collaborators fuel entries).Meets room (fun _ next => Heard start next)
      fun _ _ => False := by
  induction entries generalizing room with
  | nil => exact heard
  | cons entry entries continues =>
      simp only [lifetime, meets_bind, meets_attempt, meets_pure]
      obtain ⟨resuming, rfl⟩ := later entry List.mem_cons_self
      have steps : ∀ middle : Room World, Heard start middle →
          ReflTransGen (Step tables restored (entryId entry)) room middle →
          (lifetime tables collaborators fuel entries).Meets middle
            (fun _ next => Heard start next) fun _ _ => False := fun middle heard moved =>
        continues (fun other among => later other (List.mem_cons_of_mem _ among)) heard
          (steps_checked moved checked)
      have moves := @entry_steps _ tables collaborators fuel restored room entry checked
      obtain rested | retried := heard
      · have still : room.phases .counsel ≠ some "test-failure-repair" := by
          obtain ⟨_, -, -, same⟩ := rested
          rw [same]
          exact unmarked
        refine ((entry_heard resuming still checked).both moves).mono (fun _ middle both => ?_)
          fun _ middle both => ?_
        · exact steps middle (rested.heard both.1) both.2
        · exact steps middle (rested.heard both.1) both.2
      · exact moves.mono
          (fun _ middle moved => steps middle (.inr (retried.later (steps_grow moved))) moved)
          fun _ middle moved => steps middle (.inr (retried.later (steps_grow moved))) moved

end Parts

end Counsel

/-! ## Patches that failed -/

section Results

variable {World : Type} (tables : SemanticTables) (collaborators : Collaborators World)
variable (fuel : Nat) (initial : Seat → Option String)

/-- Nothing was recorded for Counsel and no approval was opened since, or what came first is
an accepted retry of another fingerprint than that of the patch. -/
def Renewed (patch : SeatOutput) (room next : Room World) : Prop :=
  ∃ segment, next.calls = room.calls ++ segment ∧
    (Idle segment ∨ ∃ early incidentId output fingerprint late,
      segment = early ++ .acceptRetry incidentId .counsel output (.ok fingerprint) :: late ∧
        Idle early ∧ semanticFingerprint tables output = .ok fingerprint ∧
        semanticFingerprint tables patch ≠ .ok fingerprint)

/-- What the comparison of retries achieves in a call. -/
structure Compares (room : Room World) (entry : Entry) : Prop where
  /-- An accepted retry differs from the output recorded for its seat before it. -/
  material : Material tables initial room.calls
  /-- A call in which a retry is refused opens no approval. -/
  refusals : (entry.call tables collaborators fuel).Meets room
    (fun _ next => RefusalsClose room next) fun _ next => RefusalsClose room next
  /-- An approval is opened for the outputs that were recorded last in the call. -/
  current : (entry.call tables collaborators fuel).Meets room
    (fun _ next => OffersCurrent room next) fun _ next => OffersCurrent room next
  /-- If a patch was approved, the calls that go on with it replace it before they open
  another approval, unless the phases have its repair as done. -/
  renewed : ∀ decided next patch,
    (entry.call tables collaborators fuel).run room = (.ok (some decided), next) →
    decided.verdict = .clear → decided.seatOutputs.get .counsel = some patch →
    next.phases .counsel ≠ some "test-failure-repair" →
    ∀ later, (∀ other ∈ later, resumes other = true ∧ entryId other = entryId entry) →
      Renewed tables patch next (roomAfter tables collaborators fuel later next)

variable {tables collaborators fuel initial}
variable {restored : List (Seat × SeatOutput)} {incidentId : String} {room next : Room World}

theorem outputOf_accepted (incidentId : String) (seat : Seat) (output : SeatOutput)
    (fingerprint : String) :
    outputOf seat (.acceptRetry incidentId seat output (.ok fingerprint)) = some output :=
  if_pos rfl

theorem lastOutput_ne_none {seat : Seat} {calls : List Call} {call : Call} {output : SeatOutput}
    (among : call ∈ calls) (recorded : outputOf seat call = some output) :
    lastOutput seat calls ≠ none := by
  unfold lastOutput
  rw [ne_eq, List.getLast?_eq_none_iff, List.filterMap_eq_nil_iff]
  intro silent
  rw [silent call among] at recorded
  cases recorded

/-- The patch of an approval was recorded in the call that opened it. -/
theorem approved_recorded {entry : Entry} {magistrate : MagistrateOutput} {outputs : Outputs}
    {answer : Except Fault String} {patch : SeatOutput}
    (approval : Approval restored (entryId entry) (startingOutputs room entry) room next magistrate
      outputs answer)
    (heard : resumes entry = true → room.phases .counsel ≠ some "test-failure-repair" →
      Heard room next)
    (offers : outputs.get .counsel = some patch)
    (unmarked : next.phases .counsel ≠ some "test-failure-repair") :
    ∃ segment, next.calls = room.calls ++ segment ∧ lastOutput .counsel segment = some patch := by
  obtain ⟨segment, before, smooth, rfl, phases, calls⟩ := approval.last
  let opened := Call.openApproval (entryId entry) magistrate before.outputs answer
  have whole : next.calls = room.calls ++ (segment ++ [opened]) := by
    rw [calls, smooth.calls, List.append_assoc]
  refine ⟨segment ++ [opened], whole, ?_⟩
  have last : lastOutput .counsel (segment ++ [opened]) = lastOutput .counsel segment := by
    rw [lastOutput_append, lastOutput_single]
    exact Option.none_or
  rw [smooth.outputs] at offers
  rw [last]
  cases recorded : lastOutput .counsel segment with
  | some output =>
      rw [recorded, Option.some_or] at offers
      exact offers
  | none =>
      rw [recorded, Option.none_or] at offers
      have resuming : resumes entry = true := by
        by_contra fresh
        rw [startingOutputs, if_neg fresh] at offers
        cases offers
      have same := smooth.phases .counsel recorded
      obtain ⟨others, more, idle, -⟩ | ⟨early, other, output, fingerprint, late, more, -⟩ :=
        heard resuming (by rw [← same, ← phases]; exact unmarked)
      · rw [more] at whole
        obtain rfl := List.append_cancel_left whole
        cases (idle opened (List.mem_append_right _ (List.mem_singleton.mpr rfl))).1
      · rw [more] at whole
        have within := List.append_cancel_left whole
        have among : Call.acceptRetry other .counsel output (.ok fingerprint) ∈
            segment ++ [opened] :=
          within ▸ List.mem_append_right _ List.mem_cons_self
        rw [← last] at recorded
        exact absurd recorded (lastOutput_ne_none among (outputOf_accepted _ _ _ _))

/-- A retry that is accepted after the patch differs from it. -/
theorem renewed_of_heard {patch : SeatOutput} {last : Room World}
    (recorded : lastFingerprint tables initial .counsel next.calls =
      (semanticFingerprint tables patch).toOption)
    (material : Material tables initial last.calls) (heard : Heard next last) :
    Renewed tables patch next last := by
  obtain ⟨segment, calls, idle, -⟩ | ⟨early, incidentId, output, fingerprint, late, calls, idle⟩ :=
    heard
  · exact ⟨segment, calls, .inl idle⟩
  · refine ⟨_, calls, .inr ⟨early, incidentId, output, fingerprint, late, rfl, idle, ?_⟩⟩
    obtain ⟨known, previous, held, differs⟩ :=
      material (next.calls ++ early) incidentId .counsel output fingerprint
        ⟨late, by rw [calls]; simp⟩
    rw [lastFingerprint_silent idle.lastOutput, recorded] at held
    refine ⟨known, fun same => differs ?_⟩
    rw [same] at held
    exact (Option.some.inj held).symm

theorem roomAfter_heard {entries : List Entry} {start : Room World}
    (later : ∀ entry ∈ entries, resumes entry = true ∧ entryId entry = incidentId)
    (unmarked : start.phases .counsel ≠ some "test-failure-repair")
    (checked : Checked restored incidentId start) :
    Heard start (roomAfter tables collaborators fuel entries start) := by
  have heard := @lifetime_heard _ tables collaborators restored incidentId fuel entries start start
    later unmarked (.inl (.refl start)) checked
  unfold Meets at heard
  unfold roomAfter
  split at heard
  · rename_i outcome
    rw [outcome]
    exact heard
  · exact heard.elim

theorem compares_of_checked {entry : Entry} (reviewing : reviews entry = true)
    (checked : Checked restored (entryId entry) room) (consistent : Consistent tables initial room) :
    Compares tables collaborators fuel initial room entry := by
  have guarded := @guarded_of_checked _ tables collaborators fuel restored room entry reviewing
    checked
  have moves := @entry_steps _ tables collaborators fuel restored room entry checked
  refine ⟨consistent.material, ?_, ?_, fun decided next patch returns clears offers unmarked later own => ?_⟩
  · exact guarded.mono (fun _ _ guarded => .of_guarded guarded) fun _ _ guarded => .of_guarded guarded
  · exact guarded.mono (fun _ _ guarded => .of_guarded guarded) fun _ _ guarded => .of_guarded guarded
  have steps := moves.returned returns
  have still := steps_checked steps checked
  have after := steps_consistent steps consistent
  obtain ⟨magistrate, warrantId, -, approval⟩ :=
    (clears_of_checked reviewing checked).returned returns decided rfl clears
  obtain ⟨segment, calls, recorded⟩ := approved_recorded approval
    (fun resuming fresh => (entry_heard resuming fresh checked).returned returns) offers unmarked
  have onward := @roomAfter_steps _ tables collaborators fuel restored (entryId entry) next later
    (fun other among => (own other among).2) still
  have replaced : lastFingerprint tables initial .counsel next.calls =
      (semanticFingerprint tables patch).toOption := by
    rw [calls, lastFingerprint_recorded recorded]
  exact renewed_of_heard replaced (steps_consistent onward after).material
    (roomAfter_heard own unmarked still)

/-- What the calls do that go on with an approved patch. -/
theorem Compares.onward {entry : Entry} {decided : CoordinatorResult} {patch : SeatOutput}
    (compares : Compares tables collaborators fuel initial room entry)
    (returned : ((entry.call tables collaborators fuel).run room).1 = .ok (some decided))
    (clears : decided.verdict = .clear) (offers : decided.seatOutputs.get .counsel = some patch)
    (unmarked : ((entry.call tables collaborators fuel).run room).2.phases .counsel ≠
      some "test-failure-repair")
    {later : List Entry}
    (own : ∀ other ∈ later, resumes other = true ∧ entryId other = entryId entry) :
    Renewed tables patch ((entry.call tables collaborators fuel).run room).2
      (roomAfter tables collaborators fuel later
        ((entry.call tables collaborators fuel).run room).2) :=
  compares.renewed decided _ patch (Prod.ext returned rfl) clears offers unmarked later own

/-- The fingerprints of a tracker. -/
def fingerprints (tracker : EscalationTracker) (seat : Seat) : Option String :=
  (tracker.states seat).map (·.fingerprint)

/-- Over any calls before for the same incident, of a coordinator into which outputs may have
been restored, and with collaborators that behave in any way, retries are compared with the
output before them. -/
theorem retries_compared (tracker : EscalationTracker) (retained : Option Outputs)
    (phases : Seat → Option String) (world : World) (entries : List Entry) (entry : Entry)
    (own : ∀ other ∈ entries, entryId other = entryId entry) (reviewing : reviews entry = true) :
    Compares tables collaborators fuel (fingerprints tracker)
      (roomAfter tables collaborators fuel entries (Room.hydrated tracker retained phases world))
      entry := by
  have start := @checked_hydrated _ (entryId entry) tracker retained phases world
  have consistent : Consistent tables (fingerprints tracker)
      (Room.hydrated tracker retained phases world) :=
    ⟨fun _ => rfl, fun _ _ _ _ _ impossible => by simp [Room.hydrated] at impossible⟩
  have steps := @roomAfter_steps _ tables collaborators fuel _ _ _ entries own start
  exact compares_of_checked reviewing (steps_checked steps start) (steps_consistent steps consistent)

end Results

/-! ## A patch that comes back -/

def diffOf : SeatOutput → String
  | .counsel output => output.normalizedDiff
  | _ => ""

/-- The patches for which approvals were opened. -/
def approvedDiffs (calls : List Call) : List String :=
  calls.filterMap fun
    | .openApproval _ _ outputs (.ok _) => (outputs.get .counsel).map diffOf
    | _ => none

/-- A coordinator that has not been used for the incident. -/
def unusedRoom : Room Nat := Room.hydrated .empty none (fun _ => none) 0

/-- The first patch is approved and fails its test.  Its repair is approved and sent back
for a revision, and the revision is the first patch again: it is accepted as a retry,
and an approval is opened for it. -/
theorem failed_patch_offered_again :
    approvedDiffs (roomAfter sampleTables alternatingCollaborators 7
      [.runIncident scriptedIncident, .resumeAfterTest scriptedIncident false,
       .resumeAfterRevision scriptedIncident] unusedRoom).calls =
        ["+first", "+second", "+first"] := by
  decide +kernel

/-- The patch of a call that cleared the incident. -/
def clearedDiff : Except Fault (Option CoordinatorResult) → Option String
  | .ok (some decided) =>
      if decided.verdict = .clear then (decided.seatOutputs.get .counsel).map diffOf else none
  | _ => none

/-- The first patch has been approved. -/
def approvedRoom : Room Nat :=
  ((Entry.runIncident scriptedIncident).call sampleTables alternatingCollaborators 7).run
    unusedRoom |>.2

theorem first_patch_approved :
    clearedDiff (((Entry.runIncident scriptedIncident).call sampleTables alternatingCollaborators
      7).run unusedRoom).1 = some "+first" ∧
      approvedRoom.phases .counsel = some "patch-proposal" := by
  decide +kernel

theorem cleared_of_diff {outcome : Except Fault (Option CoordinatorResult)} {diff : String}
    (cleared : clearedDiff outcome = some diff) :
    ∃ decided patch, outcome = .ok (some decided) ∧ decided.verdict = .clear ∧
      decided.seatOutputs.get .counsel = some patch ∧ diffOf patch = diff := by
  cases outcome with
  | error error => cases cleared
  | ok result =>
      cases result with
      | none => cases cleared
      | some decided =>
          unfold clearedDiff at cleared
          dsimp only at cleared
          split at cleared
          · rename_i clears
            obtain ⟨patch, found, same⟩ := Option.map_eq_some_iff.mp cleared
            exact ⟨decided, patch, rfl, clears, found, same⟩
          · cases cleared

/-- The first patch is approved, and whatever goes on with it replaces it first. -/
theorem first_patch_renewed :
    ∃ patch, diffOf patch = "+first" ∧
      Compares sampleTables alternatingCollaborators 7 (fingerprints .empty) unusedRoom
        (.runIncident scriptedIncident) ∧
      Renewed sampleTables patch approvedRoom
        (roomAfter sampleTables alternatingCollaborators 7
          [.resumeAfterTest scriptedIncident false, .resumeAfterRevision scriptedIncident]
          approvedRoom) := by
  have compares : Compares sampleTables alternatingCollaborators 7 (fingerprints .empty)
      unusedRoom (.runIncident scriptedIncident) :=
    retries_compared .empty none (fun _ => none) 0 [] (.runIncident scriptedIncident) (by simp) rfl
  obtain ⟨cleared, phase⟩ := first_patch_approved
  obtain ⟨decided, patch, returned, clears, found, same⟩ := cleared_of_diff cleared
  have unmarked : approvedRoom.phases .counsel ≠ some "test-failure-repair" := by
    rw [phase]
    decide
  unfold approvedRoom at unmarked ⊢
  exact ⟨patch, same, compares, compares.onward returned clears found unmarked (by decide)⟩

end CrossPatch.Orchestration.Retries
