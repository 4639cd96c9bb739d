import CrossPatch.Orchestration.Bounds

/-!
# The steps of the coordinator

What a single step may change, and that every procedure of the coordinator moves along
such steps.  Outputs are kept and handed to the gateway after they were validated only.
A procedure that returns has met no failure on its way and holds what it recorded last;
one that raises has not opened an approval.  All of them keep to one incident.
-/

namespace CrossPatch.Orchestration.Steps

open CrossPatch.Domain.Failure CrossPatch.Domain.Seats CrossPatch.Domain.Semantics
open CrossPatch.Domain.StateMachine hiding remandTargets
open CrossPatch.Library CrossPatch.Library.Procedure
open CrossPatch.Orchestration.Bounds CrossPatch.Orchestration.Coordinator
open CrossPatch.Orchestration.Escalation
open Relation (ReflTransGen)

/-! ## Calls -/

def errorOf {α : Type} : Except Fault α → Option Fault
  | .ok _ => none
  | .error error => some error

/-- The exception that the call was answered with. -/
def raisedBy : Call → Option Fault
  | .beginReview _ answer => errorOf answer
  | .runInspectorToProsecutor _ answer => errorOf answer
  | .runSeat _ _ _ _ _ answer => errorOf answer
  | .containsAll _ _ answer => errorOf answer
  | .recordInitial _ _ _ answer => errorOf answer
  | .acceptRetry _ _ _ answer => errorOf answer
  | .publishAcceptedRetry _ _ _ _ _ answer => errorOf answer
  | .recordEscalation _ _ _ _ _ answer => errorOf answer
  | .rejectDuplicateRetry _ _ _ _ _ _ answer => errorOf answer
  | .recordVerdict _ _ answer => errorOf answer
  | .openApproval _ _ _ answer => errorOf answer
  | .failClosedAbstain _ _ answer => errorOf answer

def failed (call : Call) : Bool := (raisedBy call).isSome

/-- The incident that the call is for. -/
def subject : Call → String
  | .beginReview incidentId _ => incidentId
  | .runInspectorToProsecutor incidentId _ => incidentId
  | .runSeat incidentId .. => incidentId
  | .containsAll incidentId .. => incidentId
  | .recordInitial incidentId .. => incidentId
  | .acceptRetry incidentId .. => incidentId
  | .publishAcceptedRetry incidentId .. => incidentId
  | .recordEscalation incidentId .. => incidentId
  | .rejectDuplicateRetry incidentId .. => incidentId
  | .recordVerdict incidentId .. => incidentId
  | .openApproval incidentId .. => incidentId
  | .failClosedAbstain incidentId .. => incidentId

/-- The outputs for which the call opens an approval. -/
def offered : Call → Option Outputs
  | .openApproval _ _ outputs _ => some outputs
  | _ => none

def isApproval (call : Call) : Bool := (offered call).isSome

/-- A call that leaves the coordinator as it is. -/
def isPlain : Call → Bool
  | .recordInitial .. => false
  | .acceptRetry .. => false
  | .openApproval .. => false
  | _ => true

/-- The output that a call recorded for a seat. -/
def outputOf (seat : Seat) : Call → Option SeatOutput
  | .recordInitial _ other output (.ok _) => if other = seat then some output else none
  | .acceptRetry _ other output (.ok _) => if other = seat then some output else none
  | _ => none

def lastOutput (seat : Seat) (calls : List Call) : Option SeatOutput :=
  (calls.filterMap (outputOf seat)).getLast?

theorem isApproval_of_plain {call : Call} (plain : isPlain call = true) :
    isApproval call = false := by
  cases call with
  | openApproval => cases plain
  | _ => rfl

theorem outputOf_of_plain {call : Call} (plain : isPlain call = true) (seat : Seat) :
    outputOf seat call = none := by
  cases call with
  | recordInitial | acceptRetry => cases plain
  | _ => rfl

theorem lastOutput_append (seat : Seat) (calls more : List Call) :
    lastOutput seat (calls ++ more) = (lastOutput seat more).or (lastOutput seat calls) := by
  unfold lastOutput
  rw [List.filterMap_append, List.getLast?_append]

theorem lastOutput_cons (seat : Seat) (call : Call) (calls : List Call) :
    lastOutput seat (call :: calls) = (lastOutput seat calls).or (outputOf seat call) := by
  rw [← List.singleton_append, lastOutput_append]
  congr 1
  unfold lastOutput
  rw [List.filterMap_cons, List.filterMap_nil]
  cases outputOf seat call <;> rfl

/-! ## Steps -/

section Relation

variable {World : Type} (tables : SemanticTables) (restored : List (Seat × SeatOutput))
variable (incidentId : String)

/-- The output has the type of its seat and a remand target if and only if it remands,
and the citation authority confirmed what it cites.  Restored outputs were validated
when they were recorded. -/
def Vouched (calls : List Call) (seat : Seat) (output : SeatOutput) : Prop :=
  (seat, output) ∈ restored ∨ checkType seat (.output output) = .ok output ∧
    (seat = .bailiff ∨
      output.evidenceIds ≠ [] ∧ .containsAll incidentId output.evidenceIds (.ok true) ∈ calls)

def AllVouched (calls : List Call) (outputs : Outputs) : Prop :=
  ∀ entry ∈ outputs.entries, Vouched restored incidentId calls entry.1 entry.2

/-- Everything that the coordinator holds was validated. -/
structure Checked (room : Room World) : Prop where
  current : AllVouched restored incidentId room.calls room.outputs
  kept : ∀ outputs, room.retained = some outputs →
    AllVouched restored incidentId room.calls outputs

/-- What one incident may change at a time. -/
inductive Step : Room World → Room World → Prop where
  | asked {room : Room World} (call : Call) (world : World) (plain : isPlain call = true)
      (own : subject call = incidentId) :
      Step room (room.noted call world)
  | approval {room : Room World} (magistrate : MagistrateOutput) (answer : Except Fault String)
      (world : World)
      (vouched : Vouched restored incidentId room.calls .magistrate (.magistrate magistrate))
      (clears : magistrate.verdict = .clear) :
      Step room (room.noted (.openApproval incidentId magistrate room.outputs answer) world)
  | recorded {room : Room World} (seat : Seat) (output : SeatOutput) (fingerprint : String)
      (known : semanticFingerprint tables output = .ok fingerprint) :
      Step room
        (({ room with
            tracker := room.tracker.put seat
              (Escalation.recorded (room.tracker.states seat) fingerprint) } : Room World).noted
          (.recordInitial incidentId seat output (.ok ())) room.world)
  | unrecorded {room : Room World} (seat : Seat) (output : SeatOutput) (error : Fault) :
      Step room (room.noted (.recordInitial incidentId seat output (.error error)) room.world)
  | granted {room : Room World} (seat : Seat) (state : SeatState) (reason : String)
      (found : room.tracker.states seat = some state) :
      Step room { room with tracker := room.tracker.put seat (Escalation.granted state reason) }
  | accepted {room : Room World} (seat : Seat) (state : SeatState) (output : SeatOutput)
      (fingerprint : String) (found : room.tracker.states seat = some state)
      (known : semanticFingerprint tables output = .ok fingerprint)
      (differs : fingerprint ≠ state.fingerprint) :
      Step room
        (({ room with
            tracker := room.tracker.put seat
              { settled state with fingerprint := fingerprint } } : Room World).noted
          (.acceptRetry incidentId seat output (.ok fingerprint)) room.world)
  | duplicate {room : Room World} (seat : Seat) (state : SeatState) (output : SeatOutput)
      (error : Fault) (found : room.tracker.states seat = some state) :
      Step room
        (({ room with tracker := room.tracker.put seat (settled state) } : Room World).noted
          (.acceptRetry incidentId seat output (.error error)) room.world)
  | unaccepted {room : Room World} (seat : Seat) (output : SeatOutput) (error : Fault) :
      Step room (room.noted (.acceptRetry incidentId seat output (.error error)) room.world)
  | kept {room : Room World} (seat : Seat) (phase : String) (output : SeatOutput)
      (vouched : Vouched restored incidentId room.calls seat output) :
      Step room
        { room with
          outputs := room.outputs.put seat output
          phases := fun other => if other = seat then some phase else room.phases other }
  | retained {room : Room World} : Step room { room with retained := some room.outputs }
  | cleared {room : Room World} : Step room { room with outputs := .empty }
  | resumed {room : Room World} (outputs : Outputs) (known : room.retained = some outputs) :
      Step room { room with outputs := outputs }

end Relation

section Invariance

variable {World : Type} {tables : SemanticTables} {restored : List (Seat × SeatOutput)}
variable {incidentId : String} {room next : Room World}

theorem Vouched.later {calls later : List Call} {seat : Seat} {output : SeatOutput}
    (vouched : Vouched restored incidentId calls seat output) (grown : ∀ call ∈ calls, call ∈ later) :
    Vouched restored incidentId later seat output := by
  obtain known | ⟨typed, free | ⟨cites, confirmed⟩⟩ := vouched
  · exact .inl known
  · exact .inr ⟨typed, .inl free⟩
  · exact .inr ⟨typed, .inr ⟨cites, grown _ confirmed⟩⟩

theorem AllVouched.later {calls later : List Call} {outputs : Outputs}
    (vouched : AllVouched restored incidentId calls outputs) (grown : ∀ call ∈ calls, call ∈ later) :
    AllVouched restored incidentId later outputs :=
  fun entry among => (vouched entry among).later grown

theorem AllVouched.put {calls : List Call} {outputs : Outputs} {seat : Seat} {output : SeatOutput}
    (all : AllVouched restored incidentId calls outputs)
    (vouched : Vouched restored incidentId calls seat output) :
    AllVouched restored incidentId calls (outputs.put seat output) := by
  intro entry among
  unfold Outputs.put at among
  split at among
  · obtain ⟨other, present, rfl⟩ := List.mem_map.mp among
    split
    · exact vouched
    · exact all other present
  · obtain present | last := List.mem_append.mp among
    · exact all entry present
    · obtain rfl := List.mem_singleton.mp last
      exact vouched

/-- Nothing is taken off the log. -/
theorem Step.grows (step : Step tables restored incidentId room next) :
    room.calls <+: next.calls := by
  cases step with
  | granted | kept | retained | cleared | resumed => exact List.prefix_rfl
  | _ => exact List.prefix_append _ _

theorem Step.checked (step : Step tables restored incidentId room next)
    (checked : Checked restored incidentId room) :
    Checked restored incidentId next := by
  have current := checked.current.later step.grows.subset
  have kept : ∀ outputs, room.retained = some outputs → AllVouched restored incidentId next.calls outputs :=
    fun outputs known => (checked.kept outputs known).later step.grows.subset
  cases step with
  | kept seat phase output vouched => exact ⟨checked.current.put vouched, kept⟩
  | retained =>
      refine ⟨current, fun outputs known => ?_⟩
      cases known
      exact current
  | cleared => exact ⟨fun _ impossible => (by cases impossible), kept⟩
  | resumed outputs known => exact ⟨checked.kept outputs known, kept⟩
  | _ => exact ⟨current, kept⟩

theorem steps_grow (steps : ReflTransGen (Step tables restored incidentId) room next) :
    room.calls <+: next.calls := by
  induction steps with
  | refl => exact List.prefix_rfl
  | tail _ step grown => exact grown.trans step.grows

theorem steps_checked (steps : ReflTransGen (Step tables restored incidentId) room next)
    (checked : Checked restored incidentId room) : Checked restored incidentId next := by
  induction steps with
  | refl => exact checked
  | tail _ step before => exact step.checked before

end Invariance

/-! ## Procedures -/

section Procedures

variable {World : Type} (tables : SemanticTables) (restored : List (Seat × SeatOutput))
variable (incidentId : String)

/-- A failure that counts as reported was raised by a collaborator, or comes from a retry
of which the rejection was written. -/
def Attributed (segment : List Call) (error : Fault) : Prop :=
  error.isPersisted = true →
    (∃ call ∈ segment, raisedBy call = some error) ∨
      ∃ seat effort phase output reason,
        .rejectDuplicateRetry incidentId seat effort phase output reason (.ok ()) ∈ segment

/-- The exception was raised before an approval was opened. -/
def Quietly (error : Fault) (room next : Room World) : Prop :=
  ∃ segment, next.calls = room.calls ++ segment ∧
    (∀ call ∈ segment, subject call = incidentId ∧ isApproval call = false) ∧
      Attributed incidentId segment error

/-- No call has failed and no approval was opened, and the outputs that were recorded have
taken the place of those at the start. -/
structure Smooth (start : Outputs) (room next : Room World) (segment : List Call) : Prop where
  calls : next.calls = room.calls ++ segment
  good : ∀ call ∈ segment,
    subject call = incidentId ∧ isApproval call = false ∧ failed call = false
  outputs : ∀ seat, next.outputs.get seat = (lastOutput seat segment).or (start.get seat)
  phases : ∀ seat, lastOutput seat segment = none → next.phases seat = room.phases seat

def Smoothly (start : Outputs) (room next : Room World) : Prop :=
  ∃ segment, Smooth incidentId start room next segment

/-- From a checked room the procedure moves along steps, smoothly unless it raises. -/
def Leads {α : Type} (room : Room World) (body : Coordination World α)
    (Value : α → Room World → Prop) : Prop :=
  Checked restored incidentId room → body.Meets room
    (fun value next => ReflTransGen (Step tables restored incidentId) room next ∧
      Smoothly incidentId room.outputs room next ∧ Value value next)
    fun error next => ReflTransGen (Step tables restored incidentId) room next ∧
      Quietly incidentId error room next

end Procedures

section Rules

variable {World α β : Type} {tables : SemanticTables} {restored : List (Seat × SeatOutput)}
variable {incidentId : String} {room next last : Room World} {error : Fault}

theorem attributed_of_new {segment : List Call} (new : error.isPersisted = false) :
    Attributed incidentId segment error := by
  intro persisted
  rw [new] at persisted
  cases persisted

theorem Attributed.later {segment : List Call} (attributed : Attributed incidentId segment error)
    (before : List Call) : Attributed incidentId (before ++ segment) error := by
  intro persisted
  obtain ⟨call, among, raised⟩ | ⟨seat, effort, phase, output, reason, among⟩ :=
    attributed persisted
  · exact .inl ⟨call, List.mem_append_right _ among, raised⟩
  · exact .inr ⟨seat, effort, phase, output, reason, List.mem_append_right _ among⟩

theorem Smooth.trans {start : Outputs} {segment others : List Call}
    (first : Smooth incidentId start room next segment)
    (second : Smooth incidentId next.outputs next last others) :
    Smooth incidentId start room last (segment ++ others) := by
  refine ⟨by rw [second.calls, first.calls, List.append_assoc], fun call among => ?_,
    fun seat => ?_, fun seat none => ?_⟩
  · obtain among | among := List.mem_append.mp among
    · exact first.good call among
    · exact second.good call among
  · rw [second.outputs, first.outputs, lastOutput_append, Option.or_assoc]
  · rw [lastOutput_append, Option.or_eq_none_iff] at none
    rw [second.phases seat none.1, first.phases seat none.2]

theorem Smooth.refl (room : Room World) : Smooth incidentId room.outputs room room [] :=
  ⟨(List.append_nil _).symm, fun _ impossible => (by cases impossible), fun _ => rfl, fun _ _ => rfl⟩

theorem Smoothly.refl (room : Room World) : Smoothly incidentId room.outputs room room :=
  ⟨[], .refl room⟩

theorem Smoothly.trans {start : Outputs} (first : Smoothly incidentId start room next)
    (second : Smoothly incidentId next.outputs next last) :
    Smoothly incidentId start room last := by
  obtain ⟨segment, smooth⟩ := first
  obtain ⟨others, smoother⟩ := second
  exact ⟨_, smooth.trans smoother⟩

theorem Smoothly.quietly {start : Outputs} (smooth : Smoothly incidentId start room next)
    (quiet : Quietly incidentId error next last) : Quietly incidentId error room last := by
  obtain ⟨segment, smooth⟩ := smooth
  obtain ⟨others, calls, good, attributed⟩ := quiet
  refine ⟨segment ++ others, by rw [calls, smooth.calls, List.append_assoc], fun call among => ?_,
    attributed.later segment⟩
  obtain among | among := List.mem_append.mp among
  · exact ⟨(smooth.good call among).1, (smooth.good call among).2.1⟩
  · exact good call among

/-- Nothing was called. -/
theorem quietly_refl (room : Room World) (new : error.isPersisted = false) :
    Quietly incidentId error room room :=
  ⟨[], (List.append_nil _).symm, fun _ impossible => (by cases impossible), attributed_of_new new⟩

/-- Calls that open no approval, the last of which raised the exception. -/
theorem quietly_of_raised {segment : List Call} {call : Call}
    (calls : next.calls = room.calls ++ (segment ++ [call]))
    (good : ∀ other ∈ segment ++ [call], subject other = incidentId ∧ isApproval other = false)
    (raised : raisedBy call = some error) : Quietly incidentId error room next :=
  ⟨segment ++ [call], calls, good,
    fun _ => .inl ⟨call, List.mem_append_right _ (List.mem_singleton.mpr rfl), raised⟩⟩

/-- One call that leaves the outputs as they are. -/
theorem smooth_call {call : Call} (calls : next.calls = room.calls ++ [call])
    (own : subject call = incidentId) (plain : isPlain call = true) (succeeds : failed call = false)
    (outputs : next.outputs = room.outputs) (phases : next.phases = room.phases) :
    Smooth incidentId room.outputs room next [call] := by
  have none : ∀ seat, lastOutput seat [call] = none := by
    intro seat
    rw [lastOutput_cons, outputOf_of_plain plain]
    rfl
  refine ⟨calls, fun other among => ?_, fun seat => ?_, fun seat _ => by rw [phases]⟩
  · obtain rfl := List.mem_singleton.mp among
    exact ⟨own, isApproval_of_plain plain, succeeds⟩
  · rw [none seat, Option.none_or, outputs]

theorem quietly_call {call : Call} (calls : next.calls = room.calls ++ [call])
    (own : subject call = incidentId) (other : isApproval call = false)
    (raised : raisedBy call = some error) : Quietly incidentId error room next := by
  refine @quietly_of_raised _ _ _ _ _ [] call calls (fun known among => ?_) raised
  obtain rfl := List.mem_singleton.mp among
  exact ⟨own, other⟩

theorem Leads.mono {body : Coordination World α} {Value Weaker : α → Room World → Prop}
    (leads : Leads tables restored incidentId room body Value)
    (weaker : ∀ value next, Value value next → Weaker value next) :
    Leads tables restored incidentId room body Weaker := fun checked =>
  (leads checked).mono
    (fun value next ⟨steps, smooth, held⟩ => ⟨steps, smooth, weaker value next held⟩)
    fun _ _ => id

theorem Leads.bind {first : Coordination World α} {continuation : α → Coordination World β}
    {Value : α → Room World → Prop} {Result : β → Room World → Prop}
    (starts : Leads tables restored incidentId room first Value)
    (continues : ∀ value middle, ReflTransGen (Step tables restored incidentId) room middle →
      Value value middle → Leads tables restored incidentId middle (continuation value) Result) :
    Leads tables restored incidentId room (first >>= continuation) Result := by
  intro checked
  rw [meets_bind]
  refine (starts checked).mono (fun value middle led => ?_) fun _ _ led => led
  obtain ⟨steps, smooth, held⟩ := led
  refine (continues value middle steps held (steps_checked steps checked)).mono ?_ ?_
  · exact fun _ _ ⟨more, smoother, result⟩ => ⟨steps.trans more, smooth.trans smoother, result⟩
  · exact fun _ _ ⟨more, quiet⟩ => ⟨steps.trans more, smooth.quietly quiet⟩

theorem leads_pure {Value : α → Room World → Prop} {value : α} (holds : Value value room) :
    Leads tables restored incidentId room (pure value) Value :=
  fun _ => ⟨.refl, .refl room, holds⟩

theorem leads_raise {Value : α → Room World → Prop} (new : error.isPersisted = false) :
    Leads tables restored incidentId room (raise error) Value :=
  fun _ => ⟨.refl, quietly_refl room new⟩

theorem leads_get :
    Leads tables restored incidentId room get fun value next => value = next :=
  fun _ => ⟨.refl, .refl room, rfl⟩

theorem leads_ofExcept (attempt : Except Fault α)
    (new : ∀ error, attempt = .error error → error.isPersisted = false) :
    Leads tables restored incidentId room (ofExcept attempt)
      fun value _ => attempt = .ok value := by
  intro _
  rw [meets_ofExcept]
  cases attempt with
  | ok value => exact ⟨.refl, .refl room, rfl⟩
  | error error => exact ⟨.refl, quietly_refl room (new error rfl)⟩

theorem leads_ofAttempt (attempt : Attempt α) :
    Leads tables restored incidentId room (ofAttempt attempt) fun _ _ => True := by
  intro _
  rw [meets_ofAttempt]
  cases attempt with
  | ok value => exact ⟨.refl, .refl room, trivial⟩
  | error error => exact ⟨.refl, quietly_refl room rfl⟩

/-- Plain calls for the incident, with what they were answered. -/
structure Notes (incidentId : String) (note : Except Fault α → Call) : Prop where
  plain : ∀ answer, isPlain (note answer) = true
  own : ∀ answer, subject (note answer) = incidentId
  answered : ∀ answer, raisedBy (note answer) = errorOf answer

theorem leads_ask {note : Except Fault α → Call} {body : Procedure Fault World α}
    (notes : Notes incidentId note) :
    Leads tables restored incidentId room (ask note body)
      fun value next => note (.ok value) ∈ next.calls := by
  intro _
  rw [meets_ask]
  refine meets_of_forall (fun value world => ?_) (fun error world => ?_)
  · refine ⟨.single (.asked _ world (notes.plain _) (notes.own _)), ⟨[note (.ok value)], ?_⟩,
      List.mem_append_right _ (List.mem_singleton.mpr rfl)⟩
    refine smooth_call rfl (notes.own _) (notes.plain _) ?_ rfl rfl
    rw [failed, notes.answered]
    rfl
  · refine ⟨.single (.asked _ world (notes.plain _) (notes.own _)), ?_⟩
    exact quietly_call rfl (notes.own _) (isApproval_of_plain (notes.plain _)) (notes.answered _)

/-- A handler that raises again, after calls that open no approval. -/
theorem Leads.rescue {body : Coordination World α} {handler : Fault → Coordination World α}
    {Value : α → Room World → Prop} (tries : Leads tables restored incidentId room body Value)
    (raises : ∀ error middle, Quietly incidentId error room middle →
      (handler error).Meets middle (fun _ _ => False) fun raised next =>
        ReflTransGen (Step tables restored incidentId) middle next ∧
          Quietly incidentId raised room next) :
    Leads tables restored incidentId room (body.rescue handler) Value := by
  intro checked
  rw [meets_rescue]
  refine (tries checked).mono (fun _ _ led => led) fun error middle led => ?_
  obtain ⟨steps, quiet⟩ := led
  refine (raises error middle quiet).mono (fun _ _ impossible => impossible.elim) fun _ _ led => ?_
  exact ⟨steps.trans led.1, led.2⟩

end Rules

section Parts

variable {World : Type} {tables : SemanticTables} {restored : List (Seat × SeatOutput)}
variable {collaborators : Collaborators World} {incident : IncidentInput} {seat : Seat}
variable {incidentId : String} {room : Room World}

theorem leads_currentEffort :
    Leads tables restored incidentId room (track (currentEffort seat)) fun _ _ => True := by
  intro _
  simp only [meets_track, currentEffort, meets_bind, meets_get]
  unfold ladderEffort
  split
  · exact ⟨.refl, .refl room, trivial⟩
  · exact ⟨.refl, quietly_refl room rfl⟩

/-- The room after outputs were recorded and taken over. -/
theorem smooth_recorded {next : Room World} {call : Call} {output : SeatOutput} {phase : String}
    {tracker : EscalationTracker} (own : subject call = incidentId)
    (other : isApproval call = false) (succeeds : failed call = false)
    (records : ∀ current, outputOf current call = if seat = current then some output else none)
    (same : next =
      { ({ room with tracker := tracker } : Room World).noted call room.world with
        outputs := room.outputs.put seat output
        phases := fun current => if current = seat then some phase else room.phases current }) :
    Smooth incidentId room.outputs room next [call] := by
  subst same
  refine ⟨rfl, fun known among => ?_, fun current => ?_, fun current none => ?_⟩
  · obtain rfl := List.mem_singleton.mp among
    exact ⟨own, other, succeeds⟩
  · rw [lastOutput_cons, records, Outputs.get_put]
    by_cases here : current = seat
    · rw [if_pos here, if_pos here.symm]
      rfl
    · rw [if_neg here, if_neg (Ne.symm here)]
      rfl
  · rw [lastOutput_cons, records] at none
    by_cases here : current = seat
    · rw [if_pos here.symm] at none
      cases none
    · exact if_neg here

/-- An output is recorded outside of a retry, and taken over. -/
theorem leads_record {phase : String} {output : SeatOutput}
    (vouched : Vouched restored incidentId room.calls seat output) :
    Leads tables restored incidentId room
      (do
        consult (Call.recordInitial incidentId seat output) (recordInitial tables seat output)
        keep seat phase output
        pure output)
      fun value next => Vouched restored incidentId next.calls seat value := by
  intro _
  rw [meets_bind, meets_consult]
  refine recordInitial_meets.mono (fun _ after changed => ?_) (fun error after same => ?_)
  · obtain ⟨fingerprint, known, rfl⟩ := changed
    simp only [keep, meets_bind, meets_modify, meets_pure]
    have still := vouched.later fun _ => @List.mem_append_left _ _ _
      [Call.recordInitial incidentId seat output (.ok ())]
    exact ⟨.tail (.single (.recorded seat output fingerprint known)) (.kept seat phase output still),
      ⟨_, smooth_recorded rfl rfl rfl (fun _ => rfl) rfl⟩, still⟩
  · obtain ⟨new, rfl⟩ := same
    exact ⟨.single (.unrecorded seat output error), quietly_call rfl rfl rfl rfl⟩

theorem checkType_ok {returned : Returned} {output : SeatOutput}
    (typed : checkType seat returned = .ok output) : returned = .output output := by
  unfold checkType at typed
  split at typed
  · split at typed
    · split at typed
      · split at typed
        · split at typed
          · cases typed
            rfl
          · cases typed
        · split at typed
          · cases typed
          · cases typed
            rfl
      · cases typed
        rfl
    · cases typed
  · split at typed <;> cases typed
  · cases typed

theorem checkType_error {returned : Returned} {error : Fault}
    (typed : checkType seat returned = .error error) : error.isPersisted = false := by
  unfold checkType at typed
  split at typed
  · split at typed
    · split at typed
      · split at typed
        · split at typed <;> cases typed
          rfl
        · split at typed <;> cases typed
          rfl
      · cases typed
    · cases typed
      rfl
  · split at typed
    · cases typed
      rfl
    · cases typed
      rfl
  · cases typed
    rfl

theorem leads_validate {returned : Returned} :
    Leads tables restored incidentId room (validate collaborators incidentId seat returned)
      fun output next => Vouched restored incidentId next.calls seat output := by
  unfold validate validateWith
  refine (leads_ofExcept _ fun _ => checkType_error).bind fun output middle _ typed => ?_
  have same := checkType_ok typed
  subst same
  split
  · rename_i free
    exact leads_pure (.inr ⟨typed, .inl free⟩)
  split
  · exact leads_raise rfl
  rename_i cites
  refine (leads_ask (by exact ⟨fun _ => rfl, fun _ => rfl, fun _ => rfl⟩)).bind
    fun contained after _ noted => ?_
  split
  · rename_i confirmed
    subst confirmed
    exact leads_pure (.inr ⟨typed, .inr ⟨cites, noted⟩⟩)
  · exact leads_raise rfl

theorem leads_request {phase : String} :
    Leads tables restored incidentId room (request tables incident phase)
      fun input _ => input.incidentId = incident.incidentId := by
  unfold request
  refine leads_get.bind fun _ _ _ _ => (leads_ofAttempt _).bind fun _ _ _ _ => ?_
  split
  · exact leads_pure rfl
  · exact leads_raise rfl

theorem leads_runSeat {phase : String} :
    Leads tables restored incident.incidentId room
      (runSeat tables collaborators incident seat phase)
      fun output next => Vouched restored incident.incidentId next.calls seat output := by
  unfold runSeat
  refine leads_currentEffort.bind fun effort _ _ _ => ?_
  refine leads_request.bind fun input _ _ own => ?_
  refine (leads_ask (by exact ⟨fun _ => rfl, fun _ => own, fun _ => rfl⟩)).bind
    fun returned _ _ _ => ?_
  exact leads_validate.bind fun validated middle _ vouched => leads_record vouched

/-- The failure of a retry is translated to one that was not reported. -/
theorem attemptOf_isPersisted {effort : Effort} {phase : String} {output : SeatOutput}
    {error : Fault} (new : error.isPersisted = false) :
    (attemptOf seat effort phase output error).isPersisted = false := by
  cases error with
  | raised error =>
      unfold attemptOf
      dsimp only
      split <;> rfl
  | alreadyPersisted => cases new
  | _ => rfl

theorem exhaustionOf_isPersisted {error : Fault} (new : error.isPersisted = false) :
    (exhaustionOf error).isPersisted = false := by
  cases error with
  | raised error =>
      unfold exhaustionOf
      dsimp only
      split <;> rfl
  | alreadyPersisted => cases new
  | _ => rfl

/-- One call, after which something new was raised. -/
theorem quietly_note {next : Room World} {call : Call} {error : Fault}
    (calls : next.calls = room.calls ++ [call]) (own : subject call = incidentId)
    (other : isApproval call = false) (new : error.isPersisted = false) :
    Quietly incidentId error room next := by
  refine ⟨[call], calls, fun known among => ?_, attributed_of_new new⟩
  obtain rfl := List.mem_singleton.mp among
  exact ⟨own, other⟩

/-- A retry is accepted, published and taken over. -/
theorem leads_accept {phase : String} {effort : Effort} {output : SeatOutput}
    (vouched : Vouched restored incidentId room.calls seat output) :
    Leads tables restored incidentId room
      (do
        let _ ← (consult (Call.acceptRetry incidentId seat output)
            (acceptRetry tables seat output)).rescue
          fun error => raise (attemptOf seat effort phase output error)
        match collaborators.deferred with
        | none => pure ()
        | some deferred =>
            ask (.publishAcceptedRetry incidentId seat effort phase output)
              (deferred.publishAcceptedRetry incidentId seat effort phase output)
        keep seat phase output
        pure output)
      fun value next => Vouched restored incidentId next.calls seat value := by
  intro _
  rw [meets_bind, meets_rescue, meets_consult]
  refine acceptRetry_meets.mono (fun fingerprint after changed => ?_) (fun error after changed => ?_)
  · obtain ⟨state, found, -, known, differs, rfl⟩ := changed
    have accepts := @Step.accepted _ tables restored incidentId room seat state output fingerprint
      found known differs
    have still := vouched.later fun _ => @List.mem_append_left _ _ _
      [Call.acceptRetry incidentId seat output (.ok fingerprint)]
    have keeps := @smooth_recorded _ seat incidentId room _
      (.acceptRetry incidentId seat output (.ok fingerprint)) output phase
      (room.tracker.put seat { settled state with fingerprint := fingerprint })
      rfl rfl rfl (fun _ => rfl) rfl
    dsimp only
    split
    · simp only [keep, meets_bind, meets_modify, meets_pure]
      exact ⟨.tail (.single accepts) (.kept seat phase output still), ⟨_, keeps⟩, still⟩
    · rw [meets_bind, meets_ask]
      refine meets_of_forall (fun value world => ?_) (fun error world => ?_)
      · simp only [keep, meets_bind, meets_modify, meets_pure]
        let publication := Call.publishAcceptedRetry incidentId seat effort phase output (.ok value)
        have more := still.later fun _ => @List.mem_append_left _ _ _ [publication]
        exact ⟨.tail (.tail (.single accepts) (.asked publication world rfl rfl))
          (.kept seat phase output more),
          ⟨_, keeps.trans (@smooth_call _ _ _ _ publication rfl rfl rfl rfl rfl rfl)⟩, more⟩
      · let publication :=
          Call.publishAcceptedRetry incidentId seat effort phase output (.error error)
        refine ⟨.tail (.single accepts) (.asked publication world rfl rfl), ?_⟩
        refine @quietly_of_raised _ _ _ _ _
          [.acceptRetry incidentId seat output (.ok fingerprint)] publication
          (List.append_assoc _ _ _) (fun other among => ?_) rfl
        obtain rfl | rfl := List.mem_pair.mp among <;> exact ⟨rfl, rfl⟩
  · obtain ⟨new, rfl | ⟨state, found, -, rfl⟩⟩ := changed
    · exact ⟨.single (.unaccepted seat output error),
        quietly_note rfl rfl rfl (attemptOf_isPersisted new)⟩
    · exact ⟨.single (.duplicate seat state output error found),
        quietly_note rfl rfl rfl (attemptOf_isPersisted new)⟩

theorem leads_runRetry {phase : String} {effort : Effort} :
    Leads tables restored incident.incidentId room
      (runRetry tables collaborators incident seat phase effort)
      fun output next => Vouched restored incident.incidentId next.calls seat output := by
  unfold runRetry
  refine leads_request.bind fun input _ _ own => ?_
  refine (leads_ask (by exact ⟨fun _ => rfl, fun _ => own, fun _ => rfl⟩)).bind
    fun returned _ _ _ => ?_
  exact leads_validate.bind fun validated middle _ vouched => leads_accept vouched

theorem leads_decideEscalation {reason : String} :
    Leads tables restored incident.incidentId room
      (decideEscalation collaborators incident seat reason) fun _ _ => True := by
  intro _
  unfold decideEscalation
  rw [meets_bind, meets_track]
  refine resumePendingEscalation_meets.mono (fun pending after resumed => ?_) fun _ after raised => ?_
  · obtain ⟨rfl, -⟩ := resumed
    cases pending with
    | some decision => exact ⟨.refl, .refl room, trivial⟩
    | none =>
        simp only [meets_bind, meets_rescue, meets_track, meets_raise]
        refine beginEscalation_meets.mono (fun decision after grants => ?_) fun _ after raised => ?_
        · obtain ⟨state, found, -, -, -, -, rfl⟩ := grants
          have granted := @Step.granted _ tables restored incident.incidentId room seat state reason
            found
          rw [meets_ask]
          let note := Call.recordEscalation incident.incidentId seat decision.effort
            decision.escalationCount reason
          refine meets_of_forall (fun value world => ?_) fun error world => ?_
          · exact ⟨.tail (.single granted) (.asked (note (.ok value)) world rfl rfl),
              ⟨_, smooth_call rfl rfl rfl rfl rfl rfl⟩, trivial⟩
          · exact ⟨.tail (.single granted) (.asked (note (.error error)) world rfl rfl),
              quietly_call rfl rfl rfl rfl⟩
        · obtain ⟨new, rfl⟩ := raised
          exact ⟨.refl, quietly_refl room (exhaustionOf_isPersisted new)⟩
  · obtain ⟨new, rfl⟩ := raised
    exact ⟨.refl, quietly_refl room new⟩

/-- The rejection of a duplicate is written before the failure counts as reported. -/
theorem rejectAttempt_quietly {reason : String} {error : Fault} {middle : Room World}
    (quiet : Quietly incident.incidentId error room middle) :
    (rejectAttempt collaborators incident reason error).Meets middle (fun _ _ => False)
      fun raised next => ReflTransGen (Step tables restored incident.incidentId) middle next ∧
        Quietly incident.incidentId raised room next := by
  unfold rejectAttempt
  split
  · rename_i message seat effort phase output
    obtain ⟨segment, calls, good, -⟩ := quiet
    rw [meets_bind, meets_ask]
    let rejection := Call.rejectDuplicateRetry incident.incidentId seat effort phase output reason
    have own : ∀ answer, ∀ call ∈ segment ++ [rejection answer],
        subject call = incident.incidentId ∧ isApproval call = false := by
      intro answer call among
      obtain among | among := List.mem_append.mp among
      · exact good call among
      · obtain rfl := List.mem_singleton.mp among
        exact ⟨rfl, rfl⟩
    have longer : ∀ answer, middle.calls ++ [rejection answer] =
        room.calls ++ (segment ++ [rejection answer]) := by
      intro answer
      rw [calls, List.append_assoc]
    refine meets_of_forall (fun _ world => ?_) fun error world => ?_
    · refine ⟨.single (.asked (rejection (.ok ())) world rfl rfl), _, longer _, own _, fun _ => ?_⟩
      exact .inr ⟨seat, effort, phase, output, reason,
        List.mem_append_right _ (List.mem_singleton.mpr rfl)⟩
    · exact ⟨.single (.asked (rejection (.error error)) world rfl rfl),
        quietly_of_raised (longer _) (own _) rfl⟩
  · exact ⟨.refl, quiet⟩

theorem leads_escalate {reason phase : String} :
    Leads tables restored incident.incidentId room
      (escalate tables collaborators incident seat reason phase)
      fun output next => Vouched restored incident.incidentId next.calls seat output := by
  unfold escalate
  refine leads_decideEscalation.bind fun decision _ _ _ => ?_
  exact leads_runRetry.rescue fun error middle => rejectAttempt_quietly

/-- The two outputs of the handoff are recorded before they are taken over. -/
theorem leads_handoff {first second : SeatOutput}
    (vouched : Vouched restored incidentId room.calls .inspector first)
    (vouchedSecond : Vouched restored incidentId room.calls .prosecutor second) :
    Leads tables restored incidentId room
      (do
        consult (Call.recordInitial incidentId .inspector first)
          (recordInitial tables .inspector first)
        consult (Call.recordInitial incidentId .prosecutor second)
          (recordInitial tables .prosecutor second)
        keep .inspector "mechanism-analysis" first
        keep .prosecutor "hypothesis-challenge" second)
      fun _ _ => True := by
  intro _
  rw [meets_bind, meets_consult]
  refine recordInitial_meets.mono (fun _ after changed => ?_) (fun error after same => ?_)
  · obtain ⟨fingerprint, known, rfl⟩ := changed
    have records := @Step.recorded _ tables restored incidentId room .inspector first fingerprint
      known
    rw [meets_bind, meets_consult]
    refine recordInitial_meets.mono (fun _ late changed => ?_) (fun error late same => ?_)
    · obtain ⟨other, knownSecond, rfl⟩ := changed
      simp only [keep, meets_bind, meets_modify]
      have grown : ∀ call ∈ room.calls, call ∈ room.calls ++
          [.recordInitial incidentId .inspector first (.ok ())] ++
          [.recordInitial incidentId .prosecutor second (.ok ())] := fun call known =>
        List.mem_append_left _ (List.mem_append_left _ known)
      refine ⟨.tail (.tail (.tail (.single records)
        (.recorded .prosecutor second other knownSecond))
        (.kept .inspector "mechanism-analysis" first (vouched.later grown)))
        (.kept .prosecutor "hypothesis-challenge" second (vouchedSecond.later grown)), ?_, trivial⟩
      have keeps := @smooth_recorded _ .inspector incidentId room _
        (.recordInitial incidentId .inspector first (.ok ())) first "mechanism-analysis"
        (room.tracker.put .inspector
          (Escalation.recorded (room.tracker.states .inspector) fingerprint))
        rfl rfl rfl (fun _ => rfl) rfl
      exact ⟨_, keeps.trans (@smooth_recorded _ .prosecutor incidentId _ _
        (.recordInitial incidentId .prosecutor second (.ok ())) second "hypothesis-challenge"
        _ rfl rfl rfl (fun _ => rfl) rfl)⟩
    · obtain ⟨new, rfl⟩ := same
      refine ⟨.tail (.single records) (.unrecorded .prosecutor second error), ?_⟩
      refine @quietly_of_raised _ _ _ _ _
        [.recordInitial incidentId .inspector first (.ok ())]
        (.recordInitial incidentId .prosecutor second (.error error))
        (List.append_assoc _ _ _) (fun other among => ?_) rfl
      obtain rfl | rfl := List.mem_pair.mp among <;> exact ⟨rfl, rfl⟩
  · obtain ⟨new, rfl⟩ := same
    exact ⟨.single (.unrecorded .inspector first error), quietly_call rfl rfl rfl rfl⟩

theorem leads_runInitialHandoff :
    Leads tables restored incident.incidentId room
      (runInitialHandoff tables collaborators incident) fun _ _ => True := by
  unfold runInitialHandoff
  refine leads_request.bind fun input _ _ own => ?_
  refine leads_currentEffort.bind fun inspectorEffort _ _ _ => ?_
  refine leads_currentEffort.bind fun prosecutorEffort _ _ _ => ?_
  refine (leads_ask (by exact ⟨fun _ => rfl, fun _ => own, fun _ => rfl⟩)).bind
    fun returned _ _ _ => ?_
  split
  · exact leads_raise rfl
  · refine leads_validate.bind fun first afterFirst _ vouched => ?_
    refine leads_validate.bind fun second afterSecond checks vouchedSecond => ?_
    exact leads_handoff (vouched.later (steps_grow checks).subset) vouchedSecond

theorem leads_remand {magistrate : MagistrateOutput} :
    Leads tables restored incident.incidentId room
      (Coordinator.remand tables collaborators incident magistrate)
      fun output next => Vouched restored incident.incidentId next.calls .magistrate output := by
  unfold Coordinator.remand
  refine (leads_ask (by exact ⟨fun _ => rfl, fun _ => rfl, fun _ => rfl⟩)).bind fun _ _ _ _ => ?_
  split
  · exact leads_raise rfl
  split
  · refine leads_escalate.bind fun _ _ _ _ => ?_
    dsimp only
    split
    · exact leads_runSeat.bind fun _ _ _ _ => leads_runSeat
    · exact leads_runSeat.bind fun _ _ _ _ => leads_runSeat.bind fun _ _ _ _ => leads_runSeat
  · exact leads_raise rfl

end Parts

end CrossPatch.Orchestration.Steps
