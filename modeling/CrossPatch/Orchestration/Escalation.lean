import CrossPatch.Domain.Semantics
import CrossPatch.Library.Procedure

/-!
# Effort escalation

The exceptions of the orchestration with the reason that each is reported under, and
the tracker that grants a seat a bounded number of retries at growing effort.  The
tracker's dictionary is modelled at the key of one incident.
-/

namespace CrossPatch.Orchestration.Escalation

open CrossPatch.Domain.Failure CrossPatch.Domain.Seats CrossPatch.Domain.Semantics
open CrossPatch.Domain.StateMachine
open CrossPatch.Library CrossPatch.Library.Procedure

/-! ## Failures -/

/-- The subclasses of `OrchestrationFailure`. -/
inductive FailureKind where
  | modelRefusal
  | outputCutoff
  | truncatedResponse
  | incompleteResponse
  | networkFailure
  | invalidSchema
  | missingEvidenceReference
  | sdkException
  | guardrailStop
  | unknownVerdict
  | escalationFailure
  deriving DecidableEq, Repr

def FailureKind.reason : FailureKind → String
  | .modelRefusal => "refusal"
  | .outputCutoff => "cutoff"
  | .truncatedResponse => "truncated"
  | .incompleteResponse => "incomplete_response"
  | .networkFailure => "network_failure"
  | .invalidSchema => "invalid_schema"
  | .missingEvidenceReference => "missing_evidence_references"
  | .sdkException => "sdk_exception"
  | .guardrailStop => "guardrail_stop"
  | .unknownVerdict => "unknown_verdict"
  | .escalationFailure => "escalation_exhausted"

/-- The exceptions of the model SDK that have a reason of their own. -/
inductive SdkError where
  | apiTimeout
  | apiConnection
  | modelRefusal
  | guardrailTripwire
  | modelBehavior
  deriving DecidableEq, Repr

/-- What the coordinator may see raised. -/
inductive Fault where
  | raised (raised : Raised)
  | sdk (error : SdkError)
  | orchestration (kind : FailureKind) (message : String)
  | duplicateAttempt (message : String) (seat : Seat) (effort : Effort) (phase : String)
      (output : SeatOutput)
  | alreadyPersisted (message : String)

/-- What `except Exception` catches. -/
def Fault.isException : Fault → Bool
  | .raised error => error.isA .exception
  | _ => true

def failureReason : Fault → String
  | .orchestration kind _ => kind.reason
  | .alreadyPersisted _ => FailureKind.escalationFailure.reason
  | .sdk .apiTimeout => "timeout"
  | .sdk .apiConnection => "network_failure"
  | .sdk .modelRefusal => "refusal"
  | .sdk .guardrailTripwire => "guardrail_stop"
  | .sdk .modelBehavior => "invalid_schema"
  | .raised error => if error.isA .timeoutError then "timeout" else "sdk_exception"
  | .duplicateAttempt .. => "sdk_exception"

/-- The failure was reported to the gateway before it was raised. -/
def Fault.isPersisted : Fault → Bool
  | .alreadyPersisted _ => true
  | _ => false

def fault (cls : ErrorClass) (message : String) : Fault := .raised ⟨cls, message⟩

/-- Run a computation that raises ordinary exceptions. -/
def ofAttempt {State α : Type} : Attempt α → Procedure Fault State α
  | .ok value => pure value
  | .error raised => raise (.raised raised)

@[simp]
theorem meets_ofAttempt {State α : Type} {attempt : Attempt α} {state : State}
    {Returns : α → State → Prop} {Raises : Fault → State → Prop} :
    (ofAttempt attempt : Procedure Fault State α).Meets state Returns Raises ↔
      match attempt with
      | .ok value => Returns value state
      | .error raised => Raises (.raised raised) state := by
  cases attempt <;> exact Iff.rfl

/-! ## The tracker -/

structure SeatState where
  effortIndex : Nat
  escalationCount : Nat
  fingerprint : String
  retryPending : Bool
  pendingReason : Option String
  deriving DecidableEq

structure EscalationTracker where
  states : Seat → Option SeatState

def EscalationTracker.empty : EscalationTracker := ⟨fun _ => none⟩

@[simps]
def EscalationTracker.put (tracker : EscalationTracker) (seat : Seat) (state : SeatState) :
    EscalationTracker :=
  ⟨fun other => if other = seat then some state else tracker.states other⟩

def escalationExplanation : String :=
  "The room only thinks harder when the judge is unsatisfied."

structure EscalationDecision where
  effort : Effort
  escalationCount : Nat
  reason : String

/-- `effort_ladder[index]`. -/
def ladderEffort {State : Type} (seat : Seat) (index : Nat) : Procedure Fault State Effort :=
  match (seatSpec seat).effortLadder[index]? with
  | some effort => pure effort
  | none => raise (fault .lookupError "tuple index out of range")

abbrev Tracking := Procedure Fault EscalationTracker

section Operations

variable (tables : SemanticTables)

def recordInitial (seat : Seat) (output : SeatOutput) : Tracking Unit := do
  let tracker ← get
  let existing := tracker.states seat
  let fingerprint ← ofAttempt (semanticFingerprint tables output)
  modify fun current => current.put seat
    { effortIndex := existing.elim 0 (·.effortIndex)
      escalationCount := existing.elim 0 (·.escalationCount)
      fingerprint := fingerprint
      retryPending := false
      pendingReason := none }
  if (seatSpec seat).effortLadder.head? = some (seatSpec seat).initialEffort then pure ()
  else raise (fault .runtimeError "seat effort ladder is internally inconsistent")

def restore (seat : Seat) (output : SeatOutput) (effort : Effort) (escalationCount : Nat)
    (retryPending : Bool) (pendingReason : Option String) : Tracking Unit := do
  let index ← match (seatSpec seat).effortLadder.idxOf? effort with
    | some index => pure index
    | none => raise (fault .valueError "persisted effort is outside the seat policy")
  if escalationCount ≠ index ∨ (seatSpec seat).maxEscalations < escalationCount then
    raise (fault .valueError "persisted escalation count disagrees with effort")
  else if retryPending = true ∧ (escalationCount = 0 ∨ pendingReason.elim true (· == "") = true) then
    raise (fault .valueError "pending retry requires a persisted escalation reason")
  else if retryPending = false ∧ pendingReason.isSome = true then
    raise (fault .valueError "completed retry cannot retain a pending reason")
  else do
    let fingerprint ← ofAttempt (semanticFingerprint tables output)
    modify fun current => current.put seat
      ⟨index, escalationCount, fingerprint, retryPending, pendingReason⟩

def currentEffort (seat : Seat) : Tracking Effort := do
  let tracker ← get
  ladderEffort seat ((tracker.states seat).elim 0 (·.effortIndex))

def beginEscalation (seat : Seat) (reason : String) : Tracking EscalationDecision := do
  let tracker ← get
  match tracker.states seat with
  | none => raise (fault .valueError "cannot escalate before an initial output is recorded")
  | some state =>
      if state.retryPending then
        raise (fault .runtimeError "an escalation retry is already pending")
      else if (seatSpec seat).maxEscalations ≤ state.escalationCount ∨
          (seatSpec seat).effortLadder.length ≤ state.effortIndex + 1 then
        raise (fault .escalationExhausted (seat.value ++ " requires human escalation"))
      else do
        modify fun current => current.put seat
          { state with
            effortIndex := state.effortIndex + 1
            escalationCount := state.escalationCount + 1
            retryPending := true
            pendingReason := some reason }
        let effort ← ladderEffort seat (state.effortIndex + 1)
        pure ⟨effort, state.escalationCount + 1, reason⟩

def resumePendingEscalation (seat : Seat) (reason : String) :
    Tracking (Option EscalationDecision) := do
  let tracker ← get
  match tracker.states seat with
  | none => pure none
  | some state =>
      if state.retryPending then
        if state.pendingReason = some reason then do
          let effort ← ladderEffort seat state.effortIndex
          pure (some ⟨effort, state.escalationCount, reason⟩)
        else
          raise (fault .valueError "persisted escalation reason disagrees with recovery stage")
      else pure none

def acceptRetry (seat : Seat) (output : SeatOutput) : Tracking String := do
  let tracker ← get
  match tracker.states seat with
  | none => raise (fault .valueError "no escalation retry is pending")
  | some state =>
      if state.retryPending then do
        let fingerprint ← ofAttempt (semanticFingerprint tables output)
        let settled := { state with retryPending := false, pendingReason := none }
        modify fun current => current.put seat settled
        if fingerprint = state.fingerprint then
          raise (fault .duplicateRetry (seat.value ++ " retry is semantically duplicate"))
        else do
          modify fun current => current.put seat { settled with fingerprint := fingerprint }
          pure fingerprint
      else raise (fault .valueError "no escalation retry is pending")

end Operations

/-! ## What the operations do -/

section Effects

variable {tables : SemanticTables} {tracker : EscalationTracker} {seat : Seat}
variable {output : SeatOutput} {reason : String}

/-- The state of a seat whose output was recorded outside of a retry. -/
def recorded (existing : Option SeatState) (fingerprint : String) : SeatState where
  effortIndex := existing.elim 0 (·.effortIndex)
  escalationCount := existing.elim 0 (·.escalationCount)
  fingerprint := fingerprint
  retryPending := false
  pendingReason := none

def granted (state : SeatState) (reason : String) : SeatState :=
  { state with
    effortIndex := state.effortIndex + 1
    escalationCount := state.escalationCount + 1
    retryPending := true
    pendingReason := some reason }

def settled (state : SeatState) : SeatState :=
  { state with retryPending := false, pendingReason := none }

theorem recordInitial_meets :
    (recordInitial tables seat output).Meets tracker
      (fun _ after => ∃ fingerprint, semanticFingerprint tables output = .ok fingerprint ∧
        after = tracker.put seat (recorded (tracker.states seat) fingerprint))
      fun error after => error.isPersisted = false ∧ after = tracker := by
  have consistent := (seatSpec_ladder seat).1
  simp only [recordInitial, meets_bind, meets_get, meets_ofAttempt, meets_modify, consistent,
    if_true, meets_pure]
  cases fingerprint : semanticFingerprint tables output with
  | ok value => exact ⟨value, rfl, rfl⟩
  | error raised => exact ⟨rfl, trivial⟩

theorem beginEscalation_meets :
    (beginEscalation seat reason).Meets tracker
      (fun decision after => ∃ state, tracker.states seat = some state ∧
        state.retryPending = false ∧ state.escalationCount < (seatSpec seat).maxEscalations ∧
        decision.escalationCount = state.escalationCount + 1 ∧ decision.reason = reason ∧
        after = tracker.put seat (granted state reason))
      fun error after => error.isPersisted = false ∧ after = tracker := by
  simp only [beginEscalation, meets_bind, meets_get]
  cases found : tracker.states seat with
  | none => exact ⟨rfl, rfl⟩
  | some state =>
      simp only
      refine meets_ite (fun _ => ⟨rfl, rfl⟩) (fun idle => ?_)
      refine meets_ite (fun _ => ⟨rfl, rfl⟩) (fun available => ?_)
      rw [not_or, not_le, not_le] at available
      obtain ⟨within, inside⟩ := available
      simp only [meets_bind, meets_modify, ladderEffort, List.getElem?_eq_getElem inside,
        meets_pure]
      exact ⟨state, rfl, by simpa using idle, within, rfl, trivial, rfl⟩

theorem resumePendingEscalation_meets :
    (resumePendingEscalation seat reason).Meets tracker
      (fun decision after => after = tracker ∧ ∀ granted, decision = some granted →
        ∃ state, tracker.states seat = some state ∧ state.retryPending = true ∧
          state.pendingReason = some reason)
      fun error after => error.isPersisted = false ∧ after = tracker := by
  simp only [resumePendingEscalation, meets_bind, meets_get]
  cases found : tracker.states seat with
  | none => exact ⟨rfl, fun _ impossible => by cases impossible⟩
  | some state =>
      simp only
      refine meets_ite (fun pending => ?_) (fun _ => ⟨rfl, fun _ impossible => by cases impossible⟩)
      refine meets_ite (fun agrees => ?_) (fun _ => ⟨rfl, rfl⟩)
      rw [meets_bind]
      unfold ladderEffort
      split
      · exact ⟨rfl, fun _ _ => ⟨state, rfl, pending, agrees⟩⟩
      · exact ⟨rfl, rfl⟩

/-- An accepted retry differs from what the seat returned last. -/
theorem acceptRetry_meets :
    (acceptRetry tables seat output).Meets tracker
      (fun fingerprint after => ∃ state, tracker.states seat = some state ∧
        state.retryPending = true ∧ semanticFingerprint tables output = .ok fingerprint ∧
        fingerprint ≠ state.fingerprint ∧
        after = tracker.put seat { settled state with fingerprint := fingerprint })
      fun error after => error.isPersisted = false ∧ (after = tracker ∨
        ∃ state, tracker.states seat = some state ∧ state.retryPending = true ∧
          after = tracker.put seat (settled state)) := by
  simp only [acceptRetry, meets_bind, meets_get]
  cases found : tracker.states seat with
  | none => exact ⟨rfl, .inl rfl⟩
  | some state =>
      simp only
      refine meets_ite (fun pending => ?_) (fun _ => ⟨rfl, .inl rfl⟩)
      simp only [meets_bind, meets_ofAttempt, meets_modify]
      cases fingerprint : semanticFingerprint tables output with
      | error raised => exact ⟨rfl, .inl trivial⟩
      | ok value =>
          simp only
          refine meets_ite (fun _ => ?_) (fun differs => ?_)
          · exact ⟨rfl, .inr ⟨state, rfl, pending, rfl⟩⟩
          · simp only [meets_bind, meets_modify, meets_pure]
            refine ⟨state, rfl, pending, trivial, differs, ?_⟩
            simp only [EscalationTracker.put, EscalationTracker.mk.injEq]
            funext other
            split <;> rfl

end Effects

/-! ## Bounds -/

/-- A seat is on the rung of its ladder that its escalations paid for. -/
structure OnLadder (seat : Seat) (state : SeatState) : Prop where
  rung : state.effortIndex = state.escalationCount
  bounded : state.escalationCount ≤ (seatSpec seat).maxEscalations
  paid : state.retryPending = true → 0 < state.escalationCount

def Graded (tracker : EscalationTracker) : Prop :=
  ∀ seat state, tracker.states seat = some state → OnLadder seat state

theorem Graded.empty : Graded .empty := by
  intro seat state impossible
  cases impossible

theorem Graded.put {tracker : EscalationTracker} (graded : Graded tracker) {seat : Seat}
    {state : SeatState} (onLadder : OnLadder seat state) : Graded (tracker.put seat state) := by
  intro other current found
  rw [EscalationTracker.put_states] at found
  split at found
  · rename_i same
    cases found
    subst same
    exact onLadder
  · exact graded other current found

theorem OnLadder.granted {seat : Seat} {state : SeatState} (onLadder : OnLadder seat state)
    (available : state.escalationCount < (seatSpec seat).maxEscalations) (reason : String) :
    OnLadder seat (Escalation.granted state reason) :=
  ⟨congrArg (· + 1) onLadder.rung, available, fun _ => Nat.succ_pos _⟩

theorem OnLadder.settled {seat : Seat} {state : SeatState} (onLadder : OnLadder seat state)
    (fingerprint : String) :
    OnLadder seat { Escalation.settled state with fingerprint := fingerprint } :=
  ⟨onLadder.rung, onLadder.bounded, fun impossible => by cases impossible⟩

theorem Graded.recorded {tracker : EscalationTracker} (graded : Graded tracker) (seat : Seat)
    (fingerprint : String) :
    OnLadder seat (Escalation.recorded (tracker.states seat) fingerprint) := by
  unfold Escalation.recorded
  cases found : tracker.states seat with
  | none => exact ⟨rfl, Nat.zero_le _, fun impossible => by cases impossible⟩
  | some state =>
      obtain ⟨rung, bounded, _⟩ := graded seat state found
      exact ⟨rung, bounded, fun impossible => by cases impossible⟩

/-- The rung is one of the ladder. -/
theorem OnLadder.within {seat : Seat} {state : SeatState} (onLadder : OnLadder seat state) :
    state.effortIndex < (seatSpec seat).effortLadder.length := by
  rw [(seatSpec_ladder seat).2, onLadder.rung]
  exact Nat.lt_succ_of_le onLadder.bounded

end CrossPatch.Orchestration.Escalation
