import CrossPatch.Orchestration.Coordinator

/-!
# Coordination is bounded

The remand loop has no counter of its own.  Every round of it settles a retry, and the
tracker admits a bounded number of retries for each seat, so that the retries settled
so far pay for the rounds.  The accounts below are kept for an arbitrary tariff of
calls; three tariffs give the bounds on rounds, on remands and on agent calls.
-/

namespace CrossPatch.Orchestration.Bounds

open CrossPatch.Domain.Failure CrossPatch.Domain.Seats CrossPatch.Domain.Semantics
open CrossPatch.Domain.StateMachine hiding remandTargets
open CrossPatch.Library CrossPatch.Library.Procedure
open CrossPatch.Orchestration.Coordinator CrossPatch.Orchestration.Escalation

/-! ## Counting -/

/-- A run of an agent. -/
def isAgentRun : Call → Bool
  | .runInspectorToProsecutor .. => true
  | .runSeat .. => true
  | _ => false

/-- The Magistrate's review at the end of a round of the remand loop. -/
def isReview : Call → Bool
  | .runSeat _ seat _ phase retry _ => seat = .magistrate && phase = "remand-review" && !retry
  | _ => false

/-- The verdict recorded at the start of a round of the remand loop. -/
def isRemand : Call → Bool
  | .recordVerdict _ output _ => output.verdict = .remand
  | _ => false

def isEscalation (seat : Seat) : Call → Bool
  | .recordEscalation _ other .. => other = seat
  | _ => false

def escalationCount (tracker : EscalationTracker) (seat : Seat) : Nat :=
  (tracker.states seat).elim 0 (·.escalationCount)

def settledRetries (state : SeatState) : Nat :=
  state.escalationCount - state.retryPending.toNat

/-- The retries of a seat that are no longer pending. -/
def settledCount (tracker : EscalationTracker) (seat : Seat) : Nat :=
  (tracker.states seat).elim 0 settledRetries

/-- The settled retries of the seats that a remand can go to. -/
def used (tracker : EscalationTracker) : Nat := (remandTargets.map (settledCount tracker)).sum

def remandBudget : Nat := (remandTargets.map fun seat => (seatSpec seat).maxEscalations).sum

theorem settledCount_le {tracker : EscalationTracker} (graded : Graded tracker) (seat : Seat) :
    settledCount tracker seat ≤ (seatSpec seat).maxEscalations := by
  unfold settledCount
  cases found : tracker.states seat with
  | none => exact Nat.zero_le _
  | some state => exact (Nat.sub_le _ _).trans (graded seat state found).bounded

theorem used_le {tracker : EscalationTracker} (graded : Graded tracker) :
    used tracker ≤ remandBudget :=
  List.sum_le_sum fun seat _ => settledCount_le graded seat

theorem escalationCount_put {tracker : EscalationTracker} {seat : Seat} {state : SeatState}
    (other : Seat) :
    escalationCount (tracker.put seat state) other =
      if other = seat then state.escalationCount else escalationCount tracker other := by
  unfold escalationCount
  rw [EscalationTracker.put_states]
  split <;> rfl

theorem settledCount_put {tracker : EscalationTracker} {seat : Seat} {state : SeatState}
    (other : Seat) :
    settledCount (tracker.put seat state) other =
      if other = seat then settledRetries state else settledCount tracker other := by
  unfold settledCount
  rw [EscalationTracker.put_states]
  split <;> rfl

theorem used_put {tracker : EscalationTracker} {seat : Seat} {state : SeatState}
    (more : settledCount tracker seat ≤ settledRetries state) :
    used tracker ≤ used (tracker.put seat state) := by
  refine @List.sum_le_sum _ Nat _ _ _ _ _ _ _ fun other _ => ?_
  rw [settledCount_put]
  split
  · rename_i same
    subst same
    exact more
  · exact le_refl _

section Accounts

/-- A price for every run of an agent, for every review and for every remand. -/
structure Tariff where
  agentRun : Nat
  review : Nat
  remand : Nat

variable {World : Type} (tariff : Tariff)

/-- The price of the calls made so far. -/
def charge (calls : List Call) : Nat :=
  tariff.agentRun * calls.countP isAgentRun + tariff.review * calls.countP isReview +
    tariff.remand * calls.countP isRemand

/-- What a settled retry pays for: a round of the remand loop. -/
def rate : Nat := tariff.remand + 4 * tariff.agentRun + tariff.review

/-- The room has moved, with `gain` more settled retries, at a price. -/
structure Moved (price : Int) (gain : Nat) (room next : Room World) : Prop where
  graded : Graded next.tracker
  gained : used room.tracker + gain ≤ used next.tracker
  charged : (charge tariff next.calls : Int) + rate tariff * used room.tracker ≤
    charge tariff room.calls + rate tariff * used next.tracker + price
  counted : ∀ seat, next.calls.countP (isEscalation seat) + escalationCount room.tracker seat =
    room.calls.countP (isEscalation seat) + escalationCount next.tracker seat
  kept : ∀ call ∈ room.calls, call ∈ next.calls

variable {tariff}

theorem Moved.refl {room : Room World} (graded : Graded room.tracker) :
    Moved tariff 0 0 room room :=
  ⟨graded, le_refl _, by omega, fun _ => rfl, fun _ => id⟩

theorem Moved.trans {first second third : Room World} {price later : Int} {gain more : Nat}
    (moved : Moved tariff price gain first second)
    (moves : Moved tariff later more second third) :
    Moved tariff (price + later) (gain + more) first third := by
  refine ⟨moves.graded, ?_, ?_, fun seat => ?_, fun call known => moves.kept _ (moved.kept _ known)⟩
  · have := moved.gained
    have := moves.gained
    omega
  · have := moved.charged
    have := moves.charged
    linarith
  · have := moved.counted seat
    have := moves.counted seat
    omega

theorem Moved.weaken {room next : Room World} {price dearer : Int} {gain less : Nat}
    (moved : Moved tariff price gain room next) (cheap : price ≤ dearer)
    (fewer : less ≤ gain) : Moved tariff dearer less room next :=
  { moved with
    gained := (Nat.add_le_add_left fewer _).trans moved.gained
    charged := moved.charged.trans (Int.add_le_add_left cheap _) }

/-- What a procedure costs on either way out, and the retries it settles if it returns. -/
def Spends (tariff : Tariff) {α : Type} (returning : Int) (gain : Nat) (raising : Int)
    (body : Coordination World α) : Prop :=
  ∀ room, Graded room.tracker → body.Meets room
    (fun _ next => Moved tariff returning gain room next)
    fun _ next => Moved tariff raising 0 room next

section Rules

variable {α β : Type} {returning raising : Int} {gain : Nat}

theorem Spends.weaken {body : Coordination World α} {dearer worse : Int} {less : Nat}
    (spends : Spends tariff returning gain raising body)
    (cheap : returning ≤ dearer) (fewer : less ≤ gain) (mild : raising ≤ worse) :
    Spends tariff dearer less worse body := fun room graded =>
  (spends room graded).mono (fun _ _ moved => moved.weaken cheap fewer)
    fun _ _ moved => moved.weaken mild (Nat.zero_le _)

theorem Spends.bind {first : Coordination World α} {next : α → Coordination World β}
    {later latest : Int} {more : Nat} (starts : Spends tariff returning gain raising first)
    (continues : ∀ value, Spends tariff later more latest (next value))
    (mild : returning + latest ≤ raising) :
    Spends tariff (returning + later) (gain + more) raising (first >>= next) := by
  intro room graded
  rw [meets_bind]
  refine (starts room graded).mono (fun value middle moved => ?_) fun _ _ moved => moved
  refine (continues value middle moved.graded).mono (fun _ _ moves => moved.trans moves)
    fun _ _ moves => ?_
  exact (moved.trans moves).weaken mild (Nat.zero_le _)

/-- Pay for what comes first, and leave the rest to what follows. -/
theorem Spends.follow {first : Coordination World α} {next : α → Coordination World β}
    {total worst : Int} (starts : Spends tariff returning 0 raising first)
    (continues : ∀ value, Spends tariff (total - returning) gain (worst - returning) (next value))
    (mild : raising ≤ worst) : Spends tariff total gain worst (first >>= next) := by
  have whole := (starts.weaken (le_refl _) (le_refl _) mild).bind continues (by omega)
  exact whole.weaken (by omega) (by omega) (le_refl _)

theorem Spends.lead {first : Coordination World α} {next : α → Coordination World β}
    {total worst : Int} (starts : Spends tariff returning gain raising first)
    (continues : ∀ value, Spends tariff (total - returning) 0 (worst - returning) (next value))
    (mild : raising ≤ worst) : Spends tariff total gain worst (first >>= next) := by
  have whole := (starts.weaken (le_refl _) (le_refl _) mild).bind continues (by omega)
  exact whole.weaken (by omega) (by omega) (le_refl _)

/-- What comes first costs nothing. -/
theorem Spends.after {first : Coordination World α} {next : α → Coordination World β}
    (starts : Spends tariff 0 0 0 first)
    (continues : ∀ value, Spends tariff returning gain raising (next value)) (mild : 0 ≤ raising) :
    Spends tariff returning gain raising (first >>= next) := by
  refine starts.follow (fun value => ?_) mild
  rw [sub_zero, sub_zero]
  exact continues value

/-- What follows costs nothing. -/
theorem Spends.before {first : Coordination World α} {next : α → Coordination World β}
    (starts : Spends tariff returning gain raising first)
    (continues : ∀ value, Spends tariff 0 0 0 (next value)) (mild : returning ≤ raising) :
    Spends tariff returning gain raising (first >>= next) := by
  have whole := starts.bind continues ((add_zero returning).le.trans mild)
  rw [add_zero, add_zero] at whole
  exact whole

/-- A handler that only changes the exception. -/
theorem Spends.translate {body : Coordination World α} {translation : Fault → Fault}
    (spends : Spends tariff returning gain raising body) :
    Spends tariff returning gain raising
      (body.rescue fun error => raise (translation error)) := by
  intro room graded
  rw [meets_rescue]
  exact spends room graded

theorem charge_noted (room : Room World) (call : Call) (world : World) :
    charge tariff (room.noted call world).calls =
      charge tariff room.calls + charge tariff [call] := by
  simp only [charge, Room.noted, List.countP_append]
  ring

theorem Moved.noted {room next : Room World} {price : Int} {gain : Nat} (call : Call)
    (world : World) (moved : Moved tariff price gain room next)
    (silent : ∀ seat, isEscalation seat call = false) :
    Moved tariff (price + charge tariff [call]) gain room
      (next.noted call world) := by
  refine ⟨moved.graded, moved.gained, ?_, fun seat => ?_, fun known there => ?_⟩
  · have := moved.charged
    rw [charge_noted]
    simp only [Room.noted]
    push_cast
    linarith
  · have := moved.counted seat
    simp only [Room.noted, List.countP_append, List.countP_singleton, silent seat]
    simpa using this
  · exact List.mem_append_left _ (moved.kept known there)

/-- A handler that raises again, or that costs nothing. -/
theorem Spends.rescue {body : Coordination World α} {handler : Fault → Coordination World α}
    {latest : Int} (tries : Spends tariff returning 0 raising body)
    (handles : ∀ error, Spends tariff 0 0 0 (handler error))
    (mild : raising ≤ latest) (milder : returning ≤ latest) :
    Spends tariff latest 0 latest (body.rescue handler) := by
  intro room graded
  rw [meets_rescue]
  refine (tries room graded).mono (fun _ _ moved => moved.weaken milder (le_refl _))
    fun error middle moved => ?_
  have moves : ∀ next : Room World, Moved tariff 0 0 middle next →
      Moved tariff latest 0 room next := fun next later =>
    (moved.trans later).weaken (by omega) (Nat.zero_le _)
  exact (handles error middle moved.graded).mono (fun _ next later => moves next later)
    fun _ next later => moves next later

end Rules

/-! ## The parts of a round -/

section Parts

variable {tables : SemanticTables} {collaborators : Collaborators World} {incident : IncidentInput}
variable {seat : Seat}

/-- The retries settled by a change of the tracker pay at the rate. -/
theorem Moved.tracked {room : Room World} {tracker : EscalationTracker} {gain : Nat}
    (graded : Graded tracker) (gained : used room.tracker + gain ≤ used tracker)
    (counted : ∀ seat, escalationCount room.tracker seat = escalationCount tracker seat) :
    Moved tariff (-(rate tariff * gain)) gain room { room with tracker := tracker } := by
  refine ⟨graded, gained, ?_, fun seat => ?_, fun _ => id⟩
  · have paid : rate tariff * (used room.tracker + gain) ≤ rate tariff * used tracker :=
      Nat.mul_le_mul_left _ gained
    push_cast [← Int.ofNat_le] at paid
    linarith
  · rw [counted seat]

/-- An escalation is granted and reported in one. -/
theorem Moved.escalated {room : Room World} {state : SeatState} {reason : String}
    (graded : Graded room.tracker) (found : room.tracker.states seat = some state)
    (idle : state.retryPending = false)
    (available : state.escalationCount < (seatSpec seat).maxEscalations) (effort : Effort)
    (count : Nat) (answer : Except Fault Unit) (world : World) :
    Moved tariff 0 0 room
      (({ room with tracker := room.tracker.put seat (granted state reason) } : Room World).noted
        (.recordEscalation incident.incidentId seat effort count reason answer) world) := by
  have onLadder := graded seat state found
  have gained : used room.tracker ≤ used (room.tracker.put seat (granted state reason)) := by
    refine used_put ?_
    simp only [settledCount, found, Option.elim_some, settledRetries, granted, idle,
      Bool.toNat_true, Bool.toNat_false]
    omega
  refine ⟨graded.put (onLadder.granted available reason), gained, ?_, fun other => ?_,
    fun _ => List.mem_append_left _⟩
  · have paid := Int.ofNat_le.mpr (Nat.mul_le_mul_left (rate tariff) gained)
    push_cast at paid
    rw [charge_noted]
    simp only [charge, Room.noted, List.countP_singleton, isAgentRun, isReview, isRemand]
    push_cast
    linarith
  · simp only [Room.noted, List.countP_append, List.countP_singleton, isEscalation,
      escalationCount_put]
    by_cases same : other = seat
    · subst same
      simp only [escalationCount, found, Option.elim_some, granted, decide_true, if_true]
      omega
    · simp only [decide_eq_false (Ne.symm same), if_neg same]
      rfl

end Parts

end Accounts

/-! ## The life of an incident -/

/-- A call of the coordinator for an incident. -/
inductive Entry where
  | runIncident (incident : IncidentInput)
  | resumeAfterTest (incident : IncidentInput) (testPassed : Bool)
  | resumeAfterRevision (incident : IncidentInput)

section Life

variable {World : Type} (tables : SemanticTables) (collaborators : Collaborators World)
variable (fuel : Nat)

def Entry.call : Entry → Coordination World (Option CoordinatorResult)
  | .runIncident incident => Coordinator.runIncident tables collaborators incident fuel
  | .resumeAfterTest incident testPassed =>
      Coordinator.resumeAfterTest tables collaborators incident testPassed fuel
  | .resumeAfterRevision incident =>
      Coordinator.resumeAfterRevision tables collaborators incident fuel

/-- Calls on one coordinator, each with what it returned or raised. -/
def lifetime : List Entry → Coordination World (List (Except Fault (Option CoordinatorResult)))
  | [] => pure []
  | entry :: entries => do
      let outcome ← (entry.call tables collaborators fuel).attempt
      let outcomes ← lifetime entries
      pure (outcome :: outcomes)

/-- The room after some calls. -/
def roomAfter (entries : List Entry) (start : Room World) : Room World :=
  ((lifetime tables collaborators fuel entries).run start).2

/-- A coordinator that has not been used for the incident. -/
def Room.fresh (world : World) : Room World where
  tracker := .empty
  outputs := .empty
  retained := none
  phases := fun _ => none
  calls := []
  world := world

/-- A coordinator into which the rows of the database have been read. -/
def Room.restored (rows : List (Seat × Persisted))
    (completedPhases pendingRetries : Seat → Option String) (world : World) : Room World :=
  ((restoreIncidentOutputs tables rows completedPhases pendingRetries).run (Room.fresh world)).2

/-- The call came to an end, with a verdict other than a remand. -/
def Decided (result : Option CoordinatorResult) : Prop :=
  ∃ decided, result = some decided ∧
    (decided.verdict = .clear ∨ decided.verdict = .block ∨ decided.verdict = .abstain)

def incidentOf : Entry → IncidentInput
  | .runIncident incident => incident
  | .resumeAfterTest incident _ => incident
  | .resumeAfterRevision incident => incident

/-- The call goes on with outputs of an earlier one. -/
def resumes : Entry → Bool
  | .runIncident _ => false
  | _ => true

/-- The coordinator keeps no outputs. -/
def Forgetful (room : Room World) : Prop :=
  ∀ outputs, room.retained = some outputs → outputs.entries = []

/-- Why an entry point raises. -/
inductive Unanswered (room next : Room World) (entry : Entry) : Fault → Prop where
  | nothing (resuming : resumes entry = true) (forgetful : Forgetful room) :
      Unanswered room next entry (fault .lookupError "incident has no resumable agent state")
  | unopened {error : Fault} (opening : resumes entry = false)
      (raised : next.calls =
        room.calls ++ [.beginReview (incidentOf entry).incidentId (.error error)]) :
      Unanswered room next entry error
  | unclosed {error : Fault} (reason : String)
      (raised : next.calls.getLast? =
        some (.failClosedAbstain (incidentOf entry).incidentId reason (.error error))) :
      Unanswered room next entry error
  | foreign {error : Fault} (uncaught : error.isException = false) :
      Unanswered room next entry error

/-- The call ends with a final verdict unless it is left without an answer. -/
structure Answered (room : Room World) (entry : Entry) : Prop where
  meets : (entry.call tables collaborators fuel).Meets room (fun result _ => Decided result)
    fun raised next => Unanswered room next entry raised

variable {tables collaborators fuel}

section Endings

variable {incident : IncidentInput}

/-- Whatever it is given, the procedure ends with a verdict or raises. -/
def Decides (body : Coordination World (Option CoordinatorResult)) : Prop :=
  ∀ room, Graded room.tracker → body.Meets room (fun result _ => Decided result) fun _ _ => True

/-- The tariff under which nothing costs anything. -/
def gratis : Tariff := ⟨0, 0, 0⟩

theorem Decides.after {α : Type} {returning raising : Int} {gain : Nat}
    {first : Coordination World α} {next : α → Coordination World (Option CoordinatorResult)}
    (starts : Spends gratis returning gain raising first) (continues : ∀ value, Decides (next value)) :
    Decides (first >>= next) := by
  intro room graded
  rw [meets_bind]
  exact (starts room graded).mono (fun value middle moved => continues value middle moved.graded)
    fun _ _ _ => trivial

/-- A failure is closed with an abstention unless that cannot be written. -/
theorem failClosed_meets {error : Fault} {room : Room World} :
    (failClosed collaborators incident error).Meets room (fun result _ => Decided result)
      fun raised next => raised.isException = false ∨ ∃ reason, next.calls.getLast? =
        some (.failClosedAbstain incident.incidentId reason (.error raised)) := by
  unfold failClosed
  refine meets_ite (fun _ => ?_) (fun foreign => ?_)
  · dsimp only
    split
    · exact ⟨_, rfl, .inr (.inr rfl)⟩
    · simp only [meets_bind, meets_ask, meets_modify, meets_get, meets_pure]
      refine meets_of_forall (fun _ _ => ⟨_, rfl, .inr (.inr rfl)⟩) fun raised _ => ?_
      exact .inr ⟨failureReason error, List.getLast?_concat⟩
  · exact .inl (by simpa using foreign)

theorem Decides.closed {body : Coordination World (Option CoordinatorResult)}
    {room start : Room World} (entry : Entry) (own : incidentOf entry = incident)
    (decides : Decides body) (graded : Graded room.tracker) :
    (body.rescue (failClosed collaborators incident)).Meets room
      (fun result _ => Decided result) fun raised next => Unanswered start next entry raised := by
  subst own
  rw [meets_rescue]
  refine (decides room graded).mono (fun _ _ decided => decided) fun _ _ _ => ?_
  refine failClosed_meets.mono (fun _ _ decided => decided) fun raised next lost => ?_
  obtain foreign | ⟨reason, last⟩ := lost
  · exact .foreign foreign
  · exact .unclosed reason last

end Endings

/-- The rounds paid for so far, in a life that started without calls. -/
theorem Moved.total {tariff : Tariff} {price : Int} {start next : Room World}
    (moved : Moved tariff price 0 start next) (silent : start.calls = []) :
    (charge tariff next.calls : Int) ≤ rate tariff * remandBudget + price := by
  have charged := moved.charged
  have bound := Int.ofNat_le.mpr (Nat.mul_le_mul_left (rate tariff) (used_le moved.graded))
  have none : charge tariff start.calls = 0 := by
    simp [charge, silent]
  have paid : (0 : Int) ≤ rate tariff * used start.tracker := by positivity
  rw [none] at charged
  push_cast at bound
  simp only [Nat.cast_zero, zero_add] at charged
  linarith

/-- What holds after the calls of a life.  A call starts at most one round that it does
not finish. -/
structure Bounded (entries : List Entry) (start next : Room World) : Prop where
  rungs : ∀ seat state, next.tracker.states seat = some state →
    state.effortIndex = state.escalationCount ∧
      state.effortIndex < (seatSpec seat).effortLadder.length
  escalations : ∀ seat,
    escalationCount start.tracker seat + next.calls.countP (isEscalation seat) =
        escalationCount next.tracker seat ∧
      escalationCount next.tracker seat ≤ (seatSpec seat).maxEscalations
  rounds : next.calls.countP isReview ≤ remandBudget
  remands : next.calls.countP isRemand ≤ remandBudget + entries.length
  agentRuns : next.calls.countP isAgentRun ≤ 4 * remandBudget + 6 * entries.length

end Life

/-! ## A life with seven remands -/

def firstInspector : InspectorOutput where
  mechanism := .checkThenInsertRace
  evidenceIds := ["ev_4"]
  falsifiers := []
  analysis := "race"
  cited := by decide

def firstProsecutor : ProsecutorOutput where
  rivalMechanism := none
  counterexampleIds := ["cx_1"]
  testIds := ["test_1"]
  evidenceIds := ["ev_4"]
  analysis := "no rival"
  counterexamples := by decide
  tests := by decide
  cited := by decide

def firstPatch : CounselOutput where
  normalizedDiff := "+first"
  testIntentions := [⟨"race", "race", by decide⟩]
  evidenceIds := ["ev_4"]
  analysis := "patch"
  proposes := by decide
  tested := by decide
  cited := by decide

def secondPatch : CounselOutput := { firstPatch with normalizedDiff := "+second", proposes := by decide }

/-- A verdict that clears, or that remands to a seat. -/
def ruling (remandTarget : Option Seat) : MagistrateOutput where
  verdict := if remandTarget.isSome then .remand else .clear
  findingCodes := []
  requiredChanges := []
  remandTarget := remandTarget
  evidenceIds := ["ev_4"]
  analysis := "ruling"
  cited := by decide

def scriptedIncident : IncidentInput := ⟨"incident-1", "webhook-race", "plan-1", []⟩

end CrossPatch.Orchestration.Bounds
