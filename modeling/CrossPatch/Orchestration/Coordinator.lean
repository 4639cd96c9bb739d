import CrossPatch.Evidence.Views
import CrossPatch.Orchestration.Escalation

/-!
# The coordinator

The order of the seats, the checks on what they return, the remand loop and the
closure of failures.  The agent runtime, the authority gateway and the citation
authority are collaborators over a world of their own; every call of one, and every
output that the tracker is given, is noted with the answer.  The coordinator's
dictionaries are modelled at the key of one incident.
-/

namespace CrossPatch.Orchestration.Coordinator

open CrossPatch.Domain.Failure CrossPatch.Domain.Seats CrossPatch.Domain.Semantics
open CrossPatch.Domain.StateMachine CrossPatch.Domain.Text
open CrossPatch.Evidence.Views
open CrossPatch.Library CrossPatch.Library.Attempt CrossPatch.Library.Procedure
open CrossPatch.Orchestration.Escalation

/-! ## Inputs and outputs -/

structure IncidentInput where
  incidentId : String
  scenario : String
  candidatePlanId : String
  evidence : List UntrustedEvidenceEnvelope

/-- What a seat is given. -/
structure AgentRunInput where
  incidentId : String
  scenario : String
  candidatePlanId : String
  phase : String
  evidence : List UntrustedEvidenceEnvelope
  citableEvidenceIds : List String
  priorOutputs : List UntrustedAgentSummary

/-- What a runtime returns: an output of one of the schemas, a dictionary with its
`verdict` if that is a text, or anything else. -/
inductive Returned where
  | output (value : SeatOutput)
  | mapping (verdict : Option String)
  | other

inductive ReturnedHandoff where
  | result (inspector : InspectorOutput) (prosecutor : ProsecutorOutput)
  | other

/-- Outputs by seat, in the order in which the seats first appeared. -/
structure Outputs where
  entries : List (Seat × SeatOutput)

namespace Outputs

def empty : Outputs := ⟨[]⟩

def get (outputs : Outputs) (seat : Seat) : Option SeatOutput := outputs.entries.lookup seat

def put (outputs : Outputs) (seat : Seat) (output : SeatOutput) : Outputs :=
  if outputs.entries.any (·.1 = seat) then
    ⟨outputs.entries.map fun entry => if entry.1 = seat then (seat, output) else entry⟩
  else ⟨outputs.entries ++ [(seat, output)]⟩

theorem get_mem {outputs : Outputs} {seat : Seat} {output : SeatOutput}
    (found : outputs.get seat = some output) : (seat, output) ∈ outputs.entries := by
  obtain ⟨before, after, split, _⟩ := List.lookup_eq_some_iff.mp found
  rw [split]
  exact List.mem_append_right _ List.mem_cons_self

theorem lookup_cons_seat (key seat : Seat) (value : SeatOutput)
    (rest : List (Seat × SeatOutput)) :
    ((key, value) :: rest).lookup seat = if seat = key then some value else rest.lookup seat := by
  rw [List.lookup_cons]
  cases same : seat == key with
  | true => rw [if_pos (beq_iff_eq.mp same)]
  | false => rw [if_neg (beq_eq_false_iff_ne.mp same)]

theorem lookup_replaced (entries : List (Seat × SeatOutput)) (seat other : Seat)
    (output : SeatOutput) :
    (entries.map fun entry => if entry.1 = seat then (seat, output) else entry).lookup other =
      if other = seat then (entries.lookup seat).map fun _ => output else entries.lookup other := by
  induction entries with
  | nil => simp
  | cons entry rest continues =>
      obtain ⟨key, value⟩ := entry
      rw [List.map_cons, lookup_cons_seat]
      by_cases same : key = seat
      · rw [if_pos same, lookup_cons_seat, continues]
        grind
      · rw [if_neg same, lookup_cons_seat, lookup_cons_seat, continues]
        grind

theorem lookup_none {entries : List (Seat × SeatOutput)} {seat : Seat} :
    entries.lookup seat = none ↔ entries.any (·.1 = seat) = false := by
  rw [List.lookup_eq_none_iff, List.any_eq_false]
  refine forall₂_congr fun entry _ => ?_
  rw [bne_iff_ne, decide_eq_true_eq, ne_comm]

@[simp]
theorem get_put (outputs : Outputs) (seat : Seat) (output : SeatOutput) (other : Seat) :
    (outputs.put seat output).get other =
      if other = seat then some output else outputs.get other := by
  unfold put get
  split
  · rename_i present
    rw [lookup_replaced]
    cases found : outputs.entries.lookup seat with
    | some value => rfl
    | none => simp [lookup_none.mp found] at present
  · rename_i absent
    rw [List.lookup_append, lookup_cons_seat]
    by_cases here : other = seat
    · subst here
      rw [lookup_none.mpr (Bool.eq_false_iff.mpr absent), if_pos rfl, if_pos rfl, Option.none_or]
    · rw [if_neg here, if_neg here, List.lookup_nil, Option.or_none]

end Outputs

structure CoordinatorResult where
  verdict : Verdict
  seatOutputs : Outputs
  pendingWarrantId : Option String
  failureReason : Option String

/-! ## Collaborators -/

/-- The persistence boundary for retries whose materiality is not yet known. -/
structure Deferred (World : Type) where
  runUnpublishedRetry : Seat → Effort → String → AgentRunInput → Procedure Fault World Returned
  publishAcceptedRetry : String → Seat → Effort → String → SeatOutput → Procedure Fault World Unit

structure Collaborators (World : Type) where
  runInspectorToProsecutor : AgentRunInput → Effort → Effort →
    (Returned → Procedure Fault World InspectorOutput) → Procedure Fault World ReturnedHandoff
  runSeat : Seat → Effort → String → AgentRunInput → Procedure Fault World Returned
  deferred : Option (Deferred World)
  containsAll : String → List String → Procedure Fault World Bool
  beginReview : String → Procedure Fault World Unit
  failClosedAbstain : String → String → Procedure Fault World Unit
  recordVerdict : String → MagistrateOutput → Procedure Fault World Unit
  openApproval : String → MagistrateOutput → Outputs → Procedure Fault World String
  recordEscalation : String → Seat → Effort → Nat → String → String → Procedure Fault World Unit
  rejectDuplicateRetry : String → Seat → Effort → String → SeatOutput → String →
    Procedure Fault World Unit

/-- A call of a collaborator or of the tracker, with the incident that it is for and its
answer. -/
inductive Call where
  | beginReview (incidentId : String) (answer : Except Fault Unit)
  | runInspectorToProsecutor (incidentId : String) (answer : Except Fault ReturnedHandoff)
  | runSeat (incidentId : String) (seat : Seat) (effort : Effort) (phase : String) (retry : Bool)
      (answer : Except Fault Returned)
  | containsAll (incidentId : String) (evidenceIds : List String) (answer : Except Fault Bool)
  | recordInitial (incidentId : String) (seat : Seat) (output : SeatOutput)
      (answer : Except Fault Unit)
  | acceptRetry (incidentId : String) (seat : Seat) (output : SeatOutput)
      (answer : Except Fault String)
  | publishAcceptedRetry (incidentId : String) (seat : Seat) (effort : Effort) (phase : String)
      (output : SeatOutput) (answer : Except Fault Unit)
  | recordEscalation (incidentId : String) (seat : Seat) (effort : Effort) (escalationCount : Nat)
      (reason : String) (answer : Except Fault Unit)
  | rejectDuplicateRetry (incidentId : String) (seat : Seat) (effort : Effort) (phase : String)
      (output : SeatOutput) (reason : String) (answer : Except Fault Unit)
  | recordVerdict (incidentId : String) (output : MagistrateOutput) (answer : Except Fault Unit)
  | openApproval (incidentId : String) (output : MagistrateOutput) (outputs : Outputs)
      (answer : Except Fault String)
  | failClosedAbstain (incidentId : String) (reason : String) (answer : Except Fault Unit)

/-- The coordinator and the world.  `outputs` is the dictionary of the call that is
running, `retained` the one that the coordinator keeps between calls. -/
structure Room (World : Type) where
  tracker : EscalationTracker
  outputs : Outputs
  retained : Option Outputs
  phases : Seat → Option String
  calls : List Call
  world : World

variable {World : Type}

abbrev Coordination (World : Type) := Procedure Fault (Room World)

def Room.noted (room : Room World) (call : Call) (world : World) : Room World :=
  { room with calls := room.calls ++ [call], world := world }

/-- Call a collaborator. -/
def ask {α : Type} (note : Except Fault α → Call) (body : Procedure Fault World α) :
    Coordination World α :=
  ⟨fun room =>
    ((body.run room.world).1,
      room.noted (note (body.run room.world).1) (body.run room.world).2)⟩

/-- Use the tracker. -/
def track {α : Type} (operation : Tracking α) : Coordination World α :=
  operation.within Room.tracker fun tracker room => { room with tracker := tracker }

/-- Use the tracker, and note it. -/
def consult {α : Type} (note : Except Fault α → Call) (operation : Tracking α) :
    Coordination World α :=
  ⟨fun room =>
    ((operation.run room.tracker).1,
      { room with tracker := (operation.run room.tracker).2 }.noted
        (note (operation.run room.tracker).1) room.world)⟩

section Rules

variable {α : Type} {room : Room World} {Returns : α → Room World → Prop}
variable {Raises : Fault → Room World → Prop}

@[simp]
theorem meets_ask {note : Except Fault α → Call} {body : Procedure Fault World α} :
    (ask note body).Meets room Returns Raises ↔
      body.Meets room.world (fun value world => Returns value (room.noted (note (.ok value)) world))
        fun error world => Raises error (room.noted (note (.error error)) world) := by
  rcases outcome : body.run room.world with ⟨error | value, world⟩
  · simp only [Meets, ask, outcome]
  · simp only [Meets, ask, outcome]

@[simp]
theorem meets_track {operation : Tracking α} :
    (track operation : Coordination World α).Meets room Returns Raises ↔
      operation.Meets room.tracker (fun value tracker => Returns value { room with tracker := tracker })
        fun error tracker => Raises error { room with tracker := tracker } :=
  meets_within

@[simp]
theorem meets_consult {note : Except Fault α → Call} {operation : Tracking α} :
    (consult note operation : Coordination World α).Meets room Returns Raises ↔
      operation.Meets room.tracker
        (fun value tracker =>
          Returns value ({ room with tracker := tracker }.noted (note (.ok value)) room.world))
        fun error tracker =>
          Raises error ({ room with tracker := tracker }.noted (note (.error error)) room.world) := by
  rcases outcome : operation.run room.tracker with ⟨error | value, tracker⟩
  · simp only [Meets, consult, outcome]
  · simp only [Meets, consult, outcome]

end Rules

/-! ## Checks -/

def remandTargets : List Seat := [.prosecutor, .inspector, .counsel]

def invalidSchema (message : String) : Fault := .orchestration .invalidSchema message

/-- The names of the output schemas. -/
def schemaName : Seat → String
  | .inspector => "InspectorOutput"
  | .prosecutor => "ProsecutorOutput"
  | .counsel => "CounselOutput"
  | .magistrate => "MagistrateOutput"
  | .bailiff => "BailiffOutput"

def knownVerdicts : List String :=
  [Verdict.clear.value, Verdict.remand.value, Verdict.block.value, Verdict.abstain.value]

/-- The type check and the remand target. -/
def checkType (seat : Seat) (returned : Returned) : Except Fault SeatOutput :=
  match returned with
  | .output value =>
      if value.seat = seat then
        match value with
        | .magistrate output =>
            if output.verdict = .remand then
              if output.remandTarget.elim false (· ∈ remandTargets) then .ok value
              else .error (invalidSchema "REMAND did not include a valid target")
            else if output.remandTarget.isSome then
              .error (invalidSchema "non-REMAND verdict included a remand target")
            else .ok value
        | _ => .ok value
      else .error (invalidSchema (seat.value ++ " did not return " ++ schemaName seat))
  | .mapping (some verdict) =>
      if seat = .magistrate ∧ verdict ∉ knownVerdicts then
        .error (.orchestration .unknownVerdict ("unknown verdict: " ++ verdict))
      else .error (invalidSchema (seat.value ++ " did not return " ++ schemaName seat))
  | _ => .error (invalidSchema (seat.value ++ " did not return " ++ schemaName seat))

def missingCitations (seat : Seat) (message : String) : Fault :=
  .orchestration .missingEvidenceReference (seat.value ++ message)

def isIncidentCharacter (character : Char) : Bool :=
  isIdentifierTail character && character != ':'

/-- The pattern `[A-Za-z0-9][A-Za-z0-9._-]{0,127}`. -/
def isIncidentId (text : String) : Bool :=
  isIdentifier text && text.toList.all isIncidentCharacter

/-- `ScenarioId`. -/
def scenarioIds : List String := ["webhook-race", "webhook-payload-equivalence"]

/-- The pattern `[a-z0-9-]{1,64}`. -/
def isPhase (text : String) : Bool :=
  1 ≤ text.length && text.length ≤ 64 &&
    text.toList.all fun character =>
      character.isDigit || character.isLower || character == '-'

section Coordination

variable (tables : SemanticTables) (collaborators : Collaborators World)

/-- `_validate`, with the citation authority asked through `ask`. -/
def validateWith {State : Type}
    (cites : List String → Procedure Fault State Bool) (seat : Seat) (returned : Returned) :
    Procedure Fault State SeatOutput := do
  let output ← ofExcept (checkType seat returned)
  if seat = .bailiff then pure output
  else if output.evidenceIds = [] then
    raise (missingCitations seat " returned no evidence citations")
  else do
    let contained ← cites output.evidenceIds
    if contained then pure output
    else raise (missingCitations seat " cited evidence outside the incident")

def validate (incidentId : String) (seat : Seat) (returned : Returned) :
    Coordination World SeatOutput :=
  validateWith
    (fun evidenceIds =>
      ask (.containsAll incidentId evidenceIds) (collaborators.containsAll incidentId evidenceIds))
    seat returned

/-- The callback of the handoff. -/
def validateInspector (incidentId : String) (returned : Returned) :
    Procedure Fault World InspectorOutput := do
  let validated ← validateWith (collaborators.containsAll incidentId) .inspector returned
  match validated with
  | .inspector output => pure output
  | _ => raise (invalidSchema "Inspector handoff changed output type")

def summaries : List (Seat × SeatOutput) → Attempt (List UntrustedAgentSummary)
  | entries => collect (fun entry => summarizeOutput tables entry.2) entries

/-- `_request`. -/
def request (incident : IncidentInput) (phase : String) : Coordination World AgentRunInput := do
  let room ← get
  let prior ← ofAttempt (summaries tables room.outputs.entries)
  if isIncidentId incident.incidentId ∧ incident.scenario ∈ scenarioIds ∧
      isIdentifier incident.candidatePlanId ∧ isPhase phase then
    pure
      { incidentId := incident.incidentId
        scenario := incident.scenario
        candidatePlanId := incident.candidatePlanId
        phase := phase
        evidence := incident.evidence
        citableEvidenceIds := incident.evidence.map (·.evidenceId)
        priorOutputs := prior }
  else raise (fault .validationError "AgentRunInput")

/-- Take an output over. -/
def keep (seat : Seat) (phase : String) (output : SeatOutput) : Coordination World Unit :=
  modify fun room =>
    { room with
      outputs := room.outputs.put seat output
      phases := fun other => if other = seat then some phase else room.phases other }

/-- `_run_seat` outside of a retry. -/
def runSeat (incident : IncidentInput) (seat : Seat) (phase : String) :
    Coordination World SeatOutput := do
  let effort ← track (currentEffort seat)
  let input ← request tables incident phase
  let returned ← ask (.runSeat input.incidentId seat effort phase false)
    (collaborators.runSeat seat effort phase input)
  let validated ← validate collaborators incident.incidentId seat returned
  consult (.recordInitial incident.incidentId seat validated) (recordInitial tables seat validated)
  keep seat phase validated
  pure validated

/-- The exception that takes the place of `DuplicateRetry`. -/
def attemptOf (seat : Seat) (effort : Effort) (phase : String) (output : SeatOutput) :
    Fault → Fault
  | .raised error =>
      if error.isA .duplicateRetry then .duplicateAttempt error.message seat effort phase output
      else .raised error
  | other => other

/-- `_run_seat` of a retry. -/
def runRetry (incident : IncidentInput) (seat : Seat) (phase : String) (effort : Effort) :
    Coordination World SeatOutput := do
  let input ← request tables incident phase
  let returned ← ask (.runSeat input.incidentId seat effort phase true)
    (match collaborators.deferred with
     | none => collaborators.runSeat seat effort phase input
     | some deferred => deferred.runUnpublishedRetry seat effort phase input)
  let validated ← validate collaborators incident.incidentId seat returned
  let _ ← (consult (.acceptRetry incident.incidentId seat validated)
      (acceptRetry tables seat validated)).rescue
    fun error => raise (attemptOf seat effort phase validated error)
  match collaborators.deferred with
  | none => pure ()
  | some deferred =>
      ask (.publishAcceptedRetry incident.incidentId seat effort phase validated)
        (deferred.publishAcceptedRetry incident.incidentId seat effort phase validated)
  keep seat phase validated
  pure validated

/-- `_run_initial_handoff`. -/
def runInitialHandoff (incident : IncidentInput) : Coordination World Unit := do
  let input ← request tables incident "mechanism-analysis"
  let inspectorEffort ← track (currentEffort .inspector)
  let prosecutorEffort ← track (currentEffort .prosecutor)
  let returned ← ask (.runInspectorToProsecutor input.incidentId)
    (collaborators.runInspectorToProsecutor input inspectorEffort prosecutorEffort
      (validateInspector collaborators incident.incidentId))
  match returned with
  | .other => raise (invalidSchema "SDK handoff did not return the expected result")
  | .result inspector prosecutor => do
      let first ← validate collaborators incident.incidentId .inspector (.output (.inspector inspector))
      let second ← validate collaborators incident.incidentId .prosecutor
        (.output (.prosecutor prosecutor))
      consult (.recordInitial incident.incidentId .inspector first)
        (recordInitial tables .inspector first)
      consult (.recordInitial incident.incidentId .prosecutor second)
        (recordInitial tables .prosecutor second)
      keep .inspector "mechanism-analysis" first
      keep .prosecutor "hypothesis-challenge" second

/-- `except EscalationExhausted`. -/
def exhaustionOf : Fault → Fault
  | .raised error =>
      if error.isA .escalationExhausted then .orchestration .escalationFailure error.message
      else .raised error
  | other => other

/-- The decision under which a seat retries, recorded unless it was pending. -/
def decideEscalation (incident : IncidentInput) (seat : Seat) (reason : String) :
    Coordination World EscalationDecision := do
  let pending ← track (resumePendingEscalation seat reason)
  match pending with
  | some decision => pure decision
  | none => do
      let decision ← (track (beginEscalation seat reason)).rescue fun error =>
        raise (exhaustionOf error)
      ask (.recordEscalation incident.incidentId seat decision.effort decision.escalationCount
          reason)
        (collaborators.recordEscalation incident.incidentId seat decision.effort
          decision.escalationCount reason escalationExplanation)
      pure decision

/-- `except _DuplicateRetryAttempt`. -/
def rejectAttempt (incident : IncidentInput) (reason : String) (error : Fault) :
    Coordination World SeatOutput :=
  match error with
  | .duplicateAttempt message seat effort phase output => do
      ask (.rejectDuplicateRetry incident.incidentId seat effort phase output reason)
        (collaborators.rejectDuplicateRetry incident.incidentId seat effort phase output reason)
      raise (.alreadyPersisted message)
  | other => raise other

/-- `_escalate`. -/
def escalate (incident : IncidentInput) (seat : Seat) (reason phase : String) :
    Coordination World SeatOutput := do
  let decision ← decideEscalation collaborators incident seat reason
  (runRetry tables collaborators incident seat phase decision.effort).rescue
    (rejectAttempt collaborators incident reason)

/-- The end of `_resolve_verdict`. -/
def conclude (incident : IncidentInput) (magistrate : MagistrateOutput) :
    Coordination World (Option CoordinatorResult) := do
  modify fun room => { room with retained := some room.outputs }
  let room ← get
  if magistrate.verdict = .clear then do
    let warrantId ← ask (.openApproval incident.incidentId magistrate room.outputs)
      (collaborators.openApproval incident.incidentId magistrate room.outputs)
    pure (some ⟨.clear, room.outputs, some warrantId, none⟩)
  else do
    ask (.recordVerdict incident.incidentId magistrate)
      (collaborators.recordVerdict incident.incidentId magistrate)
    pure (some ⟨magistrate.verdict, room.outputs, none, none⟩)

/-- The body of the remand loop: the target revises, Counsel and the Prosecutor follow,
and the Magistrate reviews again. -/
def remand (incident : IncidentInput) (magistrate : MagistrateOutput) :
    Coordination World SeatOutput := do
  ask (.recordVerdict incident.incidentId magistrate)
    (collaborators.recordVerdict incident.incidentId magistrate)
  match magistrate.remandTarget with
  | none => raise (invalidSchema "REMAND did not include a valid target")
  | some target =>
      if target ∈ remandTargets then do
        let _ ← escalate tables collaborators incident target "remand" "remand-revision"
        if target = .counsel then pure ()
        else do
          let _ ← runSeat tables collaborators incident .counsel "remand-patch"
          pure ()
        let _ ← runSeat tables collaborators incident .prosecutor "remand-challenge"
        runSeat tables collaborators incident .magistrate "remand-review"
      else raise (invalidSchema "REMAND did not include a valid target")

/-- `_resolve_verdict`, without a result when it is cut off for want of fuel. -/
def resolveVerdict (incident : IncidentInput) : Nat → MagistrateOutput →
    Coordination World (Option CoordinatorResult)
  | 0, _ => pure none
  | fuel + 1, magistrate =>
      if magistrate.verdict = .remand then do
        let review ← remand tables collaborators incident magistrate
        match review with
        | .magistrate output => resolveVerdict incident fuel output
        | _ => raise (invalidSchema "Magistrate output type changed after remand")
      else conclude collaborators incident magistrate

/-- The verdict of a seat output that has to be the Magistrate's. -/
def resolveOutput (incident : IncidentInput) (fuel : Nat) (output : Option SeatOutput) :
    Coordination World (Option CoordinatorResult) :=
  match output with
  | some (.magistrate magistrate) => resolveVerdict tables collaborators incident fuel magistrate
  | _ => raise (invalidSchema "Magistrate output is invalid")

/-- `_fail_closed`, for what `except Exception` catches. -/
def failClosed (incident : IncidentInput) (error : Fault) :
    Coordination World (Option CoordinatorResult) :=
  if error.isException then do
    let reason := failureReason error
    match error with
    | .alreadyPersisted _ => pure ()
    | _ =>
        ask (.failClosedAbstain incident.incidentId reason)
          (collaborators.failClosedAbstain incident.incidentId reason)
    modify fun room => { room with retained := some room.outputs }
    let room ← get
    pure (some ⟨.abstain, room.outputs, none, some reason⟩)
  else raise error

/-! ## Restored outputs -/

/-- An output of a seat as the rows of the database have it. -/
structure Persisted where
  output : SeatOutput
  effort : Effort
  escalationCount : Nat

def restoreSeats (pendingRetries : Seat → Option String) :
    List (Seat × Persisted) → Outputs → Coordination World Outputs
  | [], restored => pure restored
  | (seat, row) :: rest, restored =>
      if row.output.seat = seat then do
        track (restore tables seat row.output row.effort row.escalationCount
          (pendingRetries seat).isSome (pendingRetries seat))
        restoreSeats pendingRetries rest (restored.put seat row.output)
      else raise (invalidSchema ("persisted " ++ seat.value ++ " output type changed"))

def restoreIncidentOutputs (rows : List (Seat × Persisted))
    (completedPhases pendingRetries : Seat → Option String) : Coordination World Unit := do
  let restored ← restoreSeats tables pendingRetries rows .empty
  modify fun room => { room with retained := some restored, phases := completedPhases }

/-! ## Entry points -/

def review (incident : IncidentInput) (fuel : Nat) :
    Coordination World (Option CoordinatorResult) := do
  runInitialHandoff tables collaborators incident
  let _ ← runSeat tables collaborators incident .inspector "mechanism-revision"
  let _ ← runSeat tables collaborators incident .counsel "patch-proposal"
  let _ ← runSeat tables collaborators incident .prosecutor "patch-challenge"
  let magistrate ← runSeat tables collaborators incident .magistrate "verdict-review"
  resolveOutput tables collaborators incident fuel (some magistrate)

def runIncident (incident : IncidentInput) (fuel : Nat) :
    Coordination World (Option CoordinatorResult) := do
  modify fun room => { room with outputs := .empty }
  ask (.beginReview incident.incidentId) (collaborators.beginReview incident.incidentId)
  (review tables collaborators incident fuel).rescue (failClosed collaborators incident)

/-- The dictionary that a resumed call starts from. -/
def resumable : Coordination World Unit := do
  let room ← get
  match room.retained with
  | some outputs =>
      if outputs.entries = [] then
        raise (fault .lookupError "incident has no resumable agent state")
      else modify fun current => { current with outputs := outputs }
  | none => raise (fault .lookupError "incident has no resumable agent state")

/-- The repair of a failed test, in three parts that a restarted process skips if it
finds their phase completed. -/
def repairPatch (incident : IncidentInput) : Coordination World Unit := do
  let room ← get
  if room.phases .counsel = some "test-failure-repair" then pure ()
  else do
    ask (.beginReview incident.incidentId) (collaborators.beginReview incident.incidentId)
    let _ ← escalate tables collaborators incident .counsel "test_failure" "test-failure-repair"
    pure ()

def challengeRepair (incident : IncidentInput) : Coordination World Unit := do
  let room ← get
  if room.phases .prosecutor = some "test-failure-challenge" then pure ()
  else do
    let _ ← runSeat tables collaborators incident .prosecutor "test-failure-challenge"
    pure ()

def judgeRepair (incident : IncidentInput) (fuel : Nat) :
    Coordination World (Option CoordinatorResult) := do
  let room ← get
  if room.phases .magistrate = some "test-failure-review" then
    resolveOutput tables collaborators incident fuel (room.outputs.get .magistrate)
  else do
    let magistrate ← runSeat tables collaborators incident .magistrate "test-failure-review"
    resolveOutput tables collaborators incident fuel (some magistrate)

def repair (incident : IncidentInput) (fuel : Nat) :
    Coordination World (Option CoordinatorResult) := do
  repairPatch tables collaborators incident
  challengeRepair tables collaborators incident
  judgeRepair tables collaborators incident fuel

def resumeAfterTest (incident : IncidentInput) (testPassed : Bool) (fuel : Nat) :
    Coordination World (Option CoordinatorResult) := do
  resumable
  if testPassed then do
    let room ← get
    pure (some ⟨.clear, room.outputs, none, none⟩)
  else
    (repair tables collaborators incident fuel).rescue (failClosed collaborators incident)

def revise (incident : IncidentInput) (fuel : Nat) :
    Coordination World (Option CoordinatorResult) := do
  ask (.beginReview incident.incidentId) (collaborators.beginReview incident.incidentId)
  let _ ← escalate tables collaborators incident .counsel "human_revision" "human-revision-patch"
  let _ ← runSeat tables collaborators incident .prosecutor "human-revision-challenge"
  let magistrate ← runSeat tables collaborators incident .magistrate "human-revision-review"
  resolveOutput tables collaborators incident fuel (some magistrate)

def resumeAfterRevision (incident : IncidentInput) (fuel : Nat) :
    Coordination World (Option CoordinatorResult) := do
  resumable
  (revise tables collaborators incident fuel).rescue (failClosed collaborators incident)

end Coordination

end CrossPatch.Orchestration.Coordinator
