import CrossPatch.Domain.Hashing

/-!
# Incident state machine

States, verdicts and seats, the typed events that may move an incident, and the
deterministic transition policy.  Events are reduced from persisted payloads, so
the constructors of the typed events are partial.
-/

namespace CrossPatch.Domain.StateMachine

open CrossPatch.Domain.Failure CrossPatch.Domain.Text
open CrossPatch.Library.Attempt CrossPatch.Library.JsonText

inductive Seat where
  | prosecutor
  | inspector
  | counsel
  | magistrate
  | bailiff
  deriving DecidableEq, Repr

def Seat.value : Seat → String
  | .prosecutor => "Prosecutor"
  | .inspector => "Inspector"
  | .counsel => "Counsel"
  | .magistrate => "Magistrate"
  | .bailiff => "Bailiff"

def Seat.all : List Seat := [.prosecutor, .inspector, .counsel, .magistrate, .bailiff]

def Seat.parse (text : String) : Attempt Seat :=
  match Seat.all.find? fun seat => seat.value == text with
  | some seat => .ok seat
  | none => raise .valueError "not a valid Seat"

inductive Verdict where
  | clear
  | remand
  | block
  | abstain
  deriving DecidableEq, Repr

def Verdict.value : Verdict → String
  | .clear => "CLEAR"
  | .remand => "REMAND"
  | .block => "BLOCK"
  | .abstain => "ABSTAIN"

def Verdict.all : List Verdict := [.clear, .remand, .block, .abstain]

def Verdict.parse (text : String) : Attempt Verdict :=
  match Verdict.all.find? fun verdict => verdict.value == text with
  | some verdict => .ok verdict
  | none => raise .valueError "not a valid Verdict"

inductive IncidentState where
  | opened
  | reproducing
  | evidenceReady
  | analyzing
  | patching
  | reviewing
  | approvalPending
  | approved
  | executing
  | testFailed
  | verified
  | blocked
  | humanEscalation
  deriving DecidableEq, Repr

def IncidentState.value : IncidentState → String
  | .opened => "OPEN"
  | .reproducing => "REPRODUCING"
  | .evidenceReady => "EVIDENCE_READY"
  | .analyzing => "ANALYZING"
  | .patching => "PATCHING"
  | .reviewing => "REVIEWING"
  | .approvalPending => "APPROVAL_PENDING"
  | .approved => "APPROVED"
  | .executing => "EXECUTING"
  | .testFailed => "TEST_FAILED"
  | .verified => "VERIFIED"
  | .blocked => "BLOCKED"
  | .humanEscalation => "HUMAN_ESCALATION"

/-! ## Event types -/

/-- `STATE_EVENT_TYPES`. -/
inductive StateEventType where
  | reproductionStarted
  | evidenceCaptured
  | reproductionPassed
  | reproductionInconclusive
  | analysisStarted
  | patchRequested
  | patchProposed
  | verdict
  | warrantApproved
  | warrantExpired
  | revisionRequested
  | executionStarted
  | testFailed
  | retryStarted
  | verified
  | backgroundTaskFailed
  | executionFailed
  deriving DecidableEq, Repr

def StateEventType.value : StateEventType → String
  | .reproductionStarted => "REPRODUCTION_STARTED"
  | .evidenceCaptured => "EVIDENCE_CAPTURED"
  | .reproductionPassed => "REPRODUCTION_PASSED"
  | .reproductionInconclusive => "REPRODUCTION_INCONCLUSIVE"
  | .analysisStarted => "ANALYSIS_STARTED"
  | .patchRequested => "PATCH_REQUESTED"
  | .patchProposed => "PATCH_PROPOSED"
  | .verdict => "VERDICT"
  | .warrantApproved => "WARRANT_APPROVED"
  | .warrantExpired => "WARRANT_EXPIRED"
  | .revisionRequested => "REVISION_REQUESTED"
  | .executionStarted => "EXECUTION_STARTED"
  | .testFailed => "TEST_FAILED"
  | .retryStarted => "RETRY_STARTED"
  | .verified => "VERIFIED"
  | .backgroundTaskFailed => "BACKGROUND_TASK_FAILED"
  | .executionFailed => "EXECUTION_FAILED"

def StateEventType.all : List StateEventType :=
  [.reproductionStarted, .evidenceCaptured, .reproductionPassed, .reproductionInconclusive,
   .analysisStarted, .patchRequested, .patchProposed, .verdict, .warrantApproved, .warrantExpired,
   .revisionRequested, .executionStarted, .testFailed, .retryStarted, .verified,
   .backgroundTaskFailed, .executionFailed]

def StateEventType.parse (text : String) : Option StateEventType :=
  StateEventType.all.find? fun type => type.value == text

/-- The texts of the event types that the code records without reducing them. -/
def recordedTexts : List String :=
  ["INCIDENT_OPENED", "SEAT_STARTED", "AGENT_OUTPUT_RECORDED", "REASONING_ESCALATED",
   "FAILED_RETRY_DUPLICATE", "WARRANT_REJECTED", "BAILIFF_COMPLETED", "REPAIR_CYCLE_FAILED",
   "BACKGROUND_TASK_ERROR_REPORTED", "MODEL_METRICS_RECORDED"]

/-- The types of the timeline: those that reduce to a state and those that are
only recorded, under the texts that the code uses or under any other text. -/
inductive EventType where
  | state (type : StateEventType)
  | incidentOpened
  | seatStarted
  | agentOutputRecorded
  | reasoningEscalated
  | failedRetryDuplicate
  | warrantRejected
  | bailiffCompleted
  | repairCycleFailed
  | backgroundTaskErrorReported
  | modelMetricsRecorded
  | other (text : String)
      (unlisted : StateEventType.parse text = none ∧ text ∉ recordedTexts)
  deriving DecidableEq, Repr

def EventType.value : EventType → String
  | .state type => type.value
  | .incidentOpened => "INCIDENT_OPENED"
  | .seatStarted => "SEAT_STARTED"
  | .agentOutputRecorded => "AGENT_OUTPUT_RECORDED"
  | .reasoningEscalated => "REASONING_ESCALATED"
  | .failedRetryDuplicate => "FAILED_RETRY_DUPLICATE"
  | .warrantRejected => "WARRANT_REJECTED"
  | .bailiffCompleted => "BAILIFF_COMPLETED"
  | .repairCycleFailed => "REPAIR_CYCLE_FAILED"
  | .backgroundTaskErrorReported => "BACKGROUND_TASK_ERROR_REPORTED"
  | .modelMetricsRecorded => "MODEL_METRICS_RECORDED"
  | .other text _ => text

abbrev Payload := List (String × Json)

/-! ## Typed events -/

def remandTargets : List Seat := [.prosecutor, .inspector, .counsel]

/-- An event with its proof fields validated.  The event types without a class of
their own carry nothing that a transition reads. -/
inductive Event where
  | verdict (verdict : Verdict) (remandTarget : Option Seat)
  | warrantApproved (approvalId warrantSha256 approverIdentity : String)
  | executionStarted (claimId warrantId : String)
  | verified (receiptId warrantId : String)
  | executionFailed (warrantId errorCode : String)
  | warrantExpired (warrantId warrantSha256 : String)
  | revisionRequested (warrantId warrantSha256 evidenceId : String)
  | untyped (type : StateEventType)
  deriving DecidableEq

def Event.type : Event → StateEventType
  | .verdict _ _ => .verdict
  | .warrantApproved _ _ _ => .warrantApproved
  | .executionStarted _ _ => .executionStarted
  | .verified _ _ => .verified
  | .executionFailed _ _ => .executionFailed
  | .warrantExpired _ _ => .warrantExpired
  | .revisionRequested _ _ _ => .revisionRequested
  | .untyped type => type

def Event.newVerdict (verdict : Verdict) (remandTarget : Option Seat) : Attempt Event := do
  if verdict = .remand then
    require (∃ target ∈ remandTargets, remandTarget = some target)
      ⟨.valueError, "REMAND requires a valid Prosecutor, Inspector, or Counsel target"⟩
  else
    require (remandTarget = none) ⟨.valueError, "only REMAND may include a remand target"⟩
  .ok (.verdict verdict remandTarget)

/-- The proof constructors check identifiers and canonical digests. -/
def checkProof (identifiers digests : List String) (message : String) : Attempt Unit :=
  require ((∀ text ∈ identifiers, isIdentifier text = true) ∧
    ∀ text ∈ digests, isSha256 text = true) ⟨.valueError, message⟩

def Event.newWarrantApproved (approvalId warrantSha256 approverIdentity : String) :
    Attempt Event := do
  checkProof [approvalId, approverIdentity] [] "approval proof identifiers are invalid"
  checkProof [] [warrantSha256] "approval proof requires a canonical warrant SHA-256"
  .ok (.warrantApproved approvalId warrantSha256 approverIdentity)

def Event.newExecutionStarted (claimId warrantId : String) : Attempt Event := do
  checkProof [claimId, warrantId] [] "execution claim proof is invalid"
  .ok (.executionStarted claimId warrantId)

def Event.newVerified (receiptId warrantId : String) : Attempt Event := do
  checkProof [receiptId, warrantId] [] "verification receipt proof is invalid"
  .ok (.verified receiptId warrantId)

def Event.newExecutionFailed (warrantId errorCode : String) : Attempt Event := do
  checkProof [warrantId, errorCode] [] "execution failure proof is invalid"
  .ok (.executionFailed warrantId errorCode)

def Event.newWarrantExpired (warrantId warrantSha256 : String) : Attempt Event := do
  checkProof [warrantId] [warrantSha256] "expired warrant proof is invalid"
  .ok (.warrantExpired warrantId warrantSha256)

def Event.newRevisionRequested (warrantId warrantSha256 evidenceId : String) :
    Attempt Event := do
  checkProof [warrantId, evidenceId] [warrantSha256] "revision request proof is invalid"
  .ok (.revisionRequested warrantId warrantSha256 evidenceId)

/-! ## Reduction of payloads -/

/-- `payload[field]` used as text; a missing field and a value of another type
both raise one of the exceptions that the callers translate. -/
def textField (payload : Payload) (field : String) : Attempt String :=
  match payload.lookup field with
  | some (.str text) => .ok text
  | some _ => raise .typeError field
  | none => raise .keyError field

/-- `payload.get(field)` where null and absence are the same. -/
def optionalText (payload : Payload) (field : String) : Attempt (Option String) :=
  match payload.lookup field with
  | none => .ok none
  | some .null => .ok none
  | some (.str text) => .ok (some text)
  | some _ => raise .valueError field

def malformed (message : String) (parsed : Attempt Event) : Attempt Event :=
  mapFailure (fun raised =>
    if raised.isA .keyError || raised.isA .typeError || raised.isA .valueError then
      ⟨.invalidTransition, message⟩
    else raised) parsed

def typedEventFromPayload (type : StateEventType) (payload : Payload) : Attempt Event :=
  match type with
  | .verdict => malformed "malformed verdict payload" do
      let verdict ← Verdict.parse (← textField payload "verdict")
      match ← optionalText payload "remand_target" with
      | none => Event.newVerdict verdict none
      | some target => Event.newVerdict verdict (some (← Seat.parse target))
  | .warrantApproved => malformed "malformed approval proof" do
      Event.newWarrantApproved (← textField payload "approval_id")
        (← textField payload "warrant_sha256") (← textField payload "approver_identity")
  | .executionStarted => malformed "malformed execution claim proof" do
      Event.newExecutionStarted (← textField payload "claim_id") (← textField payload "warrant_id")
  | .verified => malformed "malformed verification receipt" do
      Event.newVerified (← textField payload "receipt_id") (← textField payload "warrant_id")
  | .executionFailed => malformed "malformed broker failure proof" do
      Event.newExecutionFailed (← textField payload "warrant_id") (← textField payload "error_code")
  | .warrantExpired => malformed "malformed expired warrant proof" do
      Event.newWarrantExpired (← textField payload "warrant_id")
        (← textField payload "warrant_sha256")
  | .revisionRequested => malformed "malformed revision request proof" do
      Event.newRevisionRequested (← textField payload "warrant_id")
        (← textField payload "warrant_sha256") (← textField payload "evidence_id")
  | other => .ok (.untyped other)

/-! ## Transitions -/

def notAllowed {α : Type} (state : IncidentState) (type : StateEventType) : Attempt α :=
  raise .invalidTransition (type.value ++ " is not allowed from " ++ state.value)

def abstainStates : List IncidentState :=
  [.analyzing, .patching, .reviewing, .approved, .executing, .testFailed]

def transitionVerdict (verdict : Verdict) (remandTarget : Option Seat) : IncidentState :=
  match verdict with
  | .clear => .approvalPending
  | .remand => if remandTarget = some .counsel then .patching else .analyzing
  | .block => .blocked
  | .abstain => .humanEscalation

/-- States in which lost background work fails the incident closed. -/
def activeStates : List IncidentState :=
  [.opened, .reproducing, .evidenceReady, .analyzing, .patching, .reviewing, .approved,
   .executing, .testFailed]

/-- The table of transitions other than verdicts. -/
def transitionTable : IncidentState → StateEventType → Option IncidentState
  | .opened, .reproductionStarted => some .reproducing
  | .reproducing, .evidenceCaptured => some .evidenceReady
  | .evidenceReady, .reproductionPassed => some .blocked
  | .evidenceReady, .reproductionInconclusive => some .humanEscalation
  | .evidenceReady, .analysisStarted => some .analyzing
  | .analyzing, .patchRequested => some .patching
  | .patching, .patchProposed => some .reviewing
  | .approvalPending, .warrantApproved => some .approved
  | .approvalPending, .warrantExpired => some .humanEscalation
  | .approvalPending, .revisionRequested => some .patching
  | .approved, .executionStarted => some .executing
  | .executing, .testFailed => some .testFailed
  | .testFailed, .retryStarted => some .patching
  | .executing, .verified => some .verified
  | state, .backgroundTaskFailed =>
      if state ∈ activeStates then some .humanEscalation else none
  | .approved, .executionFailed => some .humanEscalation
  | .executing, .executionFailed => some .humanEscalation
  | _, _ => none

/-- Event types that only their own classes may carry. -/
def proofTypes : List (StateEventType × String) :=
  [(.verdict, "VERDICT requires a validated typed verdict event"),
   (.warrantApproved, "WARRANT_APPROVED requires validated approval proof"),
   (.executionStarted, "EXECUTION_STARTED requires validated broker claim proof"),
   (.verified, "VERIFIED requires a validated test receipt"),
   (.executionFailed, "EXECUTION_FAILED requires a validated broker failure"),
   (.warrantExpired, "WARRANT_EXPIRED requires validated warrant proof"),
   (.revisionRequested, "REVISION_REQUESTED requires validated revision proof")]

def transitionIncident (state : IncidentState) (event : Event) : Attempt IncidentState :=
  match event with
  | .verdict verdict remandTarget =>
      if verdict = .abstain ∧ state ∈ abstainStates then .ok .humanEscalation
      else if state ≠ .reviewing then notAllowed state .verdict
      else .ok (transitionVerdict verdict remandTarget)
  | .untyped .verdict =>
      if state ≠ .reviewing then notAllowed state .verdict
      else raise .invalidTransition "VERDICT requires a validated typed verdict event"
  | event =>
      match event, proofTypes.lookup event.type with
      | .untyped _, some message => raise .invalidTransition message
      | event, _ =>
          match transitionTable state event.type with
          | some next => .ok next
          | none => notAllowed state event.type

/-! ## What an accepted event establishes -/

theorem malformed_eq_ok {message : String} {parsed : Attempt Event} {event : Event} :
    malformed message parsed = .ok event ↔ parsed = .ok event := by
  unfold malformed
  exact mapFailure_eq_ok

theorem Verdict.parse_value (verdict : Verdict) : Verdict.parse verdict.value = .ok verdict := by
  cases verdict <;> rfl

theorem Event.newVerdict_eq_ok {verdict : Verdict} {remandTarget : Option Seat} {event : Event}
    (built : Event.newVerdict verdict remandTarget = .ok event) :
    event = .verdict verdict remandTarget := by
  unfold Event.newVerdict at built
  split at built
  · obtain ⟨_, _, same⟩ := bind_eq_ok.mp built
    cases same
    rfl
  · obtain ⟨_, _, same⟩ := bind_eq_ok.mp built
    cases same
    rfl

theorem typedEventFromPayload_verdict {payload : Payload} {event : Event}
    (typed : typedEventFromPayload .verdict payload = .ok event) :
    ∃ text verdict remandTarget, textField payload "verdict" = .ok text ∧
      Verdict.parse text = .ok verdict ∧ event = .verdict verdict remandTarget := by
  simp only [typedEventFromPayload, malformed_eq_ok, bind_eq_ok] at typed
  obtain ⟨text, named, verdict, parsed, target, _, built⟩ := typed
  refine ⟨text, verdict, ?_⟩
  cases target with
  | none => exact ⟨none, named, parsed, Event.newVerdict_eq_ok built⟩
  | some name =>
      obtain ⟨seat, _, built⟩ := bind_eq_ok.mp built
      exact ⟨some seat, named, parsed, Event.newVerdict_eq_ok built⟩

/-- A typed event has the type that it was reduced from. -/
theorem typedEventFromPayload_type {type : StateEventType} {payload : Payload} {event : Event}
    (typed : typedEventFromPayload type payload = .ok event) : event.type = type := by
  cases type
  case verdict =>
    obtain ⟨_, verdict, target, _, _, rfl⟩ := typedEventFromPayload_verdict typed
    rfl
  all_goals
    simp only [typedEventFromPayload, malformed_eq_ok, bind_eq_ok, Event.newWarrantApproved,
      Event.newExecutionStarted, Event.newVerified, Event.newExecutionFailed,
      Event.newWarrantExpired, Event.newRevisionRequested, Except.ok.injEq] at typed
  case warrantApproved =>
    obtain ⟨_, _, _, _, _, _, _, _, _, _, rfl⟩ := typed
    rfl
  case executionStarted =>
    obtain ⟨_, _, _, _, _, _, rfl⟩ := typed
    rfl
  case verified =>
    obtain ⟨_, _, _, _, _, _, rfl⟩ := typed
    rfl
  case executionFailed =>
    obtain ⟨_, _, _, _, _, _, rfl⟩ := typed
    rfl
  case warrantExpired =>
    obtain ⟨_, _, _, _, _, _, rfl⟩ := typed
    rfl
  case revisionRequested =>
    obtain ⟨_, _, _, _, _, _, _, _, rfl⟩ := typed
    rfl
  all_goals
    subst typed
    rfl

/-- Events other than verdicts follow the table. -/
theorem transitionIncident_table {state next : IncidentState} {event : Event}
    (moved : transitionIncident state event = .ok next) (other : event.type ≠ .verdict) :
    transitionTable state event.type = some next := by
  cases event with
  | verdict verdict target => exact absurd rfl other
  | untyped type =>
      have notVerdict : type ≠ .verdict := other
      cases type <;> first | exact absurd rfl notVerdict | skip
      all_goals
        simp only [transitionIncident, proofTypes, List.lookup, Event.type, notAllowed, raise]
          at moved ⊢
        split at moved
        · cases moved
        · split at moved
          · simp_all
          · cases moved
  | _ =>
      simp only [transitionIncident, Event.type, notAllowed, raise] at moved ⊢
      split at moved
      · rename_i found
        cases moved
        exact found
      · cases moved

theorem transitionIncident_verdict {state next : IncidentState} {verdict : Verdict}
    {remandTarget : Option Seat}
    (moved : transitionIncident state (.verdict verdict remandTarget) = .ok next) :
    (verdict = .abstain ∧ state ∈ abstainStates ∧ next = .humanEscalation) ∨
      (state = .reviewing ∧ next = transitionVerdict verdict remandTarget) := by
  simp only [transitionIncident] at moved
  split at moved
  · rename_i abstains
    cases moved
    exact .inl ⟨abstains.1, abstains.2, rfl⟩
  · split at moved
    · cases moved
    · rename_i reviewing
      cases moved
      exact .inr ⟨not_not.mp reviewing, rfl⟩

end CrossPatch.Domain.StateMachine
