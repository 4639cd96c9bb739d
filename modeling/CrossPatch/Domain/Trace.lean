import CrossPatch.Domain.StateMachine

/-!
# Traces of the incident machine

Sequences of events that the transition policy accepts from `OPEN`.  The history
of an accepted sequence is read off the state that it ends in: an incident that
waits for a decision was just cleared, an approved one was just cleared and
approved, and an executing one was cleared, approved and started.
-/

namespace CrossPatch.Domain.Trace

open CrossPatch.Domain.Failure CrossPatch.Domain.StateMachine
open CrossPatch.Library.Attempt

/-! ## Events of any type text -/

/-- An event as the code holds it: an instance of one of the typed classes, or a
plain `Event` under any type text. -/
inductive AnyEvent where
  | typed (event : Event)
  | plain (type : String)
  deriving DecidableEq

def AnyEvent.type : AnyEvent → String
  | .typed event => event.type.value
  | .plain type => type

/-- `transition_incident` for an event of any type text; the table has no row for
texts outside `STATE_EVENT_TYPES`. -/
def transition (state : IncidentState) : AnyEvent → Attempt IncidentState
  | .typed event => transitionIncident state event
  | .plain type =>
      match StateEventType.parse type with
      | some known => transitionIncident state (.untyped known)
      | none => raise .invalidTransition (type ++ " is not allowed from " ++ state.value)

/-- The state after a sequence of events, as long as each of them is accepted. -/
def replay (state : IncidentState) (events : List AnyEvent) : Attempt IncidentState :=
  events.foldlM transition state

/-- The types that only a validated event of their own class may carry. -/
def authorityTypes : List StateEventType := proofTypes.map Prod.fst

def isClear : AnyEvent → Bool
  | .typed (.verdict .clear _) => true
  | _ => false

def hasType (type : StateEventType) (event : AnyEvent) : Bool := event.type == type.value

/-! ## One transition -/

theorem parse_value (type : StateEventType) :
    StateEventType.parse type.value = some type := by
  cases type <;> rfl

theorem value_injective {left right : StateEventType} (same : left.value = right.value) :
    left = right := by
  have parsed := parse_value left
  rw [same, parse_value, Option.some.injEq] at parsed
  exact parsed.symm

/-- A plain event under a type that has a class of its own is refused. -/
theorem untyped_refused {state next : IncidentState} {type : StateEventType}
    (authority : type ∈ authorityTypes) :
    transitionIncident state (.untyped type) ≠ .ok next := by
  simp only [authorityTypes, proofTypes, List.map_cons, List.map_nil, List.mem_cons,
    List.not_mem_nil, or_false] at authority
  rcases authority with rfl | rfl | rfl | rfl | rfl | rfl | rfl
  · simp only [transitionIncident, notAllowed, raise]
    split <;> simp
  all_goals
    change Except.error _ ≠ _
    simp

/-- An accepted event is one of the typed events, or a plain one without a class. -/
theorem transition_event {state next : IncidentState} {event : AnyEvent}
    (moved : transition state event = .ok next) :
    ∃ inner : Event, event.type = inner.type.value ∧
      transitionIncident state inner = .ok next ∧
      (event = .typed inner ∨ inner.type ∉ authorityTypes) := by
  cases event with
  | typed inner => exact ⟨inner, rfl, moved, Or.inl rfl⟩
  | plain type =>
      simp only [transition] at moved
      cases found : StateEventType.parse type with
      | none => simp [found, raise] at moved
      | some known =>
          rw [found] at moved
          have named : known.value = type := by
            simpa using List.find?_some found
          exact ⟨.untyped known, named.symm, moved,
            Or.inr fun authority => untyped_refused authority moved⟩

/-- What an accepted event does to the state. -/
inductive Transits : IncidentState → AnyEvent → IncidentState → Prop where
  | clears (target : Option Seat) :
      Transits .reviewing (.typed (.verdict .clear target)) .approvalPending
  | approves (approvalId warrantSha256 approverIdentity : String) :
      Transits .approvalPending
        (.typed (.warrantApproved approvalId warrantSha256 approverIdentity)) .approved
  | starts (claimId warrantId : String) :
      Transits .approved (.typed (.executionStarted claimId warrantId)) .executing
  | verifies (receiptId warrantId : String) :
      Transits .executing (.typed (.verified receiptId warrantId)) .verified
  | other {state next : IncidentState} {event : AnyEvent} (unclear : isClear event = false)
      (unapproved : hasType .warrantApproved event = false)
      (unstarted : hasType .executionStarted event = false)
      (plainly : next ∉ [.approvalPending, .approved, .executing, .verified])
      (live : state ∉ [.verified, .blocked, .humanEscalation]) (moves : next ≠ state) :
      Transits state event next

theorem hasType_of {event : AnyEvent} {inner : Event} (named : event.type = inner.type.value)
    {type : StateEventType} (differs : inner.type ≠ type) : hasType type event = false := by
  rw [hasType, named, beq_eq_false_iff_ne]
  exact fun same => differs (value_injective same)

theorem isClear_of {event : AnyEvent} {inner : Event} (named : event.type = inner.type.value)
    (differs : inner.type ≠ .verdict) : isClear event = false := by
  cases event with
  | plain type => rfl
  | typed current =>
      have same : current.type = inner.type := value_injective named
      cases current with
      | verdict verdict target => exact absurd same.symm differs
      | _ => rfl

theorem verdict_hasType (verdict : Verdict) (target : Option Seat) {type : StateEventType}
    (differs : type ≠ .verdict) : hasType type (.typed (.verdict verdict target)) = false :=
  @hasType_of (.typed (.verdict verdict target)) (.verdict verdict target) rfl type differs.symm

/-- Verdicts other than CLEAR lead back into the review or out of the incident. -/
theorem transits_verdict {state next : IncidentState} {verdict : Verdict}
    {target : Option Seat}
    (moved : transitionIncident state (.verdict verdict target) = .ok next) :
    Transits state (.typed (.verdict verdict target)) next := by
  have unapproved : hasType .warrantApproved (.typed (.verdict verdict target)) = false :=
    verdict_hasType verdict target (by decide)
  have unstarted : hasType .executionStarted (.typed (.verdict verdict target)) = false :=
    verdict_hasType verdict target (by decide)
  rcases transitionIncident_verdict moved with ⟨rfl, from_, rfl⟩ | ⟨rfl, rfl⟩
  · refine .other rfl unapproved unstarted (by decide) ?_ ?_
    · intro ended
      cases state <;> first | exact absurd from_ (by decide) | exact absurd ended (by decide)
    · rintro rfl
      exact absurd from_ (by decide)
  · cases verdict with
    | clear => exact .clears target
    | remand =>
        refine .other rfl unapproved unstarted ?_ (by decide) ?_ <;>
          by_cases isCounsel : target = some .counsel <;> simp [transitionVerdict, isCounsel]
    | block =>
        refine .other rfl unapproved unstarted ?_ (by decide) ?_ <;> simp [transitionVerdict]
    | abstain =>
        refine .other rfl unapproved unstarted ?_ (by decide) ?_ <;> simp [transitionVerdict]

/-- The rows of the table that need no proof of their own lead back into the review
or out of the incident. -/
theorem transitionTable_other {state next : IncidentState} {type : StateEventType}
    (listed : transitionTable state type = some next)
    (differs : type ∉ [.warrantApproved, .executionStarted, .verified]) :
    next ∉ [.approvalPending, .approved, .executing, .verified] ∧
      state ∉ [.verified, .blocked, .humanEscalation] ∧ next ≠ state := by
  cases type <;> first | exact absurd (by decide) differs | skip
  all_goals
    cases state <;> simp [transitionTable, activeStates] at listed <;> subst listed <;> decide

theorem transitionTable_inv {state next : IncidentState} :
    (transitionTable state .warrantApproved = some next →
      state = .approvalPending ∧ next = .approved) ∧
    (transitionTable state .executionStarted = some next →
      state = .approved ∧ next = .executing) ∧
    (transitionTable state .verified = some next → state = .executing ∧ next = .verified) := by
  refine ⟨?_, ?_, ?_⟩
  all_goals
    intro listed
    cases state <;> simp [transitionTable] at listed
    exact ⟨rfl, listed.symm⟩

/-- Every accepted event is one of the described transitions. -/
theorem transition_transits {state next : IncidentState} {event : AnyEvent}
    (moved : transition state event = .ok next) : Transits state event next := by
  obtain ⟨inner, named, accepted, kept⟩ := transition_event moved
  by_cases isVerdict : inner.type = .verdict
  · rcases kept with rfl | unlisted
    · cases inner with
      | verdict verdict target => exact transits_verdict accepted
      | untyped type =>
          have same : type = .verdict := isVerdict
          subst same
          exact absurd accepted (untyped_refused (by decide))
      | _ => cases isVerdict
    · exact absurd (by rw [isVerdict]; decide) unlisted
  have listed := transitionIncident_table accepted isVerdict
  by_cases proved : inner.type ∈ [.warrantApproved, .executionStarted, .verified]
  · rcases kept with rfl | unlisted
    · cases inner with
      | warrantApproved approvalId digest approver =>
          obtain ⟨rfl, rfl⟩ := transitionTable_inv.1 listed
          exact .approves approvalId digest approver
      | executionStarted claimId warrantId =>
          obtain ⟨rfl, rfl⟩ := transitionTable_inv.2.1 listed
          exact .starts claimId warrantId
      | verified receiptId warrantId =>
          obtain ⟨rfl, rfl⟩ := transitionTable_inv.2.2 listed
          exact .verifies receiptId warrantId
      | untyped type =>
          have authority : type ∈ authorityTypes := by
            simp only [Event.type, List.mem_cons, List.not_mem_nil, or_false] at proved
            rcases proved with rfl | rfl | rfl <;> decide
          exact absurd accepted (untyped_refused authority)
      | _ => exact absurd proved (by simp [Event.type])
    · refine absurd ?_ unlisted
      simp only [List.mem_cons, List.not_mem_nil, or_false] at proved
      rcases proved with same | same | same <;> rw [same] <;> decide
  · obtain ⟨plainly, live, moves⟩ := transitionTable_other listed proved
    simp only [List.mem_cons, List.not_mem_nil, or_false, not_or] at proved
    exact .other (isClear_of named isVerdict) (hasType_of named proved.1)
      (hasType_of named proved.2.1) plainly live moves

/-! ## Histories -/

/-- What the state says about the events that led to it. -/
structure Ledger (state : IncidentState) (events : List AnyEvent) : Prop where
  started : events.countP (hasType .executionStarted) ≤
    events.countP (hasType .warrantApproved)
  approved : events.countP (hasType .warrantApproved) ≤ events.countP isClear
  pending : state = .approvalPending →
    events.countP (hasType .warrantApproved) < events.countP isClear
  startable : state = .approved →
    events.countP (hasType .executionStarted) < events.countP (hasType .warrantApproved)

/-- The latest events of an incident that went through the gate. -/
inductive Recent : IncidentState → List AnyEvent → Prop where
  | away {state : IncidentState} {events : List AnyEvent}
      (plainly : state ∉ [.approvalPending, .approved, .executing, .verified]) :
      Recent state events
  | cleared (before : List AnyEvent) (target : Option Seat) :
      Recent .approvalPending (before ++ [.typed (.verdict .clear target)])
  | approved (before : List AnyEvent) (target : Option Seat)
      (approvalId warrantSha256 approverIdentity : String) :
      Recent .approved (before ++ [.typed (.verdict .clear target),
        .typed (.warrantApproved approvalId warrantSha256 approverIdentity)])
  | started (before : List AnyEvent) (target : Option Seat)
      (approvalId warrantSha256 approverIdentity claimId warrantId : String) :
      Recent .executing (before ++ [.typed (.verdict .clear target),
        .typed (.warrantApproved approvalId warrantSha256 approverIdentity),
        .typed (.executionStarted claimId warrantId)])
  | verified (before : List AnyEvent) (target : Option Seat)
      (approvalId warrantSha256 approverIdentity claimId warrantId receiptId testedId : String) :
      Recent .verified (before ++ [.typed (.verdict .clear target),
        .typed (.warrantApproved approvalId warrantSha256 approverIdentity),
        .typed (.executionStarted claimId warrantId), .typed (.verified receiptId testedId)])

theorem Ledger.step {state next : IncidentState} {past : List AnyEvent} {event : AnyEvent}
    (ledger : Ledger state past) (transits : Transits state event next) :
    Ledger next (past ++ [event]) := by
  obtain ⟨started, approved, pending, startable⟩ := ledger
  cases transits with
  | clears target =>
      refine ⟨?_, ?_, ?_, ?_⟩ <;> simp [isClear, hasType, AnyEvent.type, Event.type,
        StateEventType.value] <;> omega
  | approves approvalId digest approver =>
      have room := pending rfl
      refine ⟨?_, ?_, ?_, ?_⟩ <;> simp [isClear, hasType, AnyEvent.type, Event.type,
        StateEventType.value] <;> omega
  | starts claimId warrantId =>
      have room := startable rfl
      refine ⟨?_, ?_, ?_, ?_⟩ <;> simp [isClear, hasType, AnyEvent.type, Event.type,
        StateEventType.value] <;> omega
  | verifies receiptId warrantId =>
      refine ⟨?_, ?_, ?_, ?_⟩ <;> simp [isClear, hasType, AnyEvent.type, Event.type,
        StateEventType.value] <;> omega
  | other unclear unapproved unstarted plainly _ _ =>
      refine ⟨?_, ?_, ?_, ?_⟩
      · simpa [unapproved, unstarted] using started
      · simpa [unclear, unapproved] using approved
      · rintro rfl
        exact absurd (by decide) plainly
      · rintro rfl
        exact absurd (by decide) plainly

theorem Recent.step {state next : IncidentState} {past : List AnyEvent} {event : AnyEvent}
    (recent : Recent state past) (transits : Transits state event next) :
    Recent next (past ++ [event]) := by
  cases transits with
  | clears target => exact .cleared past target
  | approves approvalId digest approver =>
      cases recent with
      | away plainly => exact absurd (by decide) plainly
      | cleared before target =>
          rw [List.append_assoc]
          exact .approved before target approvalId digest approver
  | starts claimId warrantId =>
      cases recent with
      | away plainly => exact absurd (by decide) plainly
      | approved before target approvalId digest approver =>
          rw [List.append_assoc]
          exact .started before target approvalId digest approver claimId warrantId
  | verifies receiptId testedId =>
      cases recent with
      | away plainly => exact absurd (by decide) plainly
      | started before target approvalId digest approver claimId warrantId =>
          rw [List.append_assoc]
          exact .verified before target approvalId digest approver claimId warrantId receiptId
            testedId
  | other _ _ _ plainly _ _ => exact .away plainly

theorem replay_ledger {events : List AnyEvent} {state : IncidentState}
    (accepted : replay .opened events = .ok state) : Ledger state events := by
  have initial : Ledger .opened [] := ⟨by simp, by simp, by simp, by simp⟩
  simpa using foldlM_invariant Ledger
    (fun _ _ _ _ ledger moved => ledger.step (transition_transits moved)) initial accepted

theorem replay_recent {events : List AnyEvent} {state : IncidentState}
    (accepted : replay .opened events = .ok state) : Recent state events := by
  have initial : Recent .opened [] := .away (by decide)
  simpa using foldlM_invariant Recent
    (fun _ _ _ _ recent moved => recent.step (transition_transits moved)) initial accepted

/-! ## The law of accepted traces -/

/-- The events just before an outcome that verified the incident. -/
def Cleared (events : List AnyEvent) : Prop :=
  ∃ before target approvalId warrantSha256 approverIdentity claimId warrantId,
    events = before ++ [.typed (.verdict .clear target),
      .typed (.warrantApproved approvalId warrantSha256 approverIdentity),
      .typed (.executionStarted claimId warrantId)]

theorem replay_verified {events : List AnyEvent} {event : AnyEvent}
    (accepted : replay .opened (events ++ [event]) = .ok .verified) :
    Cleared events ∧ ∃ receiptId warrantId, event = .typed (.verified receiptId warrantId) := by
  generalize whole : events ++ [event] = trace at accepted
  have recent := replay_recent accepted
  cases recent with
  | away plainly => exact absurd (by decide) plainly
  | verified before target approvalId digest approver claimId warrantId receiptId testedId =>
      have split : before ++ [.typed (.verdict .clear target),
          .typed (.warrantApproved approvalId digest approver),
          .typed (.executionStarted claimId warrantId), .typed (.verified receiptId testedId)] =
          (before ++ [.typed (.verdict .clear target),
            .typed (.warrantApproved approvalId digest approver),
            .typed (.executionStarted claimId warrantId)]) ++
            [.typed (.verified receiptId testedId)] := by
        rw [List.append_assoc]
        rfl
      rw [split] at whole
      obtain ⟨rfl, last⟩ := List.append_inj' whole rfl
      cases last
      exact ⟨⟨before, target, approvalId, digest, approver, claimId, warrantId, rfl⟩,
        receiptId, testedId, rfl⟩

/-- In every trace that is accepted from `OPEN`: the outcome `VERIFIED` directly
follows a CLEAR verdict, its approval and the start of its execution; every prefix
starts no more executions than it approves warrants and approves no more warrants
than it clears; every accepted event moves the state and nothing leaves a final
state; and an event of an authority type moves the state only if it was built as
its typed event, from a payload that validates. -/
theorem trace_law :
    (∀ events event, replay .opened (events ++ [event]) = .ok .verified →
      Cleared events ∧ ∃ receiptId warrantId, event = .typed (.verified receiptId warrantId)) ∧
    (∀ events state, replay .opened events = .ok state → ∀ early, early <+: events →
      early.countP (hasType .executionStarted) ≤ early.countP (hasType .warrantApproved) ∧
        early.countP (hasType .warrantApproved) ≤ early.countP isClear) ∧
    (∀ state event next, transition state event = .ok next →
      next ≠ state ∧ state ∉ [.verified, .blocked, .humanEscalation]) ∧
    (∀ type ∈ authorityTypes, ∀ state next,
      transition state (.plain type.value) ≠ .ok next ∧
        ∀ payload, (∀ event, typedEventFromPayload type payload ≠ .ok event) →
          (typedEventFromPayload type payload >>= transitionIncident state) ≠ .ok next) := by
  refine ⟨fun _ _ => replay_verified, ?_, ?_, ?_⟩
  · rintro events state accepted early ⟨late, rfl⟩
    obtain ⟨middle, reached, _⟩ := foldlM_append_eq_ok.mp accepted
    have ledger := replay_ledger reached
    exact ⟨ledger.started, ledger.approved⟩
  · intro state event next moved
    cases transition_transits moved with
    | other _ _ _ _ live moves => exact ⟨moves, live⟩
    | _ => decide
  · intro type authority state next
    constructor
    · rw [transition, parse_value]
      exact untyped_refused authority
    · intro payload invalid moved
      obtain ⟨event, typed, _⟩ := bind_eq_ok.mp moved
      exact invalid event typed

/-- A review that clears at once, with an approved execution that has started. -/
def straightTrace : List AnyEvent :=
  [.plain "REPRODUCTION_STARTED", .plain "EVIDENCE_CAPTURED", .plain "ANALYSIS_STARTED",
   .plain "PATCH_REQUESTED", .plain "PATCH_PROPOSED", .typed (.verdict .clear none),
   .typed (.warrantApproved "apr_1" "digest" "operator"),
   .typed (.executionStarted "claim_1" "war_1")]

theorem straightTrace_verifies :
    replay .opened (straightTrace ++ [.typed (.verified "test_1" "war_1")]) = .ok .verified ∧
      Cleared straightTrace ∧
      straightTrace.countP (hasType .warrantApproved) ≤ straightTrace.countP isClear ∧
      transition .approved (.plain "EXECUTION_STARTED") ≠ .ok .executing := by
  have accepted :
      replay .opened (straightTrace ++ [.typed (.verified "test_1" "war_1")]) = .ok .verified := by
    decide
  have law := trace_law
  exact ⟨accepted, (law.1 _ _ accepted).1,
    (law.2.1 _ _ accepted _ (List.prefix_append _ _)).2,
    (law.2.2.2 .executionStarted (by decide) .approved .executing).1⟩

end CrossPatch.Domain.Trace
