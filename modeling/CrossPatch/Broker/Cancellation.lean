import CrossPatch.Broker.Admission
import CrossPatch.Broker.SingleUse

/-!
# Cancellation after the claim

A call that is cancelled while it creates, uses or leaves its workspace finishes
its warrant under a shield before the cancellation leaves it.  Two awaits have no
such protection: the end of the claim itself, once it has committed, and the
ordinary finish.  Outside these two, no cancellation leaves a claimed warrant
unfinished.
-/

namespace CrossPatch.Broker.Cancellation

open CrossPatch.Broker.Claim CrossPatch.Broker.Execution CrossPatch.Broker.Lifecycle
open CrossPatch.Broker.SingleUse CrossPatch.Broker.Store
open CrossPatch.Domain.Failure CrossPatch.Domain.Text
open CrossPatch.Library.Calendar CrossPatch.Library.Runs
open CrossPatch.Runner.Results

/-- The warrant is consumed and its result is stored. -/
def Durable {store : WarrantStore} (db : store.Store) (warrantId : String) : Prop :=
  store.state db warrantId = some .consumed ∧ (store.result db warrantId).isSome = true

/-- A cancellation that leaves a call whose claim committed leaves a finished
warrant behind. -/
def FinalizesOnCancel (environment : Environment) (config : BrokerConfig)
    (store : WarrantStore) (db : store.Store) (actions : List (Action store)) : Prop :=
  ∀ id call raised,
    ((machine environment config).run (System.idle db) actions).calls id = some call →
    call.phase = .raised raised → raised.isA .cancelledError = true →
    Event.claimed (.call id) call.warrantId ∈
      (machine environment config).log (System.idle db) actions →
    Durable ((machine environment config).run (System.idle db) actions).db call.warrantId

/-- No cancellation is delivered to the claim once it has committed, nor to the
unshielded finish before its write. -/
def Shielded {store : WarrantStore} : Action store → Prop
  | .claimStep _ .cancelledAfter _ => False
  | .finishStep _ .cancelledBefore _ => False
  | _ => True

/-! ## Durable results stay -/

section Steps

variable {environment : Environment} {config : BrokerConfig} {store : WarrantStore}

theorem moves_of_consumed {after : Option WarrantState}
    (move : Moves (some .consumed) after) : after = some .consumed := by
  cases move
  rfl

theorem finish_result_isSome (refines : store.Refines) {db : store.Store} {warrantId : String}
    (stored : (store.result db warrantId).isSome = true) (finished : String)
    (result : BrokerResult) (closing : store.Closing) :
    (store.result (store.finish db finished result closing).2 warrantId).isSome = true := by
  rw [(refines.finish db finished result closing).2]
  split
  · by_cases same : warrantId = finished
    · subst same
      rw [Function.update_self]
      rfl
    · rwa [Function.update_of_ne same]
  · exact stored

theorem claim_result_isSome (refines : store.Refines) {db : store.Store} {warrantId : String}
    (stored : (store.result db warrantId).isSome = true) (claimed : String)
    (validator : ClaimValidator) (context : store.Context) :
    (store.result (store.claimWarrant db claimed validator context).2 warrantId).isSome =
      true := by
  rwa [(refines.claim db claimed validator context).1]

theorem step_result_isSome (refines : store.Refines) {system : System store}
    {warrantId : String} (stored : (store.result system.db warrantId).isSome = true)
    (action : Action store) :
    (store.result ((machine environment config).next system action).db warrantId).isSome =
      true := by
  unfold Machine.next machine
  dsimp only
  cases action with
  | addApproved input =>
      obtain ⟨_, _, results⟩ := refines.addition system.db input
      change (store.result (store.addApproved system.db input).2 warrantId).isSome = true
      rwa [results]
  | claimWarrant claimed validator context =>
      exact claim_result_isSome refines stored claimed validator context
  | finish finished result closing =>
      exact finish_result_isSome refines stored finished result closing
  | executeWarrant id executed =>
      rw [step]
      split <;> exact stored
  | claimStep id await context =>
      rw [step]
      split
      · cases await with
        | cancelledBefore => exact stored
        | fails message => exact stored
        | completes => exact claim_result_isSome refines stored _ _ context
        | cancelledAfter => exact claim_result_isSome refines stored _ _ context
      · exact stored
  | enterStep id created entered =>
      rw [step]
      split <;> exact stored
  | runStep id outcome =>
      rw [step]
      split <;> exact stored
  | exitStep id outcome =>
      rw [step]
      split <;> exact stored
  | finishStep id await closing =>
      rw [step]
      split
      · cases await with
        | cancelledBefore => exact stored
        | fails message => exact stored
        | completes => exact finish_result_isSome refines stored _ _ closing
        | cancelledAfter => exact finish_result_isSome refines stored _ _ closing
      · exact stored
  | shieldedFinishStep id failure closing =>
      rw [step]
      split
      · cases failure with
        | some message => exact stored
        | none => exact finish_result_isSome refines stored _ _ closing
      · exact stored

theorem Durable.step (refines : store.Refines) {system : System store} {warrantId : String}
    (durable : Durable system.db warrantId) (action : Action store) :
    Durable ((machine environment config).next system action).db warrantId := by
  obtain ⟨label, moved, _⟩ := step_ledger environment config refines system action
  have move := moved.moves warrantId
  rw [durable.1] at move
  exact ⟨moves_of_consumed move, step_result_isSome refines durable.2 action⟩

/-- A finish that takes effect makes its warrant durable. -/
theorem durable_of_finish (refines : store.Refines) {db : store.Store} {warrantId : String}
    {result : BrokerResult} {closing : store.Closing} {done : Unit}
    (finished : (store.finish db warrantId result closing).1 = .ok done) :
    Durable (store.finish db warrantId result closing).2 warrantId := by
  obtain ⟨moved, results⟩ := refines.finish db warrantId result closing
  rw [finished] at moved results
  refine ⟨moved.of_finished.2, ?_⟩
  rw [results]
  dsimp only
  rw [Function.update_self]
  rfl

end Steps

/-! ## Cancelled calls -/

/-- A call that has not claimed yet has no claim in the log, a call claims only its
own warrant, and a cancelled call that claimed has left a durable result. -/
structure Finalized {store : WarrantStore} (system : System store) (log : List Event) : Prop where
  unclaimed : ∀ id warrantId,
    (∀ call, system.calls id = some call → call.phase = .claiming) →
    Event.claimed (.call id) warrantId ∉ log
  cancelled : ∀ id call raised, system.calls id = some call → call.phase = .raised raised →
    raised.isA .cancelledError = true →
    Event.claimed (.call id) call.warrantId ∈ log → Durable system.db call.warrantId

section Calls

variable {environment : Environment} {config : BrokerConfig} {store : WarrantStore}
  {system : System store} {log : List Event}

/-- The new phase of a call does not end it by a cancellation. -/
def Continues (phase : Phase) : Prop :=
  ∀ raised, phase = .raised raised → raised.isA .cancelledError = false

theorem Finalized.unchanged (finalized : Finalized system log) {next : System store}
    {events : List Event}
    (durable : ∀ warrantId, Durable system.db warrantId → Durable next.db warrantId)
    (calls : next.calls = system.calls)
    (foreign : ∀ id warrantId, Event.claimed (.call id) warrantId ∉ events) :
    Finalized next (log ++ events) where
  unclaimed id warrantId waiting member := by
    rcases List.mem_append.mp member with earlier | recent
    · exact finalized.unclaimed id warrantId (calls ▸ waiting) earlier
    · exact foreign id warrantId recent
  cancelled id call raised found phase cancels member := by
    rcases List.mem_append.mp member with earlier | recent
    · exact durable _ (finalized.cancelled id call raised (calls ▸ found) phase cancels earlier)
    · exact absurd recent (foreign id call.warrantId)

/-- A step of one call: only the claiming step logs a claim of that call, and a
cancellation that ends the call finds its warrant durable or never claimed. -/
theorem Finalized.advance (finalized : Finalized system log) {db : store.Store} {id : CallId}
    {call : Call} {phase : Phase} {events : List Event}
    (durable : ∀ warrantId, Durable system.db warrantId → Durable db warrantId)
    (leaves : phase ≠ .claiming)
    (mine : ∀ other warrantId, Event.claimed (.call other) warrantId ∈ events → other = id)
    (ends : Continues phase ∨ Durable db call.warrantId ∨
      Event.claimed (.call id) call.warrantId ∉ log ++ events) :
    Finalized (System.setPhase { system with db := db } id call phase) (log ++ events) where
  unclaimed other warrantId waiting member := by
    by_cases same : other = id
    · subst same
      exact leaves (waiting { call with phase := phase }
        (by simp only [System.setPhase, Function.update_self]))
    · rcases List.mem_append.mp member with earlier | recent
      · refine finalized.unclaimed other warrantId (fun current found => waiting current ?_) earlier
        simpa only [System.setPhase, Function.update_of_ne same] using found
      · exact same (mine other warrantId recent)
  cancelled other current raised found ended cancels member := by
    by_cases same : other = id
    · subst same
      simp only [System.setPhase, Function.update_self, Option.some.injEq] at found
      subst found
      rcases ends with continues | stored | never
      · rw [continues raised ended] at cancels
        cases cancels
      · exact stored
      · exact absurd member never
    · simp only [System.setPhase, Function.update_of_ne same] at found
      rcases List.mem_append.mp member with earlier | recent
      · exact durable _ (finalized.cancelled other current raised found ended cancels earlier)
      · exact absurd (mine other _ recent) same

/-- Phases inside the workspace lead to no exception of the call. -/
def inside : Phase → Bool
  | .running _ _ _ _ => true
  | .leaving _ _ _ => true
  | .finishing _ => true
  | .cancelling _ _ => true
  | _ => false

theorem inside_ends {phase : Phase} (stays : inside phase = true) :
    phase ≠ .claiming ∧ Continues phase := by
  constructor
  · rintro rfl
    cases stays
  · rintro raised rfl
    cases stays

/-- A step inside the workspace: it logs no claim and does not end the call. -/
theorem Finalized.stay (finalized : Finalized system log) {id : CallId} {call : Call}
    {phase : Phase} {event : List Event} (stays : inside phase = true)
    (silent : ∀ other warrantId, Event.claimed (.call other) warrantId ∉ event) :
    Finalized (system.setPhase id call phase) (log ++ event) :=
  finalized.advance (fun _ stored => stored) (inside_ends stays).1
    (fun other warrantId member => absurd member (silent other warrantId))
    (Or.inl (inside_ends stays).2)

theorem Finalized.start (finalized : Finalized system log) {id : CallId} {warrantId : String}
    (absent : system.calls id = none) :
    Finalized (system.setPhase id ⟨warrantId, .claiming⟩ .claiming) (log ++ []) where
  unclaimed other claimed waiting := by
    rw [List.append_nil]
    refine finalized.unclaimed other claimed fun current found => ?_
    by_cases same : other = id
    · subst same
      rw [absent] at found
      cases found
    · refine waiting current ?_
      simpa only [System.setPhase, Function.update_of_ne same] using found
  cancelled other current raised found ended cancels member := by
    rw [List.append_nil] at member
    by_cases same : other = id
    · subst same
      simp only [System.setPhase, Function.update_self, Option.some.injEq] at found
      subst found
      cases ended
    · simp only [System.setPhase, Function.update_of_ne same] at found
      exact finalized.cancelled other current raised found ended cancels member

theorem finalized_idle (db : store.Store) : Finalized (System.idle db) [] where
  unclaimed _ _ _ member := by cases member
  cancelled _ _ _ found := by cases found

/-! ### The phases between the awaits -/

theorem mem_claimedEvents {claimant other : Claimant} {warrantId claimed : String}
    {answer : Attempt ClaimOutcome}
    (member : Event.claimed other claimed ∈ claimedEvents claimant warrantId answer) :
    other = claimant ∧ ∃ warrant, answer = .ok (.claimed warrant) := by
  unfold claimedEvents at member
  split at member
  · rename_i warrant
    simp only [List.mem_singleton, Event.claimed.injEq] at member
    exact ⟨member.1, warrant, rfl⟩
  · cases member

theorem not_mem_finishedEvents {claimant : Claimant} {claimed warrantId : String}
    {result : BrokerResult} {answer : Attempt Unit} :
    Event.claimed claimant claimed ∉ finishedEvents warrantId result answer := by
  intro member
  cases answer <;> simp [finishedEvents] at member

theorem handle_inside (warrantId : String) (claimed : ClaimedWarrant)
    (receipts : List ProcessReceipt) (raised : Raised) :
    inside (handle warrantId claimed receipts raised) = true := by
  unfold handle
  split <;> rfl

theorem nextPlan_inside (config : BrokerConfig) (warrantId : String) (claimed : ClaimedWarrant)
    (receipts : List ProcessReceipt) (plans : List Warrant.BoundExecutionPlan) :
    inside (nextPlan config warrantId claimed receipts plans) = true := by
  cases plans with
  | nil => rfl
  | cons bound remaining =>
      rw [nextPlan]
      split <;> rfl

theorem afterEnter_inside (config : BrokerConfig) (call : Call) (claimed : ClaimedWarrant)
    (created entered : Attempt Unit) :
    inside (afterEnter config call claimed created entered) = true := by
  unfold afterEnter
  split
  · exact handle_inside _ _ _ _
  · exact handle_inside _ _ _ _
  · exact nextPlan_inside _ _ _ _ _

theorem afterRun_inside (config : BrokerConfig) (call : Call) (claimed : ClaimedWarrant)
    (remaining : List Warrant.BoundExecutionPlan) (receipts : List ProcessReceipt)
    (outcome : Attempt ProcessReceipt) :
    inside (afterRun config call claimed remaining receipts outcome) = true := by
  unfold afterRun
  split
  · rfl
  · split
    · exact nextPlan_inside _ _ _ _ _
    · rfl

theorem afterExit_inside (call : Call) (claimed : ClaimedWarrant)
    (receipts : List ProcessReceipt) (pending : Attempt BrokerResult) (outcome : Attempt Unit) :
    inside (afterExit call claimed receipts pending outcome) = true := by
  unfold afterExit
  split
  · exact handle_inside _ _ _ _
  · split
    · rfl
    · exact handle_inside _ _ _ _

theorem afterClaim_leaves (warrantId : String) (answer : Attempt ClaimOutcome) :
    afterClaim warrantId answer ≠ .claiming := by
  unfold afterClaim
  split <;> exact fun same => nomatch same

theorem afterFinish_leaves {onSuccess : Phase} (leaves : onSuccess ≠ .claiming)
    (answer : Attempt Unit) : afterFinish onSuccess answer ≠ .claiming := by
  cases answer with
  | ok done => exact leaves
  | error raised => exact fun same => nomatch same

/-- A finish ends its call by a cancellation only after it took effect. -/
theorem finish_ends (refines : store.Refines) (db : store.Store) (warrantId : String)
    (result : BrokerResult) (closing : store.Closing) (onSuccess : Phase) :
    Continues (afterFinish onSuccess (store.finish db warrantId result closing).1) ∨
      Durable (store.finish db warrantId result closing).2 warrantId := by
  cases answer : (store.finish db warrantId result closing).1 with
  | ok done => exact Or.inr (durable_of_finish refines answer)
  | error failed =>
      left
      intro raised same
      cases same
      exact refines.finishError db warrantId result closing failed answer

/-- A step that finishes the warrant of a call. -/
theorem Finalized.finishing (finalized : Finalized system log) (refines : store.Refines)
    {id : CallId} {call : Call} {result : BrokerResult} {closing : store.Closing}
    {onSuccess : Phase}
    (durable : ∀ warrantId, Durable system.db warrantId →
      Durable (store.finish system.db call.warrantId result closing).2 warrantId)
    (leaves : onSuccess ≠ .claiming) :
    Finalized
      (System.setPhase
        { system with db := (store.finish system.db call.warrantId result closing).2 } id call
        (afterFinish onSuccess (store.finish system.db call.warrantId result closing).1))
      (log ++ finishedEvents call.warrantId result
        (store.finish system.db call.warrantId result closing).1) := by
  refine finalized.advance durable (afterFinish_leaves leaves _) ?_
    ((finish_ends refines system.db _ _ closing _).imp_right Or.inl)
  exact fun _ _ member => absurd member not_mem_finishedEvents

/-- The claiming step ends its call by a cancellation only without a claim. -/
theorem claim_ends {id : CallId} {warrantId : String} {answer : Attempt ClaimOutcome}
    (unclaimed : Event.claimed (.call id) warrantId ∉ log) :
    Continues (afterClaim warrantId answer) ∨
      Event.claimed (.call id) warrantId ∉
        log ++ claimedEvents (.call id) warrantId answer := by
  cases answer with
  | error raised =>
      right
      simpa [claimedEvents] using unclaimed
  | ok outcome =>
      left
      intro raised same
      cases outcome <;> cases same

/-- Every shielded step keeps cancelled calls finalized. -/
theorem finalized_step (refines : store.Refines) (finalized : Finalized system log)
    {action : Action store} (shielded : Shielded action) :
    Finalized ((machine environment config).next system action)
      (log ++ (machine environment config).events system action) := by
  have durable (warrantId : String) (stored : Durable system.db warrantId) :
      Durable ((machine environment config).next system action).db warrantId :=
    stored.step refines action
  have none : ∀ id warrantId, Event.claimed (.call id) warrantId ∉ ([] : List Event) :=
    fun _ _ => List.not_mem_nil
  have idle : Finalized system (log ++ []) :=
    finalized.unchanged (fun _ stored => stored) rfl none
  have waiting {id : CallId} {warrantId : String}
      (found : system.calls id = some ⟨warrantId, .claiming⟩) :
      Event.claimed (.call id) warrantId ∉ log := by
    refine finalized.unclaimed id warrantId fun call again => ?_
    rw [found] at again
    cases again
    rfl
  unfold Machine.next Machine.events machine
  unfold Machine.next machine at durable
  dsimp only at durable ⊢
  cases action with
  | addApproved input => exact finalized.unchanged durable rfl none
  | claimWarrant warrantId validator context =>
      refine finalized.unchanged durable rfl fun id claimed member => ?_
      cases (mem_claimedEvents member).1
  | finish warrantId result closing =>
      exact finalized.unchanged durable rfl fun _ _ => not_mem_finishedEvents
  | executeWarrant id warrantId =>
      rw [step] at durable ⊢
      split
      · rename_i absent
        exact finalized.start absent
      · exact idle
  | claimStep id await context =>
      rw [step] at durable ⊢
      split at durable
      · rename_i found
        have unclaimed := waiting found
        cases await with
        | cancelledBefore =>
            refine finalized.advance durable (by simp) ?_ (Or.inr (Or.inr ?_))
            · exact fun _ _ member => absurd member List.not_mem_nil
            · simpa [System.claimStep] using unclaimed
        | fails message =>
            refine finalized.advance durable (by simp) ?_ (Or.inr (Or.inr ?_))
            · exact fun _ _ member => absurd member List.not_mem_nil
            · simpa [System.claimStep] using unclaimed
        | completes =>
            refine finalized.advance durable (afterClaim_leaves _ _) ?_
              ((claim_ends unclaimed).imp_right Or.inr)
            intro other claimed member
            simpa using (mem_claimedEvents member).1
        | cancelledAfter => cases shielded
      · exact idle
  | enterStep id created entered =>
      rw [step]
      split
      · exact finalized.stay (afterEnter_inside _ _ _ _ _) (by simp)
      · exact idle
  | runStep id outcome =>
      rw [step]
      split
      · exact finalized.stay (afterRun_inside _ _ _ _ _ _) (by simp)
      · exact idle
  | exitStep id outcome =>
      rw [step]
      split
      · exact finalized.stay (afterExit_inside _ _ _ _ _) (by simp)
      · exact idle
  | finishStep id await closing =>
      rw [step] at durable ⊢
      split at durable
      · cases await with
        | cancelledBefore => cases shielded
        | fails message =>
            refine finalized.advance durable (by simp) ?_ (Or.inl ?_)
            · exact fun _ _ member => absurd member List.not_mem_nil
            · rintro raised same
              cases same
              rfl
        | completes =>
            exact finalized.finishing refines durable (by simp)
        | cancelledAfter =>
            exact finalized.finishing refines durable (by simp)
      · exact idle
  | shieldedFinishStep id failure closing =>
      rw [step] at durable ⊢
      split at durable
      · cases failure with
        | some message =>
            refine finalized.advance durable (by simp) ?_ (Or.inl ?_)
            · exact fun _ _ member => absurd member List.not_mem_nil
            · rintro raised same
              cases same
              rfl
        | none =>
            exact finalized.finishing refines durable (by simp)
      · exact idle

end Calls

/-! ## Whole runs -/

theorem finalizes_of_refines {store : WarrantStore} (refines : store.Refines)
    (environment : Environment) (config : BrokerConfig) (db : store.Store)
    {actions : List (Action store)} (shielded : ∀ action ∈ actions, Shielded action) :
    FinalizesOnCancel environment config store db actions := by
  have finalized : Finalized ((machine environment config).run (System.idle db) actions)
      ([] ++ (machine environment config).log (System.idle db) actions) :=
    (machine environment config).run_log_invariant_of Shielded Finalized
      (fun _ _ _ allowed current => finalized_step refines current allowed)
      (finalized_idle db) shielded
  exact finalized.cancelled

/-- Over both stores, a run that delivers no cancellation to a committed claim or to
the unshielded finish finalizes every warrant whose call was cancelled. -/
theorem cancellation_finalizes (environment : Environment) (config : BrokerConfig)
    (tables : UnicodeTables) (codec : Codec) :
    (∀ db (actions : List (Action InMemory.store)), (∀ action ∈ actions, Shielded action) →
      FinalizesOnCancel environment config InMemory.store db actions) ∧
    ∀ db (actions : List (Action (Postgres.store tables codec))),
      (∀ action ∈ actions, Shielded action) →
      FinalizesOnCancel environment config (Postgres.store tables codec) db actions :=
  ⟨fun db _ shielded => finalizes_of_refines InMemory.refines environment config db shielded,
   fun db _ shielded =>
     finalizes_of_refines (Postgres.refines tables codec) environment config db shielded⟩

/-! ## Two cancelled executions -/

section Cancelled

variable {store : WarrantStore}

/-- The claim commits and the workspace opens; then the candidate run is cancelled,
the workspace closes and the warrant is finished under the shield. -/
def shieldedRun (warrantId : String) (context : store.Context) (closing : store.Closing) :
    List (Action store) :=
  [.executeWarrant 0 warrantId, .claimStep 0 .completes context, .enterStep 0 (.ok ()) (.ok ()),
   .runStep 0 (.error cancellation), .exitStep 0 (.ok ()), .shieldedFinishStep 0 none closing]

/-- The only plan passes, and the cancellation reaches the call while it waits to
store that result. -/
def strandedRun (warrantId : String) (context : store.Context) (closing : store.Closing)
    (receipt : ProcessReceipt) : List (Action store) :=
  [.executeWarrant 0 warrantId, .claimStep 0 .completes context, .enterStep 0 (.ok ()) (.ok ()),
   .runStep 0 (.ok receipt), .exitStep 0 (.ok ()), .finishStep 0 .cancelledBefore closing]

variable {environment : Environment} {config : BrokerConfig} {db next : store.Store}
  {warrantId : String} {context : store.Context} {claimed : ClaimedWarrant}
  {bound : Warrant.BoundExecutionPlan} {plan : Runner.Catalog.ExecutionPlan}

theorem strandedRun_ends (closing : store.Closing) {receipt : ProcessReceipt}
    (claims : store.claimWarrant db warrantId (validateClaim environment config) context =
      (.ok (.claimed claimed), next))
    (plans : claimed.document.executionPlans = [bound])
    (resolved : config.catalog.resolve bound.planId = .ok plan) (passed : receipt.passed = true) :
    ((machine environment config).run (System.idle db)
        (strandedRun warrantId context closing receipt)).calls 0 =
          some ⟨warrantId, .raised cancellation⟩ ∧
      ((machine environment config).run (System.idle db)
        (strandedRun warrantId context closing receipt)).db = next ∧
      Event.claimed (.call 0) warrantId ∈ (machine environment config).log (System.idle db)
        (strandedRun warrantId context closing receipt) := by
  simp [strandedRun, Machine.next, Machine.events, machine, step, System.idle, System.setPhase,
    System.claimStep, System.finishStep, claims, afterClaim, claimedEvents, afterEnter, afterRun,
    afterExit, nextPlan, plans, resolved, passed]

theorem shieldedRun_ends (closing : store.Closing)
    (claims : store.claimWarrant db warrantId (validateClaim environment config) context =
      (.ok (.claimed claimed), next))
    (plans : claimed.document.executionPlans = [bound])
    (resolved : config.catalog.resolve bound.planId = .ok plan)
    (finishes : ∃ final, store.finish next warrantId
      (infraResult warrantId claimed [] "BROKER_CANCELLED_AFTER_CLAIM") closing =
        (.ok (), final)) :
    ((machine environment config).run (System.idle db)
        (shieldedRun warrantId context closing)).calls 0 =
          some ⟨warrantId, .raised cancellation⟩ ∧
      Event.claimed (.call 0) warrantId ∈ (machine environment config).log (System.idle db)
        (shieldedRun warrantId context closing) := by
  obtain ⟨final, finished⟩ := finishes
  have interrupts : Raised.interrupts cancellation = true := rfl
  simp [shieldedRun, Machine.next, Machine.events, machine, step, System.idle, System.setPhase,
    System.claimStep, System.shieldedFinishStep, claims, afterClaim, claimedEvents, afterEnter,
    afterRun, afterExit, afterFinish, handle, interrupts, nextPlan, plans, resolved, finished]

end Cancelled

/-- An in-memory store that holds one approved warrant. -/
def approvedStore (document : Warrant.WarrantDocument) (approval : Approval.WarrantApproval) :
    InMemoryWarrantStore :=
  InMemoryWarrantStore.empty.put document.warrantId ⟨document, approval, .approved, none⟩

def claimContext (now : Instant) (authority : AuthoritySnapshot) : InMemory.store.Context :=
  (some now, fun _ => .ok authority)

section Accepted

variable {environment : Environment} {config : BrokerConfig}
  {document : Warrant.WarrantDocument} {approval : Approval.WarrantApproval}
  {authority : AuthoritySnapshot} {now : Instant} {bound : Warrant.BoundExecutionPlan}
  {plan : Runner.Catalog.ExecutionPlan}

theorem approvedStore_claim
    (accepted : validateClaim environment config document approval now authority = .ok authority)
    (unexpired : now ≤ document.expiresAt) :
    InMemory.store.claimWarrant (approvedStore document approval) document.warrantId
        (validateClaim environment config) (claimContext now authority) =
      (.ok (.claimed ⟨document, approval, authority⟩),
        (approvedStore document approval).put document.warrantId
          ⟨document, approval, .consuming, none⟩) :=
  Admission.InMemory.claim_of_accepted (InMemory.records_put _ _ _) unexpired rfl accepted

theorem stranded_of_accepted {receipt : ProcessReceipt}
    (accepted : validateClaim environment config document approval now authority = .ok authority)
    (unexpired : now ≤ document.expiresAt) (plans : document.executionPlans = [bound])
    (resolved : config.catalog.resolve bound.planId = .ok plan) (passed : receipt.passed = true) :
    ¬ FinalizesOnCancel environment config InMemory.store (approvedStore document approval)
      (strandedRun document.warrantId (claimContext now authority) () receipt) := by
  intro finalizes
  obtain ⟨ended, stored, claimed⟩ :=
    strandedRun_ends () (approvedStore_claim accepted unexpired) plans resolved passed
  have durable := (finalizes 0 _ cancellation ended rfl rfl claimed).1
  have consuming := InMemory.state_of_record (InMemory.records_put
    (approvedStore document approval) document.warrantId ⟨document, approval, .consuming, none⟩)
  rw [stored] at durable
  cases durable.symm.trans consuming

theorem shielded_of_accepted
    (accepted : validateClaim environment config document approval now authority = .ok authority)
    (unexpired : now ≤ document.expiresAt) (plans : document.executionPlans = [bound])
    (resolved : config.catalog.resolve bound.planId = .ok plan) :
    ((machine environment config).run (System.idle (approvedStore document approval))
        (shieldedRun document.warrantId (claimContext now authority) () :
          List (Action InMemory.store))).calls 0 =
        some ⟨document.warrantId, .raised cancellation⟩ ∧
      Event.claimed (.call 0) document.warrantId ∈
        (machine environment config).log (System.idle (approvedStore document approval))
          (shieldedRun document.warrantId (claimContext now authority) () :
            List (Action InMemory.store)) := by
  have finishes (result : BrokerResult) := @InMemory.finish_of_consuming _ _ _ result
    (InMemory.records_put (approvedStore document approval) document.warrantId
      ⟨document, approval, .consuming, none⟩) rfl
  exact shieldedRun_ends () (approvedStore_claim accepted unexpired) plans resolved
    ⟨_, finishes _⟩

end Accepted

def sampleReceipt : ProcessReceipt where
  planId := samplePlan.planId
  planSha256 := samplePlan.planSha256
  argvSha256 := sampleDigest
  exitCode := some 0
  timedOut := false
  startedAt := sampleIssuedAt
  finishedAt := sampleIssuedAt
  stdoutSha256 := sampleDigest
  stderrSha256 := sampleDigest
  stdoutBytes := 0
  stderrBytes := 0
  stdoutTruncated := false
  stderrTruncated := false
  supervisorVerified := true
  verificationCode := "VERIFIED"
  verificationSha256 := sampleDigest
  trustedObservation := none
  trustedObservationSha256 := none
  runnerRequestSha256 := sampleDigest
  runnerServiceIdentitySha256 := sampleDigest
  workspaceProvenanceSha256 := sampleDigest
  jobProvenanceSha256 := sampleDigest
  candidateExecutorBootSha256 := sampleDigest
  candidateExecutorReplacementSha256 := sampleDigest

theorem sampleDocument_unexpired : sampleIssuedAt ≤ sampleDocument.expiresAt := by
  change (0 : Int) ≤ 900000000
  decide

theorem samplePlan_resolved :
    sampleConfig.catalog.resolve samplePlan.planId = .ok sampleExecutionPlan := by
  decide

/-- A cancelled candidate run: the cancellation leaves the call, and the warrant has
been finished before. -/
theorem cancellation_finalizes_sample :
    Durable ((machine sampleEnvironment sampleConfig).run
      (System.idle (approvedStore sampleDocument sampleApproval))
      (shieldedRun sampleDocument.warrantId (claimContext sampleIssuedAt sampleAuthority) () :
        List (Action InMemory.store))).db sampleDocument.warrantId := by
  obtain ⟨ended, claimed⟩ := shielded_of_accepted (sample_accepted (Int.le_refl _))
    sampleDocument_unexpired (rfl : sampleDocument.executionPlans = [samplePlan])
    samplePlan_resolved
  have codec : Codec :=
    ⟨fun _ => raise .valueError "", fun _ => raise .valueError "", fun _ => raise .valueError ""⟩
  have finalizes := (cancellation_finalizes sampleEnvironment sampleConfig .asciiOnly codec).1
    (approvedStore sampleDocument sampleApproval)
    (shieldedRun sampleDocument.warrantId (claimContext sampleIssuedAt sampleAuthority) ())
    (by simp [shieldedRun, Shielded])
  exact finalizes 0 ⟨sampleDocument.warrantId, .raised cancellation⟩ cancellation ended rfl rfl
    claimed

/-- A passed execution whose finish is cancelled: the cancellation leaves the call
and the warrant stays in `CONSUMING`. -/
theorem cancelled_finish_strands :
    ¬ FinalizesOnCancel sampleEnvironment sampleConfig InMemory.store
      (approvedStore sampleDocument sampleApproval)
      (strandedRun sampleDocument.warrantId (claimContext sampleIssuedAt sampleAuthority) ()
        sampleReceipt) :=
  stranded_of_accepted (sample_accepted (Int.le_refl _)) sampleDocument_unexpired
    (rfl : sampleDocument.executionPlans = [samplePlan]) samplePlan_resolved rfl

end CrossPatch.Broker.Cancellation
