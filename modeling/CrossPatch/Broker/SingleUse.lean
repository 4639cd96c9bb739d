import CrossPatch.Broker.Execution

/-!
# Single use of a warrant

Every step of the broker is one ledger step together with the events it causes,
and every call that holds a workspace has its own successful claim behind it.
From these two facts: a warrant is claimed at most once, finished at most once,
and its workspace is created at most once, by the call that claimed it.
-/

namespace CrossPatch.Broker.SingleUse

open CrossPatch.Broker.Claim CrossPatch.Broker.Execution CrossPatch.Broker.Lifecycle
open CrossPatch.Broker.Store
open CrossPatch.Domain.Failure CrossPatch.Domain.Text
open CrossPatch.Library.Runs

/-! ## Classes of events -/

def claims (warrantId : String) : Event → Bool
  | .claimed _ claimed => claimed == warrantId
  | _ => false

def finishes (warrantId : String) : Event → Bool
  | .finished finished _ => finished == warrantId
  | _ => false

def createsWorkspace (warrantId : String) : Event → Bool
  | .factoryInvoked _ invoked => invoked == warrantId
  | _ => false

def createdBy (call : CallId) : Event → Bool
  | .factoryInvoked id _ => id == call
  | _ => false

/-! ## One step is one ledger step -/

/-- The events that accompany a ledger step. -/
inductive Explains : Label → List Event → Prop where
  | claimed (claimant : Claimant) (warrantId : String) :
      Explains (.claimed warrantId) [.claimed claimant warrantId]
  | finished (warrantId : String) (result : BrokerResult) :
      Explains (.finished warrantId) [.finished warrantId result]
  | other (label : Label) (events : List Event)
      (noClaim : ∀ warrantId, events.countP (claims warrantId) = 0)
      (noFinish : ∀ warrantId, events.countP (finishes warrantId) = 0) :
      Explains label events

theorem Explains.silent (label : Label) : Explains label [] :=
  .other label [] (fun _ => rfl) (fun _ => rfl)

theorem Explains.claims_le {label : Label} {events : List Event}
    (explains : Explains label events) (warrantId : String) :
    events.countP (claims warrantId) ≤ 1 ∧
      (0 < events.countP (claims warrantId) → label = .claimed warrantId) := by
  cases explains with
  | claimed claimant claimed =>
      by_cases same : claimed = warrantId
      · simp [claims, same]
      · simp [claims, same]
  | finished finished result => simp [claims]
  | other _ _ noClaim _ => simp [noClaim warrantId]

theorem Explains.finishes_le {label : Label} {events : List Event}
    (explains : Explains label events) (warrantId : String) :
    events.countP (finishes warrantId) ≤ 1 ∧
      (0 < events.countP (finishes warrantId) → label = .finished warrantId) := by
  cases explains with
  | claimed claimant claimed => simp [finishes]
  | finished finished result =>
      by_cases same : finished = warrantId
      · simp [finishes, same]
      · simp [finishes, same]
  | other _ _ _ noFinish => simp [noFinish warrantId]

section Steps

variable (environment : Environment) (config : BrokerConfig) {store : WarrantStore}

theorem claim_ledger (refines : store.Refines) (db : store.Store) (claimant : Claimant)
    (warrantId : String) (validator : ClaimValidator) (context : store.Context) :
    ∃ label, LedgerStep (store.state db) label
        (store.state (store.claimWarrant db warrantId validator context).2) ∧
      Explains label
        (claimedEvents claimant warrantId
          (store.claimWarrant db warrantId validator context).1) := by
  have spec := (refines.claim db warrantId validator context).2
  cases answer : (store.claimWarrant db warrantId validator context).1 with
  | error raised =>
      rw [answer] at spec
      refine ⟨.quiet, ?_, .silent _⟩
      rw [show (store.claimWarrant db warrantId validator context).2 = db from spec]
      exact .quiet
  | ok outcome =>
      rw [answer] at spec
      cases outcome with
      | claimed claimed => exact ⟨.claimed warrantId, spec, .claimed claimant warrantId⟩
      | rejection status code =>
          obtain ⟨label, _, moved⟩ := spec
          exact ⟨label, moved, .silent _⟩

theorem finish_ledger (refines : store.Refines) (db : store.Store) (warrantId : String)
    (result : BrokerResult) (closing : store.Closing) :
    ∃ label, LedgerStep (store.state db) label
        (store.state (store.finish db warrantId result closing).2) ∧
      Explains label
        (finishedEvents warrantId result (store.finish db warrantId result closing).1) := by
  have moved := (refines.finish db warrantId result closing).1
  cases answer : (store.finish db warrantId result closing).1 with
  | error raised =>
      rw [answer] at moved
      exact ⟨_, moved, .silent _⟩
  | ok done =>
      rw [answer] at moved
      exact ⟨_, moved, .finished warrantId result⟩

/-- Every step of the broker is one ledger step, explained by its events. -/
theorem step_ledger (refines : store.Refines) (system : System store) (action : Action store) :
    ∃ label, LedgerStep (store.state system.db) label
        (store.state ((machine environment config).next system action).db) ∧
      Explains label ((machine environment config).events system action) := by
  have quiet : ∃ label, LedgerStep (store.state system.db) label
      (store.state system.db) ∧ Explains label ([] : List Event) :=
    ⟨.quiet, .quiet, .silent _⟩
  unfold Machine.next Machine.events machine
  dsimp only
  cases action with
  | addApproved input =>
      obtain ⟨warrantId, moved, _⟩ := refines.addition system.db input
      exact ⟨_, moved, .silent _⟩
  | claimWarrant warrantId validator context =>
      exact claim_ledger refines system.db .direct warrantId validator context
  | finish warrantId result closing =>
      exact finish_ledger refines system.db warrantId result closing
  | executeWarrant id warrantId =>
      rw [step]
      split <;> exact quiet
  | claimStep id await context =>
      rw [step]
      split
      · cases await with
        | cancelledBefore => exact quiet
        | fails message => exact quiet
        | completes =>
            exact claim_ledger refines system.db (.call id) _ (validateClaim environment config)
              context
        | cancelledAfter =>
            exact claim_ledger refines system.db (.call id) _ (validateClaim environment config)
              context
      · exact quiet
  | enterStep id created entered =>
      rw [step]
      split
      · exact ⟨.quiet, .quiet, .other _ _ (fun _ => rfl) (fun _ => rfl)⟩
      · exact quiet
  | runStep id outcome =>
      rw [step]
      split
      · exact ⟨.quiet, .quiet, .other _ _ (fun _ => rfl) (fun _ => rfl)⟩
      · exact quiet
  | exitStep id outcome =>
      rw [step]
      split <;> exact quiet
  | finishStep id await closing =>
      rw [step]
      split
      · cases await with
        | cancelledBefore => exact quiet
        | fails message => exact quiet
        | completes => exact finish_ledger refines system.db _ _ closing
        | cancelledAfter => exact finish_ledger refines system.db _ _ closing
      · exact quiet
  | shieldedFinishStep id failure closing =>
      rw [step]
      split
      · cases failure with
        | some message => exact quiet
        | none => exact finish_ledger refines system.db _ _ closing
      · exact quiet

/-! ## Claims and finishes are guarded -/

theorem claims_gate (refines : store.Refines) (warrantId : String) :
    (machine environment config).Gate (fun _ _ => True) (claims warrantId)
      (fun system : System store => 2 ≤ stage (store.state system.db warrantId)) where
  stays system action _ closed := by
    obtain ⟨label, moved, _⟩ := step_ledger environment config refines system action
    exact Nat.le_trans closed (moved.moves warrantId).stage_le
  silent system action _ closed := by
    obtain ⟨label, moved, explains⟩ := step_ledger environment config refines system action
    refine Nat.eq_zero_of_not_pos fun fired => ?_
    have claimed := (explains.claims_le warrantId).2 fired
    rw [claimed] at moved
    rw [moved.of_claimed.1] at closed
    exact absurd closed (by decide)
  once system action := by
    obtain ⟨label, _, explains⟩ := step_ledger environment config refines system action
    exact (explains.claims_le warrantId).1
  closes system action _ fired := by
    obtain ⟨label, moved, explains⟩ := step_ledger environment config refines system action
    have claimed := (explains.claims_le warrantId).2 fired
    rw [claimed] at moved
    rw [moved.of_claimed.2]
    exact Nat.le_refl 2

theorem finishes_gate (refines : store.Refines) (warrantId : String) :
    (machine environment config).Gate (fun _ _ => True) (finishes warrantId)
      (fun system : System store => 3 ≤ stage (store.state system.db warrantId)) where
  stays system action _ closed := by
    obtain ⟨label, moved, _⟩ := step_ledger environment config refines system action
    exact Nat.le_trans closed (moved.moves warrantId).stage_le
  silent system action _ closed := by
    obtain ⟨label, moved, explains⟩ := step_ledger environment config refines system action
    refine Nat.eq_zero_of_not_pos fun fired => ?_
    have finished := (explains.finishes_le warrantId).2 fired
    rw [finished] at moved
    rw [moved.of_finished.1] at closed
    exact absurd closed (by decide)
  once system action := by
    obtain ⟨label, _, explains⟩ := step_ledger environment config refines system action
    exact (explains.finishes_le warrantId).1
  closes system action _ fired := by
    obtain ⟨label, moved, explains⟩ := step_ledger environment config refines system action
    have finished := (explains.finishes_le warrantId).2 fired
    rw [finished] at moved
    rw [moved.of_finished.2]
    exact Nat.le_refl 3

end Steps

/-! ## Workspaces belong to the claiming call -/

/-- Phases between a successful claim and the end of the call. -/
def holds : Phase → Bool
  | .claiming => false
  | .entering _ => true
  | .running _ _ _ _ => true
  | .leaving _ _ _ => true
  | .finishing _ => true
  | .cancelling _ _ => true
  | .returned _ => false
  | .raised _ => false

/-- Phases in which the workspace factory has not been invoked. -/
def untouched : Phase → Bool
  | .claiming => true
  | .entering _ => true
  | _ => false

/-- What the log tells about the calls that are under way. -/
structure History {store : WarrantStore} (system : System store) (log : List Event) : Prop where
  holder : ∀ id call, system.calls id = some call → holds call.phase = true →
    Event.claimed (.call id) call.warrantId ∈ log
  factory : ∀ id warrantId,
    Preceded (.claimed (.call id) warrantId) (.factoryInvoked id warrantId) log
  runner : ∀ id warrantId planId,
    Preceded (.claimed (.call id) warrantId) (.runnerInvoked id warrantId planId) log
  fresh : ∀ id, (∀ call, system.calls id = some call → untouched call.phase = true) →
    log.countP (createdBy id) = 0
  once : ∀ id, log.countP (createdBy id) ≤ 1

/-- Events that involve no workspace. -/
def Plain (events : List Event) : Prop :=
  ∀ event ∈ events, (∀ id warrantId, event ≠ .factoryInvoked id warrantId) ∧
    ∀ id warrantId planId, event ≠ .runnerInvoked id warrantId planId

theorem Plain.countP {events : List Event} (plain : Plain events) (id : CallId) :
    events.countP (createdBy id) = 0 := by
  rw [List.countP_eq_zero]
  intro event member created
  cases event with
  | factoryInvoked call warrantId => exact (plain _ member).1 call warrantId rfl
  | claimed claimant warrantId => cases created
  | finished warrantId result => cases created
  | runnerInvoked call warrantId planId => cases created

theorem countP_createdBy_of_ne {events : List Event} {id other : CallId}
    {Cause : String → Prop}
    (created : ∀ call warrantId, Event.factoryInvoked call warrantId ∈ events →
      call = id ∧ Cause warrantId) (differs : other ≠ id) :
    events.countP (createdBy other) = 0 := by
  rw [List.countP_eq_zero]
  intro event member fired
  cases event with
  | factoryInvoked call warrantId =>
      have mine : call = other := by simpa [createdBy] using fired
      exact differs (mine ▸ (created call warrantId member).1)
  | claimed claimant warrantId => cases fired
  | finished warrantId result => cases fired
  | runnerInvoked call warrantId planId => cases fired

section Calls

variable {environment : Environment} {config : BrokerConfig} {store : WarrantStore}
  {system : System store} {log : List Event}

/-- A step that leaves the calls alone. -/
theorem History.unchanged (history : History system log) {next : System store}
    {events : List Event} (plain : Plain events) (calls : next.calls = system.calls) :
    History next (log ++ events) where
  holder id call found held :=
    List.mem_append_left _ (history.holder id call (calls ▸ found) held)
  factory id warrantId := (history.factory id warrantId).append
    fun recent => absurd rfl ((plain _ recent).1 id warrantId)
  runner id warrantId planId := (history.runner id warrantId planId).append
    fun recent => absurd rfl ((plain _ recent).2 id warrantId planId)
  fresh id untouched := by
    rw [List.countP_append, plain.countP, Nat.add_zero]
    exact history.fresh id (calls ▸ untouched)
  once id := by
    rw [List.countP_append, plain.countP, Nat.add_zero]
    exact history.once id

/-- A step of one call.  Its events may involve the workspace only while the call
holds the warrant, and the factory only while the workspace is untouched. -/
theorem History.advance (history : History system log) {db : store.Store} {id : CallId}
    {call : Call} {phase : Phase} {events : List Event}
    (before : ∀ current, system.calls id = some current → current = call)
    (held : holds phase = true → Event.claimed (.call id) call.warrantId ∈ log ++ events)
    (created : ∀ other warrantId, .factoryInvoked other warrantId ∈ events →
      other = id ∧ Event.claimed (.call id) warrantId ∈ log)
    (ran : ∀ other warrantId planId, .runnerInvoked other warrantId planId ∈ events →
      Event.claimed (.call other) warrantId ∈ log)
    (opens : 0 < events.countP (createdBy id) →
      untouched call.phase = true ∧ untouched phase = false ∧ events.countP (createdBy id) = 1)
    (stays : untouched phase = true → untouched call.phase = true) :
    History (System.setPhase { system with db := db } id call phase) (log ++ events) where
  holder other current found currentHeld := by
    by_cases same : other = id
    · subst same
      simp only [System.setPhase, Function.update_self, Option.some.injEq] at found
      subst found
      exact held currentHeld
    · simp only [System.setPhase, Function.update_of_ne same] at found
      exact List.mem_append_left _ (history.holder other current found currentHeld)
  factory other warrantId := (history.factory other warrantId).append fun recent => by
    obtain ⟨rfl, claimed⟩ := created other warrantId recent
    exact claimed
  runner other warrantId planId := (history.runner other warrantId planId).append
    fun recent => ran other warrantId planId recent
  fresh other untouchedNow := by
    rw [List.countP_append]
    by_cases same : other = id
    · subst same
      have phaseUntouched : untouched phase = true :=
        untouchedNow { call with phase := phase }
          (by simp only [System.setPhase, Function.update_self])
      have noEvent : events.countP (createdBy other) = 0 := by
        refine Nat.eq_zero_of_not_pos fun fired => ?_
        rw [(opens fired).2.1] at phaseUntouched
        cases phaseUntouched
      rw [noEvent, Nat.add_zero]
      exact history.fresh other fun current found =>
        before current found ▸ stays phaseUntouched
    · rw [countP_createdBy_of_ne created same, Nat.add_zero]
      refine history.fresh other fun current found => untouchedNow current ?_
      simpa only [System.setPhase, Function.update_of_ne same] using found
  once other := by
    rw [List.countP_append]
    by_cases same : other = id
    · subst same
      rcases Nat.eq_zero_or_pos (events.countP (createdBy other)) with noEvent | fired
      · rw [noEvent, Nat.add_zero]
        exact history.once other
      · obtain ⟨callUntouched, _, single⟩ := opens fired
        rw [single, history.fresh other fun current found => before current found ▸ callUntouched]
    · rw [countP_createdBy_of_ne created same, Nat.add_zero]
      exact history.once other

/-- A step of one call that involves no workspace. -/
theorem History.advancePlain (history : History system log) {db : store.Store} {id : CallId}
    {call : Call} {phase : Phase} {events : List Event}
    (before : ∀ current, system.calls id = some current → current = call)
    (plain : Plain events)
    (held : holds phase = true → Event.claimed (.call id) call.warrantId ∈ log ++ events)
    (stays : untouched phase = true → untouched call.phase = true) :
    History (System.setPhase { system with db := db } id call phase) (log ++ events) := by
  refine history.advance before held ?_ ?_ ?_ stays
  · exact fun other warrantId recent => absurd rfl ((plain _ recent).1 other warrantId)
  · exact fun other warrantId planId recent =>
      absurd rfl ((plain _ recent).2 other warrantId planId)
  · intro fired
    rw [plain.countP] at fired
    exact absurd fired (Nat.lt_irrefl 0)

theorem plain_nil : Plain [] := fun _ member => absurd member List.not_mem_nil

theorem plain_claimedEvents (claimant : Claimant) (warrantId : String)
    (answer : Attempt ClaimOutcome) : Plain (claimedEvents claimant warrantId answer) := by
  intro event member
  unfold claimedEvents at member
  split at member
  · rw [List.mem_singleton] at member
    subst member
    exact ⟨fun _ _ impossible => (nomatch impossible), fun _ _ _ impossible => (nomatch impossible)⟩
  · cases member

theorem plain_finishedEvents (warrantId : String) (result : BrokerResult)
    (answer : Attempt Unit) : Plain (finishedEvents warrantId result answer) := by
  intro event member
  unfold finishedEvents at member
  split at member
  · rw [List.mem_singleton] at member
    subst member
    exact ⟨fun _ _ impossible => (nomatch impossible), fun _ _ _ impossible => (nomatch impossible)⟩
  · cases member

/-! ### Phases after the claim -/

theorem handle_touched (warrantId : String) (claimed : ClaimedWarrant)
    (receipts : List Runner.Results.ProcessReceipt) (raised : Raised) :
    untouched (handle warrantId claimed receipts raised) = false := by
  unfold handle
  split <;> rfl

theorem nextPlan_touched (config : BrokerConfig) (warrantId : String) (claimed : ClaimedWarrant)
    (receipts : List Runner.Results.ProcessReceipt) (plans : List Warrant.BoundExecutionPlan) :
    untouched (nextPlan config warrantId claimed receipts plans) = false := by
  cases plans with
  | nil => rfl
  | cons bound remaining =>
      rw [nextPlan]
      split <;> rfl

theorem afterEnter_touched (config : BrokerConfig) (call : Call) (claimed : ClaimedWarrant)
    (created entered : Attempt Unit) :
    untouched (afterEnter config call claimed created entered) = false := by
  unfold afterEnter
  split
  · exact handle_touched _ _ _ _
  · exact handle_touched _ _ _ _
  · exact nextPlan_touched _ _ _ _ _

theorem afterRun_touched (config : BrokerConfig) (call : Call) (claimed : ClaimedWarrant)
    (remaining : List Warrant.BoundExecutionPlan)
    (receipts : List Runner.Results.ProcessReceipt)
    (outcome : Attempt Runner.Results.ProcessReceipt) :
    untouched (afterRun config call claimed remaining receipts outcome) = false := by
  unfold afterRun
  split
  · rfl
  · split
    · exact nextPlan_touched _ _ _ _ _
    · rfl

theorem afterExit_touched (call : Call) (claimed : ClaimedWarrant)
    (receipts : List Runner.Results.ProcessReceipt) (pending : Attempt BrokerResult)
    (outcome : Attempt Unit) :
    untouched (afterExit call claimed receipts pending outcome) = false := by
  unfold afterExit
  split
  · exact handle_touched _ _ _ _
  · split
    · rfl
    · exact handle_touched _ _ _ _

theorem history_idle (db : store.Store) : History (System.idle db) [] where
  holder _ _ found _ := by cases found
  factory _ _ := .nil _ _
  runner _ _ _ := .nil _ _
  fresh _ _ := rfl
  once _ := Nat.zero_le 1

/-- A claim that answers with the warrant is in the log of its own step. -/
theorem afterClaim_holds {id : CallId} {warrantId : String} {answer : Attempt ClaimOutcome}
    (held : holds (afterClaim warrantId answer) = true) :
    Event.claimed (.call id) warrantId ∈ claimedEvents (.call id) warrantId answer := by
  cases answer with
  | error raised => cases held
  | ok outcome =>
      cases outcome with
      | claimed claimed => exact List.mem_singleton.mpr rfl
      | rejection status code => cases held

theorem afterInterruptedClaim_ends (answer : Attempt ClaimOutcome) :
    holds (afterInterruptedClaim answer) = false := by
  cases answer <;> rfl

theorem afterFinish_ends (onSuccess : Phase) (answer : Attempt Unit)
    (ends : holds onSuccess = false ∧ untouched onSuccess = false) :
    holds (afterFinish onSuccess answer) = false ∧
      untouched (afterFinish onSuccess answer) = false := by
  cases answer with
  | error raised => exact ⟨rfl, rfl⟩
  | ok done => exact ends

/-- Every step keeps the history. -/
theorem history_step (history : History system log) (action : Action store) :
    History ((machine environment config).next system action)
      (log ++ (machine environment config).events system action) := by
  have idle : History system (log ++ []) := history.unchanged plain_nil rfl
  have alone {id : CallId} {call : Call} (found : system.calls id = some call) :
      ∀ current, system.calls id = some current → current = call := by
    intro current again
    rw [found] at again
    cases again
    rfl
  unfold Machine.next Machine.events machine
  dsimp only
  cases action with
  | addApproved input => exact history.unchanged plain_nil rfl
  | claimWarrant warrantId validator context =>
      exact history.unchanged (plain_claimedEvents _ _ _) rfl
  | finish warrantId result closing =>
      exact history.unchanged (plain_finishedEvents _ _ _) rfl
  | executeWarrant id warrantId =>
      rw [step]
      split
      · rename_i absent
        refine history.advancePlain ?_ plain_nil (fun held => by cases held) (fun _ => rfl)
        intro current found
        rw [absent] at found
        cases found
      · exact idle
  | claimStep id await context =>
      rw [step]
      split
      · rename_i warrantId found
        cases await with
        | cancelledBefore =>
            exact history.advancePlain (alone found) plain_nil (fun held => by cases held)
              (fun kept => by cases kept)
        | fails message =>
            exact history.advancePlain (alone found) plain_nil (fun held => by cases held)
              (fun kept => by cases kept)
        | completes =>
            exact history.advancePlain (alone found) (plain_claimedEvents _ _ _)
              (fun held => List.mem_append_right _ (afterClaim_holds held)) (fun _ => rfl)
        | cancelledAfter =>
            refine history.advancePlain (alone found) (plain_claimedEvents _ _ _) ?_ (fun _ => rfl)
            intro held
            rw [afterInterruptedClaim_ends] at held
            cases held
      · exact idle
  | enterStep id created entered =>
      rw [step]
      split
      · rename_i warrantId claimed found
        have mine := history.holder id _ found rfl
        have touched := afterEnter_touched config ⟨warrantId, .entering claimed⟩ claimed created
          entered
        refine history.advance (alone found) (fun _ => List.mem_append_left _ mine) ?_ ?_ ?_ ?_
        · intro other invoked recent
          simp only [List.mem_singleton, Event.factoryInvoked.injEq] at recent
          exact ⟨recent.1, recent.2 ▸ mine⟩
        · intro other invoked planId recent
          simp at recent
        · exact fun _ => ⟨rfl, touched, by simp [createdBy]⟩
        · intro kept
          rw [touched] at kept
          cases kept
      · exact idle
  | runStep id outcome =>
      rw [step]
      split
      · rename_i warrantId claimed bound remaining receipts found
        have mine := history.holder id _ found rfl
        have touched := afterRun_touched config
          ⟨warrantId, .running claimed bound remaining receipts⟩ claimed remaining receipts outcome
        refine history.advance (alone found) (fun _ => List.mem_append_left _ mine) ?_ ?_ ?_ ?_
        · intro other invoked recent
          simp at recent
        · intro other invoked planId recent
          simp only [List.mem_singleton, Event.runnerInvoked.injEq] at recent
          rw [recent.1, recent.2.1]
          exact mine
        · intro fired
          simp [createdBy] at fired
        · intro kept
          rw [touched] at kept
          cases kept
      · exact idle
  | exitStep id outcome =>
      rw [step]
      split
      · rename_i warrantId claimed receipts pending found
        have mine := history.holder id _ found rfl
        have touched := afterExit_touched ⟨warrantId, .leaving claimed receipts pending⟩ claimed
          receipts pending outcome
        refine history.advancePlain (alone found) plain_nil
          (fun _ => List.mem_append_left _ mine) ?_
        intro kept
        rw [touched] at kept
        cases kept
      · exact idle
  | finishStep id await closing =>
      rw [step]
      split
      · rename_i warrantId result found
        cases await with
        | cancelledBefore =>
            exact history.advancePlain (alone found) plain_nil (fun held => by cases held)
              (fun kept => by cases kept)
        | fails message =>
            exact history.advancePlain (alone found) plain_nil (fun held => by cases held)
              (fun kept => by cases kept)
        | completes =>
            have ends (answer : Attempt Unit) :=
              afterFinish_ends (.returned result) answer ⟨rfl, rfl⟩
            refine history.advancePlain (alone found) (plain_finishedEvents _ _ _) ?_ ?_
            · intro held
              rw [(ends _).1] at held
              cases held
            · intro kept
              rw [(ends _).2] at kept
              cases kept
        | cancelledAfter =>
            have ends (answer : Attempt Unit) :=
              afterFinish_ends (.raised cancellation) answer ⟨rfl, rfl⟩
            refine history.advancePlain (alone found) (plain_finishedEvents _ _ _) ?_ ?_
            · intro held
              rw [(ends _).1] at held
              cases held
            · intro kept
              rw [(ends _).2] at kept
              cases kept
      · exact idle
  | shieldedFinishStep id failure closing =>
      rw [step]
      split
      · rename_i warrantId result raised found
        cases failure with
        | some message =>
            exact history.advancePlain (alone found) plain_nil (fun held => by cases held)
              (fun kept => by cases kept)
        | none =>
            have ends (answer : Attempt Unit) :=
              afterFinish_ends (.raised raised) answer ⟨rfl, rfl⟩
            refine history.advancePlain (alone found) (plain_finishedEvents _ _ _) ?_ ?_
            · intro held
              rw [(ends _).1] at held
              cases held
            · intro kept
              rw [(ends _).2] at kept
              cases kept
      · exact idle

end Calls

/-! ## Whole runs -/

/-- Single use of every warrant along one run. -/
structure SingleUseRun (environment : Environment) (config : BrokerConfig)
    (store : WarrantStore) (db : store.Store) (actions : List (Action store)) : Prop where
  claimedOnce : ∀ warrantId,
    ((machine environment config).log (System.idle db) actions).countP (claims warrantId) ≤ 1
  finishedOnce : ∀ warrantId,
    ((machine environment config).log (System.idle db) actions).countP (finishes warrantId) ≤ 1
  workspaceOnce : ∀ warrantId,
    ((machine environment config).log (System.idle db) actions).countP
      (createsWorkspace warrantId) ≤ 1
  factoryByClaimant : ∀ id warrantId,
    Preceded (.claimed (.call id) warrantId) (.factoryInvoked id warrantId)
      ((machine environment config).log (System.idle db) actions)
  runnerByClaimant : ∀ id warrantId planId,
    Preceded (.claimed (.call id) warrantId) (.runnerInvoked id warrantId planId)
      ((machine environment config).log (System.idle db) actions)
  oneWay : ∀ earlier action later, actions = earlier ++ action :: later → ∀ warrantId,
    Moves (store.state ((machine environment config).run (System.idle db) earlier).db warrantId)
      (store.state ((machine environment config).run (System.idle db)
        (earlier ++ [action])).db warrantId)
  finishEffect : ∀ earlier action later, actions = earlier ++ action :: later →
    ∀ warrantId result, .finished warrantId result ∈ (machine environment config).events
      ((machine environment config).run (System.idle db) earlier) action →
    store.state ((machine environment config).run (System.idle db) earlier).db warrantId =
        some .consuming ∧
      store.state ((machine environment config).run (System.idle db)
        (earlier ++ [action])).db warrantId = some .consumed

/-- Workspaces of one warrant come from its one claimant, and one call creates
at most one. -/
theorem workspace_le_one {log : List Event} {warrantId : String}
    (claimed : log.countP (claims warrantId) ≤ 1)
    (factory : ∀ id, Preceded (.claimed (.call id) warrantId) (.factoryInvoked id warrantId) log)
    (once : ∀ id, log.countP (createdBy id) ≤ 1) :
    log.countP (createsWorkspace warrantId) ≤ 1 := by
  have claimant {id : CallId} (invoked : Event.factoryInvoked id warrantId ∈ log) :
      Event.claimed (.call id) warrantId ∈ log := by
    obtain ⟨before, after, split⟩ := List.append_of_mem invoked
    rw [split]
    exact List.mem_append_left _ (factory id before after split)
  by_cases some : ∃ id, Event.factoryInvoked id warrantId ∈ log
  · obtain ⟨id, invoked⟩ := some
    refine Nat.le_trans (List.countP_mono_left ?_) (once id)
    intro event member creates
    cases event with
    | factoryInvoked other invokedId =>
        have sameWarrant : invokedId = warrantId := by simpa [createsWorkspace] using creates
        subst sameWarrant
        have sameClaim := eq_of_countP_le_one claimed (claimant member) (claimant invoked)
          (by simp [claims]) (by simp [claims])
        have sameCall : other = id := by simpa using sameClaim
        simp [createdBy, sameCall]
    | claimed other invokedId => cases creates
    | finished invokedId result => cases creates
    | runnerInvoked other invokedId planId => cases creates
  · suffices log.countP (createsWorkspace warrantId) = 0 by
      rw [this]
      exact Nat.zero_le 1
    rw [List.countP_eq_zero]
    intro event member creates
    cases event with
    | factoryInvoked other invokedId =>
        have sameWarrant : invokedId = warrantId := by simpa [createsWorkspace] using creates
        exact some ⟨other, sameWarrant ▸ member⟩
    | claimed other invokedId => cases creates
    | finished invokedId result => cases creates
    | runnerInvoked other invokedId planId => cases creates

theorem singleUse_of_refines {store : WarrantStore} (refines : store.Refines)
    (environment : Environment) (config : BrokerConfig) (db : store.Store)
    (actions : List (Action store)) : SingleUseRun environment config store db actions := by
  have anywhere : (machine environment config).Follows (fun _ _ => True) (System.idle db) actions :=
    Machine.follows_of_forall _ (fun _ _ _ => trivial) (System.idle db)
  have claimed (warrantId : String) :=
    (claims_gate environment config refines warrantId).log_le_one anywhere
  have history : History ((machine environment config).run (System.idle db) actions)
      ([] ++ (machine environment config).log (System.idle db) actions) :=
    (machine environment config).run_log_invariant History
      (fun _ action _ current => history_step current action) (history_idle db) actions
  rw [List.nil_append] at history
  have snoc (earlier : List (Action store)) (action : Action store) :
      (machine environment config).run (System.idle db) (earlier ++ [action]) =
        (machine environment config).next
          ((machine environment config).run (System.idle db) earlier) action :=
    (machine environment config).run_append (System.idle db) earlier [action]
  refine ⟨claimed, ?_, ?_, history.factory, history.runner, ?_, ?_⟩
  · exact fun warrantId =>
      (finishes_gate environment config refines warrantId).log_le_one anywhere
  · exact fun warrantId => workspace_le_one (claimed warrantId)
      (fun id => history.factory id warrantId) history.once
  · intro earlier action later _ warrantId
    obtain ⟨label, moved, _⟩ := step_ledger environment config refines
      ((machine environment config).run (System.idle db) earlier) action
    rw [snoc]
    exact moved.moves warrantId
  · intro earlier action later _ warrantId result finished
    obtain ⟨label, moved, explains⟩ := step_ledger environment config refines
      ((machine environment config).run (System.idle db) earlier) action
    have fired : 0 < ((machine environment config).events
        ((machine environment config).run (System.idle db) earlier) action).countP
          (finishes warrantId) :=
      List.countP_pos_iff.mpr ⟨_, finished, by simp [finishes]⟩
    rw [(explains.finishes_le warrantId).2 fired] at moved
    rw [snoc]
    exact moved.of_finished

/-- Over both stores, for any interleaving of executions with direct additions,
claims and finishes, a warrant is claimed once, finished once, moved one way
only, and given one workspace, by its claimant. -/
theorem execution_single_use (environment : Environment) (config : BrokerConfig)
    (tables : UnicodeTables) (codec : Codec) :
    (∀ db actions, SingleUseRun environment config InMemory.store db actions) ∧
      ∀ db actions, SingleUseRun environment config (Postgres.store tables codec) db actions :=
  ⟨fun db actions => singleUse_of_refines InMemory.refines environment config db actions,
   fun db actions =>
     singleUse_of_refines (Postgres.refines tables codec) environment config db actions⟩

end CrossPatch.Broker.SingleUse
