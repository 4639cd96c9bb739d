import CrossPatch.Broker.Store

/-!
# The one-way lifecycle

The purpose of a warrant store, stated without documents or databases: a ledger
gives each warrant id its state, and only five kinds of step change it.  Both
stores refine this ledger, operation by operation.
-/

namespace CrossPatch.Broker.Lifecycle

open CrossPatch.Broker.Claim CrossPatch.Broker.Store
open CrossPatch.Broker.Warrant CrossPatch.Broker.Approval
open CrossPatch.Domain.Failure CrossPatch.Domain.Text
open CrossPatch.Library.Attempt CrossPatch.Library.Calendar

abbrev Ledger := String → Option WarrantState

/-- What a step of the ledger did. -/
inductive Label where
  | quiet
  | added (warrantId : String)
  | claimed (warrantId : String)
  | refused (warrantId : String)
  | finished (warrantId : String)
  deriving DecidableEq

inductive LedgerStep (ledger : Ledger) : Label → Ledger → Prop where
  | quiet : LedgerStep ledger .quiet ledger
  | added {warrantId : String} (fresh : ledger warrantId = none) :
      LedgerStep ledger (.added warrantId)
        (Function.update ledger warrantId (some .approved))
  | claimed {warrantId : String} (approved : ledger warrantId = some .approved) :
      LedgerStep ledger (.claimed warrantId)
        (Function.update ledger warrantId (some .consuming))
  | rejected {warrantId : String} (approved : ledger warrantId = some .approved) :
      LedgerStep ledger (.refused warrantId)
        (Function.update ledger warrantId (some .rejected))
  | expired {warrantId : String} (approved : ledger warrantId = some .approved) :
      LedgerStep ledger (.refused warrantId)
        (Function.update ledger warrantId (some .expired))
  | finished {warrantId : String} (consuming : ledger warrantId = some .consuming) :
      LedgerStep ledger (.finished warrantId)
        (Function.update ledger warrantId (some .consumed))

/-- The moves of one warrant. -/
inductive Moves : Option WarrantState → Option WarrantState → Prop where
  | stay (state : Option WarrantState) : Moves state state
  | add : Moves none (some .approved)
  | claim : Moves (some .approved) (some .consuming)
  | reject : Moves (some .approved) (some .rejected)
  | expire : Moves (some .approved) (some .expired)
  | finish : Moves (some .consuming) (some .consumed)

/-- Every step moves every warrant along the lifecycle. -/
theorem LedgerStep.moves {ledger next : Ledger} {label : Label}
    (step : LedgerStep ledger label next) (warrantId : String) :
    Moves (ledger warrantId) (next warrantId) := by
  have elsewhere {changed : String} {value : Option WarrantState}
      (move : Moves (ledger changed) value) :
      Moves (ledger warrantId) (Function.update ledger changed value warrantId) := by
    by_cases same : warrantId = changed
    · subst same
      rwa [Function.update_self]
    · rw [Function.update_of_ne same]
      exact .stay _
  cases step with
  | quiet => exact .stay _
  | added fresh => exact elsewhere (fresh ▸ .add)
  | claimed approved => exact elsewhere (approved ▸ .claim)
  | rejected approved => exact elsewhere (approved ▸ .reject)
  | expired approved => exact elsewhere (approved ▸ .expire)
  | finished consuming => exact elsewhere (consuming ▸ .finish)

/-- How far a warrant has come; claims and finishes happen at one stage only. -/
def stage : Option WarrantState → Nat
  | none => 0
  | some .approved => 1
  | some .consuming => 2
  | some .consumed => 3
  | some .rejected => 3
  | some .expired => 3

theorem Moves.stage_le {before after : Option WarrantState} (move : Moves before after) :
    stage before ≤ stage after := by
  cases move <;> simp [stage]

theorem LedgerStep.of_claimed {ledger next : Ledger} {warrantId : String}
    (step : LedgerStep ledger (.claimed warrantId) next) :
    ledger warrantId = some .approved ∧ next warrantId = some .consuming := by
  cases step with
  | claimed approved => exact ⟨approved, Function.update_self ..⟩

theorem LedgerStep.of_finished {ledger next : Ledger} {warrantId : String}
    (step : LedgerStep ledger (.finished warrantId) next) :
    ledger warrantId = some .consuming ∧ next warrantId = some .consumed := by
  cases step with
  | finished consuming => exact ⟨consuming, Function.update_self ..⟩

/-! ## Stores that keep the ledger -/

/-- A store as the broker uses it.  `Context` is what a claim reads besides the
store: the clock, and the authority where the store does not hold it. -/
structure WarrantStore where
  Store : Type
  Addition : Type
  Context : Type
  Closing : Type
  addApproved : Store → Addition → Attempt Unit × Store
  claimWarrant : Store → String → ClaimValidator → Context → Attempt ClaimOutcome × Store
  finish : Store → String → BrokerResult → Closing → Attempt Unit × Store
  state : Store → Ledger
  result : Store → String → Option BrokerResult

/-- The label that an operation's outcome stands for. -/
def additionLabel (warrantId : String) : Attempt Unit → Label
  | .ok _ => .added warrantId
  | .error _ => .quiet

def finishLabel (warrantId : String) : Attempt Unit → Label
  | .ok _ => .finished warrantId
  | .error _ => .quiet

/-- Refinement of the ledger: each operation is one ledger step, a claim counts
exactly when it returns the claimed warrant, and results are written by finishes. -/
structure WarrantStore.Refines (store : WarrantStore) : Prop where
  addition : ∀ current input, ∃ warrantId,
    LedgerStep (store.state current)
      (additionLabel warrantId (store.addApproved current input).1)
      (store.state (store.addApproved current input).2) ∧
    store.result (store.addApproved current input).2 = store.result current
  claim : ∀ current warrantId validator context,
    store.result (store.claimWarrant current warrantId validator context).2 =
      store.result current ∧
    match (store.claimWarrant current warrantId validator context).1 with
    | .ok (.claimed _) => LedgerStep (store.state current) (.claimed warrantId)
        (store.state (store.claimWarrant current warrantId validator context).2)
    | .ok (.rejection _ _) => ∃ label, (label = .quiet ∨ label = .refused warrantId) ∧
        LedgerStep (store.state current) label
          (store.state (store.claimWarrant current warrantId validator context).2)
    | .error _ => (store.claimWarrant current warrantId validator context).2 = current
  finish : ∀ current warrantId result closing,
    LedgerStep (store.state current)
      (finishLabel warrantId (store.finish current warrantId result closing).1)
      (store.state (store.finish current warrantId result closing).2) ∧
    store.result (store.finish current warrantId result closing).2 =
      match (store.finish current warrantId result closing).1 with
      | .ok _ => Function.update (store.result current) warrantId (some result)
      | .error _ => store.result current
  finishError : ∀ current warrantId result closing raised,
    (store.finish current warrantId result closing).1 = .error raised →
      raised.isA .cancelledError = false

/-! ## The in-memory store refines the ledger -/

namespace InMemory

open CrossPatch.Broker.Store.InMemoryWarrantStore

def store : WarrantStore where
  Store := InMemoryWarrantStore
  Addition := WarrantDocument × WarrantApproval
  Context := Option Instant × AuthorityLoader
  Closing := Unit
  addApproved current input := current.addApproved input.1 input.2
  claimWarrant current warrantId validator context :=
    current.claimWarrant warrantId context.1 validator context.2
  finish current warrantId result _ := current.finish warrantId result
  state := InMemoryWarrantStore.state
  result := InMemoryWarrantStore.result

theorem records_put (current : InMemoryWarrantStore) (warrantId : String)
    (record : StoredWarrant) :
    (current.put warrantId record).records warrantId = some record := by
  simp [put]

theorem state_of_record {current : InMemoryWarrantStore} {warrantId : String}
    {record : StoredWarrant} (found : current.records warrantId = some record) :
    current.state warrantId = some record.state := by
  rw [InMemoryWarrantStore.state, found]
  rfl

theorem finish_of_consuming {current : InMemoryWarrantStore} {warrantId : String}
    {record : StoredWarrant} {result : BrokerResult}
    (found : current.records warrantId = some record) (consuming : record.state = .consuming) :
    current.finish warrantId result =
      (.ok (), current.put warrantId
        { record with state := .consumed, result := some result }) := by
  rw [InMemoryWarrantStore.finish, found]
  dsimp only
  rw [if_neg (not_not_intro consuming)]

theorem state_put (current : InMemoryWarrantStore) (warrantId : String) (record : StoredWarrant) :
    (current.put warrantId record).state =
      Function.update current.state warrantId (some record.state) := by
  funext other
  by_cases same : other = warrantId
  · subst same
    simp [InMemoryWarrantStore.state, put]
  · simp [InMemoryWarrantStore.state, put, Function.update_of_ne same]

theorem result_put (current : InMemoryWarrantStore) (warrantId : String)
    (record : StoredWarrant) :
    (current.put warrantId record).result =
      Function.update current.result warrantId record.result := by
  funext other
  by_cases same : other = warrantId
  · subst same
    simp [InMemoryWarrantStore.result, put]
  · simp [InMemoryWarrantStore.result, put, Function.update_of_ne same]

theorem result_put_same {current : InMemoryWarrantStore} {warrantId : String}
    {record : StoredWarrant} (kept : current.result warrantId = record.result) :
    (current.put warrantId record).result = current.result := by
  rw [result_put, ← kept, Function.update_eq_self]

theorem addition_refines (current : InMemoryWarrantStore) (document : WarrantDocument)
    (approval : WarrantApproval) :
    LedgerStep current.state
        (additionLabel document.warrantId (current.addApproved document approval).1)
        (current.addApproved document approval).2.state ∧
      (current.addApproved document approval).2.result = current.result := by
  unfold InMemoryWarrantStore.addApproved
  cases found : current.records document.warrantId with
  | some record => exact ⟨.quiet, rfl⟩
  | none =>
      refine ⟨?_, result_put_same (by simp [InMemoryWarrantStore.result, found])⟩
      rw [state_put]
      exact .added (by simp [InMemoryWarrantStore.state, found])

theorem claim_refines (current : InMemoryWarrantStore) (warrantId : String)
    (clock : Option Instant) (validator : ClaimValidator) (loader : AuthorityLoader) :
    (current.claimWarrant warrantId clock validator loader).2.result = current.result ∧
    match (current.claimWarrant warrantId clock validator loader).1 with
    | .ok (.claimed _) => LedgerStep current.state (.claimed warrantId)
        (current.claimWarrant warrantId clock validator loader).2.state
    | .ok (.rejection _ _) => ∃ label, (label = .quiet ∨ label = .refused warrantId) ∧
        LedgerStep current.state label
          (current.claimWarrant warrantId clock validator loader).2.state
    | .error _ => (current.claimWarrant warrantId clock validator loader).2 = current := by
  unfold InMemoryWarrantStore.claimWarrant
  cases found : current.records warrantId with
  | none => exact ⟨rfl, .quiet, Or.inl rfl, .quiet⟩
  | some record =>
      dsimp only
      split
      · exact ⟨rfl, .quiet, Or.inl rfl, .quiet⟩
      · rename_i approved
        have ledger : current.state warrantId = some .approved := by
          simpa [InMemoryWarrantStore.state, found] using approved
        have kept : current.result warrantId = record.result := by
          simp [InMemoryWarrantStore.result, found]
        cases clock with
        | none => exact ⟨rfl, rfl⟩
        | some now =>
            dsimp only
            split
            · refine ⟨result_put_same kept, .refused warrantId, Or.inr rfl, ?_⟩
              rw [state_put]
              exact .expired ledger
            · split
              · exact ⟨rfl, rfl⟩
              · refine ⟨result_put_same kept, .refused warrantId, Or.inr rfl, ?_⟩
                rw [state_put]
                exact .rejected ledger
              · refine ⟨result_put_same kept, ?_⟩
                dsimp only
                rw [state_put]
                exact .claimed ledger

theorem finish_refines (current : InMemoryWarrantStore) (warrantId : String)
    (result : BrokerResult) :
    LedgerStep current.state (finishLabel warrantId (current.finish warrantId result).1)
        (current.finish warrantId result).2.state ∧
      (current.finish warrantId result).2.result =
        match (current.finish warrantId result).1 with
        | .ok _ => Function.update current.result warrantId (some result)
        | .error _ => current.result := by
  unfold InMemoryWarrantStore.finish
  cases found : current.records warrantId with
  | none => exact ⟨.quiet, rfl⟩
  | some record =>
      dsimp only
      split
      · exact ⟨.quiet, rfl⟩
      · rename_i consuming
        refine ⟨?_, result_put _ _ _⟩
        rw [state_put]
        exact .finished (by simpa [InMemoryWarrantStore.state, found] using consuming)

theorem finish_error {current : InMemoryWarrantStore} {warrantId : String}
    {result : BrokerResult} {raised : Raised}
    (failed : (current.finish warrantId result).1 = .error raised) :
    raised.isA .cancelledError = false := by
  unfold InMemoryWarrantStore.finish at failed
  cases found : current.records warrantId with
  | none =>
      rw [found] at failed
      cases failed
      rfl
  | some record =>
      rw [found] at failed
      dsimp only at failed
      split at failed
      · cases failed
        rfl
      · cases failed

theorem refines : store.Refines where
  addition current input := ⟨_, addition_refines current input.1 input.2⟩
  claim current warrantId validator context :=
    claim_refines current warrantId context.1 validator context.2
  finish current warrantId result _ := finish_refines current warrantId result
  finishError _ _ _ _ _ failed := finish_error failed

end InMemory

/-! ## The PostgreSQL store refines the ledger -/

namespace Postgres

open CrossPatch.Broker.Store.PostgresWarrantStore

/-- Additions carry the authority to publish and the time of the insertion. -/
structure Addition where
  document : WarrantDocument
  approval : WarrantApproval
  authority : AuthoritySnapshot
  now : Instant

def store (tables : UnicodeTables) (codec : Codec) : WarrantStore where
  Store := PostgresWarrantStore
  Addition := Addition
  Context := Option Instant
  Closing := Option Instant
  addApproved current input :=
    current.addApproved tables input.document input.approval input.authority input.now
  claimWarrant current warrantId validator clock :=
    current.claimWarrant tables codec warrantId clock validator
  finish current warrantId result clock := current.finish warrantId result clock
  state := PostgresWarrantStore.state
  result := PostgresWarrantStore.result

theorem state_put (current : PostgresWarrantStore) (warrantId : String) (record : WarrantRecord) :
    (current.put warrantId record).state =
      Function.update current.state warrantId (some record.state) := by
  funext other
  by_cases same : other = warrantId
  · subst same
    simp [PostgresWarrantStore.state, put]
  · simp [PostgresWarrantStore.state, put, Function.update_of_ne same]

theorem result_put (current : PostgresWarrantStore) (warrantId : String)
    (record : WarrantRecord) :
    (current.put warrantId record).result =
      Function.update current.result warrantId record.resultJson := by
  funext other
  by_cases same : other = warrantId
  · subst same
    simp [PostgresWarrantStore.result, put]
  · simp [PostgresWarrantStore.result, put, Function.update_of_ne same]

theorem result_put_same {current : PostgresWarrantStore} {warrantId : String}
    {record : WarrantRecord} (kept : current.result warrantId = record.resultJson) :
    (current.put warrantId record).result = current.result := by
  rw [result_put, ← kept, Function.update_eq_self]

theorem addition_refines (tables : UnicodeTables) (current : PostgresWarrantStore)
    (input : Addition) :
    LedgerStep current.state
        (additionLabel input.document.warrantId (current.addApproved tables input.document
          input.approval input.authority input.now).1)
        (current.addApproved tables input.document input.approval input.authority
          input.now).2.state ∧
      (current.addApproved tables input.document input.approval input.authority
        input.now).2.result = current.result := by
  unfold PostgresWarrantStore.addApproved
  dsimp only
  split
  · rename_i next committed
    simp only [bind_eq_ok, require_eq_ok, Except.ok.injEq] at committed
    obtain ⟨_, _, snapshot, _, _, _, _, _, _, ⟨fresh, _⟩, rfl⟩ := committed
    have ledger : current.state input.document.warrantId = none := by
      simp [PostgresWarrantStore.state, fresh]
    have published : (current.publish input.document.incidentId snapshot input.now).state =
        current.state := rfl
    constructor
    · have inserted := state_put (current.publish input.document.incidentId snapshot input.now)
        input.document.warrantId
      rw [published] at inserted
      change LedgerStep current.state (.added input.document.warrantId)
        (PostgresWarrantStore.state (put _ _ _))
      rw [inserted]
      exact .added ledger
    · have noResult : (current.publish input.document.incidentId snapshot input.now).result
          input.document.warrantId = none := by
        simp [PostgresWarrantStore.result, publish, fresh]
      exact result_put_same noResult
  · exact ⟨.quiet, rfl⟩

theorem claim_refines (tables : UnicodeTables) (codec : Codec) (current : PostgresWarrantStore)
    (warrantId : String) (validator : ClaimValidator) (clock : Option Instant) :
    (current.claimWarrant tables codec warrantId clock validator).2.result = current.result ∧
    match (current.claimWarrant tables codec warrantId clock validator).1 with
    | .ok (.claimed _) => LedgerStep current.state (.claimed warrantId)
        (current.claimWarrant tables codec warrantId clock validator).2.state
    | .ok (.rejection _ _) => ∃ label, (label = .quiet ∨ label = .refused warrantId) ∧
        LedgerStep current.state label
          (current.claimWarrant tables codec warrantId clock validator).2.state
    | .error _ => (current.claimWarrant tables codec warrantId clock validator).2 = current := by
  unfold PostgresWarrantStore.claimWarrant
  cases found : current.warrants warrantId with
  | none => exact ⟨rfl, .quiet, Or.inl rfl, .quiet⟩
  | some record =>
      dsimp only
      split
      · exact ⟨rfl, .quiet, Or.inl rfl, .quiet⟩
      · rename_i approved
        have ledger : current.state warrantId = some .approved := by
          simpa [PostgresWarrantStore.state, found] using approved
        have kept : current.result warrantId = record.resultJson := by
          simp [PostgresWarrantStore.result, found]
        -- Every refusal rewrites the row with a final state.
        have refusal {next : WarrantRecord} (sameResult : next.resultJson = record.resultJson)
            (final : next.state = .rejected ∨ next.state = .expired) :
            (current.put warrantId next).result = current.result ∧
              ∃ label, (label = .quiet ∨ label = .refused warrantId) ∧
                LedgerStep current.state label (current.put warrantId next).state := by
          refine ⟨result_put_same (kept.trans sameResult.symm), .refused warrantId, Or.inr rfl, ?_⟩
          rw [state_put]
          rcases final with rejected | expired
          · rw [rejected]
            exact .rejected ledger
          · rw [expired]
            exact .expired ledger
        cases clock with
        | none => exact ⟨rfl, rfl⟩
        | some now =>
            dsimp only [databaseNow]
            split
            · split
              · exact refusal rfl (Or.inl rfl)
              · exact ⟨rfl, rfl⟩
            · split
              · exact refusal rfl (Or.inl rfl)
              · split
                · exact refusal rfl (Or.inr rfl)
                · split
                  · exact refusal rfl (Or.inl rfl)
                  · split
                    · exact ⟨rfl, rfl⟩
                    · exact refusal rfl (Or.inl rfl)
                    · refine ⟨result_put_same kept, ?_⟩
                      dsimp only
                      rw [state_put]
                      exact .claimed ledger

theorem finish_refines (current : PostgresWarrantStore) (warrantId : String)
    (result : BrokerResult) (clock : Option Instant) :
    LedgerStep current.state
        (finishLabel warrantId (current.finish warrantId result clock).1)
        (current.finish warrantId result clock).2.state ∧
      (current.finish warrantId result clock).2.result =
        match (current.finish warrantId result clock).1 with
        | .ok _ => Function.update current.result warrantId (some result)
        | .error _ => current.result := by
  unfold PostgresWarrantStore.finish
  cases found : current.warrants warrantId with
  | none => exact ⟨.quiet, rfl⟩
  | some record =>
      dsimp only
      split
      · exact ⟨.quiet, rfl⟩
      · rename_i consuming
        cases clock with
        | none => exact ⟨.quiet, rfl⟩
        | some now =>
            refine ⟨?_, result_put _ _ _⟩
            dsimp only [databaseNow]
            rw [state_put]
            exact .finished (by simpa [PostgresWarrantStore.state, found] using consuming)

theorem finish_error {current : PostgresWarrantStore} {warrantId : String}
    {result : BrokerResult} {clock : Option Instant} {raised : Raised}
    (failed : (current.finish warrantId result clock).1 = .error raised) :
    raised.isA .cancelledError = false := by
  unfold PostgresWarrantStore.finish at failed
  cases found : current.warrants warrantId with
  | none =>
      rw [found] at failed
      cases failed
      rfl
  | some record =>
      rw [found] at failed
      dsimp only at failed
      split at failed
      · cases failed
        rfl
      · cases clock with
        | none =>
            cases failed
            rfl
        | some now => cases failed

theorem refines (tables : UnicodeTables) (codec : Codec) : (store tables codec).Refines where
  addition current input := ⟨_, addition_refines tables current input⟩
  claim current warrantId validator clock :=
    claim_refines tables codec current warrantId validator clock
  finish current warrantId result clock := finish_refines current warrantId result clock
  finishError _ _ _ _ _ failed := finish_error failed

end Postgres

end CrossPatch.Broker.Lifecycle
