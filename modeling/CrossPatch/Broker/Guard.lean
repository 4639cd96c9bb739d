import CrossPatch.Broker.Store
import CrossPatch.Library.Runs

/-!
# The database guard of warrant rows

`crosspatch_guard_warrant_mutation` runs before every update and every delete of a
warrant row, whoever sends it.  It admits the updates of the store, and whatever
sequence of statements it admits, a row keeps its bindings and moves one way.
-/

namespace CrossPatch.Broker.Guard

open CrossPatch.Broker.Approval CrossPatch.Broker.Claim CrossPatch.Broker.Store
open CrossPatch.Broker.Warrant
open CrossPatch.Domain.Failure CrossPatch.Domain.Text
open CrossPatch.Library CrossPatch.Library.Attempt CrossPatch.Library.Calendar
open CrossPatch.Library.Octets CrossPatch.Library.Runs

/-! ## The trigger -/

/-- A row of `mutation_warrants`; nullable columns are options. -/
structure WarrantRow where
  id : String
  incidentId : String
  nonceSha256 : String
  documentJson : Bytes
  approvalJson : Bytes
  state : String
  expiresAt : Instant
  claimedAt : Option Instant
  nonceConsumedAt : Option Instant
  finishedAt : Option Instant
  resultJson : Option Bytes
  createdAt : Instant
  updatedAt : Instant
  deriving DecidableEq

/-- The columns that approval binds. -/
structure Bindings where
  id : String
  incidentId : String
  nonceSha256 : String
  documentJson : Bytes
  approvalJson : Bytes
  expiresAt : Instant
  createdAt : Instant
  deriving DecidableEq

def WarrantRow.bindings (row : WarrantRow) : Bindings :=
  ⟨row.id, row.incidentId, row.nonceSha256, row.documentJson, row.approvalJson, row.expiresAt,
    row.createdAt⟩

/-- A statement on one row, and the role that sends a delete. -/
inductive Statement where
  | update (row : WarrantRow)
  | delete (role : String)

/-- The update branch of the trigger. -/
def guardUpdate (old new : WarrantRow) : Except String WarrantRow := do
  require (old.bindings = new.bindings) "approved warrant bindings are immutable"
  if old.state = "APPROVED" ∧ new.state = "CONSUMING" then do
    require (¬ (new.claimedAt = none ∨ new.nonceConsumedAt = none ∨
        new.claimedAt ≠ new.nonceConsumedAt ∨ new.resultJson ≠ none ∨ new.finishedAt ≠ none))
      "invalid warrant claim transition"
    .ok new
  else if old.state = "APPROVED" ∧ (new.state = "REJECTED" ∨ new.state = "EXPIRED") then do
    require (¬ (new.claimedAt ≠ none ∨ new.nonceConsumedAt ≠ none ∨ new.resultJson ≠ none ∨
        new.finishedAt ≠ none))
      "invalid warrant rejection transition"
    .ok new
  else if old.state = "CONSUMING" ∧ new.state = "CONSUMED" then do
    require (¬ (new.claimedAt ≠ old.claimedAt ∨ new.nonceConsumedAt ≠ old.nonceConsumedAt ∨
        new.resultJson = none ∨ new.finishedAt = none))
      "invalid warrant completion transition"
    .ok new
  else .error "warrant state transitions are irreversible"

/-- `crosspatch_guard_warrant_mutation`: what is left of the row. -/
def guardWarrantMutation (tableOwner : String) (old : WarrantRow) :
    Statement → Except String (Option WarrantRow)
  | .delete role =>
      if role = tableOwner then .ok none
      else .error "mutation warrants cannot be deleted by runtime roles"
  | .update new => do
      let row ← guardUpdate old new
      .ok (some row)

/-- The states that a row moves through. -/
inductive Advances : String → String → Prop where
  | claim : Advances "APPROVED" "CONSUMING"
  | reject : Advances "APPROVED" "REJECTED"
  | expire : Advances "APPROVED" "EXPIRED"
  | finish : Advances "CONSUMING" "CONSUMED"

/-- Columns that are filled stay as they are. -/
structure Keeps (old new : WarrantRow) : Prop where
  claimedAt : old.claimedAt ≠ none → new.claimedAt = old.claimedAt
  nonceConsumedAt : old.nonceConsumedAt ≠ none → new.nonceConsumedAt = old.nonceConsumedAt
  resultJson : old.resultJson ≠ none → new.resultJson = old.resultJson
  finishedAt : old.finishedAt ≠ none → new.finishedAt = old.finishedAt

/-- What the columns of a row are in the states that it can leave. -/
structure Consistent (row : WarrantRow) : Prop where
  approved : row.state = "APPROVED" → row.claimedAt = none ∧ row.nonceConsumedAt = none
  unfinished : row.state = "APPROVED" ∨ row.state = "CONSUMING" →
    row.resultJson = none ∧ row.finishedAt = none

/-- Everything that an admitted update does. -/
structure Admitted (old new : WarrantRow) : Prop where
  bindings : new.bindings = old.bindings
  advances : Advances old.state new.state
  keeps : Consistent old → Keeps old new
  consistent : Consistent new

theorem guardUpdate_eq_ok {old new row : WarrantRow} (admitted : guardUpdate old new = .ok row) :
    row = new ∧ Admitted old new := by
  unfold guardUpdate at admitted
  obtain ⟨_, bound, rest⟩ := bind_eq_ok.mp admitted
  rw [require_eq_ok] at bound
  split at rest
  · rename_i states
    obtain ⟨_, columns, done⟩ := bind_eq_ok.mp rest
    simp only [require_eq_ok, not_or, ne_eq, not_not] at columns
    cases done
    refine ⟨rfl, bound.symm, ?_, ?_, ?_⟩
    · rw [states.1, states.2]
      exact .claim
    · intro consistent
      obtain ⟨claimed, consumed⟩ := consistent.approved states.1
      obtain ⟨result, finished⟩ := consistent.unfinished (Or.inl states.1)
      exact ⟨(absurd claimed ·), (absurd consumed ·), (absurd result ·), (absurd finished ·)⟩
    · refine ⟨fun approved => ?_, fun _ => columns.2.2.2⟩
      rw [states.2] at approved
      exact absurd approved (by decide)
  · split at rest
    · rename_i states
      obtain ⟨_, columns, done⟩ := bind_eq_ok.mp rest
      simp only [require_eq_ok, not_or, ne_eq, not_not] at columns
      cases done
      refine ⟨rfl, bound.symm, ?_, ?_, ?_⟩
      · rw [states.1]
        rcases states.2 with rejected | expired
        · rw [rejected]
          exact .reject
        · rw [expired]
          exact .expire
      · intro consistent
        obtain ⟨claimed, consumed⟩ := consistent.approved states.1
        obtain ⟨result, finished⟩ := consistent.unfinished (Or.inl states.1)
        exact ⟨(absurd claimed ·), (absurd consumed ·), (absurd result ·), (absurd finished ·)⟩
      · exact ⟨fun _ => ⟨columns.1, columns.2.1⟩, fun _ => columns.2.2⟩
    · split at rest
      · rename_i states
        obtain ⟨_, columns, done⟩ := bind_eq_ok.mp rest
        simp only [require_eq_ok, not_or, ne_eq, not_not] at columns
        cases done
        refine ⟨rfl, bound.symm, ?_, ?_, ?_⟩
        · rw [states.1, states.2]
          exact .finish
        · intro consistent
          obtain ⟨result, finished⟩ := consistent.unfinished (Or.inr states.1)
          exact ⟨fun _ => columns.1, fun _ => columns.2.1, (absurd result ·), (absurd finished ·)⟩
        · constructor
          · intro approved
            rw [states.2] at approved
            exact absurd approved (by decide)
          · intro earlier
            rw [states.2] at earlier
            exact absurd earlier (by decide)
      · cases rest

/-! ## Statements in sequence -/

/-- One row under the trigger: a refused statement leaves it as it is. -/
def guarded (tableOwner : String) : Machine (Option WarrantRow) Statement Empty where
  step
    | none, _ => (none, [])
    | some old, statement =>
        match guardWarrantMutation tableOwner old statement with
        | .ok remaining => (remaining, [])
        | .error _ => (some old, [])

/-- Nobody but the owner of the table may delete. -/
def Foreign (tableOwner : String) : Statement → Prop
  | .update _ => True
  | .delete role => role ≠ tableOwner

theorem guarded_next {tableOwner : String} {old : WarrantRow} {statement : Statement}
    (foreign : Foreign tableOwner statement) :
    ∃ row, (guarded tableOwner).next (some old) statement = some row ∧
      (row = old ∨ Admitted old row) := by
  cases statement with
  | delete role =>
      have refused : guardWarrantMutation tableOwner old (.delete role) =
          .error "mutation warrants cannot be deleted by runtime roles" := if_neg foreign
      exact ⟨old, by simp [Machine.next, guarded, refused], Or.inl rfl⟩
  | update new =>
      cases outcome : guardUpdate old new with
      | error message =>
          exact ⟨old, by simp [Machine.next, guarded, guardWarrantMutation, outcome], Or.inl rfl⟩
      | ok row =>
          obtain ⟨rfl, admitted⟩ := guardUpdate_eq_ok outcome
          exact ⟨row, by simp [Machine.next, guarded, guardWarrantMutation, outcome],
            Or.inr admitted⟩

theorem Keeps.refl (row : WarrantRow) : Keeps row row :=
  ⟨fun _ => rfl, fun _ => rfl, fun _ => rfl, fun _ => rfl⟩

theorem Keeps.trans {first second third : WarrantRow} (earlier : Keeps first second)
    (later : Keeps second third) : Keeps first third where
  claimedAt filled := by
    have same := earlier.claimedAt filled
    rw [← same] at filled ⊢
    exact later.claimedAt filled
  nonceConsumedAt filled := by
    have same := earlier.nonceConsumedAt filled
    rw [← same] at filled ⊢
    exact later.nonceConsumedAt filled
  resultJson filled := by
    have same := earlier.resultJson filled
    rw [← same] at filled ⊢
    exact later.resultJson filled
  finishedAt filled := by
    have same := earlier.finishedAt filled
    rw [← same] at filled ⊢
    exact later.finishedAt filled

/-- A consistent row survives any statements, with its bindings and its filled columns. -/
theorem guarded_run {tableOwner : String} {row : WarrantRow} (consistent : Consistent row)
    {statements : List Statement} (foreign : ∀ statement ∈ statements, Foreign tableOwner statement) :
    ∃ later, (guarded tableOwner).run (some row) statements = some later ∧ Consistent later ∧
      later.bindings = row.bindings ∧ Keeps row later := by
  induction statements generalizing row with
  | nil => exact ⟨row, rfl, consistent, rfl, Keeps.refl row⟩
  | cons statement rest ih =>
      rw [List.forall_mem_cons] at foreign
      obtain ⟨next, stepped, unchanged | admitted⟩ :=
        @guarded_next tableOwner row statement foreign.1
      · subst unchanged
        rw [Machine.run_cons, stepped]
        exact ih consistent foreign.2
      · obtain ⟨later, reached, final, bindings, keeps⟩ := ih admitted.consistent foreign.2
        rw [Machine.run_cons, stepped]
        exact ⟨later, reached, final, bindings.trans admitted.bindings,
          (admitted.keeps consistent).trans keeps⟩

/-- A row as it is inserted. -/
structure Inserted (row : WarrantRow) : Prop where
  state : row.state = "APPROVED"
  claim : row.claimedAt = none ∧ row.nonceConsumedAt = none
  result : row.resultJson = none ∧ row.finishedAt = none

theorem Inserted.consistent {row : WarrantRow} (inserted : Inserted row) : Consistent row :=
  ⟨fun _ => inserted.claim, fun _ => inserted.result⟩

/-! ## The statements of the store -/

def stateValue : WarrantState → String
  | .approved => "APPROVED"
  | .consuming => "CONSUMING"
  | .consumed => "CONSUMED"
  | .rejected => "REJECTED"
  | .expired => "EXPIRED"

/-- The row of a record; a result is stored as its canonical JSON. -/
def rowOf (resultJson : BrokerResult → Bytes) (record : WarrantRecord) : WarrantRow where
  id := record.id
  incidentId := record.incidentId
  nonceSha256 := record.nonceSha256
  documentJson := record.documentJson
  approvalJson := record.approvalJson
  state := stateValue record.state
  expiresAt := record.expiresAt
  claimedAt := record.claimedAt
  nonceConsumedAt := record.nonceConsumedAt
  finishedAt := record.finishedAt
  resultJson := record.resultJson.map resultJson
  createdAt := record.createdAt
  updatedAt := record.updatedAt

/-- The updates that the store sends. -/
inductive Rewrites (record : WarrantRecord) : WarrantRecord → Prop where
  | close {state : WarrantState} (final : state = .rejected ∨ state = .expired) (now : Instant)
      (approved : record.state = .approved) :
      Rewrites record { record with state := state, updatedAt := now }
  | claim (now : Instant) (approved : record.state = .approved) :
      Rewrites record
        { record with
          state := .consuming
          claimedAt := some now
          nonceConsumedAt := some now
          updatedAt := now }
  | finish (result : BrokerResult) (now : Instant) (consuming : record.state = .consuming) :
      Rewrites record
        { record with
          state := .consumed
          resultJson := some result
          finishedAt := some now
          updatedAt := now }

/-- Nothing, or one row rewritten. -/
inductive Updates (current : PostgresWarrantStore) : PostgresWarrantStore → Prop where
  | nothing : Updates current current
  | row {warrantId : String} {record next : WarrantRecord}
      (found : current.warrants warrantId = some record) (rewrites : Rewrites record next) :
      Updates current (current.put warrantId next)

theorem claim_updates (tables : UnicodeTables) (codec : Codec) (current : PostgresWarrantStore)
    (warrantId : String) (validator : ClaimValidator) (clock : Option Instant) :
    Updates current (current.claimWarrant tables codec warrantId clock validator).2 := by
  unfold PostgresWarrantStore.claimWarrant
  cases found : current.warrants warrantId with
  | none => exact .nothing
  | some record =>
      dsimp only
      split
      · exact .nothing
      · rename_i approved
        rw [ne_eq, not_not] at approved
        cases clock with
        | none => exact .nothing
        | some now =>
            have close {state : WarrantState} (final : state = .rejected ∨ state = .expired) :
                Updates current
                  (current.put warrantId { record with state := state, updatedAt := now }) :=
              .row found (.close final now approved)
            dsimp only [PostgresWarrantStore.databaseNow]
            split
            · split
              · exact close (Or.inl rfl)
              · exact .nothing
            · split
              · exact close (Or.inl rfl)
              · split
                · exact close (Or.inr rfl)
                · split
                  · exact close (Or.inl rfl)
                  · split
                    · exact .nothing
                    · exact close (Or.inl rfl)
                    · exact .row found (.claim now approved)

theorem finish_updates (current : PostgresWarrantStore) (warrantId : String)
    (result : BrokerResult) (clock : Option Instant) :
    Updates current (current.finish warrantId result clock).2 := by
  unfold PostgresWarrantStore.finish
  cases found : current.warrants warrantId with
  | none => exact .nothing
  | some record =>
      dsimp only
      split
      · exact .nothing
      · rename_i consuming
        rw [ne_eq, not_not] at consuming
        cases clock with
        | none => exact .nothing
        | some now => exact .row found (.finish result now consuming)

/-! ## Reachable rows -/

/-- The operations on the table: rows are inserted by the store and by the control
plane, which fills the bound columns only. -/
inductive Operation where
  | addApproved (document : WarrantDocument) (approval : WarrantApproval)
      (authority : AuthoritySnapshot) (now : Instant)
  | insert (columns : Bindings) (updatedAt : Instant)
  | publish (incidentId : String) (snapshot : Bytes) (now : Instant)
  | claimWarrant (warrantId : String) (clock : Option Instant) (validator : ClaimValidator)
  | finish (warrantId : String) (result : BrokerResult) (clock : Option Instant)

def newRecord (columns : Bindings) (updatedAt : Instant) : WarrantRecord where
  id := columns.id
  incidentId := columns.incidentId
  nonceSha256 := columns.nonceSha256
  documentJson := columns.documentJson
  approvalJson := columns.approvalJson
  state := .approved
  expiresAt := columns.expiresAt
  resultJson := none
  claimedAt := none
  nonceConsumedAt := none
  finishedAt := none
  createdAt := columns.createdAt
  updatedAt := updatedAt

/-- The primary key and the nonce index refuse duplicates. -/
def insertRow (store : PostgresWarrantStore) (record : WarrantRecord) : PostgresWarrantStore :=
  if store.warrants record.id = none ∧ record.nonceSha256 ∉ store.nonces then
    { store.put record.id record with nonces := record.nonceSha256 :: store.nonces }
  else store

def perform (tables : UnicodeTables) (codec : Codec) (store : PostgresWarrantStore) :
    Operation → PostgresWarrantStore
  | .addApproved document approval authority now =>
      (store.addApproved tables document approval authority now).2
  | .insert columns updatedAt => insertRow store (newRecord columns updatedAt)
  | .publish incidentId snapshot now => store.publish incidentId snapshot now
  | .claimWarrant warrantId clock validator =>
      (store.claimWarrant tables codec warrantId clock validator).2
  | .finish warrantId result clock => (store.finish warrantId result clock).2

def operations (tables : UnicodeTables) (codec : Codec) :
    Machine PostgresWarrantStore Operation Empty :=
  ⟨fun store operation => (perform tables codec store operation, [])⟩

section Reachable

variable {tables : UnicodeTables} {codec : Codec} {resultJson : BrokerResult → Bytes}

def AllConsistent (resultJson : BrokerResult → Bytes) (store : PostgresWarrantStore) : Prop :=
  ∀ warrantId record, store.warrants warrantId = some record → Consistent (rowOf resultJson record)

/-- The guard admits the updates of the store. -/
theorem rewrites_admitted {record next : WarrantRecord}
    (consistent : Consistent (rowOf resultJson record)) (rewrites : Rewrites record next) :
    guardUpdate (rowOf resultJson record) (rowOf resultJson next) = .ok (rowOf resultJson next) := by
  cases rewrites with
  | close final now approved =>
      have state : (rowOf resultJson record).state = "APPROVED" := by simp [rowOf, stateValue, approved]
      obtain ⟨claimed, consumed⟩ := consistent.approved state
      obtain ⟨result, finished⟩ := consistent.unfinished (Or.inl state)
      simp only [rowOf] at claimed consumed result finished
      rcases final with rfl | rfl
      · simp [guardUpdate, rowOf, WarrantRow.bindings, stateValue, approved, claimed, consumed,
          result, finished, require]
      · simp [guardUpdate, rowOf, WarrantRow.bindings, stateValue, approved, claimed, consumed,
          result, finished, require]
  | claim now approved =>
      have state : (rowOf resultJson record).state = "APPROVED" := by simp [rowOf, stateValue, approved]
      obtain ⟨result, finished⟩ := consistent.unfinished (Or.inl state)
      simp only [rowOf] at result finished
      simp [guardUpdate, rowOf, WarrantRow.bindings, stateValue, approved, result, finished, require]
  | finish result now consuming =>
      simp [guardUpdate, rowOf, WarrantRow.bindings, stateValue, consuming, require]

theorem warrants_put (store : PostgresWarrantStore) (warrantId other : String)
    (record : WarrantRecord) :
    (store.put warrantId record).warrants other =
      if other = warrantId then some record else store.warrants other :=
  Function.update_apply _ _ _ _

theorem consistent_put {store : PostgresWarrantStore} {warrantId : String} {record : WarrantRecord}
    (consistent : AllConsistent resultJson store) (row : Consistent (rowOf resultJson record)) :
    AllConsistent resultJson (store.put warrantId record) := by
  intro other found present
  rw [warrants_put] at present
  split at present
  · rw [Option.some.injEq] at present
    exact present ▸ row
  · exact consistent other found present

theorem consistent_updates {store next : PostgresWarrantStore}
    (consistent : AllConsistent resultJson store) (updates : Updates store next) :
    AllConsistent resultJson next := by
  cases updates with
  | nothing => exact consistent
  | row found rewrites =>
      have admitted := rewrites_admitted (consistent _ _ found) rewrites
      exact consistent_put consistent (guardUpdate_eq_ok admitted).2.consistent

theorem newRecord_consistent (columns : Bindings) (updatedAt : Instant) :
    Consistent (rowOf resultJson (newRecord columns updatedAt)) :=
  ⟨fun _ => ⟨rfl, rfl⟩, fun _ => ⟨rfl, rfl⟩⟩

theorem perform_consistent {store : PostgresWarrantStore}
    (consistent : AllConsistent resultJson store) (operation : Operation) :
    AllConsistent resultJson (perform tables codec store operation) := by
  cases operation with
  | addApproved document approval authority now =>
      simp only [perform, PostgresWarrantStore.addApproved]
      split
      · rename_i next added
        simp only [bind_eq_ok, Except.ok.injEq] at added
        obtain ⟨_, _, snapshot, _, documentJson, _, approvalJson, _, _, _, rfl⟩ := added
        exact consistent_put consistent (newRecord_consistent ⟨_, _, _, _, _, _, _⟩ now)
      · exact consistent
  | insert columns updatedAt =>
      simp only [perform, insertRow]
      split
      · exact consistent_put consistent (newRecord_consistent columns updatedAt)
      · exact consistent
  | publish incidentId snapshot now => exact consistent
  | claimWarrant warrantId clock validator =>
      exact consistent_updates consistent (claim_updates tables codec store warrantId validator clock)
  | finish warrantId result clock =>
      exact consistent_updates consistent (finish_updates store warrantId result clock)

theorem insertion_kept {store : PostgresWarrantStore} {warrantId other : String}
    {inserted record : WarrantRecord} (fresh : store.warrants warrantId = none)
    (found : store.warrants other = some record) :
    (store.put warrantId inserted).warrants other = some record := by
  rw [warrants_put, if_neg]
  · exact found
  · rintro rfl
    rw [fresh] at found
    cases found

theorem updates_row {store next : PostgresWarrantStore} {warrantId : String}
    {record later : WarrantRecord} (updates : Updates store next)
    (found : store.warrants warrantId = some record)
    (present : next.warrants warrantId = some later) : later = record ∨ Rewrites record later := by
  cases updates with
  | nothing =>
      rw [found, Option.some.injEq] at present
      exact Or.inl present.symm
  | @row changed old new old_found rewrites =>
      rw [warrants_put] at present
      split at present
      · rename_i same
        rw [same, old_found, Option.some.injEq] at found
        rw [Option.some.injEq] at present
        exact Or.inr (found ▸ present ▸ rewrites)
      · rw [found, Option.some.injEq] at present
        exact Or.inl present.symm

/-- An operation leaves a row alone or sends one of the updates. -/
theorem perform_row {store : PostgresWarrantStore} {operation : Operation} {warrantId : String}
    {record next : WarrantRecord} (found : store.warrants warrantId = some record)
    (present : (perform tables codec store operation).warrants warrantId = some next) :
    next = record ∨ Rewrites record next := by
  cases operation with
  | addApproved document approval authority now =>
      simp only [perform, PostgresWarrantStore.addApproved] at present
      split at present
      · rename_i added
        simp only [bind_eq_ok, require_eq_ok, Except.ok.injEq] at added
        obtain ⟨_, _, snapshot, _, documentJson, _, approvalJson, _, _, fresh, rfl⟩ := added
        exact Or.inl (Option.some.inj (present.symm.trans (insertion_kept fresh.1 found)))
      · rw [found, Option.some.injEq] at present
        exact Or.inl present.symm
  | insert columns updatedAt =>
      simp only [perform, insertRow] at present
      split at present
      · rename_i fresh
        exact Or.inl (Option.some.inj (present.symm.trans (insertion_kept fresh.1 found)))
      · rw [found, Option.some.injEq] at present
        exact Or.inl present.symm
  | publish incidentId snapshot now =>
      exact Or.inl (Option.some.inj (present.symm.trans found))
  | claimWarrant id clock validator =>
      exact updates_row (claim_updates tables codec store id validator clock) found present
  | finish id result clock =>
      exact updates_row (finish_updates store id result clock) found present

theorem run_consistent (history : List Operation) :
    AllConsistent resultJson ((operations tables codec).run .empty history) := by
  refine (operations tables codec).run_invariant (AllConsistent resultJson)
    (fun store operation consistent => perform_consistent consistent operation) ?_ history
  intro warrantId record present
  cases present

end Reachable

/-- The guard admits every update that a claim or a finish sends from a reachable row.
Whatever statements it admits, an inserted row is never deleted by a runtime role, its
bindings never change, its state moves one way, and a filled column keeps its value. -/
theorem guard_agrees :
    (∀ tables codec resultJson history operation warrantId record next,
      ((operations tables codec).run .empty history).warrants warrantId = some record →
      (perform tables codec ((operations tables codec).run .empty history) operation).warrants
        warrantId = some next →
      (rowOf resultJson next = rowOf resultJson record ∨
        ∀ owner, guardWarrantMutation owner (rowOf resultJson record)
          (.update (rowOf resultJson next)) = .ok (some (rowOf resultJson next)))) ∧
    ∀ owner row before statement after, Inserted row →
      (∀ sent ∈ before ++ statement :: after, Foreign owner sent) →
      ∃ early middle late,
        (guarded owner).run (some row) before = some early ∧
        (guarded owner).run (some row) (before ++ [statement]) = some middle ∧
        (guarded owner).run (some row) (before ++ statement :: after) = some late ∧
        late.bindings = row.bindings ∧
        (middle.state = early.state ∨ Advances early.state middle.state) ∧ Keeps early late := by
  constructor
  · intro tables codec resultJson history operation warrantId record next found present
    rcases perform_row found present with rfl | rewrites
    · exact Or.inl rfl
    · right
      intro owner
      have consistent := @run_consistent tables codec resultJson history warrantId record found
      rw [guardWarrantMutation, rewrites_admitted consistent rewrites, ok_bind]
  · intro owner row before statement after inserted foreign
    rw [List.forall_mem_append, List.forall_mem_cons] at foreign
    obtain ⟨early, reached, consistent, bindings, _⟩ :=
      guarded_run inserted.consistent foreign.1
    obtain ⟨middle, stepped, moved⟩ := @guarded_next owner early statement foreign.2.1
    have rest : ∀ sent ∈ statement :: after, Foreign owner sent :=
      List.forall_mem_cons.mpr foreign.2
    obtain ⟨late, finished, _, lateBindings, keeps⟩ := guarded_run consistent rest
    refine ⟨early, middle, late, reached, ?_, ?_, lateBindings.trans bindings, ?_, keeps⟩
    · rw [Machine.run_append, reached, Machine.run_cons, stepped, Machine.run_nil]
    · rw [Machine.run_append, reached, finished]
    · rcases moved with rfl | admitted
      · exact Or.inl rfl
      · exact Or.inr admitted.advances

end CrossPatch.Broker.Guard
