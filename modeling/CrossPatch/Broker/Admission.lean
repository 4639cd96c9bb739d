import CrossPatch.Broker.Binding
import CrossPatch.Broker.Lifecycle

/-!
# What a successful claim was admitted on

A claim of either store validates the material it read inside its own critical
section.  So a claim that succeeds binds the stored warrant, the stored approval
and the current authority to each other and to the broker, and a change to one of
them blocks every claim that reads the changed material.
-/

namespace CrossPatch.Broker.Admission

open CrossPatch.Broker.Approval CrossPatch.Broker.Binding CrossPatch.Broker.Claim
open CrossPatch.Broker.Lifecycle CrossPatch.Broker.Paths CrossPatch.Broker.Store
open CrossPatch.Broker.Warrant
open CrossPatch.Domain.Failure CrossPatch.Domain.Hashing CrossPatch.Domain.Text
open CrossPatch.Library.Attempt CrossPatch.Library.Calendar

/-- How a claim of a store reads its material: the clock, and the document, the
approval and the authority found for a warrant id. -/
structure Reader (store : WarrantStore) where
  clock : store.Context → Option Instant
  Reads : store.Store → String → store.Context → ClaimedWarrant → Prop

/-- A successful claim returns material that was read and that its validator
accepted at an unexpired time, and there is only one material to read. -/
structure Reader.Faithful {store : WarrantStore} (reader : Reader store) : Prop where
  admitted : ∀ current warrantId validator context claimed,
    (store.claimWarrant current warrantId validator context).1 = .ok (.claimed claimed) →
    ∃ now authority, reader.clock context = some now ∧
      reader.Reads current warrantId context ⟨claimed.document, claimed.approval, authority⟩ ∧
      now ≤ claimed.document.expiresAt ∧
      validator claimed.document claimed.approval now authority = .ok claimed.authority
  unique : ∀ current warrantId context first second,
    reader.Reads current warrantId context first →
      reader.Reads current warrantId context second → first = second

theorem settle_eq_consume {validated : Attempt AuthoritySnapshot} {authority : AuthoritySnapshot}
    (settled : settle validated = .ok (.consume authority)) : validated = .ok authority := by
  unfold settle at settled
  cases validated with
  | ok loaded =>
      cases settled
      rfl
  | error raised =>
      dsimp only at settled
      split at settled
      · cases settled
      · split at settled
        · cases settled
        · cases settled

/-! ## The in-memory store -/

namespace InMemory

/-- The record under the id, and what the loader answers for it. -/
def reader : Reader Lifecycle.InMemory.store where
  clock context := context.1
  Reads current warrantId context material :=
    ∃ record : StoredWarrant, InMemoryWarrantStore.records current warrantId = some record ∧
      record.document = material.document ∧ record.approval = material.approval ∧
      context.2 record.document.warrantId = .ok material.authority

theorem claim_admitted {current : InMemoryWarrantStore} {warrantId : String}
    {clock : Option Instant} {validator : ClaimValidator} {loader : AuthorityLoader}
    {claimed : ClaimedWarrant}
    (succeeded : (current.claimWarrant warrantId clock validator loader).1 =
      .ok (.claimed claimed)) :
    ∃ now authority record, clock = some now ∧ current.records warrantId = some record ∧
      record.document = claimed.document ∧ record.approval = claimed.approval ∧
      loader record.document.warrantId = .ok authority ∧ now ≤ claimed.document.expiresAt ∧
      validator claimed.document claimed.approval now authority = .ok claimed.authority := by
  unfold InMemoryWarrantStore.claimWarrant at succeeded
  cases found : current.records warrantId with
  | none =>
      rw [found] at succeeded
      cases succeeded
  | some record =>
      rw [found] at succeeded
      dsimp only at succeeded
      split at succeeded
      · cases succeeded
      · cases clock with
        | none => cases succeeded
        | some now =>
            dsimp only at succeeded
            split at succeeded
            · cases succeeded
            · rename_i unexpired
              split at succeeded
              · cases succeeded
              · cases succeeded
              · rename_i accepted settled
                cases succeeded
                obtain ⟨authority, loaded, validated⟩ := bind_eq_ok.mp (settle_eq_consume settled)
                exact ⟨now, authority, record, rfl, rfl, rfl, rfl, loaded, Int.not_lt.mp unexpired,
                  validated⟩

/-- A stored warrant that its validator accepts in time is claimed. -/
theorem claim_of_accepted {current : InMemoryWarrantStore} {warrantId : String}
    {document : WarrantDocument} {approval : WarrantApproval} {result : Option BrokerResult}
    {now : Instant} {validator : ClaimValidator} {loader : AuthorityLoader}
    {authority : AuthoritySnapshot}
    (found : current.records warrantId = some ⟨document, approval, .approved, result⟩)
    (unexpired : now ≤ document.expiresAt) (loaded : loader document.warrantId = .ok authority)
    (accepted : validator document approval now authority = .ok authority) :
    current.claimWarrant warrantId (some now) validator loader =
      (.ok (.claimed ⟨document, approval, authority⟩),
        current.put warrantId ⟨document, approval, .consuming, result⟩) := by
  have settled : settle (do
      let authority ← loader document.warrantId
      validator document approval now authority) = .ok (.consume authority) := by
    rw [loaded, ok_bind, accepted]
    rfl
  have intime : ¬ document.expiresAt < now := Int.not_lt.mpr unexpired
  rw [InMemoryWarrantStore.claimWarrant, found]
  dsimp only
  rw [if_neg (not_not_intro rfl), if_neg intime, settled]

theorem reader_faithful : reader.Faithful where
  admitted current warrantId validator context claimed succeeded := by
    obtain ⟨now, authority, record, clock, found, document, approval, loaded, unexpired,
      validated⟩ := claim_admitted succeeded
    exact ⟨now, authority, clock, ⟨record, found, document, approval, loaded⟩, unexpired, validated⟩
  unique current warrantId context first second := by
    rintro ⟨record, found, document, approval, loaded⟩ ⟨_, found', document', approval', loaded'⟩
    rw [found] at found'
    cases found'
    rw [loaded] at loaded'
    obtain ⟨firstDocument, firstApproval, firstAuthority⟩ := first
    obtain ⟨secondDocument, secondApproval, secondAuthority⟩ := second
    cases document
    cases approval
    cases document'
    cases approval'
    cases loaded'
    rfl

end InMemory

/-! ## The PostgreSQL store -/

namespace Postgres

/-- The parsed columns of the row, and the authority row of its incident.  The
stored bytes are the canonical bytes of what was parsed. -/
structure StoredMaterial (tables : UnicodeTables) (codec : Codec)
    (current : PostgresWarrantStore) (warrantId : String) (record : WarrantRecord)
    (row : MutationAuthorityRecord) (material : ClaimedWarrant) : Prop where
  found : current.warrants warrantId = some record
  parsed : PostgresWarrantStore.parseRecord tables codec record =
    .ok (material.document, material.approval)
  current : current.authorities record.incidentId = some row
  authority : parseAuthorityJson tables codec row.snapshotJson = .ok material.authority

def reader (tables : UnicodeTables) (codec : Codec) :
    Reader (Lifecycle.Postgres.store tables codec) where
  clock context := context
  Reads current warrantId _ material :=
    ∃ record row, StoredMaterial tables codec current warrantId record row material

section

variable {tables : UnicodeTables} {codec : Codec} {current : PostgresWarrantStore}
  {warrantId : String} {record : WarrantRecord} {row : MutationAuthorityRecord}
  {material : ClaimedWarrant}

theorem StoredMaterial.canonical
    (stored : StoredMaterial tables codec current warrantId record row material) :
    canonicalWarrantBytes tables material.document = .ok record.documentJson ∧
      canonicalApprovalBytes tables material.approval = .ok record.approvalJson ∧
        canonicalAuthorityBytes tables material.authority = .ok row.snapshotJson := by
  have parsed := stored.parsed
  have authority := stored.authority
  simp only [PostgresWarrantStore.parseRecord, parseWarrantJson, parseApprovalJson,
    parseAuthorityJson, bind_eq_ok, require_eq_ok, Except.ok.injEq] at parsed authority
  obtain ⟨document, ⟨_, _, _, documentBytes, _, rfl, rfl⟩, approval,
    ⟨_, _, _, approvalBytes, _, rfl, rfl⟩, same⟩ := parsed
  obtain ⟨_, _, _, authorityBytes, _, rfl, rfl⟩ := authority
  cases same
  exact ⟨documentBytes, approvalBytes, authorityBytes⟩

theorem claim_admitted {clock : Option Instant} {validator : ClaimValidator}
    {claimed : ClaimedWarrant}
    (succeeded : (current.claimWarrant tables codec warrantId clock validator).1 =
      .ok (.claimed claimed)) :
    ∃ now authority record row, clock = some now ∧
      StoredMaterial tables codec current warrantId record row
        ⟨claimed.document, claimed.approval, authority⟩ ∧
      now ≤ claimed.document.expiresAt ∧
      validator claimed.document claimed.approval now authority = .ok claimed.authority := by
  unfold PostgresWarrantStore.claimWarrant at succeeded
  cases found : current.warrants warrantId with
  | none =>
      rw [found] at succeeded
      cases succeeded
  | some record =>
      rw [found] at succeeded
      dsimp only at succeeded
      split at succeeded
      · cases succeeded
      · cases clock with
        | none => cases succeeded
        | some now =>
            dsimp only [PostgresWarrantStore.databaseNow] at succeeded
            split at succeeded
            · split at succeeded <;> cases succeeded
            · rename_i document approval parsed
              split at succeeded
              · cases succeeded
              · split at succeeded
                · cases succeeded
                · rename_i unexpired
                  split at succeeded
                  · cases succeeded
                  · rename_i row present
                    split at succeeded
                    · cases succeeded
                    · cases succeeded
                    · rename_i accepted settled
                      cases succeeded
                      obtain ⟨authority, loaded, validated⟩ :=
                        bind_eq_ok.mp (settle_eq_consume settled)
                      exact ⟨now, authority, record, row, rfl, ⟨found, parsed, present, loaded⟩,
                        Int.not_lt.mp fun late => unexpired (Or.inr late), validated⟩

/-- Conversely, an approved row whose material the validator accepts is claimed. -/
theorem claim_accepts
    (stored : StoredMaterial tables codec current warrantId record row material)
    (approved : record.state = .approved)
    (bound : PostgresWarrantStore.bindingsMatch record material.document = true) {now : Instant}
    (unexpired : now ≤ material.document.expiresAt) {validator : ClaimValidator}
    {validated : AuthoritySnapshot}
    (accepted : validator material.document material.approval now material.authority =
      .ok validated) :
    current.claimWarrant tables codec warrantId (some now) validator =
      (.ok (.claimed ⟨material.document, material.approval, validated⟩),
        current.put warrantId
          { record with
            state := .consuming
            claimedAt := some now
            nonceConsumedAt := some now
            updatedAt := now }) := by
  have expiry : record.expiresAt = material.document.expiresAt := by
    simp only [PostgresWarrantStore.bindingsMatch, Bool.and_eq_true, beq_iff_eq] at bound
    exact bound.2
  have timely : ¬ (record.expiresAt < now ∨ material.document.expiresAt < now) := by
    rw [expiry, or_self]
    exact Int.not_lt.mpr unexpired
  have settled : settle (do
      let authority ← parseAuthorityJson tables codec row.snapshotJson
      validator material.document material.approval now authority) = .ok (.consume validated) := by
    rw [stored.authority, ok_bind, accepted]
    rfl
  simp only [PostgresWarrantStore.claimWarrant, stored.found, approved, ne_eq, not_true_eq_false,
    if_false, PostgresWarrantStore.databaseNow, stored.parsed, bound, Bool.true_eq_false, timely,
    stored.current, settled]

theorem reader_faithful (tables : UnicodeTables) (codec : Codec) :
    (reader tables codec).Faithful where
  admitted current warrantId validator clock claimed succeeded := by
    obtain ⟨now, authority, record, row, reading, stored, unexpired, validated⟩ :=
      claim_admitted succeeded
    exact ⟨now, authority, reading, ⟨record, row, stored⟩, unexpired, validated⟩
  unique current warrantId clock first second := by
    rintro ⟨record, row, stored⟩ ⟨record', row', stored'⟩
    have records := stored.found.symm.trans stored'.found
    cases records
    have rows := stored.current.symm.trans stored'.current
    cases rows
    have parsed := stored.parsed.symm.trans stored'.parsed
    have authorities := stored.authority.symm.trans stored'.authority
    obtain ⟨document, approval, authority⟩ := first
    obtain ⟨document', approval', authority'⟩ := second
    cases parsed
    cases authorities
    rfl

end

end Postgres

/-! ## Claims bind what was reviewed -/

/-- Everything a claim of this store binds, and what follows for later changes. -/
structure BindsReview (tables : UnicodeTables) {store : WarrantStore} (reader : Reader store) :
    Prop where
  bindings : ∀ files config current warrantId context claimed,
    (store.claimWarrant current warrantId (validateClaim ⟨tables, files⟩ config) context).1 =
      .ok (.claimed claimed) →
    ∃ now, reader.clock context = some now ∧ now ≤ claimed.document.expiresAt ∧
      reader.Reads current warrantId context claimed ∧
      ClaimBindings ⟨tables, files⟩ config claimed.document claimed.approval now claimed.authority
  refusal : ∀ files files' (before after : ClaimInputs) now current warrantId context,
    before.Accepted ⟨tables, files⟩ now → SingleChange tables before after →
    reader.Reads current warrantId context ⟨after.document, after.approval, after.authority⟩ →
    (∀ claimed, (store.claimWarrant current warrantId
      (validateClaim ⟨tables, files'⟩ after.config) context).1 ≠ .ok (.claimed claimed)) ∨
    Collides (claimMessages tables before ++ claimMessages tables after)

theorem bindsReview_of_faithful (tables : UnicodeTables) {store : WarrantStore}
    {reader : Reader store} (faithful : reader.Faithful) : BindsReview tables reader where
  bindings files config current warrantId context claimed succeeded := by
    obtain ⟨now, authority, reading, reads, unexpired, validated⟩ :=
      faithful.admitted current warrantId _ context claimed succeeded
    obtain ⟨same, bindings⟩ := validateClaim_eq_ok validated
    subst same
    exact ⟨now, reading, unexpired, reads, bindings⟩
  refusal files files' before after now current warrantId context accepted change reads := by
    by_cases collision : Collides (claimMessages tables before ++ claimMessages tables after)
    · exact Or.inr collision
    · refine Or.inl fun claimed succeeded => ?_
      obtain ⟨later, authority, _, readsLater, _, validated⟩ :=
        faithful.admitted current warrantId _ context claimed succeeded
      have material := faithful.unique current warrantId context _ _ readsLater reads
      obtain ⟨same, _⟩ := validateClaim_eq_ok validated
      simp only [ClaimedWarrant.mk.injEq] at material
      obtain ⟨document, approval, rfl⟩ := material
      have accepted' : after.Accepted ⟨tables, files'⟩ later := by
        rw [ClaimInputs.Accepted, ← document, ← approval, validated, same]
      rcases change_refused change accepted with refused | collides
      · exact refused accepted'
      · exact collision collides

/-- In both stores a successful claim binds the stored warrant, its approval, the
current authority and the broker's configuration, and after a change to one of them
no claim that reads the change succeeds, short of a SHA-256 collision.  What the
database stores are the canonical bytes of what its claims read. -/
theorem claim_binds_review (tables : UnicodeTables) (codec : Codec) :
    BindsReview tables InMemory.reader ∧ BindsReview tables (Postgres.reader tables codec) ∧
      ∀ current warrantId record row material,
        Postgres.StoredMaterial tables codec current warrantId record row material →
        canonicalWarrantBytes tables material.document = .ok record.documentJson ∧
          canonicalApprovalBytes tables material.approval = .ok record.approvalJson ∧
            canonicalAuthorityBytes tables material.authority = .ok row.snapshotJson :=
  ⟨bindsReview_of_faithful tables InMemory.reader_faithful,
   bindsReview_of_faithful tables (Postgres.reader_faithful tables codec),
   fun _ _ _ _ _ stored => stored.canonical⟩

end CrossPatch.Broker.Admission
