import CrossPatch.Broker.Claim

/-!
# Tamper evidence of an accepted claim

Once a claim is acceptable, changing one of the things it binds makes it
unacceptable for as long as the change stays in place.  The only way around this
is a SHA-256 collision among the messages that the two validations hash; the
theorem exhibits such a pair.
-/

namespace CrossPatch.Broker.Binding

open CrossPatch.Broker.Approval CrossPatch.Broker.Claim CrossPatch.Broker.Paths
open CrossPatch.Broker.Warrant
open CrossPatch.Domain.Failure CrossPatch.Domain.Hashing CrossPatch.Domain.Text
open CrossPatch.Library CrossPatch.Library.Attempt CrossPatch.Library.Calendar
open CrossPatch.Library.JsonText CrossPatch.Library.Octets CrossPatch.Library.Sha256
open CrossPatch.Runner.Catalog

/-- The reviewed material and the configuration that a claim compares. -/
structure ClaimInputs where
  document : WarrantDocument
  approval : WarrantApproval
  authority : AuthoritySnapshot
  config : BrokerConfig

def ClaimInputs.Accepted (inputs : ClaimInputs) (environment : Environment) (now : Instant) :
    Prop :=
  validateClaim environment inputs.config inputs.document inputs.approval now inputs.authority =
    .ok inputs.authority

/-- One change of what was reviewed.  A new approval time together with a new
tag is a new approval rather than a change of one thing. -/
inductive SingleChange (tables : UnicodeTables) (before : ClaimInputs) : ClaimInputs → Prop where
  | document (document : WarrantDocument) (changed : document ≠ before.document) :
      SingleChange tables before { before with document := document }
  | approval (approval : WarrantApproval) (changed : approval ≠ before.approval)
      (single : approval.approvedAt = before.approval.approvedAt ∨
        approval.macSha256 = before.approval.macSha256) :
      SingleChange tables before { before with approval := approval }
  | authority (authority : AuthoritySnapshot)
      (changed : authorityFields authority ≠ authorityFields before.authority ∨
        authority.allowedPaths.map tables.nfc ≠
          before.authority.allowedPaths.map tables.nfc) :
      SingleChange tables before { before with authority := authority }
  | runnerDigest (digest : String) (changed : digest ≠ before.config.runnerDigest) :
      SingleChange tables before
        { before with config := { before.config with runnerDigest := digest } }
  | environmentDigest (digest : String) (changed : digest ≠ before.config.environmentDigest) :
      SingleChange tables before
        { before with config := { before.config with environmentDigest := digest } }
  | catalog (catalog : ExecutionCatalog) (bound : BoundExecutionPlan)
      (member : bound ∈ before.document.executionPlans)
      (changed : catalog.resolve bound.planId ≠ before.config.catalog.resolve bound.planId) :
      SingleChange tables before
        { before with config := { before.config with catalog := catalog } }
  | approvalKey (approvals : ApprovalService)
      (changed : ∀ key key', before.config.approvals.key before.approval.macKeyId = .ok key →
        approvals.key before.approval.macKeyId = .ok key' → hmacBlock key ≠ hmacBlock key') :
      SingleChange tables before
        { before with config := { before.config with approvals := approvals } }

/-! ## The messages that a validation hashes -/

def catalogMessages (inputs : ClaimInputs) : List Bytes :=
  inputs.document.executionPlans.flatMap fun bound =>
    (inputs.config.catalog.resolve bound.planId).toOption.toList.map (·.canonical)

def macMessages (tables : UnicodeTables) (inputs : ClaimInputs) : List Bytes :=
  match inputs.config.approvals.key inputs.approval.macKeyId,
      macInput tables inputs.document inputs.approval with
  | .ok key, .ok input => [innerMessage key input, outerMessage key input]
  | _, _ => []

def claimMessages (tables : UnicodeTables) (inputs : ClaimInputs) : List Bytes :=
  planMessages inputs.document ++ catalogMessages inputs ++
    (canonicalWarrantBytes tables inputs.document).toOption.toList ++ macMessages tables inputs

/-- Two distinct messages of the list have one digest. -/
def Collides (messages : List Bytes) : Prop :=
  ∃ left ∈ messages, ∃ right ∈ messages, left ≠ right ∧ sha256 left = sha256 right

theorem collisionFree_of_not_collides {messages : List Bytes} (none : ¬ Collides messages) :
    CollisionFree messages := by
  intro left inLeft right inRight equal
  by_contra different
  exact none ⟨left, inLeft, right, inRight, different, equal⟩

section Accepted

variable {tables : UnicodeTables} {files : FileSystem} {inputs : ClaimInputs} {now : Instant}

theorem Accepted.bindings (accepted : inputs.Accepted ⟨tables, files⟩ now) :
    ClaimBindings ⟨tables, files⟩ inputs.config inputs.document inputs.approval now
      inputs.authority :=
  (validateClaim_eq_ok accepted).2

theorem mem_claimMessages_canonical {bytes : Bytes}
    (canonical : canonicalWarrantBytes tables inputs.document = .ok bytes) :
    bytes ∈ claimMessages tables inputs := by
  simp [claimMessages, canonical, Except.toOption]

theorem mem_claimMessages_plan {bound : BoundExecutionPlan}
    (member : bound ∈ inputs.document.executionPlans) :
    bound.asExecutionPlan.canonical ∈ claimMessages tables inputs := by
  have listed : bound.asExecutionPlan.canonical ∈ planMessages inputs.document :=
    List.mem_map_of_mem member
  simp [claimMessages, listed]

theorem mem_claimMessages_catalog {bound : BoundExecutionPlan} {plan : ExecutionPlan}
    (member : bound ∈ inputs.document.executionPlans)
    (resolved : inputs.config.catalog.resolve bound.planId = .ok plan) :
    plan.canonical ∈ claimMessages tables inputs := by
  have listed : plan.canonical ∈ catalogMessages inputs := by
    refine List.mem_flatMap.mpr ⟨bound, member, ?_⟩
    rw [resolved]
    simp [Except.toOption]
  simp [claimMessages, listed]

theorem mem_claimMessages_mac {key bytes : Bytes}
    (keyFound : inputs.config.approvals.key inputs.approval.macKeyId = .ok key)
    (canonical : canonicalWarrantBytes tables inputs.document = .ok bytes) :
    innerMessage key (approvalDomain ++ utf8 (macMetadata inputs.approval) ++ bytes) ∈
        claimMessages tables inputs ∧
      outerMessage key (approvalDomain ++ utf8 (macMetadata inputs.approval) ++ bytes) ∈
        claimMessages tables inputs := by
  have input : macInput tables inputs.document inputs.approval =
      .ok (approvalDomain ++ utf8 (macMetadata inputs.approval) ++ bytes) :=
    macInput_eq_ok.mpr ⟨bytes, canonical, rfl⟩
  have listed : macMessages tables inputs =
      [innerMessage key (approvalDomain ++ utf8 (macMetadata inputs.approval) ++ bytes),
       outerMessage key (approvalDomain ++ utf8 (macMetadata inputs.approval) ++ bytes)] := by
    rw [macMessages, keyFound, input]
  rw [claimMessages, listed]
  simp

end Accepted

/-! ## No change goes unnoticed -/

section Changes

variable {tables : UnicodeTables} {files files' : FileSystem} {before after : ClaimInputs}
  {now now' : Instant}

/-- The approval pins the document: under one approval, both documents have the
same canonical bytes, hence the same fields. -/
theorem document_unchanged
    (free : CollisionFree (claimMessages tables before ++ claimMessages tables after))
    (accepted : before.Accepted ⟨tables, files⟩ now)
    (accepted' : after.Accepted ⟨tables, files'⟩ now')
    (approval : after.approval = before.approval) : after.document = before.document := by
  have bindings := Accepted.bindings accepted
  have bindings' := Accepted.bindings accepted'
  obtain ⟨_, bytes, verified⟩ := bindings.verified
  obtain ⟨_, bytes', verified'⟩ := bindings'.verified
  obtain ⟨patch, integrity, _⟩ := bindings.patch
  obtain ⟨patch', integrity', _⟩ := bindings'.patch
  have hashes : hexdigest bytes' = hexdigest bytes := by
    rw [← verified'.warrantSha256, approval, verified.warrantSha256]
  have sameBytes : bytes' = bytes := free.hexdigest
    (List.mem_append_right _ (mem_claimMessages_canonical verified'.canonical))
    (List.mem_append_left _ (mem_claimMessages_canonical verified.canonical)) hashes
  have canonical : SameCanonical tables after.document.json before.document.json :=
    SameCanonical.ofBytes verified'.canonical (sameBytes ▸ verified.canonical)
  apply WarrantDocument.eq_of_canonical free canonical integrity' integrity
  · intro message member
    obtain ⟨bound, inside, rfl⟩ := List.mem_map.mp member
    exact List.mem_append_right _ (mem_claimMessages_plan inside)
  · intro message member
    obtain ⟨bound, inside, rfl⟩ := List.mem_map.mp member
    exact List.mem_append_left _ (mem_claimMessages_plan inside)
  · exact verified'.approverAscii
  · exact verified.approverAscii
  · exact fun path member => tables.nfc_of_nfkc path (bindings'.pathsNormal path member)
  · exact fun path member => tables.nfc_of_nfkc path (bindings.pathsNormal path member)

/-- The tag pins the approval time. -/
theorem approvedAt_of_macMetadata {left right : WarrantApproval}
    (same : macMetadata left = macMetadata right)
    (digests : left.warrantSha256 = right.warrantSha256)
    (identities : left.approverIdentity = right.approverIdentity) :
    left.approvedAt = right.approvedAt := by
  have characters := congrArg String.toList same
  simp only [macMetadata, digests, identities, String.toList_append, String.toList_ofList,
    List.append_assoc, List.append_cancel_left_eq] at characters
  exact isoText_injective (List.append_inj_left characters
    (by rw [length_isoText, length_isoText]))

/-- Two accepted approvals of one document under one key agree unless both the
time and the tag differ. -/
theorem approval_unchanged
    (free : CollisionFree (claimMessages tables before ++ claimMessages tables after))
    (accepted : before.Accepted ⟨tables, files⟩ now)
    (accepted' : after.Accepted ⟨tables, files'⟩ now')
    (document : after.document = before.document)
    (approvals : after.config.approvals = before.config.approvals)
    (single : after.approval.approvedAt = before.approval.approvedAt ∨
      after.approval.macSha256 = before.approval.macSha256) :
    after.approval = before.approval := by
  obtain ⟨key, bytes, verified⟩ := (Accepted.bindings accepted).verified
  obtain ⟨key', bytes', verified'⟩ := (Accepted.bindings accepted').verified
  have sameBytes : bytes' = bytes := by
    have canonical := verified'.canonical
    rw [document, verified.canonical] at canonical
    cases canonical
    rfl
  have keyIds : after.approval.macKeyId = before.approval.macKeyId := by
    rw [verified'.macKeyId, verified.macKeyId, document]
  have sameKey : key' = key := by
    have found := verified'.keyFound
    rw [keyIds, approvals, verified.keyFound] at found
    cases found
    rfl
  have digests : after.approval.warrantSha256 = before.approval.warrantSha256 := by
    rw [verified'.warrantSha256, verified.warrantSha256, sameBytes]
  have identities : after.approval.approverIdentity = before.approval.approverIdentity := by
    rw [verified'.approverIdentity, verified.approverIdentity, document]
  have times : after.approval.approvedAt = before.approval.approvedAt := by
    rcases single with time | tag
    · exact time
    · have inner := mem_claimMessages_mac verified.keyFound verified.canonical
      have inner' := mem_claimMessages_mac verified'.keyFound verified'.canonical
      have tags := verified'.mac.trans (tag.trans verified.mac.symm)
      obtain ⟨_, messages⟩ := hmacHexdigest_inj free (List.mem_append_right _ inner'.1)
        (List.mem_append_left _ inner.1) (List.mem_append_right _ inner'.2)
        (List.mem_append_left _ inner.2) tags
      rw [sameBytes] at messages
      have metadata := List.append_cancel_left (List.append_cancel_right messages)
      exact approvedAt_of_macMetadata (utf8_injective metadata) digests identities
  have metadata : macMetadata after.approval = macMetadata before.approval := by
    simp only [macMetadata, digests, identities, times, keyIds]
  have tags : after.approval.macSha256 = before.approval.macSha256 := by
    rw [← verified'.mac, ← verified.mac, sameKey, sameBytes, metadata]
  apply WarrantApproval.ext
  · rw [verified'.warrantId, verified.warrantId, document]
  · exact digests
  · exact identities
  · exact times
  · exact keyIds
  · exact tags

theorem authority_unchanged
    (accepted : before.Accepted ⟨tables, files⟩ now)
    (accepted' : after.Accepted ⟨tables, files'⟩ now')
    (document : after.document = before.document) :
    authorityFields after.authority = authorityFields before.authority ∧
      after.authority.allowedPaths.map tables.nfc =
        before.authority.allowedPaths.map tables.nfc := by
  have bindings := Accepted.bindings accepted
  have bindings' := Accepted.bindings accepted'
  constructor
  · rw [← bindings.fields, ← bindings'.fields, document]
  · have paths := bindings.allowedPaths
    have paths' := bindings'.allowedPaths
    rw [← paths, ← paths', document]

theorem catalog_unchanged
    (free : CollisionFree (claimMessages tables before ++ claimMessages tables after))
    (accepted : before.Accepted ⟨tables, files⟩ now)
    (accepted' : after.Accepted ⟨tables, files'⟩ now')
    (document : after.document = before.document) {bound : BoundExecutionPlan}
    (member : bound ∈ before.document.executionPlans) :
    after.config.catalog.resolve bound.planId = before.config.catalog.resolve bound.planId := by
  obtain ⟨plan, binding⟩ := (Accepted.bindings accepted).plans bound member
  obtain ⟨plan', binding'⟩ := (Accepted.bindings accepted').plans bound (document ▸ member)
  have listed : bound.asExecutionPlan.canonical ∈
      claimMessages tables before ++ claimMessages tables after :=
    List.mem_append_left _ (mem_claimMessages_plan member)
  have exact : bound.asExecutionPlan = plan := by
    apply binding.exact
    apply free.subset
    simp only [List.forall_mem_cons, List.not_mem_nil, false_imp_iff, implies_true, and_true]
    exact ⟨listed, List.mem_append_left _ (mem_claimMessages_catalog member binding.resolved)⟩
  have exact' : bound.asExecutionPlan = plan' := by
    apply binding'.exact
    apply free.subset
    simp only [List.forall_mem_cons, List.not_mem_nil, false_imp_iff, implies_true, and_true]
    exact ⟨listed, List.mem_append_right _
      (mem_claimMessages_catalog (document ▸ member) binding'.resolved)⟩
  rw [binding.resolved, binding'.resolved, ← exact, ← exact']

theorem approvalKey_unchanged
    (free : CollisionFree (claimMessages tables before ++ claimMessages tables after))
    (accepted : before.Accepted ⟨tables, files⟩ now)
    (accepted' : after.Accepted ⟨tables, files'⟩ now')
    (approval : after.approval = before.approval) :
    ∃ key key', before.config.approvals.key before.approval.macKeyId = .ok key ∧
      after.config.approvals.key before.approval.macKeyId = .ok key' ∧
        hmacBlock key = hmacBlock key' := by
  obtain ⟨key, bytes, verified⟩ := (Accepted.bindings accepted).verified
  obtain ⟨key', bytes', verified'⟩ := (Accepted.bindings accepted').verified
  have inner := mem_claimMessages_mac verified.keyFound verified.canonical
  have inner' := mem_claimMessages_mac verified'.keyFound verified'.canonical
  have tags := verified.mac.trans ((congrArg WarrantApproval.macSha256 approval.symm).trans
    verified'.mac.symm)
  obtain ⟨blocks, _⟩ := hmacHexdigest_inj free (List.mem_append_left _ inner.1)
    (List.mem_append_right _ inner'.1) (List.mem_append_left _ inner.2)
    (List.mem_append_right _ inner'.2) tags
  exact ⟨key, key', verified.keyFound, approval ▸ verified'.keyFound, blocks⟩

/-- After any single change the claim is refused, at any time and for any state
of the disk, unless the two validations exhibit a SHA-256 collision. -/
theorem change_refused (change : SingleChange tables before after)
    (accepted : before.Accepted ⟨tables, files⟩ now) :
    ¬ after.Accepted ⟨tables, files'⟩ now' ∨
      Collides (claimMessages tables before ++ claimMessages tables after) := by
  by_cases collision : Collides (claimMessages tables before ++ claimMessages tables after)
  · exact Or.inr collision
  · refine Or.inl fun accepted' => ?_
    have free := collisionFree_of_not_collides collision
    cases change with
    | document document changed =>
        exact changed (document_unchanged free accepted accepted' rfl)
    | approval approval changed single =>
        exact changed (approval_unchanged free accepted accepted' rfl rfl single)
    | authority authority changed =>
        obtain ⟨fields, paths⟩ := authority_unchanged accepted accepted' rfl
        rcases changed with differs | differs
        · exact differs fields
        · exact differs paths
    | runnerDigest digest changed =>
        have digests := (Accepted.bindings accepted).runnerDigest
        have digests' := (Accepted.bindings accepted').runnerDigest
        exact changed (digests'.symm.trans digests)
    | environmentDigest digest changed =>
        have digests := (Accepted.bindings accepted).environmentDigest
        have digests' := (Accepted.bindings accepted').environmentDigest
        exact changed (digests'.symm.trans digests)
    | catalog catalog bound member changed =>
        exact changed (catalog_unchanged free accepted accepted' rfl member)
    | approvalKey approvals changed =>
        obtain ⟨key, key', found, found', blocks⟩ :=
          approvalKey_unchanged free accepted accepted' rfl
        exact changed key key' found found' blocks

end Changes

end CrossPatch.Broker.Binding
