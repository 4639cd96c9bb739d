import CrossPatch.Broker.Claim

/-!
# Authenticity of approvals

The authenticated message is a record of lines in front of the canonical document.
The approver identity may hold any text, line breaks included; the other lines and
the document are on one line each, so the message still determines every field.
Assuming that tags are not forged, an approval verifies only if it was issued for a
document with the same canonical bytes.
-/

namespace CrossPatch.Broker.Authenticity

open CrossPatch.Broker.Approval CrossPatch.Broker.Claim CrossPatch.Broker.Warrant
open CrossPatch.Domain.Failure CrossPatch.Domain.Hashing CrossPatch.Domain.Text
open CrossPatch.Library CrossPatch.Library.Attempt CrossPatch.Library.Calendar
open CrossPatch.Library.JsonText CrossPatch.Library.Octets CrossPatch.Library.Sha256

/-! ## Framing -/

/-- The last line of a text is what follows its last line break. -/
theorem lastLine_inj {left right line line' : List Char} (single : '\n' ∉ line)
    (single' : '\n' ∉ line') (same : left ++ '\n' :: line = right ++ '\n' :: line') :
    left = right ∧ line = line' := by
  rcases List.append_eq_append_iff.mp same with ⟨between, rfl, rest⟩ | ⟨between, rfl, rest⟩
  · cases between with
    | nil => simpa using rest
    | cons head tail =>
        have inside : line = tail ++ '\n' :: line' := (List.cons.inj rest).2
        exact absurd (by rw [inside]; simp) single
  · cases between with
    | nil => simpa [eq_comm] using rest
    | cons head tail =>
        have inside : line' = tail ++ '\n' :: line := (List.cons.inj rest).2
        exact absurd (by rw [inside]; simp) single'

theorem identifier_no_newline {text : String} (identifier : isIdentifier text = true) :
    '\n' ∉ text.toList := by
  intro member
  unfold isIdentifier at identifier
  cases characters : text.toList with
  | nil => rw [characters] at member; cases member
  | cons head tail =>
      rw [characters] at identifier member
      simp only [Bool.and_eq_true, List.all_eq_true] at identifier
      rcases List.mem_cons.mp member with first | inside
      · exact absurd (first ▸ identifier.1.1) (by decide)
      · exact absurd (identifier.1.2 _ inside) (by decide)

/-- The comparisons of `verify` before the tag. -/
structure Compared (tables : UnicodeTables) (document : WarrantDocument)
    (approval : WarrantApproval) (bytes : Bytes) : Prop where
  canonical : canonicalWarrantBytes tables document = .ok bytes
  warrantId : compareDigest approval.warrantId document.warrantId = .ok true
  warrantSha256 : compareDigest approval.warrantSha256 (hexdigest bytes) = .ok true
  approverIdentity : compareDigest approval.approverIdentity document.approverIdentity = .ok true
  macKeyId : compareDigest approval.macKeyId document.approvalMacKeyId = .ok true

section Framing

variable {tables : UnicodeTables} {document document' : WarrantDocument}
  {approval approval' : WarrantApproval} {bytes bytes' : Bytes}

theorem Compared.warrantSha256_eq (compared : Compared tables document approval bytes) :
    approval.warrantSha256 = hexdigest bytes :=
  (compareDigest_eq_ok_true.mp compared.warrantSha256).2

theorem Compared.macKeyId_line (compared : Compared tables document approval bytes) :
    '\n' ∉ approval.macKeyId.toList := by
  rw [(compareDigest_eq_ok_true.mp compared.macKeyId).2]
  refine identifier_no_newline (document.spec.identifiers _ ?_)
  simp [WarrantFields.identifiers]

/-- The canonical document is one line of text. -/
theorem canonical_line (canonical : canonicalWarrantBytes tables document = .ok bytes) :
    ∃ line, bytes = utf8 (String.ofList line) ∧ '\n' ∉ line := by
  obtain ⟨normalized, _, written⟩ := bind_eq_ok.mp canonical
  cases written
  exact ⟨write normalized, rfl, write_no_newline normalized⟩

/-- The fields that the authenticated message determines. -/
structure SameMessage (approval approval' : WarrantApproval) (bytes bytes' : Bytes) : Prop where
  document : bytes = bytes'
  warrantSha256 : approval.warrantSha256 = approval'.warrantSha256
  approverIdentity : approval.approverIdentity = approval'.approverIdentity
  approvedAt : approval.approvedAt = approval'.approvedAt
  macKeyId : approval.macKeyId = approval'.macKeyId

/-- The metadata as a record of four lines. -/
theorem macMetadata_toList (approval : WarrantApproval) (line : List Char) :
    (macMetadata approval).toList ++ line =
      approval.warrantSha256.toList ++ ('\n' :: (approval.approverIdentity.toList ++ '\n' ::
        (isoText approval.approvedAt ++ "+00:00".toList))) ++ '\n' :: approval.macKeyId.toList ++
          '\n' :: line := by
  simp [macMetadata]

theorem macInput_inj (first : Compared tables document approval bytes)
    (second : Compared tables document' approval' bytes') {input : Bytes}
    (message : macInput tables document approval = .ok input)
    (message' : macInput tables document' approval' = .ok input) :
    SameMessage approval approval' bytes bytes' := by
  obtain ⟨_, canonical, framed⟩ := macInput_eq_ok.mp message
  obtain ⟨_, canonical', framed'⟩ := macInput_eq_ok.mp message'
  rw [first.canonical, Except.ok.injEq] at canonical
  rw [second.canonical, Except.ok.injEq] at canonical'
  subst canonical canonical'
  obtain ⟨line, documentLine, single⟩ := canonical_line first.canonical
  obtain ⟨line', documentLine', single'⟩ := canonical_line second.canonical
  have texts : (macMetadata approval).toList ++ line = (macMetadata approval').toList ++ line' := by
    rw [← framed', List.append_assoc, List.append_assoc, List.append_cancel_left_eq, documentLine,
      documentLine', ← utf8_append, ← utf8_append] at framed
    have characters := congrArg String.toList (utf8_injective framed)
    simpa only [String.toList_append, String.toList_ofList] using characters
  rw [macMetadata_toList, macMetadata_toList] at texts
  -- from the end: the document, the key, and the fixed width of the time
  obtain ⟨metadata, lines⟩ := lastLine_inj single single' texts
  obtain ⟨named, keys⟩ := lastLine_inj first.macKeyId_line second.macKeyId_line metadata
  have digests : approval.warrantSha256 = approval'.warrantSha256 := by
    rw [first.warrantSha256_eq, second.warrantSha256_eq, documentLine, documentLine', lines]
  rw [digests, List.append_cancel_left_eq, List.cons.injEq] at named
  have widths : (isoText approval.approvedAt ++ "+00:00".toList).length =
      (isoText approval'.approvedAt ++ "+00:00".toList).length := by
    rw [List.length_append, List.length_append, length_isoText, length_isoText]
  obtain ⟨identities, times⟩ := List.append_inj' named.2 (congrArg Nat.succ widths)
  refine ⟨by rw [documentLine, documentLine', lines], digests, String.toList_inj.mp identities, ?_,
    String.toList_inj.mp keys⟩
  exact isoText_injective (List.append_cancel_right (List.cons.inj times).2)

end Framing

/-! ## Issued approvals -/

/-- One call of `approve` that returned an approval. -/
structure Issuance (tables : UnicodeTables) where
  service : ApprovalService
  document : WarrantDocument
  approvedAt : Instant
  approverIdentity : Option String
  approval : WarrantApproval
  issued : service.approve tables document approvedAt approverIdentity = .ok approval

/-- The tag of the approval is no forgery: if it is right for the message, the key and
the message are those of an issuance. -/
def Unforged {tables : UnicodeTables} (history : List (Issuance tables))
    (service : ApprovalService) (document : WarrantDocument) (approval : WarrantApproval) : Prop :=
  ∀ key input, service.key approval.macKeyId = .ok key →
    macInput tables document approval = .ok input →
    hmacHexdigest key input = approval.macSha256 →
    ∃ issuance ∈ history, issuance.service.key issuance.approval.macKeyId = .ok key ∧
      macInput tables issuance.document issuance.approval = .ok input

/-- The approval was issued under the key of the service, for a document with the same
canonical bytes. -/
def IssuedFor {tables : UnicodeTables} (history : List (Issuance tables))
    (service : ApprovalService) (document : WarrantDocument) (approval : WarrantApproval) : Prop :=
  ∃ issuance ∈ history, issuance.approval = approval ∧
    issuance.service.key approval.macKeyId = service.key approval.macKeyId ∧
    canonicalWarrantBytes tables issuance.document = canonicalWarrantBytes tables document

section Issued

variable {tables : UnicodeTables} {service : ApprovalService} {document : WarrantDocument}
  {approval : WarrantApproval} {key bytes : Bytes}

theorem Issuance.verifies (issuance : Issuance tables) :
    issuance.service.verify tables issuance.document issuance.approval = .ok true :=
  (approve_verifies issuance.issued).1

theorem compared_of_verified
    (verified : Verified tables service document approval key bytes) :
    Compared tables document approval bytes where
  canonical := verified.canonical
  warrantId := compareDigest_eq_ok_true.mpr
    ⟨verified.warrantId ▸ warrantId_ascii document, verified.warrantId⟩
  warrantSha256 := compareDigest_eq_ok_true.mpr
    ⟨verified.warrantSha256 ▸ hex_ascii _, verified.warrantSha256⟩
  approverIdentity := compareDigest_eq_ok_true.mpr
    ⟨verified.approverIdentity ▸ verified.approverAscii, verified.approverIdentity⟩
  macKeyId := compareDigest_eq_ok_true.mpr
    ⟨verified.macKeyId ▸ approvalMacKeyId_ascii document, verified.macKeyId⟩

/-- Documents with the same canonical bytes have the same identifiers. -/
theorem identifiers_of_canonical {document' : WarrantDocument}
    (canonical : canonicalWarrantBytes tables document = .ok bytes)
    (canonical' : canonicalWarrantBytes tables document' = .ok bytes) :
    document.warrantId = document'.warrantId ∧
      document.approvalMacKeyId = document'.approvalMacKeyId := by
  have same : SameCanonical tables document.json document'.json :=
    SameCanonical.ofBytes canonical canonical'
  constructor
  · refine (same.member "warrant_id" ?_ ?_).ascii (warrantId_ascii _) (warrantId_ascii _)
    · simp [WarrantFields.members]
    · simp [WarrantFields.members]
  · refine (same.member "approval_mac_key_id" ?_ ?_).ascii (approvalMacKeyId_ascii _)
      (approvalMacKeyId_ascii _)
    · simp [WarrantFields.members]
    · simp [WarrantFields.members]

theorem issuedFor_of_verified {history : List (Issuance tables)}
    (verified : Verified tables service document approval key bytes)
    (unforged : Unforged history service document approval) :
    IssuedFor history service document approval := by
  have message : macInput tables document approval =
      .ok (approvalDomain ++ utf8 (macMetadata approval) ++ bytes) :=
    macInput_eq_ok.mpr ⟨bytes, verified.canonical, rfl⟩
  obtain ⟨issuance, listed, issuedKey, issuedMessage⟩ :=
    unforged key _ verified.keyFound message verified.mac
  obtain ⟨key', bytes', original⟩ := verify_eq_ok_true.mp issuance.verifies
  obtain ⟨documents, digests, identities, times, keys⟩ :=
    macInput_inj (compared_of_verified original) (compared_of_verified verified) issuedMessage
      message
  subst documents
  have sameKey : key' = key := by
    rw [original.keyFound, Except.ok.injEq] at issuedKey
    exact issuedKey
  have metadata : macMetadata issuance.approval = macMetadata approval := by
    simp only [macMetadata, digests, identities, times, keys]
  refine ⟨issuance, listed, ?_, ?_, original.canonical.trans verified.canonical.symm⟩
  · apply WarrantApproval.ext
    · rw [original.warrantId, verified.warrantId]
      exact (identifiers_of_canonical original.canonical verified.canonical).1
    · exact digests
    · exact identities
    · exact times
    · exact keys
    · rw [← original.mac, ← verified.mac, sameKey, metadata]
  · rw [← keys, original.keyFound, keys, verified.keyFound, sameKey]

theorem verified_of_issuedFor {history : List (Issuance tables)}
    (intact : validateWarrantIntegrity tables document = .ok ())
    (identity : document.approverIdentity = approval.approverIdentity)
    (issued : IssuedFor history service document approval) :
    ∃ key bytes, Verified tables service document approval key bytes := by
  obtain ⟨issuance, _, rfl, sameKey, sameBytes⟩ := issued
  obtain ⟨key, bytes, original⟩ := verify_eq_ok_true.mp issuance.verifies
  have canonical : canonicalWarrantBytes tables document = .ok bytes := by
    rw [← sameBytes, original.canonical]
  obtain ⟨warrantIds, keyIds⟩ := identifiers_of_canonical original.canonical canonical
  refine ⟨key, bytes, ?_⟩
  constructor
  · exact intact
  · rw [← sameKey, original.keyFound]
  · exact canonical
  · rw [original.warrantId, warrantIds]
  · exact original.warrantSha256
  · exact identity.symm
  · rw [identity, original.approverIdentity]
    exact original.approverAscii
  · rw [original.macKeyId, keyIds]
  · exact original.mac

end Issued

/-- Unless a tag is forged, an approval verifies for a document exactly if the document
is intact, names the approver by the same text, and has the canonical bytes of a
document for which the approval was issued under the same key.  Issued approvals verify,
and the message of an approval that passes the comparisons determines its fields. -/
theorem approval_binding (tables : UnicodeTables) (history : List (Issuance tables))
    (service : ApprovalService) (document : WarrantDocument) (approval : WarrantApproval)
    (unforged : Unforged history service document approval) :
    (service.verify tables document approval = .ok true ↔
      validateWarrantIntegrity tables document = .ok () ∧
        document.approverIdentity = approval.approverIdentity ∧
        IssuedFor history service document approval) ∧
    (∀ issuance : Issuance tables,
      issuance.service.verify tables issuance.document issuance.approval = .ok true) ∧
    ∀ document approval bytes document' approval' bytes' input,
      Compared tables document approval bytes → Compared tables document' approval' bytes' →
      macInput tables document approval = .ok input →
      macInput tables document' approval' = .ok input →
      SameMessage approval approval' bytes bytes' := by
  refine ⟨?_, fun issuance => issuance.verifies, ?_⟩
  · constructor
    · intro accepted
      obtain ⟨key, bytes, verified⟩ := verify_eq_ok_true.mp accepted
      exact ⟨verified.integrity, verified.approverIdentity.symm,
        issuedFor_of_verified verified unforged⟩
    · rintro ⟨intact, identity, issued⟩
      exact verify_eq_ok_true.mpr (verified_of_issuedFor intact identity issued)
  · intro _ _ _ _ _ _ _ first second message message'
    exact macInput_inj first second message message'

def sampleIssuance : Issuance sampleEnvironment.tables where
  service := sampleApprovals
  document := sampleDocument
  approvedAt := sampleIssuedAt
  approverIdentity := none
  approval := sampleApproval
  issued := sampleApproval_issued

theorem Issuance.unforged {tables : UnicodeTables} (issuance : Issuance tables) :
    Unforged [issuance] issuance.service issuance.document issuance.approval := by
  intro key input found message _
  exact ⟨issuance, List.mem_singleton_self _, found, message⟩

/-- The sample approval is issued for its document. -/
theorem sampleIssuance_binding :
    IssuedFor [sampleIssuance] sampleIssuance.service sampleIssuance.document
      sampleIssuance.approval :=
  ((approval_binding sampleEnvironment.tables [sampleIssuance] sampleIssuance.service
    sampleIssuance.document sampleIssuance.approval sampleIssuance.unforged).1.mp
      sampleIssuance.verifies).2.2

/-! ## Two spellings of one document -/

/-- U+212A, which is canonically equivalent to the letter K. -/
def kelvinSign : Char := '\u212a'

def spellKelvin (character : Char) : Char := if character = kelvinSign then 'K' else character

theorem spellKelvin_ascii {text : String} (ascii : isAscii text = true) :
    String.ofList (text.toList.map spellKelvin) = text := by
  have unchanged : text.toList.map spellKelvin = text.toList.map id := by
    refine List.map_congr_left fun character member => if_neg ?_
    rintro rfl
    have low := List.all_eq_true.mp ascii kelvinSign member
    exact absurd low (by decide)
  rw [unchanged, List.map_id, String.ofList_toList]

theorem spellKelvin_spellKelvin (character : Char) :
    spellKelvin (spellKelvin character) = spellKelvin character := by
  by_cases kelvin : character = kelvinSign
  · have spelled : spellKelvin character = 'K' := if_pos kelvin
    rw [spelled]
    decide
  · have kept : spellKelvin character = character := if_neg kelvin
    rw [kept, kept]

/-- Tables that know one canonical equivalence, of U+212A with the letter K. -/
def kelvinTables : UnicodeTables where
  nfc text := String.ofList (text.toList.map spellKelvin)
  nfkc text := String.ofList (text.toList.map spellKelvin)
  nfc_ascii _ ascii := spellKelvin_ascii ascii
  nfc_nfc text := by
    rw [String.toList_ofList, List.map_map]
    exact congrArg String.ofList (List.map_congr_left fun _ _ => spellKelvin_spellKelvin _)
  nfc_of_nfkc _ same := same

theorem normalizeMembers_congr {tables : UnicodeTables} {members members' : List (String × Json)}
    (same : List.Forall₂ (fun member member' => member.1 = member'.1 ∧
      normalize tables member.2 = normalize tables member'.2) members members') :
    ∀ seen, normalizeMembers tables seen members = normalizeMembers tables seen members' := by
  induction same with
  | nil => exact fun _ => rfl
  | cons pair _ ih =>
      intro seen
      rw [normalizeMembers, normalizeMembers, pair.1, pair.2, ih]

/-- The fields with another digest of the plans, and another approver. -/
def spelled (fields : WarrantFields) (testPlanSha256 approver : String) : WarrantFields :=
  { fields with
    testPlanSha256 := testPlanSha256
    approverIdentity := approver }

theorem spelled_accepted {fields : WarrantFields} (accepted : fields.accepted = true)
    {testPlanSha256 approver : String} (digest : isSha256 testPlanSha256 = true)
    (named : 1 ≤ approver.length ∧ approver.length ≤ 256) :
    (spelled fields testPlanSha256 approver).accepted = true := by
  simp only [WarrantFields.accepted, Bool.and_eq_true, WarrantFields.digests, List.all_cons,
    decide_eq_true_eq] at accepted ⊢
  obtain ⟨⟨⟨⟨⟨⟨⟨⟨⟨identifiers, digests⟩, base⟩, paths⟩, plans⟩, _⟩, _⟩, format⟩, dates⟩, ids⟩ :=
    accepted
  obtain ⟨verdict, authority, evidence, timeline, manifest, patch, _, runner, host⟩ := digests
  exact ⟨⟨⟨⟨⟨⟨⟨⟨⟨identifiers, verdict, authority, evidence, timeline, manifest, patch, digest, runner,
    host⟩, base⟩, paths⟩, plans⟩, named.1⟩, named.2⟩, format⟩, dates⟩, ids⟩

theorem spelled_canonical {tables : UnicodeTables} (fields : WarrantFields)
    (testPlanSha256 : String) {approver approver' : String}
    (same : tables.nfc approver = tables.nfc approver') :
    normalize tables (spelled fields testPlanSha256 approver).json =
      normalize tables (spelled fields testPlanSha256 approver').json := by
  have members : normalizeMembers tables [] (spelled fields testPlanSha256 approver).members =
      normalizeMembers tables [] (spelled fields testPlanSha256 approver').members := by
    refine normalizeMembers_congr ?_ []
    simp [WarrantFields.members, spelled, same]
  simp only [WarrantFields.json, Domain.Hashing.normalize, members]

theorem spelled_bindings {tables tables' : UnicodeTables} {document : WarrantDocument}
    {patch : Bytes} (bindings : IntegrityBindings tables document patch)
    {testPlanSha256 approver : String}
    (accepted : (spelled document.toWarrantFields testPlanSha256 approver).accepted = true)
    (hash : sha256Hex tables' (plansJson document.executionPlans) = .ok testPlanSha256) :
    IntegrityBindings tables' ⟨spelled document.toWarrantFields testPlanSha256 approver, accepted⟩
      patch :=
  ⟨bindings.patchBytes, bindings.nonempty, bindings.patchSha256, bindings.plans, hash⟩

/-- Two documents that differ in the spelling of the approver only. -/
theorem spelled_documents : ∃ document document' : WarrantDocument,
    document.approverIdentity = "K" ∧ document'.approverIdentity = "\u212a" ∧
    canonicalWarrantBytes kelvinTables document = canonicalWarrantBytes kelvinTables document' ∧
    IntegrityBindings kelvinTables document samplePatch ∧
    document.issuedAt = sampleIssuedAt ∧ document.expiresAt = sampleExpiresAt ∧
    document.approvalMacKeyId = "key-1" := by
  obtain ⟨normalized, normalizes⟩ := plansJson_normalizes kelvinTables [samplePlan]
  have hash : sha256Hex kelvinTables (plansJson [samplePlan]) =
      .ok (hexdigest (encode normalized)) := by
    simp [sha256Hex, canonicalJson, normalizes]
  have digest := hexdigest_isSha256 (encode normalized)
  generalize hexdigest (encode normalized) = testPlan at hash digest
  have same : kelvinTables.nfc "K" = kelvinTables.nfc "\u212a" := by decide
  have accepted := @spelled_accepted sampleDocument.toWarrantFields sampleDocument.valid testPlan
    "K" digest (by decide)
  have accepted' := @spelled_accepted sampleDocument.toWarrantFields sampleDocument.valid testPlan
    "\u212a" digest (by decide)
  refine ⟨⟨_, accepted⟩, ⟨_, accepted'⟩, rfl, rfl, ?_,
    spelled_bindings sampleDocument_bindings accepted hash, rfl, rfl, rfl⟩
  simp only [canonicalWarrantBytes, canonicalJson,
    spelled_canonical sampleDocument.toWarrantFields testPlan same]

/-- An approval does not verify for every document with the canonical bytes of the one
that it was issued for. -/
theorem spelled_document_unverified :
    ¬ ∀ tables history service document approval, Unforged history service document approval →
      (service.verify tables document approval = .ok true ↔
        @IssuedFor tables history service document approval) := by
  intro binding
  obtain ⟨document, document', approver, approver', canonical, bindings, issuedAt, expiresAt,
    keyId⟩ := spelled_documents
  have integrity := validateWarrantIntegrity_eq_ok.mpr ⟨samplePatch, bindings⟩
  have known : sampleApprovals.key document.approvalMacKeyId = .ok (List.replicate 32 7) := by
    rw [keyId]
    decide
  have ascii : isAscii document.approverIdentity = true := by
    rw [approver]
    decide
  have unexpired : sampleIssuedAt ≤ document.expiresAt := by
    rw [expiresAt]
    change (0 : Int) ≤ 900000000
    decide
  obtain ⟨approval, issued⟩ := approve_issues integrity (issuedAt ▸ Int.le_refl _) unexpired ascii
    known
  let issuance : Issuance kelvinTables :=
    ⟨sampleApprovals, document, sampleIssuedAt, none, approval, issued⟩
  have issuedFor : IssuedFor [issuance] sampleApprovals document' approval :=
    ⟨issuance, List.mem_singleton_self _, rfl, rfl, canonical⟩
  have unforged : Unforged [issuance] sampleApprovals document' approval := by
    intro key input found message _
    refine ⟨issuance, List.mem_singleton_self _, found, ?_⟩
    rw [← message, macInput, macInput, canonical]
  have accepted := (binding kelvinTables [issuance] sampleApprovals document' approval unforged).mpr
    issuedFor
  obtain ⟨_, _, verified⟩ := verify_eq_ok_true.mp accepted
  have nonAscii := verified.approverAscii
  rw [approver'] at nonAscii
  exact absurd nonAscii (by decide)

end CrossPatch.Broker.Authenticity
