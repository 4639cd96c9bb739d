import CrossPatch.Broker.Warrant

/-!
# Approvals

An approval envelope authenticates one canonical warrant with a keyed digest.
Verification recomputes the canonical hash and the tag and compares each field
of the envelope with the document.
-/

namespace CrossPatch.Broker.Approval

open CrossPatch.Broker.Warrant
open CrossPatch.Domain.Failure CrossPatch.Domain.Hashing CrossPatch.Domain.Text
open CrossPatch.Library.Attempt CrossPatch.Library.Calendar CrossPatch.Library.JsonText
open CrossPatch.Library.Octets CrossPatch.Library.Sha256

def approvalDomain : Bytes := utf8 "CROSSPATCH-APPROVAL-V1" ++ [0]

@[ext]
structure WarrantApproval where
  warrantId : String
  warrantSha256 : String
  approverIdentity : String
  approvedAt : Instant
  macKeyId : String
  macSha256 : String
  macLength : macSha256.toList.length = 64
  deriving DecidableEq

def WarrantApproval.json (approval : WarrantApproval) : Json :=
  .obj
    [("approved_at", .str (timestampText approval.approvedAt)),
     ("approver_identity", .str approval.approverIdentity),
     ("mac_key_id", .str approval.macKeyId),
     ("mac_sha256", .str approval.macSha256),
     ("warrant_id", .str approval.warrantId),
     ("warrant_sha256", .str approval.warrantSha256)]

def canonicalApprovalBytes (tables : UnicodeTables) (approval : WarrantApproval) :
    Attempt Bytes :=
  canonicalJson tables approval.json

/-- Metadata lines of the authenticated message. -/
def macMetadata (approval : WarrantApproval) : String :=
  approval.warrantSha256 ++ "\n" ++ approval.approverIdentity ++ "\n" ++
    String.ofList (isoText approval.approvedAt) ++ "+00:00" ++ "\n" ++ approval.macKeyId ++ "\n"

def macInput (tables : UnicodeTables) (document : WarrantDocument)
    (approval : WarrantApproval) : Attempt Bytes := do
  let bytes ← canonicalWarrantBytes tables document
  .ok (approvalDomain ++ utf8 (macMetadata approval) ++ bytes)

/-- The key table of the service; every key has at least 32 bytes. -/
structure ApprovalService where
  keys : List (String × Bytes)
  nonempty : keys ≠ []
  strong : ∀ entry ∈ keys, 32 ≤ entry.2.length

def ApprovalService.key (service : ApprovalService) (keyId : String) : Attempt Bytes :=
  match service.keys.lookup keyId with
  | some key => .ok key
  | none => raise .keyError keyId

/-- Continue only after a successful comparison, as an early `return False` does. -/
def andThen (comparison : Attempt Bool) (next : Attempt Bool) : Attempt Bool := do
  if ← comparison then next else .ok false

def zeroMac : String := String.ofList (List.replicate 64 '0')

theorem length_zeroMac : zeroMac.toList.length = 64 :=
  (congrArg List.length (String.toList_ofList (l := List.replicate 64 '0'))).trans
    List.length_replicate

def WarrantApproval.unsigned (approval : WarrantApproval) : WarrantApproval :=
  { approval with
    macSha256 := zeroMac
    macLength := length_zeroMac }

section Service

variable (tables : UnicodeTables) (service : ApprovalService)

def ApprovalService.approve (document : WarrantDocument) (approvedAt : Instant)
    (approverIdentity : Option String) : Attempt WarrantApproval := do
  validateWarrantIntegrity tables document
  require (approvedAt ≤ document.expiresAt) ⟨.valueError, "warrant is expired"⟩
  require (document.issuedAt ≤ approvedAt)
    ⟨.valueError, "approval precedes warrant issuance"⟩
  let identity :=
    match approverIdentity with
    | none => document.approverIdentity
    | some given => if given = "" then document.approverIdentity else given
  let matching ← compareDigest identity document.approverIdentity
  require (matching = true) ⟨.valueError, "approver identity does not match the warrant"⟩
  let key ← mapFailure (fun _ => ⟨.valueError, "unknown approval MAC key"⟩)
    (service.key document.approvalMacKeyId)
  let hash ← canonicalWarrantHash tables document
  let unsigned : WarrantApproval :=
    { warrantId := document.warrantId
      warrantSha256 := hash
      approverIdentity := identity
      approvedAt := approvedAt
      macKeyId := document.approvalMacKeyId
      macSha256 := zeroMac
      macLength := length_zeroMac }
  let input ← macInput tables document unsigned
  .ok { unsigned with
    macSha256 := hmacHexdigest key input
    macLength := length_hmacHexdigest key input }

/-- The body of `verify`, before its handler. -/
def ApprovalService.verifyUnguarded (document : WarrantDocument)
    (approval : WarrantApproval) : Attempt Bool := do
  validateWarrantIntegrity tables document
  let key ← service.key approval.macKeyId
  let expectedHash ← canonicalWarrantHash tables document
  andThen (compareDigest approval.warrantId document.warrantId) <|
    andThen (compareDigest approval.warrantSha256 expectedHash) <|
    andThen (compareDigest approval.approverIdentity document.approverIdentity) <|
    andThen (compareDigest approval.macKeyId document.approvalMacKeyId) <| do
      let input ← macInput tables document approval.unsigned
      compareDigest (hmacHexdigest key input) approval.macSha256

/-- Lookup and value errors count as a failed verification; a comparison of
non-ASCII text still raises. -/
def ApprovalService.verify (document : WarrantDocument) (approval : WarrantApproval) :
    Attempt Bool :=
  match service.verifyUnguarded tables document approval with
  | .ok result => .ok result
  | .error raised =>
      if raised.isA .keyError || raised.isA .valueError then .ok false else .error raised

end Service

/-! ## What verification establishes -/

theorem andThen_eq_ok_true {comparison next : Attempt Bool} :
    andThen comparison next = .ok true ↔ comparison = .ok true ∧ next = .ok true := by
  cases comparison with
  | error raised => simp [andThen, bind, Except.bind]
  | ok result => cases result <;> simp [andThen, bind, Except.bind]

/-- Everything a successful verification has compared. -/
structure Verified (tables : UnicodeTables) (service : ApprovalService)
    (document : WarrantDocument) (approval : WarrantApproval) (key bytes : Bytes) : Prop where
  integrity : validateWarrantIntegrity tables document = .ok ()
  keyFound : service.key approval.macKeyId = .ok key
  canonical : canonicalWarrantBytes tables document = .ok bytes
  warrantId : approval.warrantId = document.warrantId
  warrantSha256 : approval.warrantSha256 = hexdigest bytes
  approverIdentity : approval.approverIdentity = document.approverIdentity
  approverAscii : isAscii document.approverIdentity = true
  macKeyId : approval.macKeyId = document.approvalMacKeyId
  mac : hmacHexdigest key (approvalDomain ++ utf8 (macMetadata approval) ++ bytes) =
    approval.macSha256

theorem verify_eq_verifyUnguarded_true {tables : UnicodeTables} {service : ApprovalService}
    {document : WarrantDocument} {approval : WarrantApproval} :
    service.verify tables document approval = .ok true ↔
      service.verifyUnguarded tables document approval = .ok true := by
  unfold ApprovalService.verify
  cases service.verifyUnguarded tables document approval with
  | ok result => rfl
  | error raised =>
      dsimp only
      split <;> simp

theorem canonicalWarrantHash_eq_ok {tables : UnicodeTables} {document : WarrantDocument}
    {hash : String} : canonicalWarrantHash tables document = .ok hash ↔
      ∃ bytes, canonicalWarrantBytes tables document = .ok bytes ∧ hexdigest bytes = hash := by
  simp [canonicalWarrantHash]

theorem macInput_eq_ok {tables : UnicodeTables} {document : WarrantDocument}
    {approval : WarrantApproval} {input : Bytes} :
    macInput tables document approval = .ok input ↔
      ∃ bytes, canonicalWarrantBytes tables document = .ok bytes ∧
        approvalDomain ++ utf8 (macMetadata approval) ++ bytes = input := by
  simp [macInput]

theorem warrantId_ascii (document : WarrantDocument) : isAscii document.warrantId = true :=
  document.asciiFields_ascii _ (by simp [WarrantFields.asciiFields, WarrantFields.identifiers])

theorem approvalMacKeyId_ascii (document : WarrantDocument) :
    isAscii document.approvalMacKeyId = true :=
  document.asciiFields_ascii _ (by simp [WarrantFields.asciiFields, WarrantFields.identifiers])

theorem verify_eq_ok_true {tables : UnicodeTables} {service : ApprovalService}
    {document : WarrantDocument} {approval : WarrantApproval} :
    service.verify tables document approval = .ok true ↔
      ∃ key bytes, Verified tables service document approval key bytes := by
  rw [verify_eq_verifyUnguarded_true]
  simp only [ApprovalService.verifyUnguarded, bind_eq_ok, andThen_eq_ok_true,
    compareDigest_eq_ok_true, canonicalWarrantHash_eq_ok, macInput_eq_ok]
  constructor
  · rintro ⟨_, integrity, key, keyOk, hash, ⟨bytes, canonical, rfl⟩, ⟨_, warrantId⟩,
      ⟨_, digest⟩, ⟨identityAscii, identity⟩, ⟨_, keyId⟩, input, ⟨bytes', canonical', rfl⟩,
      _, mac⟩
    rw [canonical] at canonical'
    cases canonical'
    exact ⟨key, bytes, integrity, keyOk, canonical, warrantId, digest, identity,
      identity ▸ identityAscii, keyId, mac⟩
  · rintro ⟨key, bytes, verified⟩
    refine ⟨(), verified.integrity, key, verified.keyFound, _, ⟨bytes, verified.canonical, rfl⟩,
      ⟨?_, verified.warrantId⟩, ⟨?_, verified.warrantSha256⟩, ⟨?_, verified.approverIdentity⟩,
      ⟨?_, verified.macKeyId⟩, _, ⟨bytes, verified.canonical, rfl⟩, ⟨hex_ascii _, verified.mac⟩⟩
    · rw [verified.warrantId]
      exact warrantId_ascii document
    · rw [verified.warrantSha256]
      exact hex_ascii _
    · rw [verified.approverIdentity]
      exact verified.approverAscii
    · rw [verified.macKeyId]
      exact approvalMacKeyId_ascii document

/-- An issued approval verifies for the document it was issued for. -/
theorem approve_verifies {tables : UnicodeTables} {service : ApprovalService}
    {document : WarrantDocument} {approvedAt : Instant} {approverIdentity : Option String}
    {approval : WarrantApproval}
    (issued : service.approve tables document approvedAt approverIdentity = .ok approval) :
    service.verify tables document approval = .ok true ∧ approval.approvedAt = approvedAt ∧
      document.issuedAt ≤ approvedAt ∧ approvedAt ≤ document.expiresAt := by
  simp only [ApprovalService.approve, bind_eq_ok, require_eq_ok, mapFailure_eq_ok,
    canonicalWarrantHash_eq_ok, macInput_eq_ok, Except.ok.injEq] at issued
  obtain ⟨_, integrity, _, unexpired, _, issuedBefore, matching, compared, _, rfl, key, keyOk,
    hash, ⟨bytes, canonical, rfl⟩, input, ⟨bytes', canonical', rfl⟩, rfl⟩ := issued
  rw [canonical] at canonical'
  cases canonical'
  obtain ⟨ascii, identity⟩ := compareDigest_eq_ok_true.mp compared
  refine ⟨verify_eq_ok_true.mpr ⟨key, bytes, integrity, keyOk, canonical, rfl, rfl, identity,
    identity ▸ ascii, rfl, rfl⟩, rfl, issuedBefore, unexpired⟩

/-- Inside the window of an intact document, a known key suffices to issue. -/
theorem approve_issues {tables : UnicodeTables} {service : ApprovalService}
    {document : WarrantDocument} {approvedAt : Instant} {key : Bytes}
    (integrity : validateWarrantIntegrity tables document = .ok ())
    (issuedBefore : document.issuedAt ≤ approvedAt) (unexpired : approvedAt ≤ document.expiresAt)
    (ascii : isAscii document.approverIdentity = true)
    (known : service.key document.approvalMacKeyId = .ok key) :
    ∃ approval, service.approve tables document approvedAt none = .ok approval := by
  obtain ⟨normalized, normalizes⟩ := document.normalizes tables
  have bytes : canonicalWarrantBytes tables document = .ok (encode normalized) :=
    canonicalJson_ok normalizes
  have identity : compareDigest document.approverIdentity document.approverIdentity = .ok true :=
    compareDigest_eq_ok_true.mpr ⟨ascii, rfl⟩
  simp [ApprovalService.approve, integrity, require, issuedBefore, unexpired, identity, known,
    mapFailure, canonicalWarrantHash, macInput, bytes]

/-- Naming the approver of the document changes nothing. -/
theorem approve_named (tables : UnicodeTables) (service : ApprovalService)
    (document : WarrantDocument) (approvedAt : Instant) :
    service.approve tables document approvedAt (some document.approverIdentity) =
      service.approve tables document approvedAt none := by
  simp [ApprovalService.approve]

theorem WarrantApproval.normalizes (approval : WarrantApproval) (tables : UnicodeTables) :
    ∃ normalized, normalize tables approval.json = .ok normalized :=
  normalize_obj_ok ["approved_at", "approver_identity", "mac_key_id", "mac_sha256", "warrant_id",
    "warrant_sha256"] rfl (by decide) (by decide) (by simp)

end CrossPatch.Broker.Approval
