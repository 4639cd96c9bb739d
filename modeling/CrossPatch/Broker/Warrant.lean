import CrossPatch.Library.Base64
import CrossPatch.Runner.Catalog

/-!
# Warrant documents

The complete deterministic input of the broker.  A document is a record of
fields together with the proof that the constructor accepted them, so every
later function may rely on the field patterns.  The integrity check recomputes
each binding that follows from the document alone.
-/

namespace CrossPatch.Broker.Warrant

open CrossPatch.Domain.Failure CrossPatch.Domain.Hashing CrossPatch.Domain.Text
open CrossPatch.Library CrossPatch.Library.Attempt CrossPatch.Library.Calendar CrossPatch.Library.JsonText
open CrossPatch.Library.Octets CrossPatch.Library.Sha256
open CrossPatch.Runner.Catalog

def warrantFormat : String := "crosspatch-warrant-v1"

/-! ## Bound plans -/

structure BoundPlanFields where
  planId : String
  argv : List String
  workingDirectory : String
  timeoutSeconds : Int
  expectedCounts : Option (Int × Int × Int)
  expectedStatuses : Option (List Int)
  oracleProfile : Option OracleProfile
  planSha256 : String
  deriving DecidableEq

def BoundPlanFields.accepted (plan : BoundPlanFields) : Bool :=
  1 ≤ plan.planId.length && plan.planId.length ≤ 128 && 1 ≤ plan.argv.length &&
    1 ≤ plan.workingDirectory.length && 0 < plan.timeoutSeconds && plan.timeoutSeconds ≤ 900 &&
    isSha256 plan.planSha256

/-- A resolved catalog entry captured at approval time. -/
structure BoundExecutionPlan extends BoundPlanFields where
  valid : toBoundPlanFields.accepted = true
  deriving DecidableEq

def BoundExecutionPlan.ofFields (fields : BoundPlanFields) : Attempt BoundExecutionPlan :=
  if valid : fields.accepted = true then .ok ⟨fields, valid⟩
  else raise .validationError "invalid execution plan"

def BoundExecutionPlan.fromExecutionPlan (plan : ExecutionPlan) : Attempt BoundExecutionPlan :=
  BoundExecutionPlan.ofFields
    { planId := plan.planId
      argv := plan.argv
      workingDirectory := plan.workingDirectory
      timeoutSeconds := plan.timeoutSeconds
      expectedCounts := plan.expectedCounts
      expectedStatuses := plan.expectedStatuses
      oracleProfile := plan.oracleProfile
      planSha256 := plan.sha256 }

def BoundPlanFields.asExecutionPlan (plan : BoundPlanFields) : ExecutionPlan where
  planId := plan.planId
  argv := plan.argv
  workingDirectory := plan.workingDirectory
  timeoutSeconds := plan.timeoutSeconds
  expectedCounts := plan.expectedCounts
  expectedStatuses := plan.expectedStatuses
  oracleProfile := plan.oracleProfile

def BoundPlanFields.validateBinding (plan : BoundPlanFields) : Attempt Unit :=
  require (plan.asExecutionPlan.sha256 = plan.planSha256)
    ⟨.warrantIntegrityError, "execution plan binding changed: " ++ plan.planId⟩

def BoundPlanFields.members (plan : BoundPlanFields) : List (String × Json) :=
  [("argv", texts plan.argv),
   ("expected_counts", countsJson plan.expectedCounts),
   ("plan_id", .str plan.planId),
   ("plan_sha256", .str plan.planSha256),
   ("timeout_seconds", .int plan.timeoutSeconds),
   ("working_directory", .str plan.workingDirectory)] ++
    optionalMembers plan.expectedStatuses plan.oracleProfile

def BoundPlanFields.json (plan : BoundPlanFields) : Json := .obj plan.members

theorem BoundExecutionPlan.fromExecutionPlan_eq_ok {plan : ExecutionPlan}
    {bound : BoundExecutionPlan}
    (captured : BoundExecutionPlan.fromExecutionPlan plan = .ok bound) :
    bound.asExecutionPlan = plan ∧ bound.planSha256 = plan.sha256 := by
  unfold fromExecutionPlan ofFields at captured
  split at captured
  · cases captured
    exact ⟨rfl, rfl⟩
  · cases captured

theorem BoundExecutionPlan.eq_of {left right : BoundExecutionPlan}
    (plans : left.asExecutionPlan = right.asExecutionPlan)
    (digests : left.planSha256 = right.planSha256) : left = right := by
  obtain ⟨⟨_, _, _, _, _, _, _, _⟩, _⟩ := left
  obtain ⟨⟨_, _, _, _, _, _, _, _⟩, _⟩ := right
  simp only [BoundPlanFields.asExecutionPlan, ExecutionPlan.mk.injEq] at plans digests
  obtain ⟨rfl, rfl, rfl, rfl, rfl, rfl, rfl⟩ := plans
  cases digests
  rfl

theorem BoundExecutionPlan.planSha256_ascii (plan : BoundExecutionPlan) :
    isAscii plan.planSha256 = true := by
  have valid := plan.valid
  simp only [BoundPlanFields.accepted, Bool.and_eq_true] at valid
  exact isSha256_ascii valid.2

/-! ## Documents -/

structure WarrantFields where
  format : String
  warrantId : String
  incidentId : String
  repositoryId : String
  verdictId : String
  verdictSha256 : String
  candidateId : String
  authoritySnapshotSha256 : String
  reviewedEvidenceManifestSha256 : String
  reviewedTimelineHead : String
  baseSha : String
  repositoryManifestSha256 : String
  patchB64 : String
  patchSha256 : String
  allowedPaths : List String
  executionPlans : List BoundExecutionPlan
  testPlanSha256 : String
  runnerDigest : String
  environmentDigest : String
  approverIdentity : String
  issuedAt : Instant
  expiresAt : Instant
  approvalMacKeyId : String
  nonce : String
  deriving DecidableEq

def WarrantFields.identifiers (fields : WarrantFields) : List String :=
  [fields.warrantId, fields.incidentId, fields.repositoryId, fields.verdictId,
   fields.candidateId, fields.approvalMacKeyId, fields.nonce]

def WarrantFields.digests (fields : WarrantFields) : List String :=
  [fields.verdictSha256, fields.authoritySnapshotSha256,
   fields.reviewedEvidenceManifestSha256, fields.reviewedTimelineHead,
   fields.repositoryManifestSha256, fields.patchSha256, fields.testPlanSha256,
   fields.runnerDigest, fields.environmentDigest]

/-- Declared paths are free of duplicates and sorted. -/
def validateDeclaredPaths (paths : List String) : Bool :=
  1 ≤ paths.length && decide paths.Nodup && paths.insertionSort (· ≤ ·) == paths

def WarrantFields.accepted (fields : WarrantFields) : Bool :=
  fields.identifiers.all isIdentifier && fields.digests.all isSha256 &&
    isGitSha fields.baseSha && validateDeclaredPaths fields.allowedPaths &&
    1 ≤ fields.executionPlans.length && 1 ≤ fields.approverIdentity.length &&
    fields.approverIdentity.length ≤ 256 && fields.format == warrantFormat &&
    decide (fields.issuedAt < fields.expiresAt) &&
    decide (fields.executionPlans.map (·.planId)).Nodup

/-- All material reviewed by the human approver. -/
@[ext]
structure WarrantDocument extends WarrantFields where
  valid : toWarrantFields.accepted = true
  deriving DecidableEq

def WarrantDocument.ofFields (fields : WarrantFields) : Attempt WarrantDocument :=
  if valid : fields.accepted = true then .ok ⟨fields, valid⟩
  else raise .validationError "invalid warrant document"

def WarrantFields.patchBytes (fields : WarrantFields) : Attempt Bytes :=
  match Base64.decode fields.patchB64.toList with
  | none => raise .warrantIntegrityError "patch bytes are not strict base64"
  | some decoded =>
      if String.ofList (Base64.encode decoded) = fields.patchB64 then .ok decoded
      else raise .warrantIntegrityError "patch bytes are not canonically encoded"

def plansJson (plans : List BoundExecutionPlan) : Json := .arr (plans.map (·.json))

def WarrantFields.members (fields : WarrantFields) : List (String × Json) :=
  [("allowed_paths", texts fields.allowedPaths),
   ("approval_mac_key_id", .str fields.approvalMacKeyId),
   ("approver_identity", .str fields.approverIdentity),
   ("authority_snapshot_sha256", .str fields.authoritySnapshotSha256),
   ("base_sha", .str fields.baseSha),
   ("candidate_id", .str fields.candidateId),
   ("environment_digest", .str fields.environmentDigest),
   ("execution_plans", plansJson fields.executionPlans),
   ("expires_at", .str (timestampText fields.expiresAt)),
   ("format", .str fields.format),
   ("incident_id", .str fields.incidentId),
   ("issued_at", .str (timestampText fields.issuedAt)),
   ("nonce", .str fields.nonce),
   ("patch_b64", .str fields.patchB64),
   ("patch_sha256", .str fields.patchSha256),
   ("repository_id", .str fields.repositoryId),
   ("repository_manifest_sha256", .str fields.repositoryManifestSha256),
   ("reviewed_evidence_manifest_sha256", .str fields.reviewedEvidenceManifestSha256),
   ("reviewed_timeline_head", .str fields.reviewedTimelineHead),
   ("runner_digest", .str fields.runnerDigest),
   ("test_plan_sha256", .str fields.testPlanSha256),
   ("verdict_id", .str fields.verdictId),
   ("verdict_sha256", .str fields.verdictSha256),
   ("warrant_id", .str fields.warrantId)]

def WarrantFields.json (fields : WarrantFields) : Json := .obj fields.members

section Canonical

variable (tables : UnicodeTables)

def canonicalWarrantBytes (document : WarrantDocument) : Attempt Bytes :=
  canonicalJson tables document.json

def canonicalWarrantHash (document : WarrantDocument) : Attempt String := do
  let bytes ← canonicalWarrantBytes tables document
  .ok (hexdigest bytes)

/-- Recompute every binding that needs no repository authority state. -/
def validateWarrantIntegrity (document : WarrantDocument) : Attempt Unit := do
  let patch ← document.patchBytes
  require (patch ≠ []) ⟨.warrantIntegrityError, "patch bytes must not be empty"⟩
  require (hexdigest patch = document.patchSha256)
    ⟨.warrantIntegrityError, "patch bytes do not match patch_sha256"⟩
  forEach (fun plan => plan.validateBinding) document.executionPlans
  let planHash ← sha256Hex tables (plansJson document.executionPlans)
  require (planHash = document.testPlanSha256)
    ⟨.warrantIntegrityError, "test plan does not match test_plan_sha256"⟩

end Canonical

/-! ## What acceptance of a document means -/

theorem validateDeclaredPaths_spec {paths : List String}
    (accepted : validateDeclaredPaths paths = true) :
    paths.Nodup ∧ paths.insertionSort (· ≤ ·) = paths := by
  simp only [validateDeclaredPaths, Bool.and_eq_true, decide_eq_true_eq, beq_iff_eq] at accepted
  exact ⟨accepted.1.2, accepted.2⟩

structure WarrantFields.Accepted (fields : WarrantFields) : Prop where
  identifiers : ∀ text ∈ fields.identifiers, isIdentifier text = true
  digests : ∀ text ∈ fields.digests, isSha256 text = true
  baseSha : isGitSha fields.baseSha = true
  paths : validateDeclaredPaths fields.allowedPaths = true
  format : fields.format = warrantFormat
  window : fields.issuedAt < fields.expiresAt
  planIds : (fields.executionPlans.map (·.planId)).Nodup

theorem WarrantDocument.spec (document : WarrantDocument) :
    document.toWarrantFields.Accepted := by
  have valid := document.valid
  simp only [WarrantFields.accepted, Bool.and_eq_true, List.all_eq_true, beq_iff_eq,
    decide_eq_true_eq] at valid
  obtain ⟨⟨⟨⟨⟨⟨⟨⟨⟨identifiers, digests⟩, base⟩, paths⟩, _⟩, _⟩, _⟩, format⟩, window⟩, planIds⟩ :=
    valid
  exact ⟨identifiers, digests, base, paths, format, window, planIds⟩

/-- The fields whose pattern admits ASCII only. -/
def WarrantFields.asciiFields (fields : WarrantFields) : List String :=
  fields.baseSha :: fields.format :: fields.identifiers ++ fields.digests

theorem WarrantDocument.asciiFields_ascii (document : WarrantDocument) :
    ∀ text ∈ document.asciiFields, isAscii text = true := by
  have spec := document.spec
  intro text member
  simp only [WarrantFields.asciiFields, List.cons_append, List.mem_cons, List.mem_append] at member
  rcases member with rfl | rfl | identifier | digest
  · exact isGitSha_ascii spec.baseSha
  · rw [spec.format]
    decide
  · exact isIdentifier_ascii (spec.identifiers text identifier)
  · exact isSha256_ascii (spec.digests text digest)

theorem WarrantFields.patchBytes_eq_ok {fields : WarrantFields} {patch : Bytes} :
    fields.patchBytes = .ok patch ↔ String.ofList (Base64.encode patch) = fields.patchB64 := by
  unfold patchBytes
  constructor
  · intro decoded
    cases found : Base64.decode fields.patchB64.toList with
    | none => simp [found, raise] at decoded
    | some bytes =>
        rw [found] at decoded
        dsimp only at decoded
        split at decoded
        · cases decoded
          assumption
        · cases decoded
  · intro encoded
    rw [← encoded, String.toList_ofList, Base64.decode_encode]
    dsimp only
    rw [if_pos rfl]

/-- The bindings that the integrity check recomputes. -/
structure IntegrityBindings (tables : UnicodeTables) (document : WarrantDocument)
    (patch : Bytes) : Prop where
  patchBytes : document.patchBytes = .ok patch
  nonempty : patch ≠ []
  patchSha256 : hexdigest patch = document.patchSha256
  plans : ∀ plan ∈ document.executionPlans, plan.asExecutionPlan.sha256 = plan.planSha256
  testPlanSha256 :
    sha256Hex tables (plansJson document.executionPlans) = .ok document.testPlanSha256

theorem validateWarrantIntegrity_eq_ok {tables : UnicodeTables} {document : WarrantDocument} :
    validateWarrantIntegrity tables document = .ok () ↔
      ∃ patch, IntegrityBindings tables document patch := by
  simp only [validateWarrantIntegrity, bind_eq_ok, require_eq_ok, forEach_eq_ok,
    BoundPlanFields.validateBinding]
  constructor
  · rintro ⟨patch, patchOk, _, nonempty, _, digest, _, plans, hash, hashOk, equal⟩
    exact ⟨patch, patchOk, nonempty, digest, plans, equal ▸ hashOk⟩
  · rintro ⟨patch, bindings⟩
    exact ⟨patch, bindings.patchBytes, (), bindings.nonempty, (), bindings.patchSha256, (),
      bindings.plans, _, bindings.testPlanSha256, rfl⟩

/-! ## Every document has canonical bytes -/

theorem texts_normalizes (tables : UnicodeTables) (values : List String) :
    ∃ value, normalize tables (texts values) = .ok value :=
  normalize_arr_ok (by simp)

theorem BoundPlanFields.normalizes (plan : BoundPlanFields) (tables : UnicodeTables) :
    ∃ normalized, normalize tables plan.json = .ok normalized := by
  have numbers (values : List Int) : ∃ value, normalize tables (integers values) = .ok value :=
    normalize_arr_ok (by simp)
  have counts : ∃ value, normalize tables (countsJson plan.expectedCounts) = .ok value := by
    cases plan.expectedCounts with
    | none => exact ⟨.null, rfl⟩
    | some counts => exact numbers _
  have values : ∀ member ∈ plan.members, ∃ value, normalize tables member.2 = .ok value := by
    cases statuses : plan.expectedStatuses <;> cases profile : plan.oracleProfile <;>
      simp [BoundPlanFields.members, optionalMembers, statuses, profile, texts_normalizes,
        numbers, counts]
  cases statuses : plan.expectedStatuses with
  | none =>
      cases profile : plan.oracleProfile with
      | none =>
          exact normalize_obj_ok ["argv", "expected_counts", "plan_id", "plan_sha256",
            "timeout_seconds", "working_directory"]
            (by rw [BoundPlanFields.members, statuses, profile]; rfl)
            (by decide) (by decide) values
      | some chosen =>
          exact normalize_obj_ok ["argv", "expected_counts", "plan_id", "plan_sha256",
            "timeout_seconds", "working_directory", "oracle_profile"]
            (by rw [BoundPlanFields.members, statuses, profile]; rfl)
            (by decide) (by decide) values
  | some expected =>
      cases profile : plan.oracleProfile with
      | none =>
          exact normalize_obj_ok ["argv", "expected_counts", "plan_id", "plan_sha256",
            "timeout_seconds", "working_directory", "expected_statuses"]
            (by rw [BoundPlanFields.members, statuses, profile]; rfl)
            (by decide) (by decide) values
      | some chosen =>
          exact normalize_obj_ok ["argv", "expected_counts", "plan_id", "plan_sha256",
            "timeout_seconds", "working_directory", "expected_statuses", "oracle_profile"]
            (by rw [BoundPlanFields.members, statuses, profile]; rfl)
            (by decide) (by decide) values

theorem plansJson_normalizes (tables : UnicodeTables) (plans : List BoundExecutionPlan) :
    ∃ normalized, normalize tables (plansJson plans) = .ok normalized := by
  apply normalize_arr_ok
  intro item member
  obtain ⟨plan, _, rfl⟩ := List.mem_map.mp member
  exact plan.normalizes tables

theorem WarrantFields.normalizes (fields : WarrantFields) (tables : UnicodeTables) :
    ∃ normalized, normalize tables fields.json = .ok normalized := by
  refine normalize_obj_ok ["allowed_paths", "approval_mac_key_id", "approver_identity",
    "authority_snapshot_sha256", "base_sha", "candidate_id", "environment_digest",
    "execution_plans", "expires_at", "format", "incident_id", "issued_at", "nonce", "patch_b64",
    "patch_sha256", "repository_id", "repository_manifest_sha256",
    "reviewed_evidence_manifest_sha256", "reviewed_timeline_head", "runner_digest",
    "test_plan_sha256", "verdict_id", "verdict_sha256", "warrant_id"] rfl (by decide) (by decide) ?_
  simp [WarrantFields.members, texts_normalizes, plansJson_normalizes]

/-! ## The canonical bytes determine the document -/

/-- Captured plans with one canonical form and matching digests are equal. -/
theorem BoundExecutionPlan.eq_of_canonical {tables : UnicodeTables} {messages : List Bytes}
    (free : CollisionFree messages) {left right : BoundExecutionPlan}
    (same : SameCanonical tables left.json right.json)
    (leftBound : left.asExecutionPlan.sha256 = left.planSha256)
    (rightBound : right.asExecutionPlan.sha256 = right.planSha256)
    (leftHashed : left.asExecutionPlan.canonical ∈ messages)
    (rightHashed : right.asExecutionPlan.canonical ∈ messages) : left = right := by
  have digests : left.planSha256 = right.planSha256 :=
    (same.member "plan_sha256" (by simp [BoundPlanFields.members])
      (by simp [BoundPlanFields.members])).ascii left.planSha256_ascii right.planSha256_ascii
  have hashes : left.asExecutionPlan.sha256 = right.asExecutionPlan.sha256 := by
    rw [leftBound, rightBound, digests]
  have plans := free.hexdigest leftHashed rightHashed hashes
  exact BoundExecutionPlan.eq_of (ExecutionPlan.canonical_injective plans) digests

def planMessages (document : WarrantDocument) : List Bytes :=
  document.executionPlans.map (·.asExecutionPlan.canonical)

theorem plans_eq_of_canonical {tables : UnicodeTables} {messages : List Bytes}
    (free : CollisionFree messages) {left right : List BoundExecutionPlan}
    (same : List.Forall₂ (fun first second => SameCanonical tables first.json second.json)
      left right)
    (leftBound : ∀ plan ∈ left, plan.asExecutionPlan.sha256 = plan.planSha256)
    (rightBound : ∀ plan ∈ right, plan.asExecutionPlan.sha256 = plan.planSha256)
    (leftHashed : ∀ plan ∈ left, plan.asExecutionPlan.canonical ∈ messages)
    (rightHashed : ∀ plan ∈ right, plan.asExecutionPlan.canonical ∈ messages) :
    left = right := by
  induction same with
  | nil => rfl
  | cons head _ ih =>
      rw [List.forall_mem_cons] at leftBound rightBound leftHashed rightHashed
      rw [BoundExecutionPlan.eq_of_canonical free head leftBound.1 rightBound.1 leftHashed.1
        rightHashed.1, ih leftBound.2 rightBound.2 leftHashed.2 rightHashed.2]

theorem patchB64_ascii {fields : WarrantFields} {patch : Bytes}
    (decoded : fields.patchBytes = .ok patch) : isAscii fields.patchB64 = true := by
  rw [← WarrantFields.patchBytes_eq_ok.mp decoded]
  apply isAscii_of_forall
  rw [String.toList_ofList]
  exact Base64.encode_ascii patch

theorem WarrantDocument.eq_of_canonical {tables : UnicodeTables} {messages : List Bytes}
    (free : CollisionFree messages) {left right : WarrantDocument} {patch patch' : Bytes}
    (same : SameCanonical tables left.json right.json)
    (leftBindings : IntegrityBindings tables left patch)
    (rightBindings : IntegrityBindings tables right patch')
    (leftHashed : ∀ message ∈ planMessages left, message ∈ messages)
    (rightHashed : ∀ message ∈ planMessages right, message ∈ messages)
    (leftApprover : isAscii left.approverIdentity = true)
    (rightApprover : isAscii right.approverIdentity = true)
    (leftPaths : ∀ path ∈ left.allowedPaths, tables.nfc path = path)
    (rightPaths : ∀ path ∈ right.allowedPaths, tables.nfc path = path) : left = right := by
  have text (key : String) {value value' : String} (first : isAscii value = true)
      (second : isAscii value' = true) (inLeft : (key, .str value) ∈ left.members)
      (inRight : (key, .str value') ∈ right.members) : value = value' :=
    (same.member key inLeft inRight).ascii first second
  have instant (key : String) {value value' : Instant}
      (inLeft : (key, .str (timestampText value)) ∈ left.members)
      (inRight : (key, .str (timestampText value')) ∈ right.members) : value = value' :=
    timestampText_injective
      (text key (timestampText_ascii value) (timestampText_ascii value') inLeft inRight)
  have ascii (value : String) (member : value ∈ left.asciiFields) : isAscii value = true :=
    left.asciiFields_ascii value member
  have ascii' (value : String) (member : value ∈ right.asciiFields) : isAscii value = true :=
    right.asciiFields_ascii value member
  have paths : left.allowedPaths = right.allowedPaths := by
    have members : SameCanonical tables (texts left.allowedPaths) (texts right.allowedPaths) :=
      same.member "allowed_paths" (by simp [WarrantFields.members])
        (by simp [WarrantFields.members])
    have normal := members.strings
    rwa [List.map_congr_left leftPaths, List.map_congr_left rightPaths, List.map_id',
      List.map_id'] at normal
  have plans : left.executionPlans = right.executionPlans := by
    have members : SameCanonical tables (plansJson left.executionPlans)
        (plansJson right.executionPlans) :=
      same.member "execution_plans" (by simp [WarrantFields.members])
        (by simp [WarrantFields.members])
    have pairs := members.arr
    rw [List.forall₂_map_left_iff, List.forall₂_map_right_iff] at pairs
    exact plans_eq_of_canonical free pairs leftBindings.plans rightBindings.plans
      (fun plan member => leftHashed _ (List.mem_map_of_mem member))
      (fun plan member => rightHashed _ (List.mem_map_of_mem member))
  have field (key : String) {value value' : String} (first : value ∈ left.asciiFields)
      (second : value' ∈ right.asciiFields) (inLeft : (key, .str value) ∈ left.members)
      (inRight : (key, .str value') ∈ right.members) : value = value' :=
    text key (ascii value first) (ascii' value' second) inLeft inRight
  apply WarrantDocument.ext
  case allowedPaths => exact paths
  case executionPlans => exact plans
  case issuedAt => apply instant "issued_at" <;> simp [WarrantFields.members]
  case expiresAt => apply instant "expires_at" <;> simp [WarrantFields.members]
  case approverIdentity =>
    apply text "approver_identity" leftApprover rightApprover <;> simp [WarrantFields.members]
  case patchB64 =>
    apply text "patch_b64" (patchB64_ascii leftBindings.patchBytes)
      (patchB64_ascii rightBindings.patchBytes) <;> simp [WarrantFields.members]
  case format => apply field "format" <;> simp [WarrantFields.asciiFields, WarrantFields.identifiers,
    WarrantFields.digests, WarrantFields.members]
  case warrantId => apply field "warrant_id" <;> simp [WarrantFields.asciiFields, WarrantFields.identifiers,
    WarrantFields.digests, WarrantFields.members]
  case incidentId => apply field "incident_id" <;> simp [WarrantFields.asciiFields, WarrantFields.identifiers,
    WarrantFields.digests, WarrantFields.members]
  case repositoryId => apply field "repository_id" <;> simp [WarrantFields.asciiFields, WarrantFields.identifiers,
    WarrantFields.digests, WarrantFields.members]
  case verdictId => apply field "verdict_id" <;> simp [WarrantFields.asciiFields, WarrantFields.identifiers,
    WarrantFields.digests, WarrantFields.members]
  case verdictSha256 => apply field "verdict_sha256" <;> simp [WarrantFields.asciiFields, WarrantFields.identifiers,
    WarrantFields.digests, WarrantFields.members]
  case candidateId => apply field "candidate_id" <;> simp [WarrantFields.asciiFields, WarrantFields.identifiers,
    WarrantFields.digests, WarrantFields.members]
  case authoritySnapshotSha256 => apply field "authority_snapshot_sha256" <;> simp [WarrantFields.asciiFields, WarrantFields.identifiers,
    WarrantFields.digests, WarrantFields.members]
  case reviewedEvidenceManifestSha256 => apply field "reviewed_evidence_manifest_sha256" <;> simp [WarrantFields.asciiFields, WarrantFields.identifiers,
    WarrantFields.digests, WarrantFields.members]
  case reviewedTimelineHead => apply field "reviewed_timeline_head" <;> simp [WarrantFields.asciiFields, WarrantFields.identifiers,
    WarrantFields.digests, WarrantFields.members]
  case baseSha => apply field "base_sha" <;> simp [WarrantFields.asciiFields, WarrantFields.identifiers,
    WarrantFields.digests, WarrantFields.members]
  case repositoryManifestSha256 => apply field "repository_manifest_sha256" <;> simp [WarrantFields.asciiFields, WarrantFields.identifiers,
    WarrantFields.digests, WarrantFields.members]
  case patchSha256 => apply field "patch_sha256" <;> simp [WarrantFields.asciiFields, WarrantFields.identifiers,
    WarrantFields.digests, WarrantFields.members]
  case testPlanSha256 => apply field "test_plan_sha256" <;> simp [WarrantFields.asciiFields, WarrantFields.identifiers,
    WarrantFields.digests, WarrantFields.members]
  case runnerDigest => apply field "runner_digest" <;> simp [WarrantFields.asciiFields, WarrantFields.identifiers,
    WarrantFields.digests, WarrantFields.members]
  case environmentDigest => apply field "environment_digest" <;> simp [WarrantFields.asciiFields, WarrantFields.identifiers,
    WarrantFields.digests, WarrantFields.members]
  case approvalMacKeyId => apply field "approval_mac_key_id" <;> simp [WarrantFields.asciiFields, WarrantFields.identifiers,
    WarrantFields.digests, WarrantFields.members]
  case nonce => apply field "nonce" <;> simp [WarrantFields.asciiFields, WarrantFields.identifiers,
    WarrantFields.digests, WarrantFields.members]

end CrossPatch.Broker.Warrant
