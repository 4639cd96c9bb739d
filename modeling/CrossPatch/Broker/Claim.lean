import CrossPatch.Broker.Approval
import CrossPatch.Broker.Paths

/-!
# The claim validator

`validateClaim` runs inside the critical section of a claim.  When it returns,
the document, the approval, the current authority and the broker's own
configuration agree on everything that was reviewed.
-/

namespace CrossPatch.Broker.Claim

open CrossPatch.Broker.Approval CrossPatch.Broker.Paths CrossPatch.Broker.Warrant
open CrossPatch.Domain.Failure CrossPatch.Domain.Hashing CrossPatch.Domain.Text
open CrossPatch.Library CrossPatch.Library.Attempt CrossPatch.Library.Calendar
open CrossPatch.Library.JsonText CrossPatch.Library.Octets CrossPatch.Library.Sha256
open CrossPatch.Runner.Catalog

/-- Current selection reviewed by the Magistrate, as the database holds it. -/
structure AuthoritySnapshot where
  warrantId : String
  incidentId : String
  repositoryId : String
  verdictId : String
  verdictSha256 : String
  candidateId : String
  authoritySnapshotSha256 : String
  reviewedEvidenceManifestSha256 : String
  reviewedTimelineHead : String
  baseSha : String
  repositoryManifestSha256 : String
  patchSha256 : String
  allowedPaths : List String
  testPlanSha256 : String
  repositoryRoot : String
  deriving DecidableEq

def AuthoritySnapshot.fromWarrant (document : WarrantDocument) (resolvedRoot : String) :
    AuthoritySnapshot where
  warrantId := document.warrantId
  incidentId := document.incidentId
  repositoryId := document.repositoryId
  verdictId := document.verdictId
  verdictSha256 := document.verdictSha256
  candidateId := document.candidateId
  authoritySnapshotSha256 := document.authoritySnapshotSha256
  reviewedEvidenceManifestSha256 := document.reviewedEvidenceManifestSha256
  reviewedTimelineHead := document.reviewedTimelineHead
  baseSha := document.baseSha
  repositoryManifestSha256 := document.repositoryManifestSha256
  patchSha256 := document.patchSha256
  allowedPaths := document.allowedPaths
  testPlanSha256 := document.testPlanSha256
  repositoryRoot := resolvedRoot

/-- What surrounds a broker process: the Unicode tables of its interpreter and
the repository on its disk. -/
structure Environment where
  tables : UnicodeTables
  files : FileSystem

/-- The collaborators and digests a broker is constructed with. -/
structure BrokerConfig where
  approvals : ApprovalService
  catalog : ExecutionCatalog
  runnerDigest : String
  environmentDigest : String

/-- The fields of a document that must agree with the current authority. -/
def documentFields (document : WarrantDocument) : List String :=
  [document.warrantId, document.incidentId, document.repositoryId, document.verdictId,
   document.verdictSha256, document.candidateId, document.authoritySnapshotSha256,
   document.reviewedEvidenceManifestSha256, document.reviewedTimelineHead, document.baseSha,
   document.repositoryManifestSha256, document.patchSha256, document.testPlanSha256]

def authorityFields (authority : AuthoritySnapshot) : List String :=
  [authority.warrantId, authority.incidentId, authority.repositoryId, authority.verdictId,
   authority.verdictSha256, authority.candidateId, authority.authoritySnapshotSha256,
   authority.reviewedEvidenceManifestSha256, authority.reviewedTimelineHead, authority.baseSha,
   authority.repositoryManifestSha256, authority.patchSha256, authority.testPlanSha256]

def boundPairs (document : WarrantDocument) (authority : AuthoritySnapshot) :
    List (String × String) :=
  (documentFields document).zip (authorityFields authority)

def tamper (code : String) : Raised := ⟨.tamperRejected, code⟩

/-- Translate one class of exceptions, as an `except … raise … from` clause. -/
def reraise (caught : ErrorClass) (replacement : Raised) (raised : Raised) : Raised :=
  if raised.isA caught then replacement else raised

section Validator

variable (environment : Environment) (config : BrokerConfig)

def validateBoundPlan (bound : BoundExecutionPlan) : Attempt Unit := do
  require (bound.planId ∈ candidatePlanIds) (tamper "PLAN_NOT_BROKER_EXECUTABLE")
  let plan ← config.catalog.resolve bound.planId
  let expected ← BoundExecutionPlan.fromExecutionPlan plan
  let boundBytes ← canonicalJson environment.tables bound.json
  let expectedBytes ← canonicalJson environment.tables expected.json
  require (boundBytes = expectedBytes) (tamper "RESOLVED_EXECUTION_PLAN_CHANGED")

def validateClaim (document : WarrantDocument) (approval : WarrantApproval) (now : Instant)
    (authority : AuthoritySnapshot) : Attempt AuthoritySnapshot := do
  mapFailure (reraise .warrantIntegrityError (tamper "WARRANT_DERIVED_BINDING_CHANGED"))
    (validateWarrantIntegrity environment.tables document)
  require (document.format = warrantFormat) (tamper "WARRANT_FORMAT_CHANGED")
  require (document.issuedAt ≤ now) (tamper "WARRANT_ISSUED_IN_FUTURE")
  require (approval.approvedAt ≤ now) (tamper "APPROVAL_TIMESTAMP_IN_FUTURE")
  require (document.issuedAt ≤ approval.approvedAt ∧ approval.approvedAt ≤ document.expiresAt)
    (tamper "APPROVAL_TIMESTAMP_OUTSIDE_WARRANT_WINDOW")
  let verified ← config.approvals.verify environment.tables document approval
  require (verified = true) (tamper "APPROVAL_MAC_OR_CANONICAL_BYTES_CHANGED")
  require (∀ pair ∈ boundPairs document authority, same pair.1 pair.2 = true)
    (tamper "CURRENT_AUTHORITY_SNAPSHOT_CHANGED")
  let documentPaths ← canonicalJson environment.tables (texts document.allowedPaths)
  let authorityPaths ← canonicalJson environment.tables (texts authority.allowedPaths)
  require (documentPaths = authorityPaths) (tamper "CURRENT_ALLOWED_PATHS_CHANGED")
  require (same document.runnerDigest config.runnerDigest = true)
    (tamper "RUNNER_DIGEST_CHANGED")
  require (same document.environmentDigest config.environmentDigest = true)
    (tamper "ENVIRONMENT_DIGEST_CHANGED")
  mapFailure (reraise .unknownExecutionPlan (tamper "UNKNOWN_EXECUTION_PLAN"))
    (forEach (validateBoundPlan environment config) document.executionPlans)
  let patch ← document.patchBytes
  let _ ← mapFailure
    (reraise .pathPolicyViolation ⟨.policyRejected, "PATCH_POLICY_REJECTED"⟩)
    (validateDeclaredPatchPaths environment.tables environment.files authority.repositoryRoot
      patch document.allowedPaths)
  .ok authority

end Validator

/-! ## What a returning validator has established -/

/-- The catalog entry a bound plan was compared with. -/
structure PlanBinding (environment : Environment) (config : BrokerConfig)
    (bound : BoundExecutionPlan) (plan : ExecutionPlan) : Prop where
  executable : bound.planId ∈ candidatePlanIds
  resolved : config.catalog.resolve bound.planId = .ok plan
  canonical : ∃ expected, BoundExecutionPlan.fromExecutionPlan plan = .ok expected ∧
    SameCanonical environment.tables bound.json expected.json
  digest : bound.planSha256 = plan.sha256
  -- Equal canonical text leaves room for text that only normalizes to the
  -- catalog's; the digest of the plain text closes it.
  exact : CollisionFree [bound.asExecutionPlan.canonical, plan.canonical] →
    bound.asExecutionPlan = plan

structure ClaimBindings (environment : Environment) (config : BrokerConfig)
    (document : WarrantDocument) (approval : WarrantApproval) (now : Instant)
    (authority : AuthoritySnapshot) : Prop where
  verified : ∃ key bytes,
    Verified environment.tables config.approvals document approval key bytes
  issuedBeforeApproval : document.issuedAt ≤ approval.approvedAt
  approvedBeforeNow : approval.approvedAt ≤ now
  approvedBeforeExpiry : approval.approvedAt ≤ document.expiresAt
  fields : documentFields document = authorityFields authority
  allowedPaths : document.allowedPaths =
    authority.allowedPaths.map environment.tables.nfc
  runnerDigest : document.runnerDigest = config.runnerDigest
  environmentDigest : document.environmentDigest = config.environmentDigest
  plans : ∀ bound ∈ document.executionPlans,
    ∃ plan, PlanBinding environment config bound plan
  patch : ∃ patch, IntegrityBindings environment.tables document patch ∧
    derivePatchPaths environment.tables patch = .ok document.allowedPaths
  pathsNormal : ∀ path ∈ document.allowedPaths, environment.tables.nfkc path = path

theorem boundPairs_agree {document : WarrantDocument} {authority : AuthoritySnapshot} :
    (∀ pair ∈ boundPairs document authority, pair.1 = pair.2) ↔
      documentFields document = authorityFields authority := by
  simp [boundPairs, documentFields, authorityFields]

theorem validateBoundPlan_eq_ok {environment : Environment} {config : BrokerConfig}
    {bound : BoundExecutionPlan}
    (hashed : bound.asExecutionPlan.sha256 = bound.planSha256)
    (accepted : validateBoundPlan environment config bound = .ok ()) :
    ∃ plan, PlanBinding environment config bound plan := by
  simp only [validateBoundPlan, bind_eq_ok, require_eq_ok] at accepted
  obtain ⟨_, executable, plan, resolved, expected, captured, bytes, bytesOk, _, expectedOk, rfl⟩ :=
    accepted
  obtain ⟨asPlan, digest⟩ := BoundExecutionPlan.fromExecutionPlan_eq_ok captured
  have canonical := SameCanonical.ofBytes bytesOk expectedOk
  have digests : bound.planSha256 = expected.planSha256 :=
    (canonical.member "plan_sha256" (by simp [BoundPlanFields.members])
      (by simp [BoundPlanFields.members])).ascii bound.planSha256_ascii
        expected.planSha256_ascii
  refine ⟨plan, executable, resolved, ⟨expected, captured, canonical⟩, digests.trans digest, ?_⟩
  intro free
  have hashes : bound.asExecutionPlan.sha256 = plan.sha256 := by
    rw [hashed, digests, digest]
  exact ExecutionPlan.canonical_injective
    (free.hexdigest List.mem_cons_self (List.mem_cons_of_mem _ List.mem_cons_self) hashes)

theorem validateClaim_eq_ok {environment : Environment} {config : BrokerConfig}
    {document : WarrantDocument} {approval : WarrantApproval} {now : Instant}
    {authority result : AuthoritySnapshot}
    (accepted : validateClaim environment config document approval now authority = .ok result) :
    result = authority ∧
      ClaimBindings environment config document approval now authority := by
  simp only [validateClaim, bind_eq_ok, require_eq_ok, mapFailure_eq_ok, forEach_eq_ok,
    boundPairs_agree, same_eq_true, Except.ok.injEq] at accepted
  obtain ⟨_, integrity, _, _, _, _, _, approvedNow, _, ⟨issued, expires⟩, _, verified, _, rfl, _,
    fields, documentPaths, documentPathsOk, _, authorityPathsOk, _, rfl, _, runner, _, environmentOk,
    _, plans, patch, patchOk, _, declaredOk, rfl⟩ := accepted
  obtain ⟨patch', bindings⟩ := validateWarrantIntegrity_eq_ok.mp integrity
  have samePatch : patch' = patch := by
    have decoded := bindings.patchBytes
    rw [patchOk] at decoded
    cases decoded
    rfl
  subst samePatch
  obtain ⟨distinct, sorted⟩ := validateDeclaredPaths_spec document.spec.paths
  obtain ⟨derived, normal⟩ := validateDeclaredPatchPaths_eq_ok declaredOk distinct sorted
  have paths := (SameCanonical.ofBytes documentPathsOk authorityPathsOk).strings
  have fixed : document.allowedPaths.map environment.tables.nfc = document.allowedPaths := by
    rw [List.map_congr_left fun path member =>
      environment.tables.nfc_of_nfkc path (normal path member), List.map_id']
  refine ⟨rfl, verify_eq_ok_true.mp verified, issued, approvedNow, expires, fields, ?_, runner,
    environmentOk, ?_, ⟨patch', bindings, derived⟩, normal⟩
  · rw [← paths, fixed]
  · intro bound member
    exact validateBoundPlan_eq_ok (bindings.plans bound member) (plans bound member)

/-! ## Issued warrants are claimable -/

/-- A warrant that the broker's own approval service approved, over the plans
and digests of the broker and with paths that the policy admits, is accepted
against the authority it was issued from. -/
theorem validateClaim_of_issued {environment : Environment} {config : BrokerConfig}
    {document : WarrantDocument} {approval : WarrantApproval} {approvedAt now : Instant}
    {approverIdentity : Option String} {root : String} {patch : Bytes} {paths : List String}
    (issued : config.approvals.approve environment.tables document approvedAt approverIdentity =
      .ok approval)
    (elapsed : approvedAt ≤ now) (runner : document.runnerDigest = config.runnerDigest)
    (host : document.environmentDigest = config.environmentDigest)
    (plans : ∀ bound ∈ document.executionPlans, bound.planId ∈ candidatePlanIds ∧
      ∃ plan, config.catalog.resolve bound.planId = .ok plan ∧
        BoundExecutionPlan.fromExecutionPlan plan = .ok bound)
    (decoded : document.patchBytes = .ok patch)
    (admitted : validateDeclaredPatchPaths environment.tables environment.files root patch
      document.allowedPaths = .ok paths) :
    validateClaim environment config document approval now
      (AuthoritySnapshot.fromWarrant document root) =
        .ok (AuthoritySnapshot.fromWarrant document root) := by
  obtain ⟨verified, rfl, issuedBefore, unexpired⟩ := approve_verifies issued
  obtain ⟨key, bytes, details⟩ := verify_eq_ok_true.mp verified
  have integrity := details.integrity
  have executable : ∀ bound ∈ document.executionPlans,
      validateBoundPlan environment config bound = .ok () := by
    intro bound member
    obtain ⟨listed, plan, resolved, captured⟩ := plans bound member
    obtain ⟨normalized, normalizes⟩ := bound.normalizes environment.tables
    simp [validateBoundPlan, listed, resolved, captured, canonicalJson, normalizes]
  obtain ⟨normalPaths, pathsOk⟩ : ∃ normalized,
      normalize environment.tables (texts document.allowedPaths) = .ok normalized :=
    normalize_arr_ok (by simp)
  simp only [validateClaim, bind_eq_ok, require_eq_ok, mapFailure_eq_ok, forEach_eq_ok,
    boundPairs_agree, same_eq_true]
  refine ⟨(), integrity, (), document.spec.format, (), ?_, (), elapsed, (),
    ⟨issuedBefore, unexpired⟩, true, verified, (), rfl, (), rfl, _, canonicalJson_ok pathsOk, _,
    canonicalJson_ok pathsOk, (), rfl, (), runner, (), host, (), executable, patch, decoded, paths,
    admitted, trivial⟩
  exact Int.le_trans issuedBefore elapsed

/-! ## A warrant that is claimable -/

/-- A repository without symbolic links. -/
def sampleFiles : FileSystem where
  resolveRoot root := .ok root
  isSymlink _ _ := .ok false
  staysInside _ _ := .ok true

def sampleEnvironment : Environment := ⟨.asciiOnly, sampleFiles⟩

def sampleDigest : String := String.ofList (List.replicate 64 'a')

def samplePatchText : String :=
  "diff --git a/app.py b/app.py\nindex 1111111..2222222 100644\n--- a/app.py\n+++ b/app.py\n" ++
    "@@ -1 +1 @@\n-a\n+b\n"

def samplePatch : Bytes := utf8 samplePatchText

def sampleExecutionPlan : ExecutionPlan :=
  candidateServicePlan "victim.duplicate-race.candidate" (1, 1, 1) none .duplicateRace

def samplePlan : BoundExecutionPlan where
  planId := sampleExecutionPlan.planId
  argv := sampleExecutionPlan.argv
  workingDirectory := sampleExecutionPlan.workingDirectory
  timeoutSeconds := sampleExecutionPlan.timeoutSeconds
  expectedCounts := sampleExecutionPlan.expectedCounts
  expectedStatuses := sampleExecutionPlan.expectedStatuses
  oracleProfile := sampleExecutionPlan.oracleProfile
  planSha256 := sampleExecutionPlan.sha256
  valid := by
    rw [BoundPlanFields.accepted,
      show isSha256 sampleExecutionPlan.sha256 = true from hexdigest_isSha256 _]
    decide

def sampleTestPlanSha256 : String :=
  (sha256Hex sampleEnvironment.tables (plansJson [samplePlan])).toOption.getD ""

theorem sampleTestPlanSha256_spec :
    sha256Hex sampleEnvironment.tables (plansJson [samplePlan]) = .ok sampleTestPlanSha256 ∧
      isSha256 sampleTestPlanSha256 = true := by
  obtain ⟨normalized, normalizes⟩ := plansJson_normalizes sampleEnvironment.tables [samplePlan]
  have hash : sha256Hex sampleEnvironment.tables (plansJson [samplePlan]) =
      .ok (hexdigest (encode normalized)) := by
    simp [sha256Hex, canonicalJson, normalizes]
  have value : sampleTestPlanSha256 = hexdigest (encode normalized) := by
    rw [sampleTestPlanSha256, hash]
    rfl
  rw [value]
  exact ⟨hash, hexdigest_isSha256 _⟩

def sampleIssuedAt : Instant := Instant.epoch

def sampleExpiresAt : Instant := ⟨900000000, by decide, by decide⟩

def sampleFields : WarrantFields where
  format := warrantFormat
  warrantId := "warrant-1"
  incidentId := "incident-1"
  repositoryId := "repository-1"
  verdictId := "verdict-1"
  verdictSha256 := sampleDigest
  candidateId := "candidate-1"
  authoritySnapshotSha256 := sampleDigest
  reviewedEvidenceManifestSha256 := sampleDigest
  reviewedTimelineHead := sampleDigest
  baseSha := sampleDigest
  repositoryManifestSha256 := sampleDigest
  patchB64 := String.ofList (Base64.encode samplePatch)
  patchSha256 := hexdigest samplePatch
  allowedPaths := ["app.py"]
  executionPlans := [samplePlan]
  testPlanSha256 := sampleTestPlanSha256
  runnerDigest := sampleDigest
  environmentDigest := sampleDigest
  approverIdentity := "operator"
  issuedAt := sampleIssuedAt
  expiresAt := sampleExpiresAt
  approvalMacKeyId := "key-1"
  nonce := "nonce-1"

theorem sampleFields_accepted : sampleFields.accepted = true := by
  have digest : isSha256 sampleDigest = true := by decide
  have patch : isSha256 (hexdigest samplePatch) = true := hexdigest_isSha256 _
  have testPlan := sampleTestPlanSha256_spec.2
  have base : isGitSha sampleDigest = true := by decide
  have identifiers : sampleFields.identifiers.all isIdentifier = true := by decide
  have digests : sampleFields.digests.all isSha256 = true := by
    simp [WarrantFields.digests, sampleFields, digest, patch, testPlan]
  rw [WarrantFields.accepted, identifiers, digests,
    show isGitSha sampleFields.baseSha = true from base]
  decide

def sampleDocument : WarrantDocument := ⟨sampleFields, sampleFields_accepted⟩

def sampleApprovals : ApprovalService where
  keys := [("key-1", List.replicate 32 7)]
  nonempty := by decide
  strong := by decide

def sampleConfig : BrokerConfig where
  approvals := sampleApprovals
  catalog := .default
  runnerDigest := sampleDigest
  environmentDigest := sampleDigest

def sampleAuthority : AuthoritySnapshot := .fromWarrant sampleDocument "/srv/repository"

theorem sampleDocument_bindings :
    IntegrityBindings sampleEnvironment.tables sampleDocument samplePatch where
  patchBytes := WarrantFields.patchBytes_eq_ok.mpr rfl
  nonempty := by decide
  patchSha256 := rfl
  plans plan member := by
    rw [List.mem_singleton.mp member]
    rfl
  testPlanSha256 := sampleTestPlanSha256_spec.1

theorem sampleDocument_approved :
    ∃ approval, sampleApprovals.approve sampleEnvironment.tables sampleDocument sampleIssuedAt none =
      .ok approval := by
  have integrity := validateWarrantIntegrity_eq_ok.mpr ⟨samplePatch, sampleDocument_bindings⟩
  have unexpired : sampleIssuedAt ≤ sampleDocument.expiresAt := by
    change (0 : Int) ≤ 900000000
    decide
  have ascii : isAscii sampleDocument.approverIdentity = true := by
    change isAscii "operator" = true
    decide
  have known : sampleApprovals.key "key-1" = .ok (List.replicate 32 7) := by decide
  exact approve_issues integrity (Int.le_refl _) unexpired ascii known

def sampleApproval : WarrantApproval :=
  (sampleApprovals.approve sampleEnvironment.tables sampleDocument sampleIssuedAt
    none).toOption.getD ⟨"", "", "", sampleIssuedAt, "", zeroMac, length_zeroMac⟩

theorem sampleApproval_issued :
    sampleApprovals.approve sampleEnvironment.tables sampleDocument sampleIssuedAt none =
      .ok sampleApproval := by
  have approved := sampleDocument_approved
  unfold sampleApproval
  generalize sampleApprovals.approve sampleEnvironment.tables sampleDocument sampleIssuedAt none =
    outcome at approved ⊢
  obtain ⟨approval, rfl⟩ := approved
  rfl

theorem samplePatch_admitted :
    validateDeclaredPatchPaths sampleEnvironment.tables sampleEnvironment.files "/srv/repository"
      samplePatch ["app.py"] = .ok ["app.py"] := by
  decide

theorem samplePlan_listed : samplePlan.planId ∈ candidatePlanIds ∧
    ∃ plan, sampleConfig.catalog.resolve samplePlan.planId = .ok plan ∧
      BoundExecutionPlan.fromExecutionPlan plan = .ok samplePlan := by
  refine ⟨by decide, sampleExecutionPlan, by decide, ?_⟩
  rw [BoundExecutionPlan.fromExecutionPlan, BoundExecutionPlan.ofFields]
  exact dif_pos samplePlan.valid

/-- The sample is accepted from its approval on. -/
theorem sample_accepted {now : Instant} (elapsed : sampleIssuedAt ≤ now) :
    validateClaim sampleEnvironment sampleConfig sampleDocument sampleApproval now
      sampleAuthority = .ok sampleAuthority := by
  refine validateClaim_of_issued sampleApproval_issued elapsed rfl rfl ?_
    sampleDocument_bindings.patchBytes samplePatch_admitted
  intro bound member
  rw [List.mem_singleton.mp member]
  exact samplePlan_listed

end CrossPatch.Broker.Claim
