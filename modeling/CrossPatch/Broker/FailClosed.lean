import CrossPatch.Broker.Authenticity
import CrossPatch.Broker.Store

/-!
# When a claim fails closed

A claim turns value errors of its parsers and of its validator into recorded
rejections.  Three kinds of exceptions pass through: a comparison of non-ASCII text
in `verify`, whatever else the JSON reader raises on a stored column, and whatever
else the file system raises under the path policy.
-/

namespace CrossPatch.Broker.FailClosed

open CrossPatch.Broker.Approval CrossPatch.Broker.Claim CrossPatch.Broker.Paths
open CrossPatch.Broker.Store CrossPatch.Broker.Warrant
open CrossPatch.Domain.Failure CrossPatch.Domain.Hashing CrossPatch.Domain.Text
open CrossPatch.Library CrossPatch.Library.Attempt CrossPatch.Library.Calendar
open CrossPatch.Library.JsonText CrossPatch.Library.Octets CrossPatch.Library.Sha256
open CrossPatch.Runner.Catalog

/-! ## Verification -/

/-- One comparison of texts and what follows a match. -/
def Comparable (left right : String) (next : Prop) : Prop :=
  isAscii left = true ∧ isAscii right = true ∧ (left = right → next)

/-- Every text that `verify` gets to compare is ASCII. -/
def AsciiComparisons (tables : UnicodeTables) (document : WarrantDocument)
    (approval : WarrantApproval) : Prop :=
  ∀ hash, canonicalWarrantHash tables document = .ok hash →
    Comparable approval.warrantId document.warrantId
      (Comparable approval.warrantSha256 hash
        (Comparable approval.approverIdentity document.approverIdentity
          (Comparable approval.macKeyId document.approvalMacKeyId
            (isAscii approval.macSha256 = true))))

/-- Comparisons take place for an intact document and a known key. -/
def Verifiable (tables : UnicodeTables) (service : ApprovalService) (document : WarrantDocument)
    (approval : WarrantApproval) : Prop :=
  validateWarrantIntegrity tables document = .ok () →
    (∃ key, service.key approval.macKeyId = .ok key) → AsciiComparisons tables document approval

section Verification

variable {tables : UnicodeTables} {service : ApprovalService} {document : WarrantDocument}
  {approval : WarrantApproval}

/-- The handler of a claim. -/
def isValueError (raised : Raised) : Bool := raised.isA .valueError

end Verification

/-! ## The validator -/

/-- The document is intact, and both timestamps are in order and not in the future. -/
structure Timely (tables : UnicodeTables) (document : WarrantDocument) (approval : WarrantApproval)
    (now : Instant) : Prop where
  intact : validateWarrantIntegrity tables document = .ok ()
  issued : document.issuedAt ≤ now
  approved : approval.approvedAt ≤ now
  window : document.issuedAt ≤ approval.approvedAt ∧ approval.approvedAt ≤ document.expiresAt

/-- Everything that is compared before the paths of the patch agrees. -/
structure Agrees (environment : Environment) (config : BrokerConfig) (document : WarrantDocument)
    (approval : WarrantApproval) (now : Instant) (authority : AuthoritySnapshot) : Prop where
  timely : Timely environment.tables document approval now
  verified : config.approvals.verify environment.tables document approval = .ok true
  fields : documentFields document = authorityFields authority
  paths : canonicalJson environment.tables (texts document.allowedPaths) =
    canonicalJson environment.tables (texts authority.allowedPaths)
  runner : document.runnerDigest = config.runnerDigest
  host : document.environmentDigest = config.environmentDigest
  plans : ∀ bound ∈ document.executionPlans, validateBoundPlan environment config bound = .ok ()

/-- Where the validator lets nothing through: verification compares ASCII text, and
the path policy raises only value errors. -/
structure Handled (environment : Environment) (config : BrokerConfig) (document : WarrantDocument)
    (approval : WarrantApproval) (now : Instant) (authority : AuthoritySnapshot) : Prop where
  comparisons : Timely environment.tables document approval now →
    Verifiable environment.tables config.approvals document approval
  repository : Agrees environment config document approval now authority →
    ∀ patch, document.patchBytes = .ok patch →
      ¬ Escapes isValueError (validateDeclaredPatchPaths environment.tables environment.files
        authority.repositoryRoot patch document.allowedPaths)

section Validator

variable {environment : Environment} {config : BrokerConfig} {document : WarrantDocument}
  {approval : WarrantApproval} {now : Instant} {authority : AuthoritySnapshot}

end Validator

/-! ## Claims -/

/-- The claim succeeds, or it is refused and the warrant is not approved any more. -/
def FailsClosed (outcome : Attempt ClaimOutcome) (state : Option WarrantState) : Prop :=
  (∃ warrant, outcome = .ok (.claimed warrant)) ∨
    ∃ status code, outcome = .ok (.rejection status code) ∧ state ≠ some .approved

variable (environment : Environment) (config : BrokerConfig) (now : Instant)

section Columns

variable {environment} {codec : Codec} {raw : Bytes}

end Columns

section Postgres

variable {environment config now} {store : PostgresWarrantStore} {codec : Codec}
  {warrantId : String} {record : WarrantRecord}

theorem state_put (store : PostgresWarrantStore) (warrantId : String) (record : WarrantRecord) :
    (store.put warrantId record).state warrantId = some record.state := by
  simp [PostgresWarrantStore.state, PostgresWarrantStore.put]

end Postgres

end CrossPatch.Broker.FailClosed
