import CrossPatch.Broker.Claim
import CrossPatch.Runner.Results

/-!
# Warrant stores

The in-memory store and the PostgreSQL store, each operation being one critical
section.  Both settle a claim in the same way; they differ in where the document
and the authority come from.  Every operation moves a warrant along the one-way
lifecycle or leaves it alone.
-/

namespace CrossPatch.Broker.Store

open CrossPatch.Broker.Approval CrossPatch.Broker.Claim CrossPatch.Broker.Warrant
open CrossPatch.Domain.Failure CrossPatch.Domain.Hashing CrossPatch.Domain.Text
open CrossPatch.Library.Attempt CrossPatch.Library.Calendar CrossPatch.Library.JsonText
open CrossPatch.Library.Octets CrossPatch.Library.Sha256
open CrossPatch.Runner.Results

inductive BrokerStatus where
  | executed
  | testFailed
  | tamperRejected
  | policyRejected
  | expired
  | replayRejected
  | infraFailed
  | notFound
  deriving DecidableEq, Repr

inductive WarrantState where
  | approved
  | consuming
  | consumed
  | rejected
  | expired
  deriving DecidableEq, Repr

structure BrokerResult where
  warrantId : String
  status : BrokerStatus
  receipts : List ProcessReceipt
  errorCode : Option String
  nonceSha256 : Option String
  deriving DecidableEq

structure ClaimedWarrant where
  document : WarrantDocument
  approval : WarrantApproval
  authority : AuthoritySnapshot
  deriving DecidableEq

inductive ClaimOutcome where
  | claimed (warrant : ClaimedWarrant)
  | rejection (status : BrokerStatus) (errorCode : String)
  deriving DecidableEq

abbrev ClaimValidator :=
  WarrantDocument → WarrantApproval → Instant → AuthoritySnapshot → Attempt AuthoritySnapshot

abbrev AuthorityLoader := String → Attempt AuthoritySnapshot

/-! ## Settling a claim -/

/-- Where a claim leaves the warrant: consumed by the caller or refused for good. -/
inductive Settlement where
  | consume (authority : AuthoritySnapshot)
  | refuse (status : BrokerStatus) (errorCode : String)

/-- `str(error) or default`. -/
def codeOr (message default : String) : String := if message = "" then default else message

/-- The handlers around the validator: policy rejections and value errors refuse
the warrant, anything else escapes. -/
def settle (validated : Attempt AuthoritySnapshot) : Attempt Settlement :=
  match validated with
  | .ok authority => .ok (.consume authority)
  | .error raised =>
      if raised.isA .policyRejected then
        .ok (.refuse .policyRejected (codeOr raised.message "PATCH_POLICY_REJECTED"))
      else if raised.isA .valueError then
        .ok (.refuse .tamperRejected (codeOr raised.message "WARRANT_TAMPER_REJECTED"))
      else .error raised

/-! ## In-memory store -/

structure StoredWarrant where
  document : WarrantDocument
  approval : WarrantApproval
  state : WarrantState
  result : Option BrokerResult

structure InMemoryWarrantStore where
  records : String → Option StoredWarrant

namespace InMemoryWarrantStore

def empty : InMemoryWarrantStore := ⟨fun _ => none⟩

def put (store : InMemoryWarrantStore) (warrantId : String) (record : StoredWarrant) :
    InMemoryWarrantStore :=
  ⟨Function.update store.records warrantId (some record)⟩

def addApproved (store : InMemoryWarrantStore) (document : WarrantDocument)
    (approval : WarrantApproval) : Attempt Unit × InMemoryWarrantStore :=
  match store.records document.warrantId with
  | some _ => (raise .valueError "warrant id already exists", store)
  | none => (.ok (), store.put document.warrantId ⟨document, approval, .approved, none⟩)

/-- The clock reading is absent when it carries no time zone. -/
def claimWarrant (store : InMemoryWarrantStore) (warrantId : String) (clock : Option Instant)
    (validator : ClaimValidator) (authorityLoader : AuthorityLoader) :
    Attempt ClaimOutcome × InMemoryWarrantStore :=
  match store.records warrantId with
  | none => (.ok (.rejection .notFound "WARRANT_NOT_FOUND"), store)
  | some record =>
      if record.state ≠ .approved then
        (.ok (.rejection .replayRejected "WARRANT_ALREADY_CLAIMED"), store)
      else
        match clock with
        | none => (raise .runtimeError "broker database clock must be timezone-aware", store)
        | some now =>
            if record.document.expiresAt < now then
              (.ok (.rejection .expired "WARRANT_EXPIRED"),
                store.put warrantId { record with state := .expired })
            else
              match settle (do
                let authority ← authorityLoader record.document.warrantId
                validator record.document record.approval now authority) with
              | .error raised => (.error raised, store)
              | .ok (.refuse status code) =>
                  (.ok (.rejection status code),
                    store.put warrantId { record with state := .rejected })
              | .ok (.consume authority) =>
                  (.ok (.claimed ⟨record.document, record.approval, authority⟩),
                    store.put warrantId { record with state := .consuming })

def finish (store : InMemoryWarrantStore) (warrantId : String) (result : BrokerResult) :
    Attempt Unit × InMemoryWarrantStore :=
  match store.records warrantId with
  | none => (raise .keyError warrantId, store)
  | some record =>
      if record.state ≠ .consuming then
        (raise .runtimeError "only a consuming warrant can finish", store)
      else
        (.ok (), store.put warrantId { record with state := .consumed, result := some result })

def state (store : InMemoryWarrantStore) (warrantId : String) : Option WarrantState :=
  (store.records warrantId).map (·.state)

def result (store : InMemoryWarrantStore) (warrantId : String) : Option BrokerResult :=
  (store.records warrantId).bind (·.result)

end InMemoryWarrantStore

/-! ## PostgreSQL store -/

structure WarrantRecord where
  id : String
  incidentId : String
  nonceSha256 : String
  documentJson : Bytes
  approvalJson : Bytes
  state : WarrantState
  expiresAt : Instant
  resultJson : Option BrokerResult
  claimedAt : Option Instant
  nonceConsumedAt : Option Instant
  finishedAt : Option Instant
  createdAt : Instant
  updatedAt : Instant

structure MutationAuthorityRecord where
  incidentId : String
  snapshotJson : Bytes
  version : Nat
  updatedAt : Instant

/-- JSON decoding and model validation of the persisted columns, which belong to
the interpreter and to the validation library. -/
structure Codec where
  loadWarrant : Bytes → Attempt WarrantDocument
  loadApproval : Bytes → Attempt WarrantApproval
  loadAuthority : Bytes → Attempt AuthoritySnapshot

def authorityJson (authority : AuthoritySnapshot) : Json :=
  .obj
    [("allowed_paths", Runner.Catalog.texts authority.allowedPaths),
     ("authority_snapshot_sha256", .str authority.authoritySnapshotSha256),
     ("base_sha", .str authority.baseSha),
     ("candidate_id", .str authority.candidateId),
     ("incident_id", .str authority.incidentId),
     ("patch_sha256", .str authority.patchSha256),
     ("repository_id", .str authority.repositoryId),
     ("repository_manifest_sha256", .str authority.repositoryManifestSha256),
     ("repository_root", .str authority.repositoryRoot),
     ("reviewed_evidence_manifest_sha256", .str authority.reviewedEvidenceManifestSha256),
     ("reviewed_timeline_head", .str authority.reviewedTimelineHead),
     ("test_plan_sha256", .str authority.testPlanSha256),
     ("verdict_id", .str authority.verdictId),
     ("verdict_sha256", .str authority.verdictSha256),
     ("warrant_id", .str authority.warrantId)]

def canonicalAuthorityBytes (tables : UnicodeTables) (authority : AuthoritySnapshot) :
    Attempt Bytes :=
  canonicalJson tables (authorityJson authority)

section Parsing

variable (tables : UnicodeTables) (codec : Codec)

def parseWarrantJson (raw : Bytes) : Attempt WarrantDocument := do
  let document ← codec.loadWarrant raw
  let bytes ← canonicalWarrantBytes tables document
  require (raw = bytes)
    ⟨.nonCanonicalWarrant, "warrant JSON does not match its canonical bytes"⟩
  .ok document

def parseApprovalJson (raw : Bytes) : Attempt WarrantApproval := do
  let approval ← codec.loadApproval raw
  let bytes ← canonicalApprovalBytes tables approval
  require (raw = bytes)
    ⟨.nonCanonicalWarrant, "approval JSON does not match its canonical bytes"⟩
  .ok approval

def parseAuthorityJson (raw : Bytes) : Attempt AuthoritySnapshot := do
  let authority ← mapFailure
    (reraise .valueError (tamper "INVALID_AUTHORITY_SNAPSHOT")) (codec.loadAuthority raw)
  let bytes ← canonicalAuthorityBytes tables authority
  require (raw = bytes) (tamper "NONCANONICAL_AUTHORITY_SNAPSHOT")
  .ok authority

end Parsing

structure PostgresWarrantStore where
  warrants : String → Option WarrantRecord
  authorities : String → Option MutationAuthorityRecord
  /-- Digests under the unique index on nonces. -/
  nonces : List String

namespace PostgresWarrantStore

/-- The database clock, which answers with no value when it fails. -/
def databaseNow (clock : Option Instant) : Attempt Instant :=
  match clock with
  | none => raise .runtimeError "PostgreSQL clock_timestamp returned no value"
  | some now => .ok now

def empty : PostgresWarrantStore := ⟨fun _ => none, fun _ => none, []⟩

def put (store : PostgresWarrantStore) (warrantId : String) (record : WarrantRecord) :
    PostgresWarrantStore :=
  { store with warrants := Function.update store.warrants warrantId (some record) }

def publish (store : PostgresWarrantStore) (incidentId : String) (snapshot : Bytes)
    (now : Instant) : PostgresWarrantStore :=
  let version :=
    match store.authorities incidentId with
    | none => 1
    | some current => current.version + 1
  { store with
    authorities := Function.update store.authorities incidentId
      (some ⟨incidentId, snapshot, version, now⟩) }

/-- One transaction; the primary key and the nonce index refuse duplicates. -/
def addApproved (store : PostgresWarrantStore) (tables : UnicodeTables)
    (document : WarrantDocument) (approval : WarrantApproval) (authority : AuthoritySnapshot)
    (now : Instant) : Attempt Unit × PostgresWarrantStore :=
  let transaction : Attempt PostgresWarrantStore := do
    require (document.incidentId = authority.incidentId)
      ⟨.valueError, "warrant and authority incidents differ"⟩
    let snapshot ← canonicalAuthorityBytes tables authority
    let nonceSha256 := hexdigest (utf8 document.nonce)
    let documentJson ← canonicalWarrantBytes tables document
    let approvalJson ← canonicalApprovalBytes tables approval
    require (store.warrants document.warrantId = none ∧ nonceSha256 ∉ store.nonces)
      ⟨.integrityError, "duplicate warrant row"⟩
    let published := store.publish document.incidentId snapshot now
    .ok { published.put document.warrantId
            { id := document.warrantId
              incidentId := document.incidentId
              nonceSha256 := nonceSha256
              documentJson := documentJson
              approvalJson := approvalJson
              state := .approved
              expiresAt := document.expiresAt
              resultJson := none
              claimedAt := none
              nonceConsumedAt := none
              finishedAt := none
              createdAt := now
              updatedAt := now } with
          nonces := nonceSha256 :: store.nonces }
  match transaction with
  | .ok next => (.ok (), next)
  | .error raised => (.error raised, store)

/-- The duplicated columns of a row against its parsed document. -/
def bindingsMatch (record : WarrantRecord) (document : WarrantDocument) : Bool :=
  record.id == document.warrantId && record.incidentId == document.incidentId &&
    record.nonceSha256 == hexdigest (utf8 document.nonce) &&
    record.expiresAt == document.expiresAt

/-- Persisted columns as documents; only value errors are handled by the caller. -/
def parseRecord (tables : UnicodeTables) (codec : Codec) (record : WarrantRecord) :
    Attempt (WarrantDocument × WarrantApproval) := do
  let document ← parseWarrantJson tables codec record.documentJson
  let approval ← parseApprovalJson tables codec record.approvalJson
  .ok (document, approval)

def claimWarrant (store : PostgresWarrantStore) (tables : UnicodeTables) (codec : Codec)
    (warrantId : String) (clock : Option Instant) (validator : ClaimValidator) :
    Attempt ClaimOutcome × PostgresWarrantStore :=
  match store.warrants warrantId with
  | none => (.ok (.rejection .notFound "WARRANT_NOT_FOUND"), store)
  | some record =>
      if record.state ≠ .approved then
        (.ok (.rejection .replayRejected "WARRANT_ALREADY_CLAIMED"), store)
      else
        match databaseNow clock with
        | .error raised => (.error raised, store)
        | .ok now =>
            let close (state : WarrantState) (status : BrokerStatus) (code : String) :=
              ((.ok (.rejection status code) : Attempt ClaimOutcome),
                store.put warrantId { record with state := state, updatedAt := now })
            match parseRecord tables codec record with
            | .error raised =>
                if raised.isA .valueError then
                  close .rejected .tamperRejected "PERSISTED_CANONICAL_BYTES_INVALID"
                else (.error raised, store)
            | .ok (document, approval) =>
                if bindingsMatch record document = false then
                  close .rejected .tamperRejected "INDEXED_WARRANT_BINDING_CHANGED"
                else if record.expiresAt < now ∨ document.expiresAt < now then
                  close .expired .expired "WARRANT_EXPIRED"
                else
                  match store.authorities record.incidentId with
                  | none => close .rejected .tamperRejected "AUTHORITY_SNAPSHOT_MISSING"
                  | some current =>
                      match settle (do
                        let authority ← parseAuthorityJson tables codec current.snapshotJson
                        validator document approval now authority) with
                      | .error raised => (.error raised, store)
                      | .ok (.refuse status code) => close .rejected status code
                      | .ok (.consume authority) =>
                          (.ok (.claimed ⟨document, approval, authority⟩),
                            store.put warrantId
                              { record with
                                state := .consuming
                                claimedAt := some now
                                nonceConsumedAt := some now
                                updatedAt := now })

def finish (store : PostgresWarrantStore) (warrantId : String) (result : BrokerResult)
    (clock : Option Instant) : Attempt Unit × PostgresWarrantStore :=
  match store.warrants warrantId with
  | none => (raise .runtimeError "only a consuming warrant can finish", store)
  | some record =>
      if record.state ≠ .consuming then
        (raise .runtimeError "only a consuming warrant can finish", store)
      else
        match databaseNow clock with
        | .error raised => (.error raised, store)
        | .ok now =>
            (.ok (), store.put warrantId
              { record with
                state := .consumed
                resultJson := some result
                finishedAt := some now
                updatedAt := now })

def state (store : PostgresWarrantStore) (warrantId : String) : Option WarrantState :=
  (store.warrants warrantId).map (·.state)

def result (store : PostgresWarrantStore) (warrantId : String) : Option BrokerResult :=
  (store.warrants warrantId).bind (·.resultJson)

end PostgresWarrantStore

end CrossPatch.Broker.Store
