import CrossPatch.Broker.Admission
import CrossPatch.Runtime.Store

/-!
# Authority gateway

The approval boundary.  Verdicts and escalations of the review are recorded here,
a cleared review opens a warrant for human approval, and the decision about the
warrant is the only source of rows for the broker.
-/

namespace CrossPatch.Runtime.Authority

open CrossPatch.Broker.Approval CrossPatch.Broker.Claim CrossPatch.Broker.Paths
open CrossPatch.Broker.Store CrossPatch.Broker.Warrant
open CrossPatch.Domain.Failure CrossPatch.Domain.Hashing CrossPatch.Domain.Seats
open CrossPatch.Domain.StateMachine CrossPatch.Domain.Text
open CrossPatch.Evidence.Views
open CrossPatch.Library CrossPatch.Library.Attempt CrossPatch.Library.Calendar
open CrossPatch.Library.JsonText CrossPatch.Library.Octets CrossPatch.Library.Sha256
open CrossPatch.Runner.Catalog
open CrossPatch.Runtime.Records CrossPatch.Runtime.Store CrossPatch.Runtime.Timeline

/-- The repository root is resolved by the constructor. -/
structure AuthorityPolicy where
  repositoryRoot : String
  repositoryId : String
  approverIdentity : String
  approvalMacKeyId : String
  approvalService : ApprovalService
  runnerDigest : String
  environmentDigest : String
  /-- Microseconds from issuance to expiry. -/
  warrantTtl : Int
  catalog : ExecutionCatalog
  identified : repositoryId ≠ "" ∧ approverIdentity ≠ "" ∧ approvalMacKeyId ≠ ""
  digestLengths : runnerDigest.length = 64 ∧ environmentDigest.length = 64
  ttlPositive : 0 < warrantTtl

/-- What the gateway is constructed with and the disk that it asks about. -/
structure Gateway where
  services : Services
  files : FileSystem
  policy : AuthorityPolicy

/-! ## Scenarios -/

/-- The candidate plan of each operator scenario. -/
def operatorScenarios : List (String × String) :=
  [("webhook-race", "victim.duplicate-race.candidate"),
   ("webhook-payload-equivalence", "victim.payload-equivalence.candidate")]

def requireOperatorScenario (scenario : String) : Attempt String :=
  match operatorScenarios.lookup scenario with
  | some candidatePlanId => .ok candidatePlanId
  | none => raise .valueError "unsupported incident scenario"

/-- Adding a duration leaves the representable years with an overflow. -/
def addDuration (instant : Instant) (micros : Int) : Attempt Instant :=
  if low : firstDay * dayMicros ≤ instant.micros + micros then
    if high : instant.micros + micros < (lastDay + 1) * dayMicros then
      .ok ⟨instant.micros + micros, low, high⟩
    else raise .overflowError "date value out of range"
  else raise .overflowError "date value out of range"

/-- A nullable column that has to hold non-empty text. -/
def filled (column : Option String) (message : String) : Attempt String :=
  needed (column.filter fun text => text ≠ "") ⟨.valueError, message⟩

def decisionConflict (message : String) : Raised := ⟨.warrantDecisionConflict, message⟩

section Gateway

variable (gateway : Gateway)

/-! ## Review -/

/-- The event that moves an incident into review, if it is not there already. -/
def reviewEvent (state : IncidentState) : Attempt (Option StateEventType) :=
  match state with
  | .evidenceReady => .ok (some .analysisStarted)
  | .testFailed => .ok (some .retryStarted)
  | .analyzing => .ok none
  | .patching => .ok none
  | other => raise .valueError ("incident cannot begin review from " ++ other.value)

/-- The state is read in a transaction of its own before the event is appended. -/
def beginReview (incidentId uuid : String) (now : Instant) (db : Database) :
    Attempt Unit × Database :=
  match needed (db.incidents.find incidentId) (lookupError incidentId) >>= fun incident =>
    reviewEvent incident.state with
  | .ok none => (.ok (), db)
  | .ok (some type) =>
      (appendEvent gateway.services incidentId (.state type) "orchestrator" [] true uuid now).commit
        db
  | .error raised => (.error raised, db)

def abstainMembers (reason : String) (failureCode : Option String) : Payload :=
  ("verdict", .str Verdict.abstain.value) :: ("reason", .str reason) ::
    match failureCode with
    | none => []
    | some code => [("failure_code", .str code)]

/-- A verdict row, its event and the refreshed case. -/
def appendVerdict (incident : IncidentRecord) (verdictId : String) (agentRunId : Option String)
    (verdict : Verdict) (encoded : Bytes) (payload : Payload) (uuid : String) (now : Instant) :
    Tx Unit := do
  addVerdict
    { id := verdictId
      incidentId := incident.id
      agentRunId := agentRunId
      verdict := verdict
      outputJson := encoded
      verdictSha256 := hexdigest encoded
      source := Seat.magistrate.value
      createdAt := now }
  let _ ← appendLocked gateway.services incident (.state .verdict) Seat.magistrate.value payload
    true uuid now
  publishLocked gateway.services incident.id now

def failClosedAbstain (incidentId reason : String) (failureCode : Option String)
    (uuids : Nat → String) (now : Instant) : Tx Unit := do
  let payload := abstainMembers reason failureCode
  let encoded ← Transaction.lift (canonicalJson gateway.services.tables (.obj payload))
  let incident ← getIncident incidentId
  appendVerdict gateway incident ("verdict_" ++ uuids 0) none .abstain encoded payload (uuids 1) now

def recordVerdict (incidentId : String) (output : MagistrateOutput) (uuids : Nat → String)
    (now : Instant) : Tx Unit := do
  let encoded ← Transaction.lift
    (canonicalJson gateway.services.tables (.obj output.members))
  let incident ← getIncident incidentId
  appendVerdict gateway incident ("verdict_" ++ uuids 0) none output.verdict encoded output.members
    (uuids 1) now

def recordEscalation (incidentId : String) (seat : Seat) (effort : Effort)
    (escalationCount : Nat) (reason message uuid : String) (now : Instant) : Tx Unit :=
  appendEvent gateway.services incidentId .reasoningEscalated seat.value
    [("seat", .str seat.value), ("effort", .str effort.value),
     ("escalation_count", .int escalationCount), ("reason", .str reason),
     ("message", .str message)] true uuid now

def rejectDuplicateRetry (incidentId : String) (seat : Seat) (effort : Effort) (phase : String)
    (output : SeatOutput) (reason : String) (uuids : Nat → String) (now : Instant) :
    Tx Unit := do
  let spec := seatSpec seat
  let escalationCount := spec.effortLadder.idxOf effort
  Transaction.check (effort ∈ spec.effortLadder)
    ⟨.valueError, "rejected retry effort is outside the seat policy"⟩
  Transaction.check (escalationCount ≠ 0 ∧ escalationCount ≤ spec.maxEscalations)
    ⟨.valueError, "rejected retry did not consume a valid escalation step"⟩
  let encodedOutput ← Transaction.lift (canonicalJson gateway.services.tables output.json)
  let semanticSha256 ← Transaction.lift (gateway.services.semanticFingerprint seat output)
  let payload := abstainMembers "escalation_exhausted" (some "FAILED_RETRY_DUPLICATE")
  let encodedAbstain ← Transaction.lift (canonicalJson gateway.services.tables (.obj payload))
  let incident ← getIncident incidentId
  addAgentRun
    { id := "run_" ++ uuids 0
      incidentId := incidentId
      seat := seat
      model := spec.model
      effort := effort
      phase := phase
      escalationCount := escalationCount
      outputJson := encodedOutput
      outputSha256 := hexdigest encodedOutput
      semanticSha256 := semanticSha256
      schemaStatus := .rejectedDuplicate
      failureReason := some "FAILED_RETRY_DUPLICATE"
      createdAt := now }
  let rejected ← appendLocked gateway.services incident .failedRetryDuplicate seat.value
    [("seat", .str seat.value), ("effort", .str effort.value),
     ("escalation_count", .int escalationCount), ("phase", .str phase), ("reason", .str reason),
     ("output_sha256", .str (hexdigest encodedOutput)),
     ("semantic_sha256", .str semanticSha256)] true (uuids 1) now
  appendVerdict gateway rejected ("verdict_" ++ uuids 2) none .abstain encodedAbstain payload
    (uuids 3) now

/-! ## Opening an approval -/

/-- The latest valid run of a seat with these output bytes; a missing one is recorded. -/
def reviewedRun (incidentId : String) (seat : Seat) (phase : String) (output : SeatOutput)
    (encoded : Bytes) (uuid : String) (now : Instant) : Tx AgentRunRecord := do
  let db ← Transaction.read
  let recorded := db.agentRuns.filter fun run =>
    run.incidentId = incidentId ∧ run.seat = seat ∧ run.outputSha256 = hexdigest encoded ∧
      run.schemaStatus = .valid
  match latest AgentRunRecord.createdAt AgentRunRecord.id recorded with
  | some run => pure run
  | none => do
      let semanticSha256 ← Transaction.lift (gateway.services.semanticFingerprint seat output)
      let run : AgentRunRecord :=
        { id := "run_" ++ uuid
          incidentId := incidentId
          seat := seat
          model := (seatSpec seat).model
          effort := (seatSpec seat).initialEffort
          phase := phase
          escalationCount := 0
          outputJson := encoded
          outputSha256 := hexdigest encoded
          semanticSha256 := semanticSha256
          schemaStatus := .valid
          failureReason := none
          createdAt := now }
      addAgentRun run
      pure run

/-- The candidate of the Counsel run, whose paths must still be the derived ones. -/
def reviewedCandidate (incidentId : String) (counsel : CounselOutput) (run : AgentRunRecord)
    (allowedPaths : List String) (uuid : String) (now : Instant) : Tx String := do
  let db ← Transaction.read
  let patchSha256 := hexdigest (utf8 counsel.normalizedDiff)
  let recorded := db.candidates.filter fun candidate =>
    candidate.incidentId = incidentId ∧ candidate.agentRunId = run.id ∧
      candidate.patchSha256 = patchSha256
  match mostRecent PatchCandidateRecord.createdAt recorded with
  | some candidate => do
      Transaction.check (candidate.allowedPaths = allowedPaths)
        ⟨.valueError, "persisted patch candidate paths changed"⟩
      pure candidate.id
  | none => do
      addCandidate
        { id := "candidate_" ++ uuid
          incidentId := incidentId
          agentRunId := run.id
          patchSha256 := patchSha256
          normalizedDiff := counsel.normalizedDiff
          allowedPaths := allowedPaths
          testIntentions := counsel.testIntentions
          predecessorId := (db.latestCandidate incidentId).map (·.id)
          createdAt := now }
      pure ("candidate_" ++ uuid)

def evidenceManifest (db : Database) (incidentId : String) : Attempt String :=
  let published := db.evidence.filter fun row => row.incidentId = incidentId ∧ row.published = true
  sha256Hex gateway.services.tables
    (.arr ((published.insertionSort fun left right => left.id ≤ right.id).map fun row =>
      .arr [.str row.id, .str row.sanitizedSha256]))

/-- The Counsel output of a review, which a CLEAR verdict needs. -/
def counselOf (seatOutputs : Seat → Option SeatOutput) : Attempt CounselOutput :=
  match seatOutputs .counsel with
  | some (.counsel counsel) => .ok counsel
  | _ => raise .valueError "CLEAR requires a structured Counsel patch"

/-- Live trials are approved by their owner. -/
def approverOf (incident : IncidentRecord) : Attempt String :=
  if incident.liveTrial then
    filled incident.ownerSubject "live-trial incident has no credential owner"
  else .ok gateway.policy.approverIdentity

/-- What the warrant of a cleared review is built from. -/
structure ReviewedMaterial where
  warrantId : String
  verdictId : String
  nonce : String
  counsel : CounselOutput
  allowedPaths : List String
  plans : List BoundExecutionPlan
  testPlanSha256 : String
  evidenceManifest : String
  reviewedHead : String
  baseSha : String
  repositoryManifestSha256 : String
  verdictSha256 : String
  candidateId : String

def authorityDigest (incidentId : String) (material : ReviewedMaterial) : Attempt String :=
  sha256Hex gateway.services.tables
    (.obj
      [("warrant_id", .str material.warrantId), ("incident_id", .str incidentId),
       ("verdict_id", .str material.verdictId), ("verdict_sha256", .str material.verdictSha256),
       ("candidate_id", .str material.candidateId),
       ("evidence_manifest", .str material.evidenceManifest),
       ("timeline_head", .str material.reviewedHead),
       ("patch_sha256", .str (hexdigest (utf8 material.counsel.normalizedDiff))),
       ("allowed_paths", texts material.allowedPaths),
       ("test_plan_sha256", .str material.testPlanSha256)])

def warrantOf (incident : IncidentRecord) (material : ReviewedMaterial) (now : Instant) :
    Attempt WarrantDocument := do
  let authoritySnapshotSha256 ← authorityDigest gateway incident.id material
  let approverIdentity ← approverOf gateway incident
  let expiresAt ← addDuration now gateway.policy.warrantTtl
  let patch := utf8 material.counsel.normalizedDiff
  WarrantDocument.ofFields
    { format := warrantFormat
      warrantId := material.warrantId
      incidentId := incident.id
      repositoryId := gateway.policy.repositoryId
      verdictId := material.verdictId
      verdictSha256 := material.verdictSha256
      candidateId := material.candidateId
      authoritySnapshotSha256 := authoritySnapshotSha256
      reviewedEvidenceManifestSha256 := material.evidenceManifest
      reviewedTimelineHead := material.reviewedHead
      baseSha := material.baseSha
      repositoryManifestSha256 := material.repositoryManifestSha256
      patchB64 := String.ofList (Base64.encode patch)
      patchSha256 := hexdigest patch
      allowedPaths := material.allowedPaths
      executionPlans := material.plans
      testPlanSha256 := material.testPlanSha256
      runnerDigest := gateway.policy.runnerDigest
      environmentDigest := gateway.policy.environmentDigest
      approverIdentity := approverIdentity
      issuedAt := now
      expiresAt := expiresAt
      approvalMacKeyId := gateway.policy.approvalMacKeyId
      nonce := material.nonce }

def resolvePlans (planIds : List String) : Attempt (List BoundExecutionPlan) :=
  collect (fun planId => do
    let plan ← gateway.policy.catalog.resolve planId
    BoundExecutionPlan.fromExecutionPlan plan) planIds

/-- The part of the transaction that reads and completes the reviewed material. -/
def gatherMaterial (incident : IncidentRecord) (output : MagistrateOutput)
    (counsel : CounselOutput) (allowedPaths : List String) (uuids : Nat → String)
    (now : Instant) : Tx (ReviewedMaterial × AgentRunRecord × Bytes) := do
  let db ← Transaction.read
  let baseSha ← Transaction.lift
    (filled incident.baseSha "incident repository bindings are incomplete")
  let repositoryManifestSha256 ← Transaction.lift
    (filled incident.repositoryManifestSha256 "incident repository bindings are incomplete")
  let candidatePlanId ← Transaction.lift (requireOperatorScenario incident.scenario)
  let planIds := counsel.testIntentions.map (·.catalogId)
  Transaction.check (planIds = [candidatePlanId])
    ⟨.valueError, "approval plan does not match incident scenario"⟩
  let plans ← Transaction.lift (resolvePlans gateway planIds)
  let testPlanSha256 ← Transaction.lift (sha256Hex gateway.services.tables (plansJson plans))
  let manifest ← Transaction.lift (evidenceManifest gateway db incident.id)
  let reviewedHead ← Transaction.lift
    (needed incident.eventChainHead ⟨.valueError, "incident timeline has no review head"⟩)
  let counselBytes ← Transaction.lift (canonicalJson gateway.services.tables counsel.json)
  let counselRun ← reviewedRun gateway incident.id .counsel "patch-proposal" (.counsel counsel)
    counselBytes (uuids 3) now
  let candidateId ← reviewedCandidate incident.id counsel counselRun allowedPaths (uuids 4) now
  let verdictBytes ← Transaction.lift
    (canonicalJson gateway.services.tables (.obj output.members))
  let magistrateRun ← reviewedRun gateway incident.id .magistrate "verdict-review"
    (.magistrate output) verdictBytes (uuids 5) now
  pure
    ({ warrantId := "war_" ++ uuids 0
       verdictId := "verdict_" ++ uuids 1
       nonce := "nonce_" ++ uuids 2
       counsel := counsel
       allowedPaths := allowedPaths
       plans := plans
       testPlanSha256 := testPlanSha256
       evidenceManifest := manifest
       reviewedHead := reviewedHead
       baseSha := baseSha
       repositoryManifestSha256 := repositoryManifestSha256
       verdictSha256 := hexdigest verdictBytes
       candidateId := candidateId },
     magistrateRun, verdictBytes)

def openApproval (incidentId : String) (output : MagistrateOutput)
    (seatOutputs : Seat → Option SeatOutput) (uuids : Nat → String) (now : Instant) :
    Tx String := do
  Transaction.check (output.verdict = .clear)
    ⟨.valueError, "only a CLEAR verdict can open human approval"⟩
  let counsel ← Transaction.lift (counselOf seatOutputs)
  let allowedPaths ← Transaction.lift
    (derivePatchPaths gateway.services.tables (utf8 counsel.normalizedDiff))
  let _ ← Transaction.lift (validatePatchPaths gateway.services.tables gateway.files
    gateway.policy.repositoryRoot allowedPaths)
  let incident ← getIncident incidentId
  Transaction.check (incident.state = .reviewing)
    ⟨.valueError, "approval can open only from REVIEWING"⟩
  let (material, magistrateRun, verdictBytes) ←
    gatherMaterial gateway incident output counsel allowedPaths uuids now
  let document ← Transaction.lift (warrantOf gateway incident material now)
  let canonical ← Transaction.lift (canonicalWarrantBytes gateway.services.tables document)
  let authority ← Transaction.lift (canonicalAuthorityBytes gateway.services.tables
    (AuthoritySnapshot.fromWarrant document gateway.policy.repositoryRoot))
  insertControl
    { id := document.warrantId
      incidentId := incidentId
      canonicalDocument := canonical
      warrantSha256 := hexdigest canonical
      authorityJson := authority
      status := .pendingApproval
      approvalId := none
      expiresAt := document.expiresAt
      createdAt := now
      updatedAt := now }
  appendVerdict gateway { incident with pendingWarrantId := some document.warrantId }
    document.verdictId (some magistrateRun.id) .clear verdictBytes output.members (uuids 6) now
  pure document.warrantId

/-! ## Deciding -/

/-- The checks on the pending control row that every decision starts with. -/
def pendingControl (warrantId warrantSha256 : String) : Tx ControlWarrantRecord := do
  let control ← getControl warrantId
  Transaction.check (control.status = .pendingApproval)
    (decisionConflict "warrant is not pending approval")
  let unchanged ← Transaction.lift (compareDigest control.warrantSha256 warrantSha256)
  Transaction.check (unchanged = true) (decisionConflict "canonical warrant hash changed")
  pure control

/-- Close a pending warrant and release the incident with one event. -/
def settleControl (control : ControlWarrantRecord) (status : ControlStatus)
    (approvalId : Option String) (incident : IncidentRecord) (type : EventType) (actor : String)
    (payload : Payload) (uuid : String) (now : Instant) : Tx Unit := do
  writeControl { control with status := status, approvalId := approvalId, updatedAt := now }
  let _ ← appendLocked gateway.services { incident with pendingWarrantId := none } type actor
    payload true uuid now
  pure ()

def decisionMembers (warrantId warrantSha256 : String) : Payload :=
  [("warrant_id", .str warrantId), ("warrant_sha256", .str warrantSha256)]

/-- `_expire_warrant_if_needed`. -/
def expireWarrantIfNeeded (warrantId warrantSha256 actor uuid : String) (now : Instant) :
    Tx Bool := do
  let control ← pendingControl warrantId warrantSha256
  if now ≤ control.expiresAt then pure false
  else do
    let incident ← getIncident control.incidentId
    settleControl gateway control .expired control.approvalId incident (.state .warrantExpired)
      actor (decisionMembers warrantId warrantSha256) uuid now
    publishLocked gateway.services incident.id now
    pure true

/-- `text.replace("war_", "apr_", 1)`. -/
def replaceWarrantLead : List Char → List Char
  | 'w' :: 'a' :: 'r' :: '_' :: rest => 'a' :: 'p' :: 'r' :: '_' :: rest
  | character :: rest => character :: replaceWarrantLead rest
  | [] => []

def approvalIdOf (warrantId : String) : String :=
  String.ofList (replaceWarrantLead warrantId.toList)

/-- Install the authority snapshot of an incident and the broker's row. -/
def authorizeExecution (control : ControlWarrantRecord) (document : WarrantDocument)
    (approvalJson : Bytes) (incidentId : String) (now : Instant) : Tx Unit := do
  Transaction.change fun db =>
    { db with broker := db.broker.publish incidentId control.authorityJson now }
  insertWarrant
    { id := control.id
      incidentId := incidentId
      nonceSha256 := hexdigest (utf8 document.nonce)
      documentJson := control.canonicalDocument
      approvalJson := approvalJson
      state := .approved
      expiresAt := document.expiresAt
      resultJson := none
      claimedAt := none
      nonceConsumedAt := none
      finishedAt := none
      createdAt := now
      updatedAt := now }

def rejectLocked (control : ControlWarrantRecord) (incident : IncidentRecord)
    (warrantSha256 actor : String) (reason : Option String) (uuid : String) (now : Instant) :
    Tx Unit := do
  settleControl gateway control .rejected control.approvalId { incident with state := .blocked }
    .warrantRejected actor
    (decisionMembers control.id warrantSha256 ++
      match reason with
      | none => []
      | some text => [("reason", .str text)]) uuid now
  publishLocked gateway.services incident.id now

def approveLocked (control : ControlWarrantRecord) (document : WarrantDocument)
    (incident : IncidentRecord) (warrantSha256 actor uuid : String) (now : Instant) :
    Tx Unit := do
  Transaction.check (now ≤ control.expiresAt)
    ⟨.runtimeError, "warrant expiry changed during locked approval"⟩
  let approval ← Transaction.lift
    (gateway.policy.approvalService.approve gateway.services.tables document now (some actor))
  let _ ← Transaction.lift (gateway.services.codec.loadAuthority control.authorityJson)
  let approvalJson ← Transaction.lift (canonicalApprovalBytes gateway.services.tables approval)
  authorizeExecution control document approvalJson incident.id now
  let approvalId := approvalIdOf control.id
  settleControl gateway control .approved (some approvalId) incident (.state .warrantApproved)
    actor
    [("approval_id", .str approvalId), ("warrant_sha256", .str warrantSha256),
     ("approver_identity", .str actor)] uuid now
  enqueueRuntimeWorkLocked incident.id control.id .approvedExecution now
  publishLocked gateway.services incident.id now

/-- The deciding transaction of `decide_warrant`. -/
def decideLocked (warrantId : String) (approve : Bool) (warrantSha256 actor : String)
    (reason : Option String) (uuid : String) (now : Instant) : Tx Unit := do
  let control ← pendingControl warrantId warrantSha256
  let document ← Transaction.lift
    (gateway.services.codec.loadWarrant control.canonicalDocument)
  let incident ← getIncident control.incidentId
  if approve then approveLocked gateway control document incident warrantSha256 actor uuid now
  else rejectLocked gateway control incident warrantSha256 actor reason uuid now

/-- `decide_warrant`: an approval first commits the expiry of a late warrant. -/
def decideWarrant (warrantId : String) (approve : Bool) (warrantSha256 actor : String)
    (reason : Option String) (uuids : Nat → String) (now : Instant) (db : Database) :
    Attempt Unit × Database :=
  let decide :=
    (decideLocked gateway warrantId approve warrantSha256 actor reason (uuids 1) now).commit
  if approve then
    match (expireWarrantIfNeeded gateway warrantId warrantSha256 actor (uuids 0) now).commit db with
    | (.ok true, expired) => (.error (decisionConflict "warrant is expired"), expired)
    | (.ok false, current) => decide current
    | (.error raised, current) => (.error raised, current)
  else decide db

def requestRevision (warrantId warrantSha256 : String) (guidance : UntrustedEvidenceEnvelope)
    (actor uuid : String) (now : Instant) : Tx String := do
  let control ← pendingControl warrantId warrantSha256
  Transaction.check (now ≤ control.expiresAt) (decisionConflict "warrant is expired")
  let db ← Transaction.read
  let incident ← Transaction.lift (needed
    ((db.incidents.find control.incidentId).filter fun incident =>
      incident.liveTrial = true ∧ incident.ownerSubject = some actor ∧
        guidance.incidentId = incident.id)
    ⟨.permissionError, "revision is not authorized for this live trial"⟩)
  let encoded ← Transaction.lift (canonicalJson gateway.services.tables guidance.json)
  addEvidence
    { id := guidance.evidenceId
      incidentId := guidance.incidentId
      kind := guidance.kind
      provenance := guidance.provenance
      sanitizedText := guidance.text
      rawSha256 := guidance.rawSha256
      sanitizedSha256 := guidance.sanitizedSha256
      envelopeJson := encoded
      tags := guidance.tags
      published := true
      createdAt := now }
  settleControl gateway control .rejected control.approvalId incident (.state .revisionRequested)
    actor
    (decisionMembers warrantId warrantSha256 ++ [("evidence_id", .str guidance.evidenceId)]) uuid
    now
  publishLocked gateway.services incident.id now
  pure control.incidentId

end Gateway

end CrossPatch.Runtime.Authority
