import CrossPatch.Broker.Cancellation
import CrossPatch.Runtime.ExecutionAuthority
import CrossPatch.Runtime.ExecutionPath

/-!
# Executing an approved warrant

`execute_approved_only` as a small-step machine: an attempt stands before one of its
awaits, and one step answers it.  An attempt may stop anywhere, by a crash or by an
exception that nobody catches, and later attempts start over from the database.
-/

namespace CrossPatch.Runtime.Launcher

open CrossPatch.Broker.Approval CrossPatch.Broker.Cancellation CrossPatch.Broker.Claim
open CrossPatch.Broker.Store CrossPatch.Broker.Warrant
open CrossPatch.Domain.Failure CrossPatch.Domain.Hashing CrossPatch.Domain.StateMachine
open CrossPatch.Domain.Text
open CrossPatch.Evidence.Views
open CrossPatch.Library CrossPatch.Library.Attempt CrossPatch.Library.Calendar
open CrossPatch.Library.JsonText CrossPatch.Library.Octets CrossPatch.Library.Runs
open CrossPatch.Library.Sha256 CrossPatch.Library.Transaction
open CrossPatch.Runner.Results
open CrossPatch.Runtime.BrokerResults CrossPatch.Runtime.ExecutionAuthority
open CrossPatch.Runtime.ExecutionPath CrossPatch.Runtime.Progress CrossPatch.Runtime.Projection
open CrossPatch.Runtime.Records CrossPatch.Runtime.Refinement CrossPatch.Runtime.Store
open CrossPatch.Runtime.Timeline

/-! ## The bytes of a result -/

/-- A receipt as the canonical encoder sees it. -/
def receiptDocument (receipt : ProcessReceipt) : Json :=
  .obj (receipt.members.map fun member =>
    if member.1 = "started_at" then (member.1, .str (timestampText receipt.startedAt))
    else if member.1 = "finished_at" then (member.1, .str (timestampText receipt.finishedAt))
    else member)

def optionalJson (text : Option String) : Json :=
  match text with
  | none => .null
  | some text => .str text

def statusValue : BrokerStatus → String
  | .executed => "EXECUTED"
  | .testFailed => "TEST_FAILED"
  | .tamperRejected => "TAMPER_REJECTED"
  | .policyRejected => "POLICY_REJECTED"
  | .expired => "EXPIRED"
  | .replayRejected => "REPLAY_REJECTED"
  | .infraFailed => "INFRA_FAILED"
  | .notFound => "NOT_FOUND"

def resultDocument (result : BrokerResult) : Json :=
  .obj
    [("warrant_id", .str result.warrantId), ("status", .str (statusValue result.status)),
     ("receipts", .arr (result.receipts.map receiptDocument)),
     ("error_code", optionalJson result.errorCode),
     ("nonce_sha256", optionalJson result.nonceSha256)]

/-! ## Ingesting evidence -/

/-- `EvidenceService.ingest`; `stored` is the answer of the artifact store. -/
def ingest (sanitizer : Sanitizer) (incidentId : String) (kind : EvidenceKind) (raw : Bytes)
    (provenance evidenceId : String) (stored : Attempt Unit) :
    Attempt UntrustedEvidenceEnvelope := do
  let sanitized := sanitizer.sanitizeEvidence raw provenance
  stored
  require (hexdigest raw = sanitized.rawSha256)
    ⟨.runtimeError, "raw artifact digest disagrees with sanitizer"⟩
  require (hexdigest (utf8 sanitized.text) = sanitized.sanitizedSha256)
    ⟨.runtimeError, "sanitized artifact digest disagrees with sanitizer"⟩
  .ok
    { evidenceId := evidenceId
      incidentId := incidentId
      kind := kind
      provenance := sanitized.provenance
      provenanceSha256 := sanitized.provenanceSha256
      provenanceTags := sanitized.provenanceTags
      text := sanitized.text
      rawSha256 := sanitized.rawSha256
      sanitizedSha256 := sanitized.sanitizedSha256
      rawSizeBytes := sanitized.rawSizeBytes
      sanitizedSizeBytes := sanitized.sanitizedSizeBytes
      truncated := sanitized.truncated
      tags := sanitized.tags }

/-! ## The launcher -/

structure BundledIncidentLauncher where
  services : Services
  stopwatch : Stopwatch
  sanitizer : Sanitizer
  /-- Whether a coordinator is configured. -/
  coordinated : Bool

/-- `projected_broker_result`. -/
def projectedBrokerResult (launcher : BundledIncidentLauncher) (incidentId warrantId : String)
    (db : Database) :
    Attempt (Option BrokerResult) := do
  let incident ← needed (db.incidents.find incidentId) (lookupError warrantId)
  let record ← needed ((db.broker.warrants warrantId).filter fun record => record.id = warrantId)
    (lookupError warrantId)
  match record.resultJson with
  | none => .ok none
  | some result =>
      projectedBrokerResultLocked launcher.services launcher.stopwatch db incident record result

/-- `completed_broker_result_bytes`, with the result that the bytes are of. -/
def completedBrokerResult (incidentId warrantId : String) (db : Database) : Option BrokerResult :=
  ((db.broker.warrants warrantId).filter fun record =>
    record.id = warrantId ∧ record.incidentId = incidentId ∧ record.state = .consumed).bind
      (·.resultJson)

/-- The await before which an attempt stands; `bailiffFailure` names the exception of the
Bailiff, if there was one. -/
inductive Position where
  | idle
  | looking
  | reading
  | asking
  | rereading (bailiffFailure : Option String)
  | recording (bailiffFailure : Option String) (result : BrokerResult)
  | projecting (bailiffFailure : Option String) (evidenceId : String)
  | completing (status : BrokerStatus)
  | refusing (errorCode : String)

structure World where
  db : Database
  position : Position

/-- What an await is answered with: fresh identifiers, the time, the artifact store, and
what the Bailiff leaves behind. -/
structure Input where
  evidenceUuid : String
  testUuids : Nat → String
  eventUuids : Nat → String
  now : Instant
  stored : Attempt Unit
  resumed : Database
  failure : Option String

inductive Action where
  | start
  | proceed (input : Input)
  | crash
  | others (after : Database)

def receiptProvenance : String := "deterministic mutation broker receipt"

/-- The `except (TypeError, ValueError)` clauses; other exceptions leave the attempt. -/
def afterRaise (errorCode : String) (raised : Raised) : Position :=
  if raised.isA .typeError || raised.isA .valueError then .refusing errorCode else .idle

def resultInvalid : String := "BROKER_RESULT_INVALID"

def executionErrorCode (bailiffFailure : Option String) : String :=
  if bailiffFailure.isSome then "BAILIFF_MODEL_FAILURE" else resultInvalid

section Attempts

variable (launcher : BundledIncidentLauncher) (incidentId warrantId : String)

def look (db : Database) : Position :=
  match projectedBrokerResult launcher incidentId warrantId db with
  | .error raised => afterRaise resultInvalid raised
  | .ok (some _) => .idle
  | .ok none => .reading

def recordReceipt (input : Input) (result : BrokerResult) (db : Database) :
    Attempt String × Database :=
  let evidenceId := "ev_" ++ input.evidenceUuid
  let envelope := do
    let raw ← canonicalJson launcher.services.tables (resultDocument result)
    ingest launcher.sanitizer incidentId .testOutput raw receiptProvenance evidenceId input.stored
  match envelope with
  | .error raised => (.error raised, db)
  | .ok envelope =>
      match (recordEvidence launcher.services envelope evidenceId true input.now).commit db with
      | (.ok _, next) => (.ok evidenceId, next)
      | (.error raised, next) => (.error raised, next)

def proceed (input : Input) (world : World) : World :=
  let db := world.db
  match world.position with
  | .idle => world
  | .looking => ⟨db, look launcher incidentId warrantId db⟩
  | .reading =>
      match completedBrokerResult incidentId warrantId db with
      | some result => ⟨db, .recording none result⟩
      | none =>
          ⟨db, if launcher.coordinated then .asking else .refusing "AGENT_RUNTIME_UNAVAILABLE"⟩
  | .asking => ⟨input.resumed, .rereading input.failure⟩
  | .rereading bailiffFailure =>
      match completedBrokerResult incidentId warrantId db with
      | some result => ⟨db, .recording bailiffFailure result⟩
      | none => ⟨db, .refusing (executionErrorCode bailiffFailure)⟩
  | .recording bailiffFailure result =>
      match recordReceipt launcher incidentId input result db with
      | (.ok evidenceId, next) => ⟨next, .projecting bailiffFailure evidenceId⟩
      | (.error raised, next) => ⟨next, afterRaise (executionErrorCode bailiffFailure) raised⟩
  | .projecting bailiffFailure evidenceId =>
      match (projectBrokerResult launcher.services launcher.stopwatch incidentId warrantId evidenceId
        input.testUuids input.eventUuids input.now).commit db with
      | (.ok result, next) => ⟨next, .completing result.status⟩
      | (.error raised, next) => ⟨next, afterRaise (executionErrorCode bailiffFailure) raised⟩
  | .completing status =>
      ⟨((appendEvent launcher.services incidentId .bailiffCompleted "Bailiff"
        [("warrant_id", .str warrantId), ("status", .str (statusValue status))] true
        (input.eventUuids 0) input.now).commit db).2, .idle⟩
  | .refusing errorCode =>
      ⟨((recordExecutionFailure launcher.services incidentId warrantId errorCode
        (input.eventUuids 0) input.now).commit db).2, .idle⟩

/-- One attempt at a time; nothing but the database survives a crash. -/
def machine : Machine World Action Unit where
  step world
    | .start =>
        match world.position with
        | .idle => (⟨world.db, .looking⟩, [])
        | _ => (world, [])
    | .proceed input => (proceed launcher incidentId warrantId input world, [])
    | .crash => (⟨world.db, .idle⟩, [])
    | .others after => (⟨after, world.position⟩, [])

end Attempts

/-! ## An attempt on a durable result -/

theorem receiptDocument_encodes (tables : UnicodeTables) (receipt : ProcessReceipt) :
    Encodes tables (receiptDocument receipt) := by
  refine normalize_obj_ok (receipt.members.map Prod.fst) ?_ (receipt_keys receipt).1
    (receipt_keys receipt).2 ?_
  · rw [List.map_map]
    refine List.map_congr_left fun member _ => ?_
    simp only [Function.comp_apply]
    split
    · rfl
    · split <;> rfl
  · intro member inside
    obtain ⟨original, listed, rfl⟩ := List.mem_map.mp inside
    split
    · exact ⟨_, normalize_str _ _⟩
    · split
      · exact ⟨_, normalize_str _ _⟩
      · exact receipt_values tables receipt original listed

theorem resultDocument_encodes (tables : UnicodeTables) (result : BrokerResult) :
    Encodes tables (resultDocument result) := by
  have optional : ∀ text : Option String, ∃ value,
      Domain.Hashing.normalize tables (optionalJson text) = .ok value := by
    intro text
    cases text with
    | none => exact ⟨_, normalize_null _⟩
    | some text => exact ⟨_, normalize_str _ _⟩
  have receipts := @normalize_arr_ok tables (result.receipts.map receiptDocument) (by
    intro item member
    obtain ⟨receipt, _, rfl⟩ := List.mem_map.mp member
    exact receiptDocument_encodes tables receipt)
  refine normalize_obj_ok ["warrant_id", "status", "receipts", "error_code", "nonce_sha256"] rfl
    (by decide) (by decide) ?_
  simp [optional, receipts]

/-- A sanitizer that hashes what it is given and what it returns. -/
def Hashes (sanitizer : Sanitizer) : Prop :=
  ∀ raw provenance, (sanitizer.sanitizeEvidence raw provenance).rawSha256 = hexdigest raw ∧
    (sanitizer.sanitizeEvidence raw provenance).sanitizedSha256 =
      hexdigest (utf8 (sanitizer.sanitizeEvidence raw provenance).text)

section Attempt

variable {launcher : BundledIncidentLauncher} {incident : IncidentRecord} {record : WarrantRecord}
variable {result : BrokerResult} {db : Database} {input : Input}

theorem look_ready (ready : Ready incident record result db) :
    look launcher incident.id record.id db = .reading := by
  obtain ⟨_, _, written, _⟩ := checkBrokerResult_agrees ready.checked
  have row : (db.broker.warrants record.id).filter (fun current => current.id = record.id) =
      some record := by
    rw [Option.filter_eq_some_iff]
    exact ⟨ready.row, decide_eq_true rfl⟩
  simp [look, projectedBrokerResult, ready.stage.found, row, needed, written,
    projectedBrokerResultLocked, ready.untested]

theorem completed_ready (ready : Ready incident record result db) :
    completedBrokerResult incident.id record.id db = some result := by
  obtain ⟨_, _, written, _⟩ := checkBrokerResult_agrees ready.checked
  have row : (db.broker.warrants record.id).filter (fun current => current.id = record.id ∧
      current.incidentId = incident.id ∧ current.state = .consumed) = some record := by
    rw [Option.filter_eq_some_iff]
    exact ⟨ready.row, decide_eq_true
      ⟨rfl, ready.owner, (QueueRefinement.checkBrokerResult_eq_ok ready.checked).1⟩⟩
  rw [completedBrokerResult, row, Option.bind_some, written]

/-- The evidence of a ready result can be recorded. -/
theorem recordReceipt_ready (ready : Ready incident record result db)
    (renders : Renders launcher.services) (hashes : Hashes launcher.sanitizer)
    (stored : input.stored = .ok ()) :
    ∃ next, recordReceipt launcher incident.id input result db =
        (.ok ("ev_" ++ input.evidenceUuid), next) ∧ Ready incident record result next := by
  obtain ⟨normalized, normalizes⟩ := resultDocument_encodes launcher.services.tables result
  have hidden : publishes incident = false := by simp [publishes, ready.approved]
  let sanitized := launcher.sanitizer.sanitizeEvidence (encode normalized) receiptProvenance
  obtain ⟨raw, text⟩ := hashes (encode normalized) receiptProvenance
  have ingested : ∃ envelope, ingest launcher.sanitizer incident.id .testOutput (encode normalized)
      receiptProvenance ("ev_" ++ input.evidenceUuid) input.stored = .ok envelope ∧
        envelope.incidentId = incident.id := by
    simp only [ingest, stored, ok_bind, require_true raw.symm, require_true text.symm]
    exact ⟨_, rfl, rfl⟩
  obtain ⟨envelope, built, owner⟩ := ingested
  obtain ⟨done, answered, stage, broker, works, tests⟩ :=
    (@recordEvidence_reaches launcher.services db incident envelope
      ("ev_" ++ input.evidenceUuid) input.now ready.stage renders hidden owner).commit
  refine ⟨_, ?_, ready.elsewhere stage broker works tests⟩
  simp only [recordReceipt, canonicalJson_ok normalizes, ok_bind, built]
  split
  · rename_i value next committed
    rw [committed]
  · rename_i raised next failed
    rw [failed] at answered
    cases answered

end Attempt

/-! ## A failed test -/

def sampleFailedResult : BrokerResult := sampleReport sampleDocument

/-- The broker's row of a warrant whose test failed. -/
def sampleConsumed : WarrantRecord where
  id := sampleDocument.warrantId
  incidentId := sampleInput.incidentId
  nonceSha256 := hexdigest (utf8 sampleDocument.nonce)
  documentJson := (canonicalWarrantBytes .asciiOnly sampleDocument).toOption.getD []
  approvalJson := (canonicalApprovalBytes .asciiOnly sampleApproval).toOption.getD []
  state := .consumed
  expiresAt := sampleDocument.expiresAt
  resultJson := some sampleFailedResult
  claimedAt := some sampleIssuedAt
  nonceConsumedAt := some sampleIssuedAt
  finishedAt := some sampleIssuedAt
  createdAt := sampleIssuedAt
  updatedAt := sampleIssuedAt

def sampleControl : ControlWarrantRecord where
  id := sampleDocument.warrantId
  incidentId := sampleInput.incidentId
  canonicalDocument := sampleConsumed.documentJson
  warrantSha256 := hexdigest sampleConsumed.documentJson
  authorityJson := []
  status := .approved
  approvalId := some (Authority.approvalIdOf sampleDocument.warrantId)
  expiresAt := sampleDocument.expiresAt
  createdAt := sampleIssuedAt
  updatedAt := sampleIssuedAt

def executionFinished : Database :=
  { executionUnderWay with
    controlWarrants := Table.empty.insert sampleControl rfl
    broker := PostgresWarrantStore.empty.put sampleConsumed.id sampleConsumed }

def approvedIncident : IncidentRecord :=
  { openedRecord sampleInput sampleIssuedAt with state := .approved }

/-- A sanitizer that keeps nothing but the provenance. -/
def sampleSanitizer : Sanitizer where
  sanitizeEvidence raw provenance :=
    { provenance := provenance
      provenanceSha256 := hexdigest (utf8 provenance)
      provenanceTags := []
      text := provenance
      rawSha256 := hexdigest raw
      sanitizedSha256 := hexdigest (utf8 provenance)
      rawSizeBytes := raw.length
      sanitizedSizeBytes := (utf8 provenance).length
      truncated := false
      tags := [] }

theorem sampleSanitizer_hashes : Hashes sampleSanitizer := fun _ _ => ⟨rfl, rfl⟩

def sampleLauncher : BundledIncidentLauncher :=
  ⟨sampleServices sampleIdle, ⟨fun _ _ => 0⟩, sampleSanitizer, true⟩

def sampleAnswers : Input where
  evidenceUuid := "1"
  testUuids := sampleUuids
  eventUuids := sampleUuids
  now := sampleIssuedAt
  stored := .ok ()
  resumed := executionFinished
  failure := none

theorem executionFinished_ready :
    Ready approvedIncident sampleConsumed sampleFailedResult executionFinished where
  stage := ⟨rfl, ⟨rfl, rfl⟩, fun _ impossible => by cases impossible⟩
  approved := rfl
  row := rfl
  owner := rfl
  named := by decide
  checked := checkBrokerResult_of rfl rfl ⟨rfl, rfl⟩ rfl rfl (hex_ascii _) (List.cons_ne_nil _ _)
    (iff_of_false (by decide) (by decide)) (.inr rfl)
  untested := rfl
  work := ⟨_, rfl, rfl, rfl, rfl⟩
  unrepaired := rfl

theorem executionFinished_projects : ((projectBrokerResult (sampleServices sampleIdle)
    ⟨fun _ _ => 0⟩ approvedIncident.id sampleConsumed.id "ev_2" sampleUuids sampleUuids
      sampleIssuedAt).commit executionFinished).1 = .ok sampleFailedResult := by
  obtain ⟨answer, answered, rfl, _⟩ := (@Ready.project_reaches (sampleServices sampleIdle)
    ⟨fun _ _ => 0⟩ executionFinished approvedIncident sampleConsumed sampleFailedResult
    executionFinished_ready (sample_renders sampleIdle) (fun executed => absurd executed (by decide))
    "ev_2" sampleUuids sampleUuids sampleIssuedAt (by decide)).commit
  exact answered

/-- The calls of `project_broker_result` on the sample warrant. -/
def sampleProjection : Machine Database Projection.Step (Attempt BrokerResult) :=
  Projection.machine (sampleServices sampleIdle) ⟨fun _ _ => 0⟩ approvedIncident.id sampleConsumed.id

def sampleCrashed : Projection.Step := .crashedCall "ev_1" sampleUuids sampleUuids sampleIssuedAt
def sampleCall : Projection.Step := .call "ev_2" sampleUuids sampleUuids sampleIssuedAt
def sampleReplay : Projection.Step := .call "ev_3" sampleUuids sampleUuids sampleIssuedAt

theorem sampleCall_answers :
    sampleProjection.events executionFinished sampleCall = [.ok sampleFailedResult] := by
  rw [Machine.events, sampleProjection, sampleCall, machine_call, executionFinished_projects]

theorem sampleCall_broker :
    (sampleProjection.next executionFinished sampleCall).broker = executionFinished.broker := by
  have unprojected : Unprojected approvedIncident.id sampleConsumed.id executionFinished :=
    ⟨fun _ _ => rfl, rfl⟩
  exact call_broker unprojected sampleCall_answers

/-- The receipts of the sample name one plan. -/
theorem sample_distinct {db : Database} (same : db.broker = executionFinished.broker)
    (result : BrokerResult) (durable : Durable approvedIncident.id sampleConsumed.id result db) :
    DistinctPlans result := by
  obtain ⟨record, present, _, _, checked⟩ := durable
  have row : executionFinished.broker.warrants sampleConsumed.id = some sampleConsumed := rfl
  rw [same, row, Option.some.injEq] at present
  subst present
  rw [← Option.some.inj (checkBrokerResult_agrees checked).2.2.1]
  exact List.nodup_singleton _

/-- A call that crashes, one that projects a failed test and one that replays it. -/
theorem sample_projected_once :
    ProjectedOnce (sampleServices sampleIdle) ⟨fun _ _ => 0⟩ approvedIncident.id sampleConsumed.id
        sampleFailedResult
        (sampleProjection.run executionFinished [sampleCrashed, sampleCall, sampleReplay]) ∧
      sampleProjection.step (sampleProjection.run executionFinished [sampleCrashed, sampleCall])
          sampleReplay =
        (sampleProjection.run executionFinished [sampleCrashed, sampleCall],
          [.ok sampleFailedResult]) := by
  have admitted : sampleProjection.Follows (Admitted approvedIncident.id sampleConsumed.id)
      executionFinished [sampleCrashed, sampleCall, sampleReplay] :=
    ⟨trivial, sample_distinct rfl, sample_distinct sampleCall_broker, trivial⟩
  have unfailing : ∀ answers, (.ok sampleFailedResult : Attempt BrokerResult) ∈ answers →
      ¬ Failing answers := by
    intro answers member failing
    obtain ⟨error, failed⟩ := failing _ member
    cases failed
  have logged : ∀ steps, (.ok sampleFailedResult : Attempt BrokerResult) ∈
      sampleProjection.log executionFinished (sampleCrashed :: sampleCall :: steps) := by
    intro steps
    rw [Machine.log_cons, Machine.log_cons]
    have crashed : sampleProjection.next executionFinished sampleCrashed = executionFinished := rfl
    rw [crashed, sampleCall_answers]
    exact List.mem_append_right _ List.mem_cons_self
  obtain ⟨_, failing⟩ | ⟨result, before, call, after, split, failing, answered, once, replays⟩ :=
    (projection_idempotent (sampleServices sampleIdle) ⟨fun _ _ => 0⟩ approvedIncident.id
      sampleConsumed.id executionFinished [sampleCrashed, sampleCall, sampleReplay]
      ⟨fun _ _ => rfl, rfl⟩ admitted).2
  · exact absurd failing (unfailing _ (logged _))
  · rcases before with _ | ⟨first, _ | ⟨second, _ | ⟨third, rest⟩⟩⟩
    · cases split
      cases answered
    · cases split
      have same : sampleFailedResult = result :=
        Except.ok.inj (List.cons.inj (sampleCall_answers.symm.trans answered)).1
      rw [same]
      exact ⟨once, replays [] _ _ _ _ [] rfl⟩
    · cases split
      exact absurd failing (unfailing _ (logged []))
    · cases rest <;> cases split

end CrossPatch.Runtime.Launcher
