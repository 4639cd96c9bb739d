import CrossPatch.Runtime.Store

/-!
# Projecting broker results

The only way from a durable broker result into the state of an incident.  One
transaction records the tests, moves the incident through `EXECUTING` to its
outcome, completes the execution work, and opens the repair work of a failed
test.  The column of the result holds its canonical bytes, which only the
broker's `finish` writes; the model keeps the result itself.
-/

namespace CrossPatch.Runtime.BrokerResults

open CrossPatch.Broker.Store
open CrossPatch.Domain.Failure CrossPatch.Domain.Hashing CrossPatch.Domain.StateMachine
open CrossPatch.Domain.Text
open CrossPatch.Library CrossPatch.Library.Attempt CrossPatch.Library.Calendar
open CrossPatch.Library.JsonText CrossPatch.Library.Octets CrossPatch.Library.Sha256
open CrossPatch.Runner.Results
open CrossPatch.Runtime.Records CrossPatch.Runtime.Store CrossPatch.Runtime.Timeline

/-- Milliseconds between two instants, rounded by the interpreter's floats and
never negative. -/
structure Stopwatch where
  durationMs : Instant → Instant → Nat

section Projection

variable (services : Services) (stopwatch : Stopwatch)

def brokerReceiptResult (receipt : ProcessReceipt) (warrantId evidenceId : String) :
    Attempt Payload := do
  let receiptSha256 ← sha256Hex services.tables (.obj receipt.members)
  .ok
    [("warrant_id", .str warrantId),
     ("state", .str (if receipt.passed then "passed" else "failed")),
     ("passed", .bool receipt.passed),
     ("duration_ms", .int (stopwatch.durationMs receipt.startedAt receipt.finishedAt)),
     ("detail", .str receipt.verificationCode), ("evidence_id", .str evidenceId),
     ("receipt_sha256", .str receiptSha256), ("receipt", .obj receipt.members)]

/-- The checks on the durable result before it is projected. -/
def checkBrokerResult (record : WarrantRecord) (warrantId : String) : Attempt BrokerResult := do
  let result ← needed
    (if record.state = .consumed ∧ record.claimedAt.isSome = true ∧
        record.finishedAt.isSome = true then record.resultJson else none)
    ⟨.valueError, "broker result is not durably complete"⟩
  require (result.warrantId = warrantId)
    ⟨.valueError, "broker result canonical binding is invalid"⟩
  let nonce ← needed result.nonceSha256 ⟨.valueError, "broker result nonce binding is invalid"⟩
  let bound ← compareDigest nonce record.nonceSha256
  require (bound = true) ⟨.valueError, "broker result nonce binding is invalid"⟩
  require (result.receipts ≠ []) ⟨.valueError, "broker result has no trusted test receipt"⟩
  require ((result.status = .executed) = (result.receipts.all (·.passed) = true))
    ⟨.valueError, "broker status disagrees with trusted receipts"⟩
  require (result.status = .executed ∨ result.status = .testFailed)
    ⟨.valueError, "broker result is not a projectable execution outcome"⟩
  .ok result

/-! ## An earlier projection -/

def textOf : Option Json → Option String
  | some (.str text) => some text
  | _ => none

def outcomeType (result : BrokerResult) : StateEventType :=
  if result.status = .executed then .verified else .testFailed

/-- The outcome events of one warrant. -/
def outcomeEvents (db : Database) (incidentId warrantId : String) (type : StateEventType) :
    List TimelineEventRecord :=
  (db.eventsOf incidentId).filter fun event =>
    event.type = .state type ∧ textOf (event.payload.lookup "warrant_id") = some warrantId

def consistentCounts (db : Database) (incident : IncidentRecord) (record : WarrantRecord)
    (result : BrokerResult) (rows : List TestRunRecord) : Bool :=
  let expected := if result.status = .executed then IncidentState.verified else .testFailed
  let work := db.works.find (executionWorkId record.id)
  let repair := db.works.find (repairWorkId record.id)
  decide (incident.state = expected) &&
    rows.length == result.receipts.length &&
    (rows.map fun row => (row.planId, row.planSha256)).dedup.length == rows.length &&
    (rows.filterMap fun row => textOf (row.result.lookup "evidence_id")).dedup.length == 1 &&
    (outcomeEvents db incident.id record.id (outcomeType result)).length == 1 &&
    work.any (fun row => row.status = .completed) &&
    (decide (result.status = .executed) || repair.any fun row => row.kind = .testRepair)

/-- Every receipt has its row, and the row holds exactly what it projects to. -/
def receiptRecorded (record : WarrantRecord) (evidenceId : String) (rows : List TestRunRecord)
    (receipt : ProcessReceipt) : Attempt Bool := do
  match rows.find? fun row => row.planId == receipt.planId && row.planSha256 == receipt.planSha256
  with
  | none => .ok false
  | some row => do
      let expected ← brokerReceiptResult services stopwatch receipt record.id evidenceId
      .ok (sameValue (.obj row.result) (.obj expected))

def consistentRows (db : Database) (incident : IncidentRecord) (record : WarrantRecord)
    (result : BrokerResult) (rows : List TestRunRecord) : Attempt Bool := do
  match (rows.filterMap fun row => textOf (row.result.lookup "evidence_id")).head?,
      (outcomeEvents db incident.id record.id (outcomeType result)).head? with
  | some evidenceId, some event => do
      let rowField := if outcomeType result = .verified then "receipt_id" else "test_run_id"
      let recorded ← collect (receiptRecorded services stopwatch record evidenceId rows)
        result.receipts
      .ok (decide (textOf (event.payload.lookup "evidence_id") = some evidenceId) &&
        (rows.any fun row => textOf (event.payload.lookup rowField) = some row.id) &&
        recorded.all id)
  | _, _ => .ok false

/-- `_projected_broker_result_locked`. -/
def projectedBrokerResultLocked (db : Database) (incident : IncidentRecord)
    (record : WarrantRecord) (result : BrokerResult) : Attempt (Option BrokerResult) := do
  let rows := db.testsOf incident.id record.id
  if rows = [] then .ok none
  else do
    let valid ←
      if consistentCounts db incident record result rows then
        consistentRows services stopwatch db incident record result rows
      else .ok false
    require (valid = true) ⟨.valueError, "persisted broker projection is contradictory"⟩
    .ok (some result)

/-! ## The projection -/

/-- The identifier of a claim, derived from the warrant and the time of the claim. -/
def claimIdentifier (warrantId : String) (claimedAt : Instant) : Attempt String := do
  let material := warrantId ++ ":" ++ shortIso claimedAt "+00:00"
  require (isAscii material = true) ⟨.unicodeEncodeError, "ordinal not in range(128)"⟩
  .ok ("claim_" ++ String.ofList ((hexdigest (utf8 material)).toList.take 32))

def recordTests (incidentId warrantId evidenceId : String) (uuids : Nat → String)
    (now : Instant) : Nat → List ProcessReceipt → Tx Unit
  | _, [] => pure ()
  | position, receipt :: rest => do
      let result ← Transaction.lift
        (brokerReceiptResult services stopwatch receipt warrantId evidenceId)
      addTestRun
        { id := "test_" ++ uuids position
          incidentId := incidentId
          planId := receipt.planId
          planSha256 := receipt.planSha256
          result := result
          createdAt := now }
      recordTests incidentId warrantId evidenceId uuids now (position + 1) rest

/-- The outcome event, its payload, and what the work queue is left with. -/
def concludeExecution (incident : IncidentRecord) (result : BrokerResult)
    (warrantId evidenceId : String) (testUuids eventUuids : Nat → String) (now : Instant) :
    Tx Unit := do
  let lastTest := "test_" ++ testUuids (result.receipts.length - 1)
  let passed := result.receipts.all (·.passed)
  let _ ← appendLocked services incident
    (if passed then .state .verified else .state .testFailed) "broker"
    [(if passed then "receipt_id" else "test_run_id", .str lastTest),
     ("warrant_id", .str warrantId), ("evidence_id", .str evidenceId)] true (eventUuids 1) now
  let db ← Transaction.read
  let work ← Transaction.lift (needed
    ((db.works.find (executionWorkId warrantId)).filter fun row =>
      row.incidentId = incident.id ∧ row.warrantId = warrantId ∧ row.kind = .approvedExecution)
    ⟨.valueError, "broker result has no matching durable execution work"⟩)
  writeWork (completedWork work now)
  if passed then pure ()
  else enqueueRuntimeWorkLocked incident.id warrantId .testRepair now
  publishLocked services incident.id now

def projectFresh (incident : IncidentRecord) (record : WarrantRecord) (result : BrokerResult)
    (warrantId evidenceId : String) (testUuids eventUuids : Nat → String) (now : Instant) :
    Tx BrokerResult := do
  let claimedAt ← Transaction.lift
    (needed record.claimedAt ⟨.valueError, "broker result is not durably complete"⟩)
  let claimId ← Transaction.lift (claimIdentifier warrantId claimedAt)
  let started ← appendLocked services incident (.state .executionStarted) "broker"
    [("claim_id", .str claimId), ("warrant_id", .str warrantId)] true (eventUuids 0) now
  recordTests services stopwatch incident.id warrantId evidenceId testUuids now 0 result.receipts
  concludeExecution services started result warrantId evidenceId testUuids eventUuids now
  pure result

def projectBrokerResult (incidentId warrantId evidenceId : String)
    (testUuids eventUuids : Nat → String) (now : Instant) : Tx BrokerResult := do
  let db ← Transaction.read
  let incident ← Transaction.lift
    (needed (db.incidents.find incidentId) (lookupError warrantId))
  let record ← Transaction.lift (needed
    ((db.broker.warrants warrantId).filter fun record =>
      record.id = warrantId ∧ record.incidentId = incidentId)
    (lookupError warrantId))
  let result ← Transaction.lift (checkBrokerResult record warrantId)
  let projected ← Transaction.lift
    (projectedBrokerResultLocked services stopwatch db incident record result)
  match projected with
  | some earlier => pure earlier
  | none =>
      projectFresh services stopwatch incident record result warrantId evidenceId testUuids
        eventUuids now

def recordExecutionFailure (incidentId warrantId errorCode uuid : String) (now : Instant) :
    Tx Unit := do
  let db ← Transaction.read
  let incident ← Transaction.lift
    (needed (db.incidents.find incidentId) (lookupError warrantId))
  let work ← Transaction.lift
    (needed (db.works.find (executionWorkId warrantId)) (lookupError warrantId))
  let _ ← appendLocked services incident (.state .executionFailed) "broker"
    [("warrant_id", .str warrantId), ("error_code", .str errorCode)] true uuid now
  writeWork (completedWork work now)
  publishLocked services incidentId now

end Projection

end CrossPatch.Runtime.BrokerResults
