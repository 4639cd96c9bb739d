import CrossPatch.Runtime.Timeline

/-!
# Runtime store

The transactions of the runtime store.  Identifiers drawn from the random
generator are an argument `uuids`, in the order of their use, and so is the clock.
-/

namespace CrossPatch.Runtime.Store

open CrossPatch.Broker.Store CrossPatch.Broker.Paths
open CrossPatch.Domain.Failure CrossPatch.Domain.Hashing CrossPatch.Domain.Seats
open CrossPatch.Domain.StateMachine CrossPatch.Domain.Text
open CrossPatch.Evidence.Views
open CrossPatch.Library CrossPatch.Library.Attempt CrossPatch.Library.Calendar
open CrossPatch.Library.JsonText CrossPatch.Library.Octets CrossPatch.Library.Sha256
open CrossPatch.Runner.Results
open CrossPatch.Runtime.Records CrossPatch.Runtime.Timeline

/-! ## Work rows -/

def executionWorkId (warrantId : String) : String := "execute:" ++ warrantId

def repairWorkId (warrantId : String) : String := "repair:" ++ warrantId

def workId : WorkKind → String → String
  | .approvedExecution, warrantId => executionWorkId warrantId
  | .testRepair, warrantId => repairWorkId warrantId

/-- States after which no work is left for an incident. -/
def terminalStates : List IncidentState := [.humanEscalation, .blocked, .verified]

/-- `_enqueue_runtime_work_locked`. -/
def enqueueRuntimeWorkLocked (incidentId warrantId : String) (kind : WorkKind) (now : Instant) :
    Tx Unit := do
  let db ← Transaction.read
  match db.works.find (workId kind warrantId) with
  | some existing =>
      Transaction.check
        (existing.incidentId = incidentId ∧ existing.warrantId = warrantId ∧ existing.kind = kind)
        ⟨.valueError, "runtime work binding changed"⟩
  | none =>
      insertWork
        { id := workId kind warrantId
          incidentId := incidentId
          warrantId := warrantId
          kind := kind
          status := .pending
          ownerId := none
          attemptCount := 0
          createdAt := now
          updatedAt := now
          completedAt := none }

def completedWork (work : RuntimeWorkRecord) (now : Instant) : RuntimeWorkRecord :=
  { work with
    status := .completed
    ownerId := none
    updatedAt := now
    completedAt := some now }

def getWork (id : String) : Tx RuntimeWorkRecord := do
  let db ← Transaction.read
  Transaction.lift (needed (db.works.find id) (lookupError id))

def requeueRow (now : Instant) (row : RuntimeWorkRecord) : Tx Unit := do
  let incident ← getIncident row.incidentId
  writeWork
    (if incident.state ∈ terminalStates then completedWork row now
     else { row with status := .pending, ownerId := none, updatedAt := now })

def requeueRows (now : Instant) : List RuntimeWorkRecord → Tx Unit
  | [] => pure ()
  | row :: rest => do
      requeueRow now row
      requeueRows now rest

def requeueInterruptedRuntimeWork (now : Instant) : Tx Unit := do
  let db ← Transaction.read
  requeueRows now (db.works.rows.filter fun row => row.status = .running)

def claimRuntimeWork (id ownerId : String) (now : Instant) : Tx (Option RuntimeWorkRecord) := do
  let db ← Transaction.read
  match db.works.find id with
  | none => pure none
  | some work =>
      if work.status ≠ .pending then pure none
      else do
        let incident ← getIncident work.incidentId
        if work.kind = .approvedExecution ∧ incident.state ≠ .approved then
          if incident.state ∈ terminalStates then do
            writeWork (completedWork work now)
            pure none
          else
            Transaction.lift
              (raise .valueError "approved execution work disagrees with incident state")
        else do
          let claimed : RuntimeWorkRecord :=
            { work with
              status := .running
              ownerId := some ownerId
              attemptCount := work.attemptCount + 1
              updatedAt := now }
          writeWork claimed
          pure (some claimed)

/-- `_repair_has_durable_outcome_locked`. -/
def repairHasDurableOutcome (db : Database) (incident : IncidentRecord) (warrantId : String) :
    Bool :=
  decide (incident.state = .humanEscalation ∨ incident.state = .blocked) ||
    match db.latestControl incident.id with
    | none => false
    | some control => control.id != warrantId

def completeRepairWork (incidentId warrantId : String) (now : Instant) : Tx Unit := do
  let incident ← getIncident incidentId
  let work ← getWork (repairWorkId warrantId)
  let db ← Transaction.read
  Transaction.check (repairHasDurableOutcome db incident warrantId = true)
    ⟨.valueError, "repair work has no durable terminal authority outcome"⟩
  writeWork (completedWork work now)

section Timeline

variable (services : Services)

def failRuntimeWork (id operation failureOutcome uuid : String) (now : Instant) : Tx Unit := do
  let work ← getWork id
  let incident ← getIncident work.incidentId
  if work.status = .completed then
    Transaction.check (incident.state ∈ terminalStates)
      ⟨.valueError, "completed failed work is not fail closed"⟩
  else do
    let _ ← appendLocked services incident
      (if incident.state ∈ activeStates then .state .backgroundTaskFailed
       else .backgroundTaskErrorReported)
      "control-service"
      [("operation", .str operation), ("failure_outcome", .str failureOutcome)] true uuid now
    writeWork (completedWork work now)
    publishLocked services incident.id now

/-! ## Incidents -/

def evidenceProfiles : List String := ["standard", "instruction-like-log"]

def requireOperatorEvidenceProfile (scenario value : String) : Attempt String := do
  require (value ∈ evidenceProfiles) ⟨.valueError, "unsupported evidence profile"⟩
  require (¬ (value = "instruction-like-log" ∧ scenario ≠ "webhook-race"))
    ⟨.valueError, "instruction-like-log evidence is supported only for webhook-race"⟩
  .ok value

/-- The arguments of `create_incident`. -/
structure NewIncident where
  incidentId : String
  title : String
  scenario : String
  baseSha : String
  repositoryManifestSha256 : String
  catalogSha256 : String
  actor : String
  liveTrial : Bool
  evidenceProfile : String

/-- Incidents are created `OPEN` by both of the callers. -/
def openedRecord (input : NewIncident) (now : Instant) : IncidentRecord where
  id := input.incidentId
  title := input.title
  scenario := input.scenario
  liveTrial := input.liveTrial
  ownerSubject := some input.actor
  state := .opened
  baseSha := some input.baseSha
  repositoryManifestSha256 := some input.repositoryManifestSha256
  catalogSha256 := some input.catalogSha256
  pendingWarrantId := none
  nextEventSequence := 1
  eventChainHead := none
  createdAt := now
  updatedAt := now

def createIncident (input : NewIncident) (uuid : String) (now : Instant) : Tx Unit := do
  let profile ← Transaction.lift
    (requireOperatorEvidenceProfile input.scenario input.evidenceProfile)
  insertIncident (openedRecord input now)
  let _ ← appendLocked services (openedRecord input now) .incidentOpened input.actor
    (("scenario", .str input.scenario) ::
      if profile ≠ "standard" then [("evidence_profile", .str profile)] else []) true uuid now
  publishLocked services input.incidentId now

def appendEvent (incidentId : String) (type : EventType) (actor : String) (payload : Payload)
    (published : Bool) (uuid : String) (now : Instant) : Tx Unit := do
  let incident ← getIncident incidentId
  let _ ← appendLocked services incident type actor payload published uuid now
  if published then publishLocked services incidentId now else pure ()

def interruptedStates : List IncidentState :=
  [.opened, .reproducing, .evidenceReady, .analyzing, .patching, .reviewing]

def hasActiveWork (db : Database) (incidentId : String) : Bool :=
  db.works.rows.any fun work =>
    work.incidentId == incidentId && (work.status = .pending || work.status = .running)

def failClosedRows (uuids : Nat → String) (now : Instant) : Nat → List IncidentRecord → Tx Unit
  | _, [] => pure ()
  | position, incident :: rest => do
      let _ ← appendLocked services incident (.state .backgroundTaskFailed) "control-service"
        [("operation", .str "startup-reconciliation"),
         ("failure_outcome", .str "PROCESS_RESTART")] true (uuids position) now
      publishLocked services incident.id now
      failClosedRows uuids now (position + 1) rest

/-- The incidents that no work accounts for, in the order of their creation. -/
def failClosedInterruptedIncidents (uuids : Nat → String) (now : Instant) : Tx Unit := do
  let db ← Transaction.read
  let interrupted := db.incidents.rows.filter fun incident =>
    decide (incident.state ∈ interruptedStates) && !hasActiveWork db incident.id
  failClosedRows services uuids now 0
    (interrupted.insertionSort fun left right =>
      toLex (left.createdAt.micros, left.id) ≤ toLex (right.createdAt.micros, right.id))

def recordEvidence (envelope : UntrustedEvidenceEnvelope) (evidenceId : String)
    (published : Bool) (now : Instant) : Tx Unit := do
  let encoded ← Transaction.lift (canonicalJson services.tables envelope.json)
  addEvidence
    { id := evidenceId
      incidentId := envelope.incidentId
      kind := envelope.kind
      provenance := envelope.provenance
      sanitizedText := envelope.text
      rawSha256 := envelope.rawSha256
      sanitizedSha256 := envelope.sanitizedSha256
      envelopeJson := encoded
      tags := envelope.tags
      published := published
      createdAt := now }
  if published then publishLocked services envelope.incidentId now else pure ()

/-! ## Seats -/

/-- Each step reads the clock again. -/
def prepareSeat (incidentId : String) (seat : Seat) (phase : String) (uuids : Nat → String)
    (clock : Nat → Instant) : Tx Unit := do
  let incident ← getIncident incidentId
  let started ←
    if seat = .counsel ∧ incident.state = .analyzing then
      appendLocked services incident (.state .patchRequested) "orchestrator"
        [("phase", .str phase)] true (uuids 0) (clock 0)
    else pure incident
  let _ ← appendLocked services started .seatStarted seat.value
    [("seat", .str seat.value), ("phase", .str phase)] true (uuids 1) (clock 1)
  publishLocked services incidentId (clock 2)

/-- `record_seat_output`: the run, the patch candidate of a Counsel output, and
their events. -/
def recordSeatOutput (incidentId : String) (seat : Seat) (effort : Effort) (phase : String)
    (output : SeatOutput) (escalationCount : Nat) (uuids : Nat → String) (now : Instant) :
    Tx Unit := do
  let encoded ← Transaction.lift (canonicalJson services.tables output.json)
  let semanticSha256 ← Transaction.lift (services.semanticFingerprint seat output)
  let run : AgentRunRecord :=
    { id := "run_" ++ uuids 0
      incidentId := incidentId
      seat := seat
      model := (seatSpec seat).model
      effort := effort
      phase := phase
      escalationCount := escalationCount
      outputJson := encoded
      outputSha256 := hexdigest encoded
      semanticSha256 := semanticSha256
      schemaStatus := .valid
      failureReason := none
      createdAt := now }
  let incident ← getIncident incidentId
  addAgentRun run
  let candidate ← match output with
    | .counsel counsel => do
        let db ← Transaction.read
        let allowedPaths ← Transaction.lift
          (derivePatchPaths services.tables (utf8 counsel.normalizedDiff))
        let candidate : PatchCandidateRecord :=
          { id := "candidate_" ++ uuids 1
            incidentId := incidentId
            agentRunId := run.id
            patchSha256 := hexdigest (utf8 counsel.normalizedDiff)
            normalizedDiff := counsel.normalizedDiff
            allowedPaths := allowedPaths
            testIntentions := counsel.testIntentions
            predecessorId := (db.latestCandidate incidentId).map (·.id)
            createdAt := now }
        addCandidate candidate
        pure (some candidate)
    | _ => pure none
  let recorded ← appendLocked services incident .agentOutputRecorded seat.value
    [("seat", .str seat.value), ("phase", .str phase), ("effort", .str effort.value),
     ("output_sha256", .str run.outputSha256), ("semantic_sha256", .str run.semanticSha256)]
    true (uuids 2) now
  let _ ← match candidate with
    | some candidate =>
        if recorded.state = .patching then
          appendLocked services recorded (.state .patchProposed) Seat.counsel.value
            [("candidate_id", .str candidate.id), ("patch_sha256", .str candidate.patchSha256)]
            true (uuids 3) now
        else pure recorded
    | none => pure recorded
  publishLocked services incidentId now

end Timeline

end CrossPatch.Runtime.Store
