import CrossPatch.Broker.Store
import CrossPatch.Domain.Seats
import CrossPatch.Evidence.Views
import CrossPatch.Library.Table
import CrossPatch.Library.Transaction

/-!
# The control database

The rows of the runtime store and of the mutation broker, which share one
database.  Tables that are read or written by key have one; tables that are only
appended to are lists in the order of insertion.
-/

namespace CrossPatch.Runtime.Records

open CrossPatch.Broker.Store
open CrossPatch.Domain.Failure CrossPatch.Domain.Seats CrossPatch.Domain.StateMachine
open CrossPatch.Evidence.Views
open CrossPatch.Library CrossPatch.Library.Calendar CrossPatch.Library.JsonText
open CrossPatch.Library.Octets

structure IncidentRecord where
  id : String
  title : String
  scenario : String
  liveTrial : Bool
  ownerSubject : Option String
  state : IncidentState
  baseSha : Option String
  repositoryManifestSha256 : Option String
  catalogSha256 : Option String
  pendingWarrantId : Option String
  nextEventSequence : Nat
  eventChainHead : Option String
  createdAt : Instant
  updatedAt : Instant

structure TimelineEventRecord where
  id : String
  incidentId : String
  sequence : Nat
  type : EventType
  actor : String
  payload : Payload
  previousHash : String
  eventHash : String
  published : Bool
  createdAt : Instant

structure EvidenceRecord where
  id : String
  incidentId : String
  kind : EvidenceKind
  provenance : String
  sanitizedText : String
  rawSha256 : String
  sanitizedSha256 : String
  envelopeJson : Bytes
  tags : List SanitizationTag
  published : Bool
  createdAt : Instant

inductive SchemaStatus where
  | valid
  | rejectedDuplicate
  deriving DecidableEq, Repr

structure AgentRunRecord where
  id : String
  incidentId : String
  seat : Seat
  model : String
  effort : Effort
  phase : String
  escalationCount : Nat
  outputJson : Bytes
  outputSha256 : String
  semanticSha256 : String
  schemaStatus : SchemaStatus
  failureReason : Option String
  createdAt : Instant

structure PatchCandidateRecord where
  id : String
  incidentId : String
  agentRunId : String
  patchSha256 : String
  normalizedDiff : String
  allowedPaths : List String
  testIntentions : List TestIntention
  predecessorId : Option String
  createdAt : Instant

structure VerdictRecord where
  id : String
  incidentId : String
  agentRunId : Option String
  verdict : Verdict
  outputJson : Bytes
  verdictSha256 : String
  source : String
  createdAt : Instant

inductive ControlStatus where
  | pendingApproval
  | approved
  | rejected
  | expired
  deriving DecidableEq, Repr

structure ControlWarrantRecord where
  id : String
  incidentId : String
  canonicalDocument : Bytes
  warrantSha256 : String
  authorityJson : Bytes
  status : ControlStatus
  approvalId : Option String
  expiresAt : Instant
  createdAt : Instant
  updatedAt : Instant

inductive WorkKind where
  | approvedExecution
  | testRepair
  deriving DecidableEq, Repr

inductive WorkStatus where
  | pending
  | running
  | completed
  deriving DecidableEq, Repr

structure RuntimeWorkRecord where
  id : String
  incidentId : String
  warrantId : String
  kind : WorkKind
  status : WorkStatus
  ownerId : Option String
  attemptCount : Nat
  createdAt : Instant
  updatedAt : Instant
  completedAt : Option Instant

structure TestRunRecord where
  id : String
  incidentId : String
  planId : String
  planSha256 : String
  result : Payload
  createdAt : Instant

structure PublishedCaseRecord where
  incidentId : String
  revision : Nat
  published : Bool
  projection : Payload
  manifestSha256 : String
  updatedAt : Instant

structure Database where
  incidents : Table IncidentRecord.id
  events : List TimelineEventRecord
  evidence : List EvidenceRecord
  agentRuns : List AgentRunRecord
  candidates : List PatchCandidateRecord
  verdicts : List VerdictRecord
  controlWarrants : Table ControlWarrantRecord.id
  broker : PostgresWarrantStore
  works : Table RuntimeWorkRecord.id
  testRuns : List TestRunRecord
  cases : Table PublishedCaseRecord.incidentId

def Database.empty : Database where
  incidents := .empty
  events := []
  evidence := []
  agentRuns := []
  candidates := []
  verdicts := []
  controlWarrants := .empty
  broker := .empty
  works := .empty
  testRuns := []
  cases := .empty

abbrev Tx := Transaction Raised Database

/-! ## Primitive reads and writes -/

def lookupError (what : String) : Raised := ⟨.lookupError, what⟩

def integrityError : Raised := ⟨.integrityError, "duplicate key value violates unique constraint"⟩

/-- A row that has to exist. -/
def needed {α : Type} (row : Option α) (error : Raised) : Attempt α :=
  match row with
  | some value => .ok value
  | none => .error error

theorem needed_eq_ok {α : Type} {row : Option α} {error : Raised} {value : α} :
    needed row error = .ok value ↔ row = some value := by
  cases row <;> simp [needed]

def getIncident (incidentId : String) : Tx IncidentRecord := do
  let db ← Transaction.read
  Transaction.lift (needed (db.incidents.find incidentId) (lookupError incidentId))

def getControl (warrantId : String) : Tx ControlWarrantRecord := do
  let db ← Transaction.read
  Transaction.lift (needed (db.controlWarrants.find warrantId) (lookupError warrantId))

def writeControl (control : ControlWarrantRecord) : Tx Unit :=
  Transaction.change fun db => { db with controlWarrants := db.controlWarrants.write control }

def writeWork (work : RuntimeWorkRecord) : Tx Unit :=
  Transaction.change fun db => { db with works := db.works.write work }

/-- Inserting a row under a taken primary key fails when the session flushes. -/
def insertIncident (incident : IncidentRecord) : Tx Unit :=
  ⟨fun db =>
    if fresh : db.incidents.find incident.id = none then
      .ok ((), { db with incidents := db.incidents.insert incident fresh })
    else .error integrityError⟩

def insertControl (control : ControlWarrantRecord) : Tx Unit :=
  ⟨fun db =>
    if fresh : db.controlWarrants.find control.id = none then
      .ok ((), { db with controlWarrants := db.controlWarrants.insert control fresh })
    else .error integrityError⟩

def insertWork (work : RuntimeWorkRecord) : Tx Unit :=
  ⟨fun db =>
    if fresh : db.works.find work.id = none then
      .ok ((), { db with works := db.works.insert work fresh })
    else .error integrityError⟩

/-- The broker's row of a new approval, under its primary key and nonce index. -/
def insertWarrant (record : WarrantRecord) : Tx Unit :=
  ⟨fun db =>
    if db.broker.warrants record.id = none ∧ record.nonceSha256 ∉ db.broker.nonces then
      .ok ((), { db with
        broker := { db.broker.put record.id record with
          nonces := record.nonceSha256 :: db.broker.nonces } })
    else .error integrityError⟩

def addEvidence (record : EvidenceRecord) : Tx Unit :=
  Transaction.change fun db => { db with evidence := db.evidence ++ [record] }

def addAgentRun (record : AgentRunRecord) : Tx Unit :=
  Transaction.change fun db => { db with agentRuns := db.agentRuns ++ [record] }

def addCandidate (record : PatchCandidateRecord) : Tx Unit :=
  Transaction.change fun db => { db with candidates := db.candidates ++ [record] }

def addVerdict (record : VerdictRecord) : Tx Unit :=
  Transaction.change fun db => { db with verdicts := db.verdicts ++ [record] }

def addTestRun (record : TestRunRecord) : Tx Unit :=
  Transaction.change fun db => { db with testRuns := db.testRuns ++ [record] }

/-! ## Queries -/

/-- Rows are sorted by their creation time and then by their identifier. -/
@[reducible]
def sortKeyOrder : LinearOrder (Lex (Int × String)) :=
  @Prod.Lex.instLinearOrder Int String Int.instLinearOrder String.instLinearOrder

/-- `ORDER BY created_at DESC, id DESC LIMIT 1`. -/
def latest {Row : Type} (createdAt : Row → Instant) (id : Row → String) (rows : List Row) :
    Option Row :=
  @List.argmax Row (Lex (Int × String)) sortKeyOrder.toPartialOrder.toPreorder
    sortKeyOrder.toDecidableLT (fun row => toLex ((createdAt row).micros, id row)) rows

/-- `ORDER BY created_at DESC LIMIT 1`. -/
def mostRecent {Row : Type} (createdAt : Row → Instant) (rows : List Row) : Option Row :=
  @List.argmax Row Int Int.instLinearOrder.toPartialOrder.toPreorder
    Int.instLinearOrder.toDecidableLT (fun row => (createdAt row).micros) rows

def Database.controlsOf (db : Database) (incidentId : String) : List ControlWarrantRecord :=
  db.controlWarrants.rows.filter fun control => control.incidentId == incidentId

def Database.latestControl (db : Database) (incidentId : String) : Option ControlWarrantRecord :=
  latest ControlWarrantRecord.createdAt ControlWarrantRecord.id (db.controlsOf incidentId)

def Database.latestCandidate (db : Database) (incidentId : String) :
    Option PatchCandidateRecord :=
  latest PatchCandidateRecord.createdAt PatchCandidateRecord.id
    (db.candidates.filter fun candidate => candidate.incidentId == incidentId)

def Database.eventsOf (db : Database) (incidentId : String) : List TimelineEventRecord :=
  db.events.filter fun event => event.incidentId == incidentId

def Database.lastEvent (db : Database) (incidentId : String) : Option TimelineEventRecord :=
  (db.eventsOf incidentId).argmax TimelineEventRecord.sequence

/-- Test rows of one warrant of one incident. -/
def testsIn (rows : List TestRunRecord) (incidentId warrantId : String) : List TestRunRecord :=
  rows.filter fun row =>
    row.incidentId == incidentId &&
      match row.result.lookup "warrant_id" with
      | some (.str text) => text == warrantId
      | _ => false

def Database.testsOf (db : Database) (incidentId warrantId : String) : List TestRunRecord :=
  testsIn db.testRuns incidentId warrantId

end CrossPatch.Runtime.Records
