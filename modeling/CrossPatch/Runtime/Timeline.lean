import CrossPatch.Runtime.Records

/-!
# Appending to the timeline and publishing the case

Every transaction of the control plane appends events to the hash-chained
timeline of one incident and refreshes the published case.  An event of a state
type moves the incident along the transition policy, any other event leaves its
state alone.
-/

namespace CrossPatch.Runtime.Timeline

open CrossPatch.Broker.Store
open CrossPatch.Domain.Failure CrossPatch.Domain.Hashing CrossPatch.Domain.Seats
open CrossPatch.Domain.StateMachine CrossPatch.Domain.Text
open CrossPatch.Library CrossPatch.Library.Attempt CrossPatch.Library.Calendar
open CrossPatch.Library.JsonText CrossPatch.Library.Octets CrossPatch.Library.Sha256
open CrossPatch.Runtime.Records

/-- What the store's operations are built on: text normalization, the codec of
stored documents, the publication policy for titles, the sanitized read model of
a case, and the semantic fingerprint of seat outputs. -/
structure Services where
  tables : UnicodeTables
  codec : Codec
  publicTitleIssues : String → List String
  project : Database → IncidentRecord → IncidentState → Attempt Payload
  semanticFingerprint : Seat → SeatOutput → Attempt String

def zeroEventHash : String := String.ofList (List.replicate 64 '0')

def eventJson (incidentId : String) (sequence : Nat) (type : EventType) (actor : String)
    (payload : Payload) (previousHash : String) (createdAt : Instant) : Json :=
  .obj
    [("incident_id", .str incidentId), ("sequence", .int sequence), ("type", .str type.value),
     ("actor", .str actor), ("payload", .obj payload), ("previous_hash", .str previousHash),
     ("created_at", .str (timestampText createdAt))]

/-- The state that an event reduces to; other events are only recorded. -/
def reduce (state : IncidentState) (type : EventType) (payload : Payload) :
    Attempt IncidentState :=
  match type with
  | .state stateType => do
      let typed ← typedEventFromPayload stateType payload
      transitionIncident state typed
  | _ => .ok state

theorem reduce_table {state next : IncidentState} {type : StateEventType} {payload : Payload}
    (reduced : reduce state (.state type) payload = .ok next) (other : type ≠ .verdict) :
    transitionTable state type = some next := by
  obtain ⟨event, typed, moved⟩ := bind_eq_ok.mp reduced
  have same := typedEventFromPayload_type typed
  rw [← same]
  exact transitionIncident_table moved (same ▸ other)

theorem reduce_verdict {state next : IncidentState} {payload : Payload} {verdict : Verdict}
    (reduced : reduce state (.state .verdict) payload = .ok next)
    (named : textField payload "verdict" = .ok verdict.value) :
    ∃ remandTarget, (verdict = .abstain ∧ state ∈ abstainStates ∧ next = .humanEscalation) ∨
      (state = .reviewing ∧ next = transitionVerdict verdict remandTarget) := by
  obtain ⟨event, typed, moved⟩ := bind_eq_ok.mp reduced
  obtain ⟨text, parsed, target, found, parses, rfl⟩ := typedEventFromPayload_verdict typed
  rw [named, Except.ok.injEq] at found
  rw [← found, Verdict.parse_value, Except.ok.injEq] at parses
  subst parses
  exact ⟨target, transitionIncident_verdict moved⟩

section Operations

variable (services : Services)

/-- `_append_locked`: the incident as the caller holds it, and as it is written back. -/
def appendLocked (incident : IncidentRecord) (type : EventType) (actor : String)
    (payload : Payload) (published : Bool) (uuid : String) (now : Instant) :
    Tx IncidentRecord := do
  let db ← Transaction.read
  let last := db.lastEvent incident.id
  let sequence := match last with
    | none => 1
    | some event => event.sequence + 1
  let previousHash := match last with
    | none => zeroEventHash
    | some event => event.eventHash
  Transaction.check
    (incident.nextEventSequence = sequence ∧ incident.eventChainHead = last.map (·.eventHash))
    ⟨.eventChainCorrupted, "incident metadata disagrees with durable timeline"⟩
  let nextState ← Transaction.lift (reduce incident.state type payload)
  let eventHash ← Transaction.lift (sha256Hex services.tables
    (eventJson incident.id sequence type actor payload previousHash now))
  let event : TimelineEventRecord :=
    { id := "evt_" ++ uuid
      incidentId := incident.id
      sequence := sequence
      type := type
      actor := actor
      payload := payload
      previousHash := previousHash
      eventHash := eventHash
      published := published
      createdAt := now }
  let moved : IncidentRecord :=
    { incident with
      nextEventSequence := sequence + 1
      eventChainHead := some eventHash
      updatedAt := now
      state := nextState }
  Transaction.change fun current =>
    { current with
      events := current.events ++ [event]
      incidents := current.incidents.write moved }
  pure moved

def requirePublishableTitle (title : String) : Attempt String := do
  require (services.publicTitleIssues title = [])
    ⟨.valueError, "public incident title policy rejected the recorded title"⟩
  .ok title

/-- The state recorded in a published projection. -/
def projectedState (projection : Payload) : Option Json :=
  match projection.lookup "incident" with
  | some (.obj members) => members.lookup "state"
  | _ => none

def isVerified : Option Json → Bool
  | some (.str text) => text == IncidentState.verified.value
  | _ => false

def publishedSnapshot (current : Option PublishedCaseRecord) : Bool :=
  match current with
  | none => false
  | some record => record.published

/-- Operator incidents are published once they are verified. -/
def publishes (incident : IncidentRecord) : Bool :=
  !incident.liveTrial && decide (incident.state = .verified)

def storeCase (current : Option PublishedCaseRecord) (incidentId : String) (publishable : Bool)
    (projection : Payload) (manifest : String) (now : Instant) : Tx Unit :=
  match current with
  | some record =>
      Transaction.change fun db =>
        { db with
          cases := db.cases.write
            { record with
              revision := record.revision + 1
              published := publishable
              projection := projection
              manifestSha256 := manifest
              updatedAt := now } }
  | none =>
      ⟨fun db =>
        if fresh : db.cases.find incidentId = none then
          .ok ((), { db with
            cases := db.cases.insert
              ⟨incidentId, 1, publishable, projection, manifest, now⟩ fresh })
        else .error integrityError⟩

/-- `_publish_locked`. -/
def publishLocked (incidentId : String) (now : Instant) : Tx Unit := do
  let db ← Transaction.read
  let incident ← getIncident incidentId
  let current := db.cases.find incidentId
  let publishable := publishedSnapshot current || publishes incident
  let _ ← Transaction.lift
    (if publishable = true ∧ publishedSnapshot current = false then
      requirePublishableTitle services incident.title
    else .ok incident.title)
  Transaction.check
    (publishedSnapshot current = true → isVerified (current.bind (projectedState ·.projection)) = true)
    ⟨.runtimeError, "published operator snapshot is not VERIFIED"⟩
  let projectionState := if publishedSnapshot current then .verified else incident.state
  let projection ← Transaction.lift (services.project db incident projectionState)
  let manifest ← Transaction.lift (sha256Hex services.tables (.obj projection))
  storeCase current incidentId publishable projection manifest now

end Operations

/-! ## What appending and publishing change -/

section Effects

variable {services : Services}

theorem getIncident_eq_ok {incidentId : String} {db : Database} {incident : IncidentRecord}
    {next : Database} :
    (getIncident incidentId).run db = .ok (incident, next) ↔
      db.incidents.find incidentId = some incident ∧ next = db := by
  simp [getIncident, needed_eq_ok, and_comm]

/-- Appending writes one event and the incident that it was computed from. -/
theorem appendLocked_eq_ok {incident moved : IncidentRecord} {type : EventType} {actor : String}
    {payload : Payload} {published : Bool} {uuid : String} {now : Instant} {db next : Database}
    (appended : (appendLocked services incident type actor payload published uuid now).run db =
      .ok (moved, next)) :
    ∃ event state, reduce incident.state type payload = .ok state ∧
      event.incidentId = incident.id ∧ event.type = type ∧ event.payload = payload ∧
      moved = { incident with
        nextEventSequence := event.sequence + 1
        eventChainHead := some event.eventHash
        updatedAt := now
        state := state } ∧
      next = { db with
        events := db.events ++ [event]
        incidents := db.incidents.write moved } := by
  simp only [appendLocked, Transaction.bind_eq_ok, Transaction.read_eq_ok, Prod.mk.injEq,
    Transaction.check_eq_ok, Transaction.lift_eq_ok, Transaction.change_eq_ok,
    Transaction.pure_eq_ok] at appended
  obtain ⟨_, _, ⟨rfl, rfl⟩, _, _, ⟨_, rfl⟩, state, _, ⟨reduced, rfl⟩, hash, _, ⟨_, rfl⟩, _, _,
    ⟨_, rfl⟩, rfl, rfl⟩ := appended
  exact ⟨_, state, reduced, rfl, rfl, rfl, rfl, rfl⟩

theorem storeCase_eq_ok {current : Option PublishedCaseRecord} {incidentId : String}
    {publishable : Bool} {projection : Payload} {manifest : String} {now : Instant}
    {db next : Database} {done : Unit}
    (stored : (storeCase current incidentId publishable projection manifest now).run db =
      .ok (done, next)) :
    ∃ cases, next = { db with cases := cases } := by
  unfold storeCase at stored
  cases current with
  | some record =>
      rw [Transaction.change_eq_ok] at stored
      cases stored
      exact ⟨_, rfl⟩
  | none =>
      by_cases fresh : db.cases.find incidentId = none
      · simp only [dif_pos fresh] at stored
        cases stored
        exact ⟨_, rfl⟩
      · simp only [dif_neg fresh] at stored
        cases stored

/-- Publishing changes the published cases only. -/
theorem publishLocked_eq_ok {incidentId : String} {now : Instant} {db next : Database}
    {done : Unit} (published : (publishLocked services incidentId now).run db = .ok (done, next)) :
    ∃ cases, next = { db with cases := cases } := by
  simp only [publishLocked, Transaction.bind_eq_ok, Transaction.read_eq_ok, Prod.mk.injEq,
    getIncident_eq_ok, Transaction.check_eq_ok, Transaction.lift_eq_ok] at published
  obtain ⟨_, _, ⟨rfl, rfl⟩, incident, _, ⟨_, rfl⟩, _, _, ⟨_, rfl⟩, _, _, ⟨_, rfl⟩, projection, _,
    ⟨_, rfl⟩, manifest, _, ⟨_, rfl⟩, stored⟩ := published
  exact storeCase_eq_ok stored

end Effects

end CrossPatch.Runtime.Timeline
