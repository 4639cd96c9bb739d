import CrossPatch.Runtime.History

/-!
# Repositories for incidents and timeline events

The second writer of the incident and event tables.  It opens incidents in any
state and appends events without publishing the case.
-/

namespace CrossPatch.Runtime.Repositories

open CrossPatch.Domain.Failure CrossPatch.Domain.Hashing CrossPatch.Domain.StateMachine
open CrossPatch.Library CrossPatch.Library.Calendar CrossPatch.Library.Transaction
open CrossPatch.Runtime.History CrossPatch.Runtime.Progress CrossPatch.Runtime.Records
open CrossPatch.Runtime.Refinement CrossPatch.Runtime.Timeline

def incidentNotFound (incidentId : String) : Raised := ⟨.lookupError, incidentId⟩

/-- `IncidentRepository.create`, with the column defaults of the other fields. -/
def create (incidentId title : String) (state : IncidentState) (now : Instant) :
    Tx IncidentRecord := do
  let incident : IncidentRecord :=
    { id := incidentId
      title := title
      scenario := "webhook-race"
      liveTrial := false
      ownerSubject := none
      state := state
      baseSha := none
      repositoryManifestSha256 := none
      catalogSha256 := none
      pendingWarrantId := none
      nextEventSequence := 1
      eventChainHead := none
      createdAt := now
      updatedAt := now }
  insertIncident incident
  pure incident

/-- `EventRepository.append`. -/
def append (services : Services) (incidentId : String) (type : EventType) (actor : String)
    (payload : Payload) (uuid : String) (now : Instant) : Tx TimelineEventRecord := do
  let db ← Transaction.read
  let incident ← Transaction.lift
    (needed (db.incidents.find incidentId) (incidentNotFound incidentId))
  let lastEvent := db.lastEvent incidentId
  let sequence := nextSequence lastEvent
  let previous := previousHash lastEvent
  Transaction.check
    (incident.nextEventSequence = sequence ∧
      incident.eventChainHead = lastEvent.map (·.eventHash))
    ⟨.eventChainCorrupted, "incident chain metadata disagrees with durable timeline events"⟩
  let nextState ← Transaction.lift (reduce incident.state type payload)
  let eventHash ← Transaction.lift (sha256Hex services.tables
    (eventJson incidentId sequence type actor payload previous now))
  let event : TimelineEventRecord :=
    { id := "evt_" ++ uuid
      incidentId := incidentId
      sequence := sequence
      type := type
      actor := actor
      payload := payload
      previousHash := previous
      eventHash := eventHash
      published := true
      createdAt := now }
  Transaction.change fun current =>
    { current with
      events := current.events ++ [event]
      incidents := current.incidents.write
        { incident with
          nextEventSequence := sequence + 1
          eventChainHead := some eventHash
          state := nextState
          updatedAt := now } }
  pure event

/-! ## Entries -/

variable {services : Services} {policy : Policy} {db : Database}

theorem create_entries {incidentId title : String} {state : IncidentState} {now : Instant}
    (opens : policy.opens state) :
    (create incidentId title state now).Ensures db
      fun _ next => Entries services.tables policy (annals db) (annals next) := by
  simp only [create, ensures_bind]
  intro done next inserted
  simp only [insertIncident] at inserted
  split at inserted
  · rename_i fresh
    cases inserted
    exact ensures_pure.mpr (.single (.opened fresh opens rfl rfl))
  · cases inserted

/-- The second writer leaves the same kind of entry as the first. -/
theorem append_entries {incidentId : String} {type : EventType} {actor : String}
    {payload : Payload} {uuid : String} {now : Instant} (reports : policy.reports type) :
    (append services incidentId type actor payload uuid now).Ensures db
      fun _ next => Entries services.tables policy (annals db) (annals next) := by
  simp only [append, ensures_bind, ensures_read, ensures_lift, needed_eq_ok, ensures_check,
    ensures_change, ensures_pure]
  intro incident found _ state reduced hash hashed
  obtain rfl := Table.key_of_find found
  let event : TimelineEventRecord :=
    { id := "evt_" ++ uuid
      incidentId := incident.id
      sequence := nextSequence (db.lastEvent incident.id)
      type := type
      actor := actor
      payload := payload
      previousHash := previousHash (db.lastEvent incident.id)
      eventHash := hash
      published := true
      createdAt := now }
  have continues : Extends services.tables (annals db) event := ⟨rfl, rfl, hashed⟩
  have admits : policy.Admits incident incident event.type := Or.inl ⟨rfl, reports⟩
  have entry : Entry services.tables policy (annals db)
      ⟨db.incidents.write (advanced incident event state now), db.events ++ [event]⟩ :=
    .recorded found rfl continues admits reduced
  exact .single entry

/-- An event that the state of the incident admits is appended. -/
theorem append_reaches {incident : IncidentRecord} {type : EventType} {actor : String}
    {payload : Payload} {uuid : String} {now : Instant} {state : IncidentState}
    {Post : TimelineEventRecord → Database → Prop}
    (found : db.incidents.find incident.id = some incident) (chained : Chained db incident)
    (reduced : reduce incident.state type payload = .ok state)
    (encodes : Encodes services.tables (.obj payload))
    (post : ∀ event, event.incidentId = incident.id → event.type = type →
      event.payload = payload →
        Chained (appended db incident event state now) (advanced incident event state now) →
          Post event (appended db incident event state now)) :
    (append services incident.id type actor payload uuid now).Reaches db Post := by
  obtain ⟨hash, hashed, _⟩ := (@eventJson_encodes services.tables incident.id
    (nextSequence (db.lastEvent incident.id)) type actor payload
    (previousHash (db.lastEvent incident.id)) now encodes).sha256Hex
  let event : TimelineEventRecord :=
    { id := "evt_" ++ uuid
      incidentId := incident.id
      sequence := nextSequence (db.lastEvent incident.id)
      type := type
      actor := actor
      payload := payload
      previousHash := previousHash (db.lastEvent incident.id)
      eventHash := hash
      published := true
      createdAt := now }
  simp only [append, reaches_bind, reaches_read, reaches_lift, needed_eq_ok, reaches_check,
    reaches_change, reaches_pure]
  exact ⟨incident, found, ⟨chained.sequence, chained.head⟩, state, reduced, hash, hashed,
    post event rfl rfl rfl (chained_appended rfl rfl)⟩

end CrossPatch.Runtime.Repositories
