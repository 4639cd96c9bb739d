import CrossPatch.Runtime.Refinement

/-!
# When transactions commit

Conditions under which appending to a timeline and refreshing a case succeed, with
what they leave behind.
-/

namespace CrossPatch.Runtime.Progress

open CrossPatch.Domain.Failure CrossPatch.Domain.Hashing CrossPatch.Domain.StateMachine
open CrossPatch.Domain.Text
open CrossPatch.Library CrossPatch.Library.Attempt CrossPatch.Library.Calendar
open CrossPatch.Library.JsonText CrossPatch.Library.Sha256 CrossPatch.Library.Transaction
open CrossPatch.Runtime.Records CrossPatch.Runtime.Refinement CrossPatch.Runtime.Store
open CrossPatch.Runtime.Timeline

variable {services : Services} {db : Database}

/-! ## Reads -/

theorem reaches_getIncident {incidentId : String} {Post : IncidentRecord → Database → Prop} :
    (getIncident incidentId).Reaches db Post ↔
      ∃ incident, db.incidents.find incidentId = some incident ∧ Post incident db := by
  simp [getIncident, needed_eq_ok]

theorem reaches_getControl {warrantId : String} {Post : ControlWarrantRecord → Database → Prop} :
    (getControl warrantId).Reaches db Post ↔
      ∃ control, db.controlWarrants.find warrantId = some control ∧ Post control db := by
  simp [getControl, needed_eq_ok]

/-! ## Timelines -/

/-- The value has canonical bytes. -/
def Encodes (tables : UnicodeTables) (value : Json) : Prop :=
  ∃ normalized, normalize tables value = .ok normalized

theorem Encodes.sha256Hex {tables : UnicodeTables} {value : Json}
    (encodes : Encodes tables value) :
    ∃ digest, sha256Hex tables value = .ok digest ∧ isSha256 digest = true := by
  obtain ⟨normalized, normalizes⟩ := encodes
  refine ⟨hexdigest (encode normalized), ?_, hexdigest_isSha256 _⟩
  simp [Domain.Hashing.sha256Hex, canonicalJson_ok normalizes]

theorem eventJson_encodes {tables : UnicodeTables} {incidentId : String} {sequence : Nat}
    {type : EventType} {actor : String} {payload : Payload} {previousHash : String}
    {createdAt : Instant} (payloadEncodes : Encodes tables (.obj payload)) :
    Encodes tables
      (eventJson incidentId sequence type actor payload previousHash createdAt) := by
  refine normalize_obj_ok ["incident_id", "sequence", "type", "actor", "payload", "previous_hash",
    "created_at"] rfl (by decide) (by decide) ?_
  simp only [List.forall_mem_cons, normalize_str, normalize_int]
  refine ⟨⟨_, rfl⟩, ⟨_, rfl⟩, ⟨_, rfl⟩, ⟨_, rfl⟩, payloadEncodes, ⟨_, rfl⟩, ⟨_, rfl⟩, by simp⟩

def nextSequence (last : Option TimelineEventRecord) : Nat :=
  match last with
  | none => 1
  | some event => event.sequence + 1

/-- The metadata of an incident agrees with its durable timeline. -/
structure Chained (db : Database) (incident : IncidentRecord) : Prop where
  sequence : incident.nextEventSequence = nextSequence (db.lastEvent incident.id)
  head : incident.eventChainHead = (db.lastEvent incident.id).map (·.eventHash)

/-- The database after one event. -/
def appended (db : Database) (incident : IncidentRecord) (event : TimelineEventRecord)
    (state : IncidentState) (now : Instant) : Database :=
  { db with
    events := db.events ++ [event]
    incidents := db.incidents.write (advanced incident event state now) }

theorem lastEvent_appended {incident : IncidentRecord} {event : TimelineEventRecord}
    {state : IncidentState} {now : Instant} (owner : event.incidentId = incident.id)
    (next : event.sequence = nextSequence (db.lastEvent incident.id)) :
    (appended db incident event state now).lastEvent incident.id = some event := by
  have events : (appended db incident event state now).eventsOf incident.id =
      db.eventsOf incident.id ++ [event] := by
    simp [appended, Database.eventsOf, owner]
  rw [Database.lastEvent, events, List.argmax_concat]
  rw [Database.lastEvent] at next
  cases last : (db.eventsOf incident.id).argmax TimelineEventRecord.sequence with
  | none => rfl
  | some previous =>
      rw [last, nextSequence] at next
      simp [next]

/-- The metadata keep up with an event. -/
theorem chained_appended {incident : IncidentRecord} {event : TimelineEventRecord}
    {state : IncidentState} {now : Instant} (owner : event.incidentId = incident.id)
    (next : event.sequence = nextSequence (db.lastEvent incident.id)) :
    Chained (appended db incident event state now) (advanced incident event state now) := by
  have last := @lastEvent_appended db incident event state now owner next
  constructor
  · change event.sequence + 1 = nextSequence ((appended db incident event state now).lastEvent
      incident.id)
    rw [last]
    rfl
  · change some event.eventHash = ((appended db incident event state now).lastEvent
      incident.id).map _
    rw [last]
    rfl

theorem reaches_append {incident : IncidentRecord} {type : EventType} {actor : String}
    {payload : Payload} {published : Bool} {uuid : String} {now : Instant} {state : IncidentState}
    {Post : IncidentRecord → Database → Prop} (chained : Chained db incident)
    (reduced : reduce incident.state type payload = .ok state)
    (encodes : Encodes services.tables (.obj payload))
    (post : ∀ event, event.incidentId = incident.id → isSha256 event.eventHash = true →
      Chained (appended db incident event state now) (advanced incident event state now) →
        Post (advanced incident event state now) (appended db incident event state now)) :
    (appendLocked services incident type actor payload published uuid now).Reaches db Post := by
  let previousHash := match db.lastEvent incident.id with
    | none => zeroEventHash
    | some event => event.eventHash
  let sequence := nextSequence (db.lastEvent incident.id)
  obtain ⟨hash, hashed, digest⟩ := (@eventJson_encodes services.tables incident.id sequence type
    actor payload previousHash now encodes).sha256Hex
  let event : TimelineEventRecord :=
    { id := "evt_" ++ uuid
      incidentId := incident.id
      sequence := sequence
      type := type
      actor := actor
      payload := payload
      previousHash := previousHash
      eventHash := hash
      published := published
      createdAt := now }
  simp only [appendLocked, reaches_bind, reaches_read, reaches_check, reaches_lift,
    reaches_change, reaches_pure]
  refine ⟨⟨chained.sequence, chained.head⟩, state, reduced, hash, hashed, ?_⟩
  exact post event rfl digest (chained_appended rfl rfl)

/-! ## Published cases -/

/-- The database with other cases. -/
def showing (db : Database) (cases : Table PublishedCaseRecord.incidentId) : Database :=
  { db with cases := cases }

/-- No case of the incident has been published. -/
def Unpublished (cases : Table PublishedCaseRecord.incidentId) (incidentId : String) : Prop :=
  ∀ record, cases.find incidentId = some record → record.published = false

theorem Unpublished.snapshot {incidentId : String}
    (unpublished : Unpublished db.cases incidentId) :
    publishedSnapshot (db.cases.find incidentId) = false := by
  cases found : db.cases.find incidentId with
  | none => rfl
  | some record => exact unpublished record found

theorem reaches_storeCase {incidentId : String} {publishable : Bool} {projection : Payload}
    {manifest : String} {now : Instant} {Post : Unit → Database → Prop}
    (post : ∀ cases : Table PublishedCaseRecord.incidentId,
      (∀ record, cases.find incidentId = some record → record.published = publishable) →
        Post () (showing db cases)) :
    (storeCase (db.cases.find incidentId) incidentId publishable projection manifest now).Reaches
      db Post := by
  cases found : db.cases.find incidentId with
  | some record =>
      simp only [storeCase, reaches_change]
      obtain rfl := Table.key_of_find found
      refine post _ fun written present => ?_
      rw [Table.find_write_self (by exact found), Option.some.injEq] at present
      exact present ▸ rfl
  | none =>
      refine ⟨(), _, dif_pos found, post _ fun written present => ?_⟩
      rw [Table.find_insert_self, Option.some.injEq] at present
      exact present ▸ rfl

/-- The read model renders the case of the incident. -/
def RendersCase (services : Services) (db : Database) (incident : IncidentRecord) : Prop :=
  ∃ projection, services.project db incident incident.state = .ok projection ∧
    Encodes services.tables (.obj projection)

theorem reaches_publish {incidentId : String} {incident : IncidentRecord} {now : Instant}
    {Post : Unit → Database → Prop}
    (found : db.incidents.find incidentId = some incident)
    (unpublished : Unpublished db.cases incidentId)
    (titled : publishes incident = true → services.publicTitleIssues incident.title = [])
    (renders : RendersCase services db incident)
    (post : ∀ cases : Table PublishedCaseRecord.incidentId,
      (∀ record, cases.find incidentId = some record →
        record.published = publishes incident) → Post () (showing db cases)) :
    (publishLocked services incidentId now).Reaches db Post := by
  obtain ⟨projection, rendered, encodes⟩ := renders
  obtain ⟨manifest, hashed, _⟩ := encodes.sha256Hex
  simp only [publishLocked, reaches_bind, reaches_read, reaches_getIncident, reaches_lift,
    reaches_check, unpublished.snapshot, Bool.false_or]
  refine ⟨incident, found, incident.title, ?_, by simp, projection, rendered, manifest, hashed,
    reaches_storeCase post⟩
  by_cases publishable : publishes incident = true
  · simp [publishable, requirePublishableTitle, titled publishable]
  · simp [publishable]

theorem rendersCase_of_hashed {incident : IncidentRecord} {projection : Payload} {manifest : String}
    (rendered : services.project db incident incident.state = .ok projection)
    (hashed : sha256Hex services.tables (.obj projection) = .ok manifest) :
    RendersCase services db incident := by
  obtain ⟨raw, canonical, _⟩ := bind_eq_ok.mp hashed
  obtain ⟨normalized, normalizes, _⟩ := bind_eq_ok.mp canonical
  exact ⟨projection, rendered, normalized, normalizes⟩

/-- A refresh that commits has shown the case, under a title that may be shown. -/
theorem publish_ensures {incidentId : String} {incident : IncidentRecord} {now : Instant}
    (found : db.incidents.find incidentId = some incident)
    (unpublished : Unpublished db.cases incidentId) :
    (publishLocked services incidentId now).Ensures db fun _ _ =>
      (publishes incident = true → services.publicTitleIssues incident.title = []) ∧
        RendersCase services db incident := by
  simp only [publishLocked, ensures_bind, ensures_read, ensures_getIncident, ensures_lift,
    ensures_check, unpublished.snapshot, Bool.false_or]
  intro current present
  rw [found, Option.some.injEq] at present
  subst present
  intro title accepted _ projection rendered manifest hashed _ _ _
  refine ⟨fun publishable => ?_, rendersCase_of_hashed rendered hashed⟩
  by_contra refused
  simp [publishable, requirePublishableTitle, refused] at accepted

/-- A refresh that commits changes the cases, and publishes what may be published. -/
theorem publish_leaves {incidentId : String} {incident : IncidentRecord} {now : Instant}
    (found : db.incidents.find incidentId = some incident)
    (unpublished : Unpublished db.cases incidentId) :
    (publishLocked services incidentId now).Ensures db fun _ next =>
      ∃ cases : Table PublishedCaseRecord.incidentId, next = showing db cases ∧
        ∀ record, cases.find incidentId = some record →
          record.published = publishes incident := by
  intro done next published
  obtain ⟨titled, renders⟩ := publish_ensures found unpublished done next published
  obtain ⟨_, _, again, post⟩ :=
    @reaches_publish services db incidentId incident now
      (fun _ next => ∃ cases : Table PublishedCaseRecord.incidentId, next = showing db cases ∧
        ∀ record, cases.find incidentId = some record → record.published = publishes incident)
      found unpublished titled renders fun cases shown => ⟨cases, rfl, shown⟩
  rw [published] at again
  cases again
  exact post

/-- The case of an unpublished incident is refreshed if and only if its title may be shown
where it is about to be, and the read model renders the case. -/
theorem publish_commits_iff {incidentId : String} {incident : IncidentRecord} {now : Instant}
    (found : db.incidents.find incidentId = some incident)
    (unpublished : Unpublished db.cases incidentId) :
    (∃ next, (publishLocked services incidentId now).run db = .ok ((), next)) ↔
      (publishes incident = true → services.publicTitleIssues incident.title = []) ∧
        RendersCase services db incident := by
  constructor
  · rintro ⟨next, published⟩
    exact publish_ensures found unpublished () next published
  · rintro ⟨titled, renders⟩
    obtain ⟨done, next, published, _⟩ :=
      @reaches_publish services db incidentId incident now (fun _ _ => True) found unpublished
        titled renders fun _ _ => trivial
    exact ⟨next, published⟩

/-! ## Incidents in good standing -/

/-- The read model renders every case. -/
def Renders (services : Services) : Prop := ∀ db incident, RendersCase services db incident

/-- An incident whose timeline is intact and whose case is not published. -/
structure Stage (db : Database) (incident : IncidentRecord) : Prop where
  found : db.incidents.find incident.id = some incident
  chained : Chained db incident
  unpublished : Unpublished db.cases incident.id

/-- Only incidents, timelines and cases may differ. -/
structure Untouched (before after : Database) : Prop where
  evidence : after.evidence = before.evidence
  agentRuns : after.agentRuns = before.agentRuns
  candidates : after.candidates = before.candidates
  controlWarrants : after.controlWarrants = before.controlWarrants
  broker : after.broker = before.broker
  works : after.works = before.works
  testRuns : after.testRuns = before.testRuns

namespace Stage

variable {incident : IncidentRecord}

/-- Only three tables matter. -/
theorem elsewhere (stage : Stage db incident) {other : Database}
    (incidents : other.incidents = db.incidents) (events : other.events = db.events)
    (cases : other.cases = db.cases) : Stage other incident := by
  have last : other.lastEvent incident.id = db.lastEvent incident.id := by
    rw [Database.lastEvent, Database.eventsOf, events]
    rfl
  refine ⟨incidents ▸ stage.found, ⟨?_, ?_⟩, cases ▸ stage.unpublished⟩
  · rw [last, stage.chained.sequence]
  · rw [last, stage.chained.head]

/-- The caller may hold the row with other columns changed. -/
theorem appendHeld (stage : Stage db incident) {held : IncidentRecord} {type : EventType}
    {actor : String} {payload : Payload} {published : Bool} {uuid : String} {now : Instant}
    {state : IncidentState} {Post : IncidentRecord → Database → Prop}
    (same : held.id = incident.id ∧ held.nextEventSequence = incident.nextEventSequence ∧
      held.eventChainHead = incident.eventChainHead)
    (reduced : reduce held.state type payload = .ok state)
    (encodes : Encodes services.tables (.obj payload))
    (post : ∀ event, isSha256 event.eventHash = true →
      Stage (appended db held event state now) (advanced held event state now) →
        Post (advanced held event state now) (appended db held event state now)) :
    (appendLocked services held type actor payload published uuid now).Reaches db Post := by
  obtain ⟨identified, sequence, head⟩ := same
  have chained : Chained db held := by
    refine ⟨?_, ?_⟩
    · rw [sequence, identified, stage.chained.sequence]
    · rw [head, identified, stage.chained.head]
  have found : db.incidents.find held.id = some incident := by rw [identified, stage.found]
  refine reaches_append chained reduced encodes fun event _ digest later => ?_
  exact post event digest ⟨Table.find_write_self found, later, identified ▸ stage.unpublished⟩

theorem append (stage : Stage db incident) {type : EventType} {actor : String}
    {payload : Payload} {published : Bool} {uuid : String} {now : Instant} {state : IncidentState}
    {Post : IncidentRecord → Database → Prop}
    (reduced : reduce incident.state type payload = .ok state)
    (encodes : Encodes services.tables (.obj payload))
    (post : ∀ event, isSha256 event.eventHash = true →
      Stage (appended db incident event state now) (advanced incident event state now) →
        Post (advanced incident event state now) (appended db incident event state now)) :
    (appendLocked services incident type actor payload published uuid now).Reaches db Post :=
  stage.appendHeld ⟨rfl, rfl, rfl⟩ reduced encodes post

theorem publish (stage : Stage db incident) (renders : RendersCase services db incident)
    {now : Instant} {Post : Unit → Database → Prop} (hidden : publishes incident = false)
    (post : ∀ cases, Stage (showing db cases) incident →
      Post () (showing db cases)) :
    (publishLocked services incident.id now).Reaches db Post := by
  refine reaches_publish stage.found stage.unpublished (by simp [hidden]) renders ?_
  intro cases unpublished
  refine post cases ⟨stage.found, ⟨stage.chained.sequence, stage.chained.head⟩, ?_⟩
  intro record present
  rw [unpublished record present, hidden]

theorem appendEvent (stage : Stage db incident) (renders : Renders services) {type : EventType}
    {actor : String} {payload : Payload} {uuid : String} {now : Instant} {state : IncidentState}
    {Post : Unit → Database → Prop} (reduced : reduce incident.state type payload = .ok state)
    (encodes : Encodes services.tables (.obj payload)) (unverified : state ≠ .verified)
    (post : ∀ event next, isSha256 event.eventHash = true →
      Stage next (advanced incident event state now) → Untouched db next → Post () next) :
    (appendEvent services incident.id type actor payload true uuid now).Reaches db Post := by
  simp only [Store.appendEvent, reaches_bind, if_true]
  refine reaches_getIncident.mpr ⟨incident, stage.found, ?_⟩
  refine stage.append reduced encodes fun event digest advancedStage => ?_
  refine advancedStage.publish (renders _ _) ?_ fun cases final => ?_
  · simp [publishes, advanced, unverified]
  · exact post event _ digest final ⟨rfl, rfl, rfl, rfl, rfl, rfl, rfl⟩

end Stage

theorem createIncident_reaches {input : NewIncident} {uuid : String} {now : Instant}
    {Post : Unit → Database → Prop} (renders : Renders services)
    (profile : input.evidenceProfile = "standard")
    (fresh : db.incidents.find input.incidentId = none)
    (silent : db.lastEvent input.incidentId = none)
    (unpublished : Unpublished db.cases input.incidentId)
    (post : ∀ event next, isSha256 event.eventHash = true →
      Stage next (advanced (openedRecord input now) event .opened now) → Untouched db next →
        Post () next) :
    (createIncident services input uuid now).Reaches db Post := by
  have accepted : requireOperatorEvidenceProfile input.scenario input.evidenceProfile =
      .ok "standard" := by
    rw [profile]
    simp [requireOperatorEvidenceProfile, evidenceProfiles, require]
  simp only [createIncident, reaches_bind, reaches_lift, accepted, Except.ok.injEq]
  refine ⟨"standard", rfl, (), _, dif_pos fresh, ?_⟩
  have stage : Stage
      { db with incidents := db.incidents.insert (openedRecord input now) fresh }
      (openedRecord input now) := by
    refine ⟨Table.find_insert_self fresh, ⟨?_, ?_⟩, unpublished⟩
    · change 1 = nextSequence (db.lastEvent input.incidentId)
      rw [silent]
      rfl
    · change none = (db.lastEvent input.incidentId).map _
      rw [silent]
      rfl
  refine stage.append (by rfl) ?_ fun event digest advancedStage => ?_
  · exact normalize_obj_ok ["scenario"] rfl (by decide) (by decide) (by simp)
  · refine advancedStage.publish (renders _ _) ?_ fun cases final => ?_
    · simp [publishes, advanced, openedRecord]
    · exact post event _ digest final ⟨rfl, rfl, rfl, rfl, rfl, rfl, rfl⟩

end CrossPatch.Runtime.Progress
