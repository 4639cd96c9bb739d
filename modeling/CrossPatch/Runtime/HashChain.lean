import CrossPatch.Library.Chains
import CrossPatch.Runtime.ControlPlane
import CrossPatch.Runtime.Repositories

/-!
# The hash chain of a timeline

Both writers of the event table keep, for every incident, the events, the head of
the chain and the counter of the incident row in step.  Whatever mixture of
transactions is committed or rolled back, each timeline is a chain and its incident
row points at the end of it.
-/

namespace CrossPatch.Runtime.HashChain

open CrossPatch.Domain.Failure CrossPatch.Domain.StateMachine CrossPatch.Domain.Text
open CrossPatch.Library CrossPatch.Library.Calendar CrossPatch.Library.Chains
open CrossPatch.Library.Runs
open CrossPatch.Runtime.ControlPlane CrossPatch.Runtime.History CrossPatch.Runtime.Progress
open CrossPatch.Runtime.Records CrossPatch.Runtime.Refinement CrossPatch.Runtime.Store
open CrossPatch.Runtime.Timeline

/-! ## Chains of events -/

def eventLinks (tables : UnicodeTables) : Links TimelineEventRecord String where
  sequence := TimelineEventRecord.sequence
  previous := TimelineEventRecord.previousHash
  digest := TimelineEventRecord.eventHash
  genesis := zeroEventHash
  isSealed event := recomputed tables event = .ok event.eventHash

/-- Every event belongs to an incident, and every incident row points at the end of
its chain. -/
structure Intact (tables : UnicodeTables) (current : Annals) : Prop where
  owned : ∀ event ∈ current.events, current.incidents.find event.incidentId ≠ none
  chain : ∀ {id : String} {row : IncidentRecord}, current.incidents.find id = some row →
    Chain (eventLinks tables) (current.eventsOf id)
  counter : ∀ {id : String} {row : IncidentRecord}, current.incidents.find id = some row →
    row.nextEventSequence = (current.eventsOf id).length + 1
  head : ∀ {id : String} {row : IncidentRecord}, current.incidents.find id = some row →
    row.eventChainHead = (current.eventsOf id).getLast?.map (·.eventHash)

variable {tables : UnicodeTables} {policy : Policy}

theorem eventsOf_append_own {current : Annals} {incidents : Table IncidentRecord.id}
    {event : TimelineEventRecord} :
    (Annals.mk incidents (current.events ++ [event])).eventsOf event.incidentId =
      current.eventsOf event.incidentId ++ [event] := by
  simp [Annals.eventsOf]

theorem eventsOf_append_other {current : Annals} {incidents : Table IncidentRecord.id}
    {event : TimelineEventRecord} {id : String} (differs : id ≠ event.incidentId) :
    (Annals.mk incidents (current.events ++ [event])).eventsOf id = current.eventsOf id := by
  simp [Annals.eventsOf, differs.symm]

theorem intact_opened {current : Annals} {row : IncidentRecord}
    (fresh : current.incidents.find row.id = none) (counter : row.nextEventSequence = 1)
    (head : row.eventChainHead = none) (intact : Intact tables current) :
    Intact tables ⟨current.incidents.insert row fresh, current.events⟩ := by
  have empty : current.eventsOf row.id = [] := by
    refine List.filter_eq_nil_iff.mpr fun event member => ?_
    intro named
    exact intact.owned event member ((beq_iff_eq.mp named) ▸ fresh)
  have known {id : String} {found : IncidentRecord}
      (present : (current.incidents.insert row fresh).find id = some found) :
      (id = row.id ∧ found = row) ∨ current.incidents.find id = some found := by
    rw [Table.find_insert fresh] at present
    by_cases same : id = row.id
    · rw [if_pos same, Option.some.injEq] at present
      exact Or.inl ⟨same, present.symm⟩
    · rw [if_neg same] at present
      exact Or.inr present
  constructor
  · intro event member
    rw [Table.find_insert fresh]
    by_cases same : event.incidentId = row.id
    · simp [same]
    · rw [if_neg same]
      exact intact.owned event member
  · intro id found present
    rcases known present with ⟨rfl, rfl⟩ | earlier
    · change Chain (eventLinks tables) (current.eventsOf found.id)
      rw [empty]
      exact .nil
    · exact intact.chain earlier
  · intro id found present
    rcases known present with ⟨rfl, rfl⟩ | earlier
    · change found.nextEventSequence = (current.eventsOf found.id).length + 1
      rw [empty, counter]
      rfl
    · exact intact.counter earlier
  · intro id found present
    rcases known present with ⟨rfl, rfl⟩ | earlier
    · change found.eventChainHead = (current.eventsOf found.id).getLast?.map _
      rw [empty, head]
      rfl
    · exact intact.head earlier

/-- The event that extends a timeline extends the chain. -/
theorem chain_extends {current : Annals} {event : TimelineEventRecord}
    (chain : Chain (eventLinks tables) (current.eventsOf event.incidentId))
    (continues : Extends tables current event) :
    Chain (eventLinks tables) (current.eventsOf event.incidentId ++ [event]) ∧
      event.sequence = (current.eventsOf event.incidentId).length + 1 := by
  have latest : current.lastEvent event.incidentId =
      (current.eventsOf event.incidentId).getLast? := chain.argmax_eq_getLast
  have numbered : event.sequence = (current.eventsOf event.incidentId).length + 1 := by
    rw [continues.sequence, latest]
    cases last : (current.eventsOf event.incidentId).getLast? with
    | none =>
        rw [List.getLast?_eq_none_iff.mp last]
        rfl
    | some previous =>
        have same : previous.sequence = _ := chain.sequence_getLast last
        rw [nextSequence, same]
  have linked : event.previousHash =
      (eventLinks tables).head (current.eventsOf event.incidentId) := by
    rw [continues.previous, latest, Links.head]
    cases (current.eventsOf event.incidentId).getLast? <;> rfl
  exact ⟨.append chain numbered linked continues.hashed, numbered⟩

theorem intact_recorded {current : Annals} {row held : IncidentRecord}
    {event : TimelineEventRecord} {state : IncidentState} {now : Instant}
    (found : current.incidents.find held.id = some row) (owner : event.incidentId = held.id)
    (continues : Extends tables current event) (intact : Intact tables current) :
    Intact tables
      ⟨current.incidents.write (advanced held event state now), current.events ++ [event]⟩ := by
  have written (id : String) :
      (current.incidents.write (advanced held event state now)).find id =
        if id = held.id then some (advanced held event state now)
        else current.incidents.find id :=
    @Table.find_write _ _ _ _ current.incidents (advanced held event state now) row found id
  obtain ⟨chain, numbered⟩ := chain_extends (intact.chain (owner ▸ found)) continues
  have known {id : String} {current' : IncidentRecord}
      (present : (current.incidents.write (advanced held event state now)).find id =
        some current') :
      (id = event.incidentId ∧ current' = advanced held event state now) ∨
        (id ≠ event.incidentId ∧ current.incidents.find id = some current') := by
    rw [written] at present
    by_cases same : id = held.id
    · rw [if_pos same, Option.some.injEq] at present
      exact Or.inl ⟨same.trans owner.symm, present.symm⟩
    · rw [if_neg same] at present
      exact Or.inr ⟨fun isOwner => same (isOwner.trans owner), present⟩
  constructor
  · intro other member
    rw [written]
    by_cases same : other.incidentId = held.id
    · simp [same]
    · rw [if_neg same]
      rcases List.mem_append.mp member with earlier | last
      · exact intact.owned other earlier
      · rw [List.mem_singleton.mp last] at same
        exact absurd owner same
  · intro id current' present
    rcases known present with ⟨rfl, rfl⟩ | ⟨differs, earlier⟩
    · rw [eventsOf_append_own]
      exact chain
    · rw [eventsOf_append_other differs]
      exact intact.chain earlier
  · intro id current' present
    rcases known present with ⟨rfl, rfl⟩ | ⟨differs, earlier⟩
    · rw [eventsOf_append_own, List.length_append, List.length_singleton, ← numbered]
      rfl
    · rw [eventsOf_append_other differs]
      exact intact.counter earlier
  · intro id current' present
    rcases known present with ⟨rfl, rfl⟩ | ⟨differs, earlier⟩
    · rw [eventsOf_append_own, List.getLast?_concat]
      rfl
    · rw [eventsOf_append_other differs]
      exact intact.head earlier

theorem Intact.entry {before after : Annals} (intact : Intact tables before)
    (entry : Entry tables policy before after) : Intact tables after := by
  cases entry with
  | opened fresh _ counter head => exact intact_opened fresh counter head intact
  | recorded found owner continues _ _ => exact intact_recorded found owner continues intact

theorem Intact.entries {before after : Annals} (intact : Intact tables before)
    (entries : Entries tables policy before after) : Intact tables after := by
  induction entries with
  | refl => exact intact
  | tail _ entry ih => exact ih.entry entry

theorem intact_empty : Intact tables (annals Database.empty) := by
  constructor
  · exact fun _ member => absurd member List.not_mem_nil
  all_goals
    intro id row present
    cases present

/-! ## Both writers -/

/-- A transaction of the control plane or the broker, or one of the repositories. -/
inductive Writer where
  | controlPlane (action : Action)
  | create (incidentId title : String) (state : IncidentState) (now : Instant)
  | append (incidentId : String) (type : EventType) (actor : String) (payload : Payload)
      (uuid : String) (now : Instant)

section Machine

variable (plant : Plant)

def carryOut (db : Database) : Writer → Database × List Observation
  | .controlPlane action => perform plant db action
  | .create incidentId title state now =>
      settle (Repositories.create incidentId title state now) db
  | .append incidentId type actor payload uuid now =>
      settle (Repositories.append plant.gateway.services incidentId type actor payload uuid now) db

def writers : Machine Database Writer Observation := ⟨carryOut plant⟩

end Machine

/-- Incidents may be opened in any state, and events of any type appended. -/
def anyPolicy : Policy := ⟨fun _ => True, fun _ => True, fun _ => True⟩

theorem anyPolicy_usual : anyPolicy.Usual := ⟨trivial, fun _ _ => trivial⟩

theorem settle_entries {α : Type} {transaction : Tx α} {db : Database}
    (ensures : transaction.Ensures db
      fun _ next => Entries tables policy (annals db) (annals next)) :
    Entries tables policy (annals db) (annals (settle transaction db).1) :=
  Transaction.commit_of_ensures ensures .refl

/-- Every action of the control plane changes the annals by entries. -/
theorem perform_entries {plant : Plant} {db : Database} {action : Action} (usual : policy.Usual)
    (reports : ∀ incidentId type actor payload published uuid now,
      action = .appendEvent incidentId type actor payload published uuid now →
        policy.reports type)
    (rejects : ∀ control incident, db.controlWarrants.find control.id = some control →
      control.status = .pendingApproval →
      db.incidents.find control.incidentId = some incident → policy.rejects incident) :
    Entries plant.gateway.services.tables policy (annals db)
      (annals ((machine plant).next db action)) := by
  cases action with
  | createIncident => exact settle_entries (createIncident_entries usual)
  | appendEvent incidentId type actor payload published uuid now =>
      exact settle_entries (appendEvent_entries
        (reports incidentId type actor payload published uuid now rfl))
  | recordEvidence => exact settle_entries recordEvidence_entries
  | prepareSeat => exact settle_entries (prepareSeat_entries usual)
  | recordSeatOutput => exact settle_entries (recordSeatOutput_entries usual)
  | failClosedAbstain => exact settle_entries (failClosedAbstain_entries usual)
  | recordVerdict => exact settle_entries (recordVerdict_entries usual)
  | rejectDuplicateRetry => exact settle_entries (rejectDuplicateRetry_entries usual)
  | openApproval => exact settle_entries (openApproval_entries usual)
  | expireWarrantIfNeeded => exact settle_entries (expireWarrantIfNeeded_entries usual)
  | decideLocked => exact settle_entries (decideLocked_entries usual rejects)
  | requestRevision => exact settle_entries (requestRevision_entries usual)
  | claimRuntimeWork id ownerId now =>
      change Entries _ policy (annals db) (annals (settleClaim _ _ _).1)
      rw [settleClaim_fst]
      exact settle_entries claimRuntimeWork_entries
  | failRuntimeWork => exact settle_entries (failRuntimeWork_entries usual)
  | completeRepairWork => exact settle_entries completeRepairWork_entries
  | requeueInterruptedRuntimeWork => exact settle_entries requeueInterruptedRuntimeWork_entries
  | failClosedInterruptedIncidents =>
      exact settle_entries (failClosedInterruptedIncidents_entries usual)
  | projectBrokerResult => exact settle_entries (projectBrokerResult_entries usual)
  | recordExecutionFailure => exact settle_entries (recordExecutionFailure_entries usual)
  | claimWarrant => exact .refl
  | finish => exact .refl

theorem carryOut_intact {plant : Plant} {db : Database} (writer : Writer)
    (intact : Intact plant.gateway.services.tables (annals db)) :
    Intact plant.gateway.services.tables (annals ((writers plant).next db writer)) := by
  cases writer with
  | controlPlane action =>
      exact intact.entries (perform_entries anyPolicy_usual (fun _ _ _ _ _ _ _ _ => trivial)
        (fun _ _ _ _ _ => trivial))
  | create =>
      exact intact.entries
        (@settle_entries _ anyPolicy _ _ _ (Repositories.create_entries trivial))
  | append =>
      exact intact.entries
        (@settle_entries _ anyPolicy _ _ _ (Repositories.append_entries trivial))

/-! ## Every timeline is a hash chain -/

/-- The events of an incident in the order of their sequence numbers. -/
def timeline (db : Database) (incidentId : String) : List TimelineEventRecord :=
  (db.eventsOf incidentId).insertionSort fun left right => left.sequence ≤ right.sequence

/-- The timeline, the head and the counter of an incident agree. -/
structure Chronicled (tables : UnicodeTables) (db : Database) (incident : IncidentRecord) :
    Prop where
  sequences : (timeline db incident.id).map (·.sequence) =
    List.range' 1 (timeline db incident.id).length
  links : (timeline db incident.id).map (·.previousHash) =
    (zeroEventHash :: (timeline db incident.id).map (·.eventHash)).dropLast
  hashes : ∀ event ∈ timeline db incident.id, recomputed tables event = .ok event.eventHash
  head : incident.eventChainHead = (timeline db incident.id).getLast?.map (·.eventHash)
  counter : incident.nextEventSequence = (timeline db incident.id).length + 1

theorem timeline_eq {db : Database} (intact : Intact tables (annals db)) {id : String}
    {row : IncidentRecord} (found : db.incidents.find id = some row) :
    timeline db id = db.eventsOf id :=
  (intact.chain found).sorted.insertionSort_eq

theorem chronicled_of_intact {db : Database} (intact : Intact tables (annals db))
    {incident : IncidentRecord} (listed : incident ∈ db.incidents.rows) :
    Chronicled tables db incident := by
  have found : db.incidents.find incident.id = some incident := Table.find_of_mem listed
  have chain : Chain (eventLinks tables) (db.eventsOf incident.id) := intact.chain found
  have ordered := timeline_eq intact found
  constructor
  · rw [ordered]
    exact chain.sequences
  · rw [ordered]
    exact chain.links_previous
  · rw [ordered]
    exact chain.all_sealed
  · rw [ordered]
    exact intact.head found
  · rw [ordered]
    exact intact.counter found

/-- After any transactions of both writers, each incident's events are numbered
without gap, each repeats the hash before it, each hash is the one of the stored
fields, and the incident row has the last hash and the next number; an append that
raises leaves the database as it was. -/
theorem hash_chain_invariant (plant : Plant) (steps : List Writer) :
    (∀ incident ∈ ((writers plant).run Database.empty steps).incidents.rows,
      Chronicled plant.gateway.services.tables ((writers plant).run Database.empty steps)
        incident) ∧
    (∀ incidentId type actor payload published uuid now db raised next,
      (appendEvent plant.gateway.services incidentId type actor payload published uuid now).commit
        db = (.error raised, next) → next = db) ∧
    ∀ incidentId type actor payload uuid now db raised next,
      (Repositories.append plant.gateway.services incidentId type actor payload uuid now).commit
        db = (.error raised, next) → next = db := by
  have intact : Intact plant.gateway.services.tables
      (annals ((writers plant).run Database.empty steps)) :=
    (writers plant).run_invariant (fun db => Intact plant.gateway.services.tables (annals db))
      (fun _ writer current => carryOut_intact writer current) intact_empty steps
  refine ⟨fun incident listed => chronicled_of_intact intact listed, ?_, ?_⟩
  · intro incidentId type actor payload published uuid now db raised next failed
    exact Transaction.rolled_back failed
  · intro incidentId type actor payload uuid now db raised next failed
    exact Transaction.rolled_back failed

end CrossPatch.Runtime.HashChain
