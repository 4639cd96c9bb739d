import CrossPatch.Runtime.BrokerResults
import CrossPatch.Runtime.Progress

/-!
# What transactions write into the timelines

The incident rows together with the events form the annals of the store.  Every
committed transaction changes them by a sequence of entries, each of which opens an
incident or appends one chained event and writes the incident that it was computed
from.
-/

namespace CrossPatch.Runtime.History

open CrossPatch.Broker.Store
open CrossPatch.Domain.Failure CrossPatch.Domain.Hashing CrossPatch.Domain.Seats
open CrossPatch.Domain.StateMachine CrossPatch.Domain.Text
open CrossPatch.Evidence.Views
open CrossPatch.Library CrossPatch.Library.Attempt CrossPatch.Library.Calendar
open CrossPatch.Library.Octets CrossPatch.Library.Transaction
open CrossPatch.Runner.Results
open CrossPatch.Runtime.Authority CrossPatch.Runtime.BrokerResults CrossPatch.Runtime.Progress
open CrossPatch.Runtime.Records CrossPatch.Runtime.Refinement CrossPatch.Runtime.Store
open CrossPatch.Runtime.Timeline

/-! ## Annals -/

structure Annals where
  incidents : Table IncidentRecord.id
  events : List TimelineEventRecord

def annals (db : Database) : Annals := ⟨db.incidents, db.events⟩

def Annals.eventsOf (current : Annals) (incidentId : String) : List TimelineEventRecord :=
  current.events.filter fun event => event.incidentId == incidentId

def Annals.lastEvent (current : Annals) (incidentId : String) : Option TimelineEventRecord :=
  (current.eventsOf incidentId).argmax TimelineEventRecord.sequence

def previousHash (last : Option TimelineEventRecord) : String :=
  match last with
  | none => zeroEventHash
  | some event => event.eventHash

/-- The digest over the stored fields of an event. -/
def recomputed (tables : UnicodeTables) (event : TimelineEventRecord) : Attempt String :=
  sha256Hex tables (eventJson event.incidentId event.sequence event.type event.actor event.payload
    event.previousHash event.createdAt)

/-- The event extends the timeline of its incident. -/
structure Extends (tables : UnicodeTables) (current : Annals) (event : TimelineEventRecord) :
    Prop where
  sequence : event.sequence = nextSequence (current.lastEvent event.incidentId)
  previous : event.previousHash = previousHash (current.lastEvent event.incidentId)
  hashed : recomputed tables event = .ok event.eventHash

/-- Which states incidents are opened in, which events are appended in the state that
the row has, and which rows a rejection may block. -/
structure Policy where
  opens : IncidentState → Prop
  reports : EventType → Prop
  rejects : IncidentRecord → Prop

/-- The state that an event is reduced from. -/
def Policy.Admits (policy : Policy) (row held : IncidentRecord) (type : EventType) : Prop :=
  (held.state = row.state ∧ policy.reports type) ∨
    (held.state = .blocked ∧ type = .warrantRejected ∧ policy.rejects row)

inductive Entry (tables : UnicodeTables) (policy : Policy) : Annals → Annals → Prop where
  | opened {current : Annals} {row : IncidentRecord}
      (fresh : current.incidents.find row.id = none) (state : policy.opens row.state)
      (counter : row.nextEventSequence = 1) (head : row.eventChainHead = none) :
      Entry tables policy current ⟨current.incidents.insert row fresh, current.events⟩
  | recorded {current : Annals} {row held : IncidentRecord} {event : TimelineEventRecord}
      {state : IncidentState} {now : Instant}
      (found : current.incidents.find held.id = some row) (owner : event.incidentId = held.id)
      (continues : Extends tables current event) (admits : policy.Admits row held event.type)
      (reduced : reduce held.state event.type event.payload = .ok state) :
      Entry tables policy current
        ⟨current.incidents.write (advanced held event state now), current.events ++ [event]⟩

abbrev Entries (tables : UnicodeTables) (policy : Policy) :=
  Relation.ReflTransGen (Entry tables policy)

/-! ## Appending -/

section Appending

variable {services : Services} {policy : Policy} {db : Database} {start : Annals}

/-- Everything that a committed append has computed. -/
theorem appendLocked_extends {incident moved : IncidentRecord} {type : EventType}
    {actor : String} {payload : Payload} {published : Bool} {uuid : String} {now : Instant}
    {next : Database}
    (reached : (appendLocked services incident type actor payload published uuid now).run db =
      .ok (moved, next)) :
    ∃ event state, event.incidentId = incident.id ∧ event.type = type ∧
      reduce incident.state event.type event.payload = .ok state ∧
      Extends services.tables (annals db) event ∧ moved = advanced incident event state now ∧
      next = appended db incident event state now := by
  simp only [appendLocked, Transaction.bind_eq_ok, Transaction.read_eq_ok, Prod.mk.injEq,
    Transaction.check_eq_ok, Transaction.lift_eq_ok, Transaction.change_eq_ok,
    Transaction.pure_eq_ok] at reached
  obtain ⟨_, _, ⟨rfl, rfl⟩, _, _, ⟨_, rfl⟩, state, _, ⟨reduced, rfl⟩, hash, current,
    ⟨hashed, rfl⟩, _, _, ⟨_, rfl⟩, rfl, rfl⟩ := reached
  let event : TimelineEventRecord :=
    { id := "evt_" ++ uuid
      incidentId := incident.id
      sequence := nextSequence (current.lastEvent incident.id)
      type := type
      actor := actor
      payload := payload
      previousHash := previousHash (current.lastEvent incident.id)
      eventHash := hash
      published := published
      createdAt := now }
  exact ⟨event, state, rfl, rfl, reduced, ⟨rfl, rfl, hashed⟩, rfl, rfl⟩

/-- The caller holds the incident in the state that its row has. -/
def Held (db : Database) (incident : IncidentRecord) : Prop :=
  ∃ row, db.incidents.find incident.id = some row ∧ row.state = incident.state

theorem Held.of_find {incidentId : String} {incident : IncidentRecord}
    (found : db.incidents.find incidentId = some incident) : Held db incident := by
  obtain rfl := Table.key_of_find found
  exact ⟨incident, found, rfl⟩

theorem held_advanced {incident row : IncidentRecord} {event : TimelineEventRecord}
    {state : IncidentState} {now : Instant} (found : db.incidents.find incident.id = some row) :
    Held (appended db incident event state now) (advanced incident event state now) :=
  ⟨_, @Table.find_write_self _ _ _ _ db.incidents (advanced incident event state now) row found,
    rfl⟩

/-- An append is one entry. -/
theorem entries_append_row {incident row : IncidentRecord} {type : EventType} {actor : String}
    {payload : Payload} {published : Bool} {uuid : String} {now : Instant}
    {Post : IncidentRecord → Database → Prop}
    (since : Entries services.tables policy start (annals db))
    (found : db.incidents.find incident.id = some row)
    (admits : policy.Admits row incident type)
    (post : ∀ event state, Held (appended db incident event state now)
        (advanced incident event state now) →
      Entries services.tables policy start (annals (appended db incident event state now)) →
      Post (advanced incident event state now) (appended db incident event state now)) :
    (appendLocked services incident type actor payload published uuid now).Ensures db Post := by
  intro moved next reached
  obtain ⟨event, state, owner, typed, reduced, continues, rfl, rfl⟩ := appendLocked_extends reached
  refine post event state (held_advanced found) (since.tail ?_)
  exact .recorded found owner continues (typed ▸ admits) reduced

/-- The usual append: the incident in the state of its row. -/
theorem entries_append {incident : IncidentRecord} {type : EventType} {actor : String}
    {payload : Payload} {published : Bool} {uuid : String} {now : Instant}
    {Post : IncidentRecord → Database → Prop}
    (since : Entries services.tables policy start (annals db)) (held : Held db incident)
    (reports : policy.reports type)
    (post : ∀ event state, Held (appended db incident event state now)
        (advanced incident event state now) →
      Entries services.tables policy start (annals (appended db incident event state now)) →
      Post (advanced incident event state now) (appended db incident event state now)) :
    (appendLocked services incident type actor payload published uuid now).Ensures db Post := by
  obtain ⟨row, found, same⟩ := held
  exact entries_append_row since found (Or.inl ⟨same.symm, reports⟩) post

end Appending

/-! ## The runtime store -/

/-- Incidents are opened `OPEN`, and every type but `WARRANT_REJECTED` is reported. -/
structure Policy.Usual (policy : Policy) : Prop where
  opens : policy.opens .opened
  reports : ∀ type, type ≠ .warrantRejected → policy.reports type

section Store

variable {services : Services} {policy : Policy} {db : Database}

theorem createIncident_entries {input : NewIncident} {uuid : String} {now : Instant}
    (usual : policy.Usual) :
    (createIncident services input uuid now).Ensures db
      fun _ next => Entries services.tables policy (annals db) (annals next) := by
  simp only [createIncident, ensures_bind, ensures_lift]
  intro profile _ done next inserted
  simp only [insertIncident] at inserted
  split at inserted
  · rename_i fresh
    cases inserted
    have opened : Entry services.tables policy (annals db)
        ⟨db.incidents.insert (openedRecord input now) fresh, db.events⟩ :=
      .opened fresh usual.opens rfl rfl
    refine entries_append (.single opened) ⟨_, Table.find_insert_self fresh, rfl⟩
      (usual.reports _ (by simp)) fun event state _ entries => ?_
    exact ensures_publish fun _ => entries
  · cases inserted

theorem appendEvent_entries {incidentId : String} {type : EventType} {actor : String}
    {payload : Payload} {published : Bool} {uuid : String} {now : Instant}
    (reports : policy.reports type) :
    (appendEvent services incidentId type actor payload published uuid now).Ensures db
      fun _ next => Entries services.tables policy (annals db) (annals next) := by
  simp only [appendEvent, ensures_bind, ensures_getIncident]
  intro incident found
  refine entries_append .refl (.of_find found) reports fun event state _ entries => ?_
  exact ensures_ite (fun _ => ensures_publish fun _ => entries)
    (fun _ => ensures_pure.mpr entries)

theorem recordEvidence_entries {envelope : UntrustedEvidenceEnvelope} {evidenceId : String}
    {published : Bool} {now : Instant} :
    (recordEvidence services envelope evidenceId published now).Ensures db
      fun _ next => Entries services.tables policy (annals db) (annals next) := by
  simp only [recordEvidence, addEvidence, ensures_bind, ensures_lift, ensures_change]
  intro encoded _
  exact ensures_ite (fun _ => ensures_publish fun _ => .refl) (fun _ => ensures_pure.mpr .refl)

theorem prepareSeat_entries {incidentId : String} {seat : Seat} {phase : String}
    {uuids : Nat → String} {clock : Nat → Instant} (usual : policy.Usual) :
    (prepareSeat services incidentId seat phase uuids clock).Ensures db
      fun _ next => Entries services.tables policy (annals db) (annals next) := by
  simp only [prepareSeat, ensures_bind, ensures_getIncident]
  intro incident found
  have seated {db' : Database} {started : IncidentRecord} (held : Held db' started)
      (entries : Entries services.tables policy (annals db) (annals db')) :
      (appendLocked services started .seatStarted seat.value
        [("seat", .str seat.value), ("phase", .str phase)] true (uuids 1) (clock 1)).Ensures db'
        fun _ next' => (publishLocked services incidentId (clock 2)).Ensures next'
          fun _ next => Entries services.tables policy (annals db) (annals next) :=
    entries_append entries held (usual.reports _ (by simp)) fun _ _ _ later =>
      ensures_publish fun _ => later
  refine ensures_ite (fun _ => ?_) (fun _ => ?_)
  · simp only [ensures_bind]
    exact entries_append .refl (.of_find found) (usual.reports _ (by simp))
      fun _ _ held entries => seated held entries
  · simp only [ensures_bind, ensures_pure]
    exact seated (.of_find found) .refl

theorem recordSeatOutput_entries {incidentId : String} {seat : Seat} {effort : Effort}
    {phase : String} {output : SeatOutput} {escalationCount : Nat} {uuids : Nat → String}
    {now : Instant} (usual : policy.Usual) :
    (recordSeatOutput services incidentId seat effort phase output escalationCount uuids
      now).Ensures db fun _ next => Entries services.tables policy (annals db) (annals next) := by
  cases output with
  | counsel counsel =>
      simp only [recordSeatOutput, addAgentRun, addCandidate, ensures_bind, ensures_lift,
        ensures_getIncident, ensures_change, ensures_read, ensures_pure]
      intro encoded _ semantic _ incident found allowedPaths _
      refine entries_append .refl (.of_find found) (usual.reports _ (by simp))
        fun first state held entries => ?_
      refine ensures_ite (fun _ => ?_) (fun _ => ?_)
      · simp only [ensures_bind]
        exact entries_append entries held (usual.reports _ (by simp))
          fun _ _ _ later => ensures_publish fun _ => later
      · simp only [ensures_bind, ensures_pure]
        exact ensures_publish fun _ => entries
  | _ =>
      simp only [recordSeatOutput, addAgentRun, ensures_bind, ensures_lift, ensures_getIncident,
        ensures_change, ensures_pure]
      intro encoded _ semantic _ incident found
      exact entries_append .refl (.of_find found) (usual.reports _ (by simp))
        fun _ _ _ entries => ensures_publish fun _ => entries

/-! ## Work rows -/

theorem claimRuntimeWork_entries {id ownerId : String} {now : Instant} :
    (claimRuntimeWork id ownerId now).Ensures db
      fun _ next => Entries services.tables policy (annals db) (annals next) := by
  simp only [claimRuntimeWork, ensures_bind, ensures_read]
  split
  · exact ensures_pure.mpr .refl
  · refine ensures_ite (fun _ => ensures_pure.mpr .refl) (fun _ => ?_)
    simp only [writeWork, ensures_bind, ensures_getIncident]
    intro incident _
    refine ensures_ite (fun _ => ?_) (fun _ => ensures_bind.mpr (ensures_change.mpr
      (ensures_pure.mpr .refl)))
    refine ensures_ite (fun _ => ensures_bind.mpr (ensures_change.mpr (ensures_pure.mpr .refl)))
      (fun _ => ?_)
    rw [ensures_lift]
    intro _ impossible
    cases impossible

theorem requeueRows_annals {rows : List RuntimeWorkRecord} {now : Instant} :
    (requeueRows now rows).Ensures db fun _ next => annals next = annals db := by
  induction rows generalizing db with
  | nil => exact ensures_pure.mpr rfl
  | cons row rest ih =>
      simp only [requeueRows, requeueRow, writeWork, ensures_bind, ensures_getIncident,
        ensures_change]
      intro incident _
      exact ih.mono fun _ _ same => same.trans rfl

theorem requeueInterruptedRuntimeWork_entries {now : Instant} :
    (requeueInterruptedRuntimeWork now).Ensures db
      fun _ next => Entries services.tables policy (annals db) (annals next) := by
  simp only [requeueInterruptedRuntimeWork, ensures_bind, ensures_read]
  refine requeueRows_annals.mono fun _ next same => ?_
  rw [same]

theorem completeRepairWork_entries {incidentId warrantId : String} {now : Instant} :
    (completeRepairWork incidentId warrantId now).Ensures db
      fun _ next => Entries services.tables policy (annals db) (annals next) := by
  simp only [completeRepairWork, writeWork, ensures_bind, ensures_getIncident, ensures_getWork,
    ensures_read, ensures_check, ensures_change]
  exact fun _ _ _ _ _ => .refl

theorem failRuntimeWork_entries {id operation failureOutcome uuid : String} {now : Instant}
    (usual : policy.Usual) :
    (failRuntimeWork services id operation failureOutcome uuid now).Ensures db
      fun _ next => Entries services.tables policy (annals db) (annals next) := by
  simp only [failRuntimeWork, ensures_bind, ensures_getWork, ensures_getIncident]
  intro work _ incident owned
  refine ensures_ite (fun _ => ensures_check.mpr fun _ => .refl) (fun _ => ?_)
  simp only [writeWork, ensures_bind, ensures_change]
  refine entries_append .refl (.of_find owned) (usual.reports _ ?_)
    fun _ _ _ entries => ensures_publish fun _ => entries
  split <;> simp

theorem failClosedRows_entries {uuids : Nat → String} {now : Instant} {position : Nat}
    {rows : List IncidentRecord} {start : Annals} (usual : policy.Usual)
    (distinct : (rows.map IncidentRecord.id).Nodup)
    (current : ∀ row ∈ rows, db.incidents.find row.id = some row)
    (since : Entries services.tables policy start (annals db)) :
    (failClosedRows services uuids now position rows).Ensures db
      fun _ next => Entries services.tables policy start (annals next) := by
  induction rows generalizing db position with
  | nil => exact ensures_pure.mpr since
  | cons row rest ih =>
      rw [List.map_cons, List.nodup_cons] at distinct
      have found := current row List.mem_cons_self
      simp only [failClosedRows, ensures_bind]
      refine entries_append since (.of_find found) (usual.reports _ (by simp))
        fun event state _ entries => ?_
      refine ensures_publish fun _ => ih distinct.2 (fun later member => ?_) entries
      have differs : later.id ≠ row.id := by
        intro same
        exact distinct.1 (same ▸ List.mem_map_of_mem member)
      have written := @Table.find_write _ _ _ _ db.incidents (advanced row event state now) row
        found later.id
      exact written.trans ((if_neg differs).trans (current later (List.mem_cons_of_mem _ member)))

theorem failClosedInterruptedIncidents_entries {uuids : Nat → String} {now : Instant}
    (usual : policy.Usual) :
    (failClosedInterruptedIncidents services uuids now).Ensures db
      fun _ next => Entries services.tables policy (annals db) (annals next) := by
  simp only [failClosedInterruptedIncidents, ensures_bind, ensures_read]
  refine failClosedRows_entries usual ?_ ?_ .refl
  · have permuted := List.perm_insertionSort (fun left right : IncidentRecord =>
      toLex (left.createdAt.micros, left.id) ≤ toLex (right.createdAt.micros, right.id))
        (db.incidents.rows.filter fun incident =>
          decide (incident.state ∈ interruptedStates) && !hasActiveWork db incident.id)
    refine ((permuted.map IncidentRecord.id).nodup_iff).mpr ?_
    exact db.incidents.unique.sublist (List.filter_sublist.map _)
  · intro row member
    rw [List.mem_insertionSort] at member
    exact Table.find_of_mem (List.mem_of_mem_filter member)

end Store

/-! ## The authority gateway -/

section Gateway

variable {gateway : Gateway} {policy : Policy} {db : Database} {start : Annals}

theorem appendVerdict_entries {incident : IncidentRecord} {verdictId : String}
    {agentRunId : Option String} {verdict : Verdict} {encoded : Bytes} {payload : Payload}
    {uuid : String} {now : Instant} (usual : policy.Usual)
    (since : Entries gateway.services.tables policy start (annals db)) (held : Held db incident) :
    (appendVerdict gateway incident verdictId agentRunId verdict encoded payload uuid now).Ensures
      db fun _ next => Entries gateway.services.tables policy start (annals next) := by
  simp only [appendVerdict, addVerdict, ensures_bind, ensures_change]
  exact entries_append since held (usual.reports _ (by simp))
    fun _ _ _ entries => ensures_publish fun _ => entries

theorem failClosedAbstain_entries {incidentId reason : String} {failureCode : Option String}
    {uuids : Nat → String} {now : Instant} (usual : policy.Usual) :
    (failClosedAbstain gateway incidentId reason failureCode uuids now).Ensures db
      fun _ next => Entries gateway.services.tables policy (annals db) (annals next) := by
  simp only [failClosedAbstain, ensures_bind, ensures_lift, ensures_getIncident]
  intro encoded _ incident found
  exact appendVerdict_entries usual .refl (.of_find found)

theorem recordVerdict_entries {incidentId : String} {output : MagistrateOutput}
    {uuids : Nat → String} {now : Instant} (usual : policy.Usual) :
    (recordVerdict gateway incidentId output uuids now).Ensures db
      fun _ next => Entries gateway.services.tables policy (annals db) (annals next) := by
  simp only [recordVerdict, ensures_bind, ensures_lift, ensures_getIncident]
  intro encoded _ incident found
  exact appendVerdict_entries usual .refl (.of_find found)

theorem rejectDuplicateRetry_entries {incidentId : String} {seat : Seat} {effort : Effort}
    {phase : String} {output : SeatOutput} {reason : String} {uuids : Nat → String}
    {now : Instant} (usual : policy.Usual) :
    (rejectDuplicateRetry gateway incidentId seat effort phase output reason uuids now).Ensures db
      fun _ next => Entries gateway.services.tables policy (annals db) (annals next) := by
  simp only [rejectDuplicateRetry, addAgentRun, ensures_bind, ensures_lift, ensures_check,
    ensures_getIncident, ensures_change]
  intro _ _ encoded _ semantic _ abstain _ incident found
  exact entries_append .refl (.of_find found) (usual.reports _ (by simp))
    fun _ _ held entries => appendVerdict_entries usual entries held

theorem openApproval_entries {incidentId : String} {output : MagistrateOutput}
    {seatOutputs : Seat → Option SeatOutput} {uuids : Nat → String} {now : Instant}
    (usual : policy.Usual) :
    (openApproval gateway incidentId output seatOutputs uuids now).Ensures db
      fun _ next => Entries gateway.services.tables policy (annals db) (annals next) := by
  simp only [openApproval, ensures_bind, ensures_check, ensures_lift, ensures_getIncident]
  intro _ counsel _ allowedPaths _ _ _ incident found _
  refine gatherMaterial_frame.mono ?_
  rintro ⟨material, magistrateRun, verdictBytes⟩ _ ⟨runs, candidates, rfl⟩
  intro document _ canonical _ authority _
  refine ensures_insertControl fun _ => ?_
  obtain rfl := Table.key_of_find found
  refine (appendVerdict_entries usual (by exact .refl) (by exact ⟨incident, found, rfl⟩)).mono ?_
  intro _ _ entries
  exact ensures_pure.mpr entries

theorem settleControl_entries {control : ControlWarrantRecord} {status : ControlStatus}
    {approvalId : Option String} {incident row : IncidentRecord} {type : EventType}
    {actor : String} {payload : Payload} {uuid : String} {now : Instant}
    (since : Entries gateway.services.tables policy start (annals db))
    (found : db.incidents.find incident.id = some row)
    (admits : policy.Admits row incident type) :
    (settleControl gateway control status approvalId incident type actor payload uuid now).Ensures
      db fun _ next => Entries gateway.services.tables policy start (annals next) := by
  simp only [settleControl, writeControl, ensures_bind, ensures_change, ensures_pure]
  exact entries_append_row since (by exact found) (by exact admits) fun _ _ _ entries => entries

theorem expireWarrantIfNeeded_entries {warrantId warrantSha256 actor uuid : String}
    {now : Instant} (usual : policy.Usual) :
    (expireWarrantIfNeeded gateway warrantId warrantSha256 actor uuid now).Ensures db
      fun _ next => Entries gateway.services.tables policy (annals db) (annals next) := by
  simp only [expireWarrantIfNeeded, ensures_bind]
  refine ensures_pendingControl fun control _ _ _ => ?_
  refine ensures_ite (fun _ => ensures_pure.mpr .refl) (fun _ => ?_)
  simp only [ensures_bind, ensures_getIncident]
  intro incident found
  obtain owner := Table.key_of_find found
  refine (settleControl_entries .refl (owner ▸ found)
    (Or.inl ⟨rfl, usual.reports _ (by simp)⟩)).mono fun _ _ entries => ?_
  exact ensures_publish fun _ => ensures_pure.mpr entries

theorem requestRevision_entries {warrantId warrantSha256 : String}
    {guidance : UntrustedEvidenceEnvelope} {actor uuid : String} {now : Instant}
    (usual : policy.Usual) :
    (requestRevision gateway warrantId warrantSha256 guidance actor uuid now).Ensures db
      fun _ next => Entries gateway.services.tables policy (annals db) (annals next) := by
  simp only [requestRevision, ensures_bind]
  refine ensures_pendingControl fun control _ _ _ => ?_
  simp only [addEvidence, ensures_check, ensures_read, ensures_lift, needed_eq_ok,
    Option.filter_eq_some_iff, ensures_change]
  rintro _ incident ⟨found, _⟩ encoded _
  obtain owner := Table.key_of_find found
  refine (settleControl_entries (by exact .refl) (by exact owner ▸ found)
    (Or.inl ⟨rfl, usual.reports _ (by simp)⟩)).mono fun _ _ entries => ?_
  exact ensures_publish fun _ => ensures_pure.mpr entries

theorem enqueueRuntimeWorkLocked_annals {incidentId warrantId : String} {kind : WorkKind}
    {now : Instant} :
    (enqueueRuntimeWorkLocked incidentId warrantId kind now).Ensures db
      fun _ next => annals next = annals db := by
  exact ensures_enqueue fun works _ => rfl

theorem approveLocked_entries {control : ControlWarrantRecord} {incident : IncidentRecord}
    {document : Broker.Warrant.WarrantDocument} {warrantSha256 actor uuid : String}
    {now : Instant} (usual : policy.Usual)
    (found : db.incidents.find control.incidentId = some incident) :
    (approveLocked gateway control document incident warrantSha256 actor uuid now).Ensures db
      fun _ next => Entries gateway.services.tables policy (annals db) (annals next) := by
  simp only [approveLocked, authorizeExecution, ensures_bind, ensures_check, ensures_lift,
    ensures_change]
  intro _ approval _ _ _ approvalJson _
  refine ensures_insertWarrant fun nonces _ => ?_
  obtain owner := Table.key_of_find found
  refine (settleControl_entries (by exact .refl) (by exact owner ▸ found)
    (Or.inl ⟨rfl, usual.reports _ (by simp)⟩)).mono fun _ _ entries => ?_
  refine enqueueRuntimeWorkLocked_annals.mono fun _ _ same => ?_
  exact ensures_publish fun _ => (same ▸ entries :)

theorem rejectLocked_entries {control : ControlWarrantRecord} {incident : IncidentRecord}
    {warrantSha256 actor : String} {reason : Option String} {uuid : String} {now : Instant}
    (found : db.incidents.find control.incidentId = some incident)
    (rejects : policy.rejects incident) :
    (rejectLocked gateway control incident warrantSha256 actor reason uuid now).Ensures db
      fun _ next => Entries gateway.services.tables policy (annals db) (annals next) := by
  simp only [rejectLocked, ensures_bind]
  obtain owner := Table.key_of_find found
  have present : db.incidents.find { incident with state := .blocked }.id = some incident :=
    owner ▸ found
  refine (settleControl_entries .refl present (Or.inr ⟨rfl, rfl, rejects⟩)).mono
    fun _ _ entries => ?_
  exact ensures_publish fun _ => entries

/-- A decision about a pending warrant; only a rejection asks what it may block. -/
theorem decideLocked_entries {warrantId : String} {approve : Bool} {warrantSha256 actor : String}
    {reason : Option String} {uuid : String} {now : Instant} (usual : policy.Usual)
    (rejects : ∀ control incident, db.controlWarrants.find control.id = some control →
      control.status = .pendingApproval →
      db.incidents.find control.incidentId = some incident → policy.rejects incident) :
    (decideLocked gateway warrantId approve warrantSha256 actor reason uuid now).Ensures db
      fun _ next => Entries gateway.services.tables policy (annals db) (annals next) := by
  simp only [decideLocked, ensures_bind]
  refine ensures_pendingControl fun control decided _ pending => ?_
  simp only [ensures_lift, ensures_getIncident]
  intro document _ incident found
  exact ensures_ite (fun _ => approveLocked_entries usual found)
    (fun _ => rejectLocked_entries found (rejects control incident decided pending found))

end Gateway

/-! ## Broker results -/

section Results

variable {services : Services} {stopwatch : Stopwatch} {policy : Policy} {db : Database}
  {start : Annals}

theorem recordTests_annals {incidentId warrantId evidenceId : String} {uuids : Nat → String}
    {now : Instant} {position : Nat} {receipts : List ProcessReceipt} :
    (recordTests services stopwatch incidentId warrantId evidenceId uuids now position
      receipts).Ensures db fun _ next => annals next = annals db := by
  induction receipts generalizing db position with
  | nil => exact ensures_pure.mpr rfl
  | cons receipt rest ih =>
      simp only [recordTests, addTestRun, ensures_bind, ensures_lift, ensures_change]
      intro result _
      exact ih.mono fun _ _ same => same.trans rfl

theorem concludeExecution_entries {incident : IncidentRecord} {result : BrokerResult}
    {warrantId evidenceId : String} {testUuids eventUuids : Nat → String} {now : Instant}
    (usual : policy.Usual) (since : Entries services.tables policy start (annals db))
    (held : Held db incident) :
    (concludeExecution services incident result warrantId evidenceId testUuids eventUuids
      now).Ensures db fun _ next => Entries services.tables policy start (annals next) := by
  simp only [concludeExecution, writeWork, ensures_bind]
  refine entries_append since held (usual.reports _ ?_) fun _ _ _ entries => ?_
  · split <;> simp
  · simp only [ensures_read, ensures_lift, ensures_change]
    intro work _
    cases result.receipts.all (·.passed) with
    | true =>
        simp only [if_true]
        exact ensures_publish fun _ => entries
    | false =>
        simp only [Bool.false_eq_true, if_false, ensures_bind]
        refine enqueueRuntimeWorkLocked_annals.mono fun _ _ same => ?_
        exact ensures_publish fun _ => (same ▸ entries :)

theorem Held.frame {next : Database} {incident : IncidentRecord} (held : Held db incident)
    (same : annals next = annals db) : Held next incident := by
  obtain ⟨row, found, state⟩ := held
  have incidents : next.incidents = db.incidents := congrArg Annals.incidents same
  exact ⟨row, incidents ▸ found, state⟩

theorem projectBrokerResult_entries {incidentId warrantId evidenceId : String}
    {testUuids eventUuids : Nat → String} {now : Instant} (usual : policy.Usual) :
    (projectBrokerResult services stopwatch incidentId warrantId evidenceId testUuids eventUuids
      now).Ensures db fun _ next => Entries services.tables policy (annals db) (annals next) := by
  simp only [projectBrokerResult, ensures_bind, ensures_read, ensures_lift, needed_eq_ok]
  intro incident found record _ result _ projected _
  cases projected with
  | some earlier => exact ensures_pure.mpr .refl
  | none =>
      simp only [projectFresh, ensures_bind, ensures_lift, ensures_pure]
      intro claimedAt _ claimId _
      refine entries_append .refl (.of_find found) (usual.reports _ (by simp))
        fun _ _ held entries => ?_
      refine recordTests_annals.mono fun _ _ same => ?_
      exact concludeExecution_entries usual (same ▸ entries) (held.frame same)

theorem recordExecutionFailure_entries {incidentId warrantId errorCode uuid : String}
    {now : Instant} (usual : policy.Usual) :
    (recordExecutionFailure services incidentId warrantId errorCode uuid now).Ensures db
      fun _ next => Entries services.tables policy (annals db) (annals next) := by
  simp only [recordExecutionFailure, writeWork, ensures_bind, ensures_read, ensures_lift,
    needed_eq_ok, ensures_change]
  intro incident owned work _
  exact entries_append .refl (.of_find owned) (usual.reports _ (by simp))
    fun _ _ _ entries => ensures_publish fun _ => entries

end Results

end CrossPatch.Runtime.History
