import CrossPatch.Runtime.ExecutionAuthority
import CrossPatch.Runtime.Reading

/-!
# Event streams

A reader alternates between a page of published events and the state of the incident,
while other tasks commit transactions between any two of its steps.  What it yields
is always the beginning of what is published.  It stops at an empty page and a
terminal state, which it reads one after the other, so an event that makes the
incident terminal between the two reads is lost.
-/

namespace CrossPatch.Runtime.EventStream

open CrossPatch.Domain.Failure CrossPatch.Domain.StateMachine CrossPatch.Domain.Text
open CrossPatch.Library CrossPatch.Library.Cursors CrossPatch.Library.Runs
open CrossPatch.Runtime.ControlPlane CrossPatch.Runtime.ExecutionAuthority
open CrossPatch.Runtime.HashChain CrossPatch.Runtime.History
open CrossPatch.Runtime.Progress CrossPatch.Runtime.Reading CrossPatch.Runtime.Records
open CrossPatch.Runtime.Refinement CrossPatch.Runtime.Store CrossPatch.Runtime.Timeline

/-! ## The generator -/

/-- Before a page is read, while its events are handed out, and after the end. -/
inductive Phase where
  | listing
  | handing (rest : List TimelineEventRecord) (empty : Bool)
  | ended (terminal : Bool)

/-- Where `stream_events` stands. -/
structure Stream where
  after : Nat
  previous : Nat
  phase : Phase

/-- The next step of the generator and what it yields. -/
def advance (db : Database) (incidentId : String) (stream : Stream) :
    Stream × List TimelineEventRecord :=
  match stream.phase with
  | .listing =>
      let values := timelineRecords db incidentId stream.previous 100 true
      ({ stream with phase := .handing values values.isEmpty }, [])
  | .handing (event :: rest) empty =>
      ({ stream with previous := event.sequence, phase := .handing rest empty }, [event])
  | .handing [] empty =>
      match db.incidents.find incidentId with
      | none => ({ stream with phase := .ended false }, [])
      | some incident =>
          if empty = true ∧ incident.state ∈ terminalStates then
            ({ stream with phase := .ended true }, [])
          else ({ stream with phase := .listing }, [])
  | .ended _ => (stream, [])

/-- The database and the reader, once it has started. -/
structure Audience where
  db : Database
  stream : Option Stream

def Audience.start : Audience := ⟨Database.empty, none⟩

inductive Action where
  | write (writer : Writer)
  | subscribe (after : Nat)
  | advance

variable (plant : Plant) (incidentId : String)

def step (audience : Audience) : Action → Audience × List TimelineEventRecord
  | .write writer => ({ audience with db := (writers plant).next audience.db writer }, [])
  | .subscribe after =>
      match audience.stream with
      | none => ({ audience with stream := some ⟨after, after, .listing⟩ }, [])
      | some _ => (audience, [])
  | .advance =>
      match audience.stream with
      | none => (audience, [])
      | some stream =>
          ({ audience with stream := some (advance audience.db incidentId stream).1 },
            (advance audience.db incidentId stream).2)

def streaming : Machine Audience Action TimelineEventRecord := ⟨step plant incidentId⟩

/-! ## Terminal states -/

def Terminal (db : Database) : Prop :=
  ∃ incident, db.incidents.find incidentId = some incident ∧ incident.state ∈ terminalStates

instance (db : Database) : Decidable (Terminal incidentId db) :=
  decidable_of_iff
    ((db.incidents.find incidentId).any fun incident => decide (incident.state ∈ terminalStates))
    (by simp [Terminal, Option.any_eq_true])

theorem transitionTable_terminal {state : IncidentState} (type : StateEventType)
    (terminal : state ∈ terminalStates) : transitionTable state type = none := by
  simp only [terminalStates, List.mem_cons, List.not_mem_nil, or_false] at terminal
  rcases terminal with rfl | rfl | rfl <;> cases type <;> rfl

theorem not_active_of_terminal {state : IncidentState} (terminal : state ∈ terminalStates) :
    state ∉ abstainStates := by
  simp only [terminalStates, List.mem_cons, List.not_mem_nil, or_false] at terminal
  rcases terminal with rfl | rfl | rfl <;> decide

/-- An event that is accepted in a terminal state keeps it. -/
theorem reduce_terminal {state next : IncidentState} {type : EventType} {payload : Payload}
    (terminal : state ∈ terminalStates) (reduced : reduce state type payload = .ok next) :
    next = state := by
  cases type with
  | state stateType =>
      by_cases verdict : stateType = .verdict
      · subst verdict
        obtain ⟨event, typed, moved⟩ := Attempt.bind_eq_ok.mp reduced
        obtain ⟨_, ruling, target, _, _, rfl⟩ := typedEventFromPayload_verdict typed
        rcases transitionIncident_verdict moved with ⟨_, active, _⟩ | ⟨reviewing, _⟩
        · exact absurd active (not_active_of_terminal terminal)
        · rw [reviewing] at terminal
          exact absurd terminal (by decide)
      · have listed := reduce_table reduced verdict
        rw [transitionTable_terminal stateType terminal] at listed
        cases listed
  | _ =>
      cases reduced
      rfl

variable {plant incidentId}

theorem Terminal.entry {tables : UnicodeTables} {policy : Policy} {before after : Annals}
    (entry : Entry tables policy before after) {incident : IncidentRecord}
    (found : before.incidents.find incidentId = some incident)
    (terminal : incident.state ∈ terminalStates) :
    ∃ later, after.incidents.find incidentId = some later ∧ later.state ∈ terminalStates := by
  cases entry with
  | @opened row fresh _ _ _ =>
      refine ⟨incident, ?_, terminal⟩
      rw [Table.find_insert fresh, if_neg]
      · exact found
      · rintro rfl
        rw [found] at fresh
        cases fresh
  | @recorded row held event state now present owner _ admits reduced =>
      by_cases same : incidentId = held.id
      · subst same
        rw [found, Option.some.injEq] at present
        subst present
        refine ⟨advanced held event state now, ?_, ?_⟩
        · exact @Table.find_write_self _ _ _ _ _ (advanced held event state now) incident found
        · have started : held.state ∈ terminalStates := by
            rcases admits with ⟨kept, _⟩ | ⟨blocked, _, _⟩
            · exact kept ▸ terminal
            · rw [blocked]
              decide
          exact (reduce_terminal started reduced) ▸ started
      · refine ⟨incident, ?_, terminal⟩
        rw [@Table.find_write _ _ _ _ _ (advanced held event state now) row present]
        exact (if_neg same).trans found

theorem Terminal.entries {tables : UnicodeTables} {policy : Policy} {before after : Annals}
    (entries : Entries tables policy before after)
    (terminal : ∃ incident, before.incidents.find incidentId = some incident ∧
      incident.state ∈ terminalStates) :
    ∃ incident, after.incidents.find incidentId = some incident ∧
      incident.state ∈ terminalStates := by
  induction entries with
  | refl => exact terminal
  | tail _ entry ih =>
      obtain ⟨incident, found, standing⟩ := ih
      exact Terminal.entry entry found standing

/-- No transaction leaves a terminal state. -/
theorem Terminal.write {db : Database} (terminal : Terminal incidentId db) (writer : Writer) :
    Terminal incidentId ((writers plant).next db writer) :=
  Terminal.entries (@carryOut_entries plant db writer) terminal

/-! ## What has been yielded -/

/-- What a page still holds. -/
def Phase.rest : Phase → List TimelineEventRecord
  | .handing rest _ => rest
  | _ => []

/-- The last page was empty. -/
def Phase.stopped : Phase → Bool
  | .handing _ empty => empty
  | .ended terminal => terminal
  | .listing => false

/-- The published events behind a number. -/
def feed (db : Database) (incidentId : String) (after : Nat) : List TimelineEventRecord :=
  behind TimelineEventRecord.sequence (publishedEvents db incidentId) after

/-- What was yielded and what the page still holds begin the feed, and the reader
stands at the last event that it yielded. -/
structure Reads (db : Database) (incidentId : String) (stream : Stream)
    (yielded : List TimelineEventRecord) : Prop where
  leads : yielded ++ stream.phase.rest <+: feed db incidentId stream.after
  stands : stream.previous = position TimelineEventRecord.sequence stream.after yielded
  final : stream.phase = .ended true → Terminal incidentId db

structure Faithful (plant : Plant) (incidentId : String) (audience : Audience)
    (yielded : List TimelineEventRecord) : Prop where
  intact : Intact plant.gateway.services.tables (annals audience.db)
  silent : audience.stream = none → yielded = []
  reads : ∀ stream, audience.stream = some stream →
    Reads audience.db incidentId stream yielded

variable {db : Database} {stream : Stream} {audience : Audience}
  {yielded : List TimelineEventRecord}

theorem publishedEvents_sorted {tables : UnicodeTables} (intact : Intact tables (annals db)) :
    Sorted TimelineEventRecord.sequence (publishedEvents db incidentId) :=
  List.Pairwise.filter _ (numbered_of_intact intact incidentId).sorted

theorem writers_eventsOf (writer : Writer) :
    ∃ appended, ((writers plant).next db writer).eventsOf incidentId =
      db.eventsOf incidentId ++ appended :=
  Entries.eventsOf (@carryOut_entries plant db writer) incidentId

theorem feed_grows (writer : Writer) (after : Nat) :
    feed db incidentId after <+: feed ((writers plant).next db writer) incidentId after := by
  obtain ⟨appended, grown⟩ := @writers_eventsOf plant incidentId db writer
  unfold feed publishedEvents
  rw [grown, List.filter_append, behind_append]
  exact List.prefix_append _ _

/-- A page goes on where the reader stands, and an empty one means that everything
published was yielded. -/
theorem Reads.page {tables : UnicodeTables} (intact : Intact tables (annals db))
    (reads : Reads db incidentId stream yielded) :
    yielded ++ timelineRecords db incidentId stream.previous 100 true <+:
        feed db incidentId stream.after ∧
      (timelineRecords db incidentId stream.previous 100 true = [] →
        feed db incidentId stream.after = yielded) := by
  obtain ⟨rest, split⟩ := (List.prefix_append _ _).trans reads.leads
  have sorted := @publishedEvents_sorted incidentId _ _ intact
  have remaining := behind_position sorted split.symm
  rw [← reads.stands] at remaining
  rw [publishedPage_of_numbered (numbered_of_intact intact incidentId), remaining]
  constructor
  · rw [← split]
    exact (List.prefix_append_right_inj yielded).mpr (List.take_prefix 100 rest)
  · intro nothing
    have done : rest = [] := (List.take_eq_nil_iff.mp nothing).resolve_left (by decide)
    rw [← split, done, List.append_nil]

theorem advance_reads {tables : UnicodeTables} (intact : Intact tables (annals db))
    (reads : Reads db incidentId stream yielded) :
    Reads db incidentId (advance db incidentId stream).1
      (yielded ++ (advance db incidentId stream).2) := by
  have page := reads.page intact
  obtain ⟨leads, stands, final⟩ := reads
  obtain ⟨after, previous, phase⟩ := stream
  cases phase with
  | listing =>
      refine ⟨?_, ?_, fun ended => by cases ended⟩
      · change yielded ++ [] ++ _ <+: _
        rw [List.append_nil]
        exact page.1
      · change previous = position _ _ (yielded ++ [])
        rw [List.append_nil]
        exact stands
  | handing rest empty =>
      cases rest with
      | cons event rest =>
          refine ⟨?_, ?_, fun ended => by cases ended⟩
          · change yielded ++ [event] ++ rest <+: _
            rw [List.append_assoc]
            exact leads
          · change event.sequence = position _ after (yielded ++ [event])
            rw [position_concat]
      | nil =>
          unfold advance
          dsimp only
          cases found : db.incidents.find incidentId with
          | none =>
              rw [List.append_nil]
              exact ⟨leads, stands, fun ended => by cases ended⟩
          | some incident =>
              dsimp only
              split
              · rename_i stops
                rw [List.append_nil]
                exact ⟨leads, stands, fun _ => ⟨incident, found, stops.2⟩⟩
              · rw [List.append_nil]
                exact ⟨leads, stands, fun ended => by cases ended⟩
  | ended terminal =>
      rw [advance, List.append_nil]
      exact ⟨leads, stands, final⟩

theorem Reads.write (reads : Reads db incidentId stream yielded) (writer : Writer) :
    Reads ((writers plant).next db writer) incidentId stream yielded where
  leads := reads.leads.trans (@feed_grows plant incidentId db writer stream.after)
  stands := reads.stands
  final ended := (reads.final ended).write writer

theorem next_advance (reading : audience.stream = some stream) :
    (streaming plant incidentId).step audience .advance =
      ({ audience with stream := some (advance audience.db incidentId stream).1 },
        (advance audience.db incidentId stream).2) := by
  simp only [streaming, step, reading]

theorem step_faithful (action : Action) (faithful : Faithful plant incidentId audience yielded) :
    Faithful plant incidentId ((streaming plant incidentId).next audience action)
      (yielded ++ (streaming plant incidentId).events audience action) := by
  obtain ⟨intact, silent, reads⟩ := faithful
  cases action with
  | write writer =>
      have same : (streaming plant incidentId).events audience (.write writer) = [] := rfl
      rw [same, List.append_nil]
      exact ⟨carryOut_intact writer intact, silent,
        fun stream reading => (reads stream reading).write writer⟩
  | subscribe after =>
      cases reading : audience.stream with
      | some stream =>
          have same : (streaming plant incidentId).step audience (.subscribe after) =
              (audience, []) := by simp only [streaming, step, reading]
          rw [Machine.next, Machine.events, same, List.append_nil]
          exact ⟨intact, silent, reads⟩
      | none =>
          have begun : (streaming plant incidentId).step audience (.subscribe after) =
              ({ audience with stream := some ⟨after, after, .listing⟩ }, []) := by
            simp only [streaming, step, reading]
          rw [Machine.next, Machine.events, begun, silent reading]
          refine ⟨intact, (fun unread => by cases unread), ?_⟩
          rintro stream started
          cases started
          exact ⟨List.nil_prefix, rfl, fun ended => by cases ended⟩
  | advance =>
      cases reading : audience.stream with
      | none =>
          have same : (streaming plant incidentId).step audience .advance = (audience, []) := by
            simp only [streaming, step, reading]
          rw [Machine.next, Machine.events, same, List.append_nil]
          exact ⟨intact, silent, reads⟩
      | some stream =>
          rw [Machine.next, Machine.events, next_advance reading]
          refine ⟨intact, (fun unread => by cases unread), ?_⟩
          rintro later moved
          cases moved
          exact advance_reads intact (reads stream reading)

theorem run_faithful (actions : List Action) :
    Faithful plant incidentId ((streaming plant incidentId).run Audience.start actions)
      ((streaming plant incidentId).log Audience.start actions) := by
  have start : Faithful plant incidentId Audience.start [] :=
    ⟨intact_empty, fun _ => rfl, fun stream reading => by cases reading⟩
  exact (streaming plant incidentId).run_log_invariant (Faithful plant incidentId)
    (fun audience action yielded => step_faithful action) start actions

/-! ## The end of a stream -/

/-- While a reader has seen an empty page and not yet the state, no transaction makes
the incident terminal. -/
def Unhurried (plant : Plant) (incidentId : String) (audience : Audience) : Action → Prop
  | .write writer => ∀ stream, audience.stream = some stream →
      stream.phase.stopped = true → ¬ Terminal incidentId audience.db →
        ¬ Terminal incidentId ((writers plant).next audience.db writer)
  | _ => True

/-- A stopped reader has yielded the published ones of these events. -/
def Covers (events : List TimelineEventRecord) (incidentId : String) (audience : Audience)
    (yielded : List TimelineEventRecord) : Prop :=
  (∃ appended, audience.db.eventsOf incidentId = events ++ appended) ∧
    ∀ stream, audience.stream = some stream → stream.phase.stopped = true →
      ∀ event ∈ events, event.published = true → stream.after < event.sequence → event ∈ yielded

/-- An empty page comes with no events, and only a stopped reader stays stopped. -/
theorem advance_stopped (stopped : (advance db incidentId stream).1.phase.stopped = true) :
    stream.phase.stopped = true ∨
      timelineRecords db incidentId stream.previous 100 true = [] := by
  obtain ⟨after, previous, phase⟩ := stream
  cases phase with
  | listing => exact Or.inr (List.isEmpty_iff.mp stopped)
  | handing rest empty =>
      cases rest with
      | cons event rest => exact Or.inl stopped
      | nil =>
          unfold advance at stopped
          dsimp only at stopped
          cases found : db.incidents.find incidentId with
          | none =>
              rw [found] at stopped
              cases stopped
          | some incident =>
              rw [found] at stopped
              dsimp only at stopped
              split at stopped
              · rename_i stops
                exact Or.inl stops.1
              · cases stopped
  | ended terminal => exact Or.inl stopped

theorem advance_after : (advance db incidentId stream).1.after = stream.after := by
  unfold advance
  split <;> try rfl
  split <;> try rfl
  split <;> rfl

theorem mem_feed {event : TimelineEventRecord} {after : Nat} :
    event ∈ feed db incidentId after ↔
      event ∈ db.eventsOf incidentId ∧ event.published = true ∧ after < event.sequence := by
  rw [feed, mem_behind, publishedEvents, List.mem_filter, and_assoc]

theorem step_covers {events : List TimelineEventRecord} (action : Action)
    (faithful : Faithful plant incidentId audience yielded)
    (covers : Covers events incidentId audience yielded) :
    Covers events incidentId ((streaming plant incidentId).next audience action)
      (yielded ++ (streaming plant incidentId).events audience action) := by
  obtain ⟨⟨appended, grown⟩, covers⟩ := covers
  cases action with
  | write writer =>
      obtain ⟨fresh, more⟩ := @writers_eventsOf plant incidentId audience.db writer
      refine ⟨⟨appended ++ fresh, ?_⟩, ?_⟩
      · rw [← List.append_assoc, ← grown]
        exact more
      · have same : (streaming plant incidentId).events audience (.write writer) = [] := rfl
        rw [same, List.append_nil]
        exact covers
  | subscribe after =>
      refine ⟨⟨appended, ?_⟩, ?_⟩
      · cases reading : audience.stream <;>
          simpa only [Machine.next, streaming, step, reading] using grown
      · cases reading : audience.stream with
        | some stream =>
            have same : (streaming plant incidentId).step audience (.subscribe after) =
                (audience, []) := by simp only [streaming, step, reading]
            rw [Machine.next, Machine.events, same, List.append_nil]
            exact covers
        | none =>
            have begun : (streaming plant incidentId).step audience (.subscribe after) =
                ({ audience with stream := some ⟨after, after, .listing⟩ }, []) := by
              simp only [streaming, step, reading]
            rw [Machine.next, Machine.events, begun]
            rintro stream started stopped
            cases started
            cases stopped
  | advance =>
      cases reading : audience.stream with
      | none =>
          have same : (streaming plant incidentId).step audience .advance = (audience, []) := by
            simp only [streaming, step, reading]
          rw [Machine.next, Machine.events, same, List.append_nil]
          exact ⟨⟨appended, grown⟩, covers⟩
      | some stream =>
          rw [Machine.next, Machine.events, next_advance reading]
          refine ⟨⟨appended, grown⟩, ?_⟩
          rintro later moved stopped event listed published behindStart
          cases moved
          rw [advance_after] at behindStart
          refine List.mem_append_left _ ?_
          rcases advance_stopped stopped with already | nothing
          · exact covers stream reading already event listed published behindStart
          · have everything := ((faithful.reads stream reading).page faithful.intact).2 nothing
            rw [← everything, mem_feed]
            exact ⟨grown ▸ List.mem_append_left _ listed, published, behindStart⟩

/-- The events up to the transaction that makes the incident terminal. -/
def UpToTerminal (plant : Plant) (incidentId : String) (actions : List Action)
    (events : List TimelineEventRecord) : Prop :=
  ∃ earlier writer later, actions = earlier ++ .write writer :: later ∧
    ¬ Terminal incidentId ((streaming plant incidentId).run Audience.start earlier).db ∧
    Terminal incidentId
      ((streaming plant incidentId).run Audience.start (earlier ++ [.write writer])).db ∧
    events =
      ((streaming plant incidentId).run Audience.start
        (earlier ++ [.write writer])).db.eventsOf incidentId

/-- A stream yields the beginning of what is published behind its start, each event once
and in order; if nobody makes the incident terminal between an empty page and the state
that is read after it, a stream that ends at a terminal state has yielded all published
events up to the one that made it terminal. -/
theorem stream_complete (plant : Plant) (incidentId : String) (actions : List Action)
    (stream : Stream)
    (reading : ((streaming plant incidentId).run Audience.start actions).stream = some stream) :
    ((streaming plant incidentId).log Audience.start actions <+:
        feed ((streaming plant incidentId).run Audience.start actions).db incidentId
          stream.after ∧
      ((streaming plant incidentId).log Audience.start actions).Pairwise
        fun left right => left.sequence < right.sequence) ∧
    ((streaming plant incidentId).Follows (Unhurried plant incidentId) Audience.start actions →
      stream.phase = .ended true →
      ∀ events, UpToTerminal plant incidentId actions events →
        ∀ event ∈ events, event.published = true → stream.after < event.sequence →
          event ∈ (streaming plant incidentId).log Audience.start actions) := by
  have whole := @run_faithful plant incidentId actions
  have leads := (List.prefix_append _ _).trans (whole.reads stream reading).leads
  refine ⟨⟨leads, ?_⟩, ?_⟩
  · have sorted := (@publishedEvents_sorted incidentId _ _ whole.intact).behind stream.after
    exact List.Pairwise.sublist leads.sublist sorted
  · rintro unhurried ended events ⟨earlier, writer, later, rfl, before, after, rfl⟩
    have allowed := ((streaming plant incidentId).follows_append.mp unhurried).2.1
    have made := @run_faithful plant incidentId (earlier ++ [.write writer])
    have split : earlier ++ .write writer :: later = (earlier ++ [.write writer]) ++ later := by
      rw [List.append_assoc, List.singleton_append]
    rw [split, Machine.run_append] at reading
    rw [split, Machine.log_append]
    have start : Covers (((streaming plant incidentId).run Audience.start
          (earlier ++ [.write writer])).db.eventsOf incidentId) incidentId
        ((streaming plant incidentId).run Audience.start (earlier ++ [.write writer]))
        ((streaming plant incidentId).log Audience.start (earlier ++ [.write writer])) := by
      refine ⟨⟨[], (List.append_nil _).symm⟩, fun current present stopped => ?_⟩
      rw [Machine.run_append] at present after
      exact absurd after (allowed current present stopped before)
    have covered := (streaming plant incidentId).run_log_invariant
      (fun audience yielded => Faithful plant incidentId audience yielded ∧
        Covers _ incidentId audience yielded)
      (fun audience action yielded both =>
        ⟨step_faithful action both.1, step_covers action both.1 both.2⟩) ⟨made, start⟩ later
    exact covered.2.2 stream reading (by rw [ended]; rfl)

/-! ## Examples -/

/-- Opens the incident; a failed background task makes it terminal. -/
def openIncident : Action := .write (.create "incident-1" "Webhook race" .opened .epoch)

def failIncident : Action :=
  .write (.append "incident-1" (.state .backgroundTaskFailed) "control-service" [] "1" .epoch)

/-- The incident becomes terminal after an empty page was read. -/
def overtaken : List Action := [openIncident, .subscribe 0, .advance, failIncident, .advance]

/-- The incident becomes terminal while the reader sleeps. -/
def followed : List Action :=
  [openIncident, .subscribe 0, .advance, .advance, failIncident, .advance, .advance, .advance,
    .advance, .advance]

def sampleStream : Machine Audience Action TimelineEventRecord :=
  streaming (samplePlant sampleIdle) "incident-1"

/-- The last state read was terminal. -/
def Audience.endedTerminal (audience : Audience) : Bool :=
  match audience.stream with
  | some ⟨_, _, .ended terminal⟩ => terminal
  | _ => false

theorem endedTerminal_iff : audience.endedTerminal = true ↔
    ∃ after previous, audience.stream = some ⟨after, previous, .ended true⟩ := by
  unfold Audience.endedTerminal
  split
  · rename_i after previous terminal reading
    simp [reading]
  · rename_i other
    simp only [Bool.false_eq_true, false_iff, not_exists]
    intro after previous reading
    exact other after previous true reading

theorem overtaken_incomplete :
    ¬ ∀ (plant : Plant) (incidentId : String) (actions : List Action) (stream : Stream),
      ((streaming plant incidentId).run Audience.start actions).stream = some stream →
      stream.phase = .ended true →
      ∀ events, UpToTerminal plant incidentId actions events →
        ∀ event ∈ events, event.published = true → stream.after < event.sequence →
          event ∈ (streaming plant incidentId).log Audience.start actions := by
  intro complete
  have ended : (sampleStream.run Audience.start overtaken).endedTerminal = true := by
    decide
  obtain ⟨after, previous, reading⟩ := endedTerminal_iff.mp ended
  have start : (sampleStream.run Audience.start overtaken).stream.map (·.after) = some 0 := by
    decide
  rw [reading, Option.map_some, Option.some.injEq] at start
  have lost : (sampleStream.log Audience.start overtaken).length = 0 := by decide
  have shown : ((sampleStream.run Audience.start
      ([openIncident, .subscribe 0, .advance] ++ [failIncident])).db.eventsOf "incident-1").any
        (fun event => event.published && decide (0 < event.sequence)) = true := by
    decide
  obtain ⟨event, listed, published⟩ := List.any_eq_true.mp shown
  rw [Bool.and_eq_true, decide_eq_true_eq] at published
  have yielded : event ∈ sampleStream.log Audience.start overtaken :=
    complete (samplePlant sampleIdle) "incident-1" overtaken _ reading rfl _
      ⟨[openIncident, .subscribe 0, .advance], _, [.advance], rfl, by decide,
        by decide, rfl⟩ event listed published.1 (start ▸ published.2)
  rw [List.length_eq_zero_iff.mp lost] at yielded
  cases yielded

/-- The reader sleeps when the incident becomes terminal. -/
theorem followed_unhurried :
    sampleStream.Follows (Unhurried (samplePlant sampleIdle) "incident-1") Audience.start
      followed := by
  refine ⟨?_, trivial, trivial, trivial, ?_, trivial, trivial, trivial, trivial, trivial, trivial⟩
  · intro stream present
    cases present
  · intro stream present stopped
    have asleep : (sampleStream.run Audience.start
        [openIncident, .subscribe 0, .advance, .advance]).stream.map (·.phase.stopped) =
          some false := by
      decide
    have reading : (sampleStream.run Audience.start
        [openIncident, .subscribe 0, .advance, .advance]).stream = some stream := present
    rw [reading, Option.map_some, Option.some.injEq, stopped] at asleep
    cases asleep

/-- A reader that sleeps meanwhile is given the event that makes the incident terminal. -/
theorem followed_complete : ∃ stream,
    (sampleStream.run Audience.start followed).stream = some stream ∧
    stream.phase = .ended true ∧
    sampleStream.log Audience.start followed <+:
      feed (sampleStream.run Audience.start followed).db "incident-1" stream.after ∧
    ∃ event ∈ sampleStream.log Audience.start followed,
      event ∈ (sampleStream.run Audience.start
        ([openIncident, .subscribe 0, .advance, .advance] ++ [failIncident])).db.eventsOf
          "incident-1" := by
  have ended : (sampleStream.run Audience.start followed).endedTerminal = true := by
    decide
  obtain ⟨after, previous, reading⟩ := endedTerminal_iff.mp ended
  have start : (sampleStream.run Audience.start followed).stream.map (·.after) = some 0 := by
    decide
  rw [reading, Option.map_some, Option.some.injEq] at start
  have shown : ((sampleStream.run Audience.start
      ([openIncident, .subscribe 0, .advance, .advance] ++ [failIncident])).db.eventsOf
        "incident-1").any (fun event => event.published && decide (0 < event.sequence)) = true := by
    decide
  obtain ⟨event, listed, published⟩ := List.any_eq_true.mp shown
  rw [Bool.and_eq_true, decide_eq_true_eq] at published
  obtain ⟨⟨leads, _⟩, complete⟩ :=
    stream_complete (samplePlant sampleIdle) "incident-1" followed _ reading
  refine ⟨_, reading, rfl, leads, event, ?_, listed⟩
  exact complete followed_unhurried rfl _
    ⟨[openIncident, .subscribe 0, .advance, .advance], _,
      [.advance, .advance, .advance, .advance, .advance], rfl, by decide, by decide, rfl⟩
    event listed published.1 (start ▸ published.2)

end CrossPatch.Runtime.EventStream
