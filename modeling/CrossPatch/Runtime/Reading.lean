import CrossPatch.Library.Cursors
import CrossPatch.Runtime.HashChain

/-!
# Pages of a timeline

`timeline_records` reads the events after a sequence number in their order, up to a
limit.  The store numbers the events of an incident from one, and only appends, so a
page of a later timeline begins with the page of an earlier one.
-/

namespace CrossPatch.Runtime.Reading

open CrossPatch.Domain.Text
open CrossPatch.Library CrossPatch.Library.Cursors CrossPatch.Library.Runs
open CrossPatch.Runtime.ControlPlane CrossPatch.Runtime.HashChain CrossPatch.Runtime.History
open CrossPatch.Runtime.Records

def timelineRecords (db : Database) (incidentId : String) (after limit : Nat)
    (publishedOnly : Bool) : List TimelineEventRecord :=
  ((timeline db incidentId).filter fun event =>
    decide (after < event.sequence) && (!publishedOnly || event.published)).take limit

/-- The events are numbered from one in the order in which they were appended. -/
def Numbered (events : List TimelineEventRecord) : Prop :=
  events.map (·.sequence) = List.range' 1 events.length

instance (events : List TimelineEventRecord) : Decidable (Numbered events) :=
  inferInstanceAs (Decidable (_ = _))

theorem Numbered.sorted {events : List TimelineEventRecord} (numbered : Numbered events) :
    Sorted TimelineEventRecord.sequence events := by
  unfold Sorted
  rw [← List.pairwise_map (f := TimelineEventRecord.sequence) (R := (· < ·)), numbered]
  exact List.pairwise_lt_range'

theorem Numbered.positive {events : List TimelineEventRecord} (numbered : Numbered events)
    {event : TimelineEventRecord} (member : event ∈ events) : 0 < event.sequence := by
  have listed : event.sequence ∈ List.range' 1 events.length :=
    numbered ▸ List.mem_map_of_mem member
  obtain ⟨index, _, same⟩ := List.mem_range'.mp listed
  omega

theorem Numbered.before {earlier later : List TimelineEventRecord}
    (numbered : Numbered (earlier ++ later)) : Numbered earlier := by
  unfold Numbered at numbered ⊢
  rw [List.map_append, List.length_append, ← List.range'_append_1] at numbered
  exact (List.append_inj numbered (by simp)).1

theorem timeline_of_numbered {db : Database} {incidentId : String}
    (numbered : Numbered (db.eventsOf incidentId)) :
    timeline db incidentId = db.eventsOf incidentId :=
  (List.Pairwise.imp (fun less => le_of_lt less) numbered.sorted).insertionSort_eq

/-- The first page of all events. -/
theorem firstPage_of_numbered {db : Database} {incidentId : String} {limit : Nat}
    (numbered : Numbered (db.eventsOf incidentId)) :
    timelineRecords db incidentId 0 limit false = (db.eventsOf incidentId).take limit := by
  unfold timelineRecords
  rw [timeline_of_numbered numbered, List.filter_eq_self.mpr]
  intro event member
  rw [Bool.not_false, Bool.true_or, Bool.and_true, decide_eq_true_eq]
  exact numbered.positive member

def publishedEvents (db : Database) (incidentId : String) : List TimelineEventRecord :=
  (db.eventsOf incidentId).filter (·.published)

/-- A page of the published events. -/
theorem publishedPage_of_numbered {db : Database} {incidentId : String} {after limit : Nat}
    (numbered : Numbered (db.eventsOf incidentId)) :
    timelineRecords db incidentId after limit true =
      (behind TimelineEventRecord.sequence (publishedEvents db incidentId) after).take limit := by
  unfold timelineRecords behind publishedEvents
  rw [timeline_of_numbered numbered, List.filter_filter]
  rfl

/-! ## What the store keeps -/

section Store

variable {plant : Plant} {db : Database}

theorem Entries.eventsOf {tables : UnicodeTables} {policy : Policy}
    {before after : Annals} (entries : Entries tables policy before after) (incidentId : String) :
    ∃ appended, after.eventsOf incidentId = before.eventsOf incidentId ++ appended := by
  induction entries with
  | refl => exact ⟨[], (List.append_nil _).symm⟩
  | @tail middle last _ entry ih =>
      obtain ⟨appended, grown⟩ := ih
      cases entry with
      | opened => exact ⟨appended, grown⟩
      | @recorded _ _ event _ _ _ _ _ _ _ =>
          refine ⟨appended ++ [event].filter fun event => event.incidentId == incidentId, ?_⟩
          rw [← List.append_assoc, ← grown]
          exact List.filter_append ..

theorem carryOut_entries (writer : Writer) :
    Entries plant.gateway.services.tables anyPolicy (annals db)
      (annals ((writers plant).next db writer)) := by
  cases writer with
  | controlPlane action =>
      exact perform_entries anyPolicy_usual (fun _ _ _ _ _ _ _ _ => trivial)
        (fun _ _ _ _ _ => trivial)
  | create => exact @settle_entries _ anyPolicy _ _ _ (Repositories.create_entries trivial)
  | append => exact @settle_entries _ anyPolicy _ _ _ (Repositories.append_entries trivial)

/-- Transactions only append to a timeline. -/
theorem run_eventsOf (steps : List Writer) (incidentId : String) :
    ∃ appended, ((writers plant).run db steps).eventsOf incidentId =
      db.eventsOf incidentId ++ appended := by
  refine (writers plant).run_invariant
    (fun current => ∃ appended, current.eventsOf incidentId = db.eventsOf incidentId ++ appended)
    ?_ ⟨[], (List.append_nil _).symm⟩ steps
  rintro current writer ⟨earlier, grown⟩
  obtain ⟨later, appended⟩ := Entries.eventsOf (@carryOut_entries plant current writer) incidentId
  refine ⟨earlier ++ later, ?_⟩
  rw [← List.append_assoc, ← grown]
  exact appended

theorem numbered_of_intact {tables : UnicodeTables} (intact : Intact tables (annals db))
    (incidentId : String) : Numbered (db.eventsOf incidentId) := by
  cases found : db.incidents.find incidentId with
  | some incident => exact (intact.chain found).sequences
  | none =>
      have nothing : db.eventsOf incidentId = [] := by
        refine List.filter_eq_nil_iff.mpr fun event member => ?_
        rw [beq_iff_eq]
        rintro rfl
        exact intact.owned event member found
      rw [nothing]
      rfl

theorem run_numbered (steps : List Writer) (incidentId : String) :
    Numbered (((writers plant).run Database.empty steps).eventsOf incidentId) :=
  numbered_of_intact
    ((writers plant).run_invariant
      (fun db => Intact plant.gateway.services.tables (annals db))
      (fun _ writer current => carryOut_intact writer current) intact_empty steps) incidentId

end Store

end CrossPatch.Runtime.Reading
