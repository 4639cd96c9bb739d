import CrossPatch.Runtime.ExecutionAuthority
import CrossPatch.Runtime.LiveTrials
import CrossPatch.Runtime.Reading

/-!
# What a revision is charged

The model spend of an incident is read before a revision and after it, and the
difference is settled.  Each reading sees one page of the timeline and falls back to
the whole reservation at the first cost that it cannot use, so what is charged
depends on the whole earlier history.
-/

namespace CrossPatch.Runtime.RevisionSpend

open CrossPatch.Domain.Amounts CrossPatch.Domain.Failure CrossPatch.Domain.StateMachine
open CrossPatch.Library CrossPatch.Library.Attempt CrossPatch.Library.Calendar
open CrossPatch.Library.Decimals CrossPatch.Library.JsonText CrossPatch.Library.Runs
open CrossPatch.Runtime.ControlPlane CrossPatch.Runtime.ExecutionAuthority
open CrossPatch.Runtime.HashChain CrossPatch.Runtime.LiveTrials CrossPatch.Runtime.Progress
open CrossPatch.Runtime.Reading CrossPatch.Runtime.Records CrossPatch.Runtime.Refinement
open CrossPatch.Runtime.Timeline

/-! ## The two readings -/

/-- `live_trial_run_reservation_usd`, which the service accepts only if it is positive. -/
structure RunReservation where
  usd : Decimal
  positive : 0 < usd.coefficient

/-- The cost of a metrics event that a reading can use. -/
def recordedCost (record : TimelineEventRecord) : Option Decimal :=
  match (record.payload.lookup "cost_usd").bind decimalOf with
  | some (.finite amount) => if amount.coefficient < 0 then none else some amount
  | _ => none

/-- A result of decimal arithmetic, which raises when it overflows. -/
def carried : Option Decimal → Attempt Decimal
  | some result => .ok result
  | none => raise .decimalOverflow "above Emax"

variable (reservation : RunReservation)

def spendFrom : Decimal → List TimelineEventRecord → Attempt Decimal
  | total, [] => .ok total
  | total, record :: rest =>
      if record.type ≠ .modelMetricsRecorded then spendFrom total rest
      else match recordedCost record with
        | none => .ok reservation.usd
        | some amount => do
            let sum ← carried (Context.default.add total amount)
            spendFrom sum rest

def recordedModelSpend (db : Database) (incidentId : String) : Attempt Decimal :=
  spendFrom reservation .zero (timelineRecords db incidentId 0 500 false)

/-- What `_resume_and_settle_revision` settles, given the reading before the revision. -/
def revisionCost (db : Database) (incidentId : String) (baselineSpend : Decimal) :
    Attempt Decimal := do
  let total ← recordedModelSpend reservation db incidentId
  let difference ← carried (Context.default.subtract total baselineSpend)
  .ok (Decimal.zero.maximum difference)

def resumeAndSettleRevision (repository : LiveTrialRepository) (db : Database)
    (incidentId reservationId : String) (baselineSpend : Decimal) (now : Instant) :
    Operation Unit := do
  let actual ← Transaction.lift (revisionCost reservation db incidentId baselineSpend)
  settle repository reservationId (some (.finite actual)) now

/-- What the two readings of a revision settle, under whatever reservation of the ledger. -/
def Settles (before after : Database) (incidentId : String) (amount : Decimal) : Prop :=
  ∃ baselineSpend, recordedModelSpend reservation before incidentId = .ok baselineSpend ∧
    revisionCost reservation after incidentId baselineSpend = .ok amount ∧
    ∀ repository reservationId now,
      resumeAndSettleRevision reservation repository after incidentId reservationId baselineSpend
          now =
        settle repository reservationId (some (.finite amount)) now

theorem settles_of_readings {before after : Database} {incidentId : String}
    {baselineSpend amount : Decimal}
    (reads : recordedModelSpend reservation before incidentId = .ok baselineSpend)
    (cost : revisionCost reservation after incidentId baselineSpend = .ok amount) :
    Settles reservation before after incidentId amount := by
  refine ⟨baselineSpend, reads, cost, fun repository reservationId now => ?_⟩
  rw [resumeAndSettleRevision, cost]
  rfl

/-- The readings determine the amount. -/
theorem Settles.unique {before after : Database} {incidentId : String} {amount other : Decimal}
    (settles : Settles reservation before after incidentId amount)
    (again : Settles reservation before after incidentId other) : amount = other := by
  obtain ⟨baseline, reads, cost, _⟩ := settles
  obtain ⟨_, reads', cost', _⟩ := again
  rw [reads, Except.ok.injEq] at reads'
  subst reads'
  rw [cost, Except.ok.injEq] at cost'
  exact cost'

/-! ## What a revision owes -/

def metrics (events : List TimelineEventRecord) : List TimelineEventRecord :=
  events.filter fun event => event.type = .modelMetricsRecorded

def costs (events : List TimelineEventRecord) : List Decimal :=
  (metrics events).filterMap recordedCost

def malformed (events : List TimelineEventRecord) : Bool :=
  (metrics events).any fun event => (recordedCost event).isNone

def spent (events : List TimelineEventRecord) : ℚ := ((costs events).map Decimal.value).sum

/-- The sum of the costs, or the whole reservation if one of them cannot be used. -/
def owed (events : List TimelineEventRecord) : ℚ :=
  if malformed events then reservation.usd.value else spent events

/-- The revision settles what its events owe. -/
def SettlesOwed (before after : Database) (incidentId : String)
    (during : List TimelineEventRecord) : Prop :=
  ∃ amount, Settles reservation before after incidentId amount ∧
    amount.value = owed reservation during

/-- No addition of a reading overflows. -/
def Reads (page : List TimelineEventRecord) : Prop := (spendFrom reservation .zero page).isOk = true

/-- The events of the revision that its page shows. -/
def shown (earlier during : List TimelineEventRecord) : List TimelineEventRecord :=
  during.take (500 - earlier.length)

def hidden (earlier during : List TimelineEventRecord) : List TimelineEventRecord :=
  during.drop (500 - earlier.length)

/-- The page shows what the revision owes: nothing unusable comes before it, or it owes
nothing; an unusable cost is shown and nothing was spent before; costs beyond the page
are zero, unless one of them is unusable and the shown ones make up the reservation. -/
def Accountable (earlier during : List TimelineEventRecord) : Prop :=
  if malformed (earlier.take 500) then
    Reads reservation (earlier.take 500) ∧ malformed during = false ∧ spent during = 0
  else if malformed (shown earlier during) then
    Reads reservation (earlier.take 500 ++ shown earlier during) ∧ spent (earlier.take 500) = 0
  else if malformed (hidden earlier during) then
    spent (shown earlier during) = reservation.usd.value
  else spent (hidden earlier during) = 0

/-- No digit is lost of the sums of readings that do not fall back, nor of the difference of
both readings. -/
def Precise (earlier during : List TimelineEventRecord) : Prop :=
  if malformed (earlier.take 500) then True
  else if malformed (shown earlier during) then
    Context.default.Sums 0 (costs (earlier.take 500)) ∧
      Context.default.Represents (reservation.usd.value - spent (earlier.take 500))
  else
    Context.default.Sums 0 (costs (earlier.take 500 ++ shown earlier during)) ∧
      Context.default.Represents (spent (shown earlier during))

/-! ## Costs of parts -/

theorem spent_append (first second : List TimelineEventRecord) :
    spent (first ++ second) = spent first + spent second := by
  simp [spent, costs, metrics, List.filter_append, List.filterMap_append]

theorem costs_append (first second : List TimelineEventRecord) :
    costs (first ++ second) = costs first ++ costs second := by
  simp [costs, metrics, List.filter_append, List.filterMap_append]

theorem malformed_append (first second : List TimelineEventRecord) :
    malformed (first ++ second) = (malformed first || malformed second) := by
  simp [malformed, metrics, List.filter_append]

theorem recordedCost_nonneg {record : TimelineEventRecord} {amount : Decimal}
    (usable : recordedCost record = some amount) : 0 ≤ amount.coefficient := by
  unfold recordedCost at usable
  split at usable
  · split at usable
    · cases usable
    · rename_i notNegative
      rw [Option.some.injEq] at usable
      rw [← usable]
      exact Int.not_lt.mp notNegative
  · cases usable

theorem spent_nonneg (events : List TimelineEventRecord) : 0 ≤ spent events := by
  refine List.sum_nonneg fun value member => ?_
  obtain ⟨amount, listed, rfl⟩ := List.mem_map.mp member
  obtain ⟨record, _, usable⟩ := List.mem_filterMap.mp listed
  exact Decimal.value_nonneg.mpr (recordedCost_nonneg usable)

/-! ## What a reading returns -/

/-- The events that a reading skips. -/
theorem metrics_cons_of_ne {record : TimelineEventRecord} {rest : List TimelineEventRecord}
    (other : record.type ≠ .modelMetricsRecorded) : metrics (record :: rest) = metrics rest := by
  simp [metrics, other]

theorem metrics_cons {record : TimelineEventRecord} {rest : List TimelineEventRecord}
    (typed : record.type = .modelMetricsRecorded) :
    metrics (record :: rest) = record :: metrics rest := by
  simp [metrics, typed]

/-- A reading that meets an unusable cost returns the reservation, unless it overflows first. -/
theorem spendFrom_malformed {events : List TimelineEventRecord} {total amount : Decimal}
    (unusable : malformed events = true)
    (read : spendFrom reservation total events = .ok amount) : amount = reservation.usd := by
  induction events generalizing total with
  | nil => cases unusable
  | cons record rest ih =>
      rw [spendFrom] at read
      by_cases typed : record.type = .modelMetricsRecorded
      · rw [if_neg (not_not.mpr typed)] at read
        rw [malformed, metrics_cons typed, List.any_cons] at unusable
        cases usable : recordedCost record with
        | none =>
            rw [usable] at read
            exact (Except.ok.inj read).symm
        | some cost =>
            rw [usable] at read unusable
            obtain ⟨sum, _, later⟩ := Attempt.bind_eq_ok.mp read
            exact ih unusable later
      · rw [if_pos typed] at read
        rw [malformed, metrics_cons_of_ne typed] at unusable
        exact ih unusable read

/-- What a reading does up to an unusable cost does not depend on what follows. -/
theorem spendFrom_append {first second : List TimelineEventRecord} {total : Decimal}
    (unusable : malformed first = true) :
    spendFrom reservation total (first ++ second) = spendFrom reservation total first := by
  induction first generalizing total with
  | nil => cases unusable
  | cons record rest ih =>
      rw [List.cons_append, spendFrom, spendFrom]
      by_cases typed : record.type = .modelMetricsRecorded
      · rw [if_neg (not_not.mpr typed), if_neg (not_not.mpr typed)]
        rw [malformed, metrics_cons typed, List.any_cons] at unusable
        cases usable : recordedCost record with
        | none => rfl
        | some cost =>
            rw [usable] at unusable
            exact bind_congr fun sum => ih unusable
      · rw [if_pos typed, if_pos typed]
        rw [malformed, metrics_cons_of_ne typed] at unusable
        exact ih unusable

/-- A reading of usable costs whose sums lose no digit returns their sum. -/
theorem spendFrom_sums {events : List TimelineEventRecord} {total : Decimal}
    (usable : malformed events = false)
    (sums : Context.default.Sums total.value (costs events)) :
    ∃ amount, spendFrom reservation total events = .ok amount ∧
      amount.value = total.value + spent events := by
  induction events generalizing total with
  | nil => exact ⟨total, rfl, by simp [spent, costs, metrics]⟩
  | cons record rest ih =>
      by_cases typed : record.type = .modelMetricsRecorded
      · rw [malformed, metrics_cons typed, List.any_cons, Bool.or_eq_false_iff] at usable
        obtain ⟨present, later⟩ := usable
        obtain ⟨cost, priced⟩ : ∃ cost, recordedCost record = some cost := by
          rwa [Option.isNone_eq_false_iff, Option.isSome_iff_exists] at present
        have listed : costs (record :: rest) = cost :: costs rest := by
          rw [costs, metrics_cons typed, List.filterMap_cons_some priced]
          rfl
        rw [listed] at sums
        obtain ⟨sum, added, value⟩ := Context.add_represented sums.1
        obtain ⟨amount, read, result⟩ := @ih sum later (value ▸ sums.2)
        refine ⟨amount, ?_, ?_⟩
        · rw [spendFrom, if_neg (not_not.mpr typed), priced]
          simp only [added, carried, Attempt.ok_bind]
          exact read
        · rw [result, value, add_assoc, spent, spent, listed, List.map_cons, List.sum_cons]
      · rw [malformed, metrics_cons_of_ne typed] at usable
        rw [costs, metrics_cons_of_ne typed] at sums
        obtain ⟨amount, read, result⟩ := ih usable sums
        refine ⟨amount, ?_, ?_⟩
        · rw [spendFrom, if_pos typed]
          exact read
        · rw [result, spent, spent, costs, costs, metrics_cons_of_ne typed]

/-! ## What two readings settle -/

section Readings

variable {before after : Database} {incidentId : String} {seen more : List TimelineEventRecord}

theorem carried_subtract {left right : Decimal} {difference : ℚ}
    (value : left.value - right.value = difference)
    (represents : Context.default.Represents difference) :
    ∃ result, carried (Context.default.subtract left right) = .ok result ∧
      result.value = difference := by
  subst value
  obtain ⟨result, subtracted, exact⟩ := Context.subtract_represented represents
  exact ⟨result, by rw [subtracted, carried], exact⟩

/-- Readings whose difference loses no digit settle it, unless it is negative. -/
theorem settles_difference {baseline total : Decimal} {difference : ℚ}
    (first : recordedModelSpend reservation before incidentId = .ok baseline)
    (second : recordedModelSpend reservation after incidentId = .ok total)
    (value : total.value - baseline.value = difference)
    (represents : Context.default.Represents difference) :
    ∃ amount, Settles reservation before after incidentId amount ∧
      amount.value = max 0 difference := by
  obtain ⟨result, subtracted, exact⟩ := carried_subtract value represents
  refine ⟨Decimal.zero.maximum result, settles_of_readings reservation first ?_, ?_⟩
  · rw [revisionCost, second, Attempt.ok_bind, subtracted, Attempt.ok_bind]
  · rw [Decimal.value_maximum, Decimal.value_zero, exact]

theorem reads_iff {page : List TimelineEventRecord} :
    Reads reservation page ↔ ∃ total, spendFrom reservation .zero page = .ok total := by
  unfold Reads
  cases spendFrom reservation .zero page with
  | ok total => simp [Except.isOk, Except.toBool]
  | error raised => simp [Except.isOk, Except.toBool]

/-- A revision that settles has read both pages. -/
theorem Settles.reads {amount : Decimal}
    (settles : Settles reservation before after incidentId amount)
    (first : timelineRecords before incidentId 0 500 false = seen)
    (second : timelineRecords after incidentId 0 500 false = seen ++ more) :
    Reads reservation seen ∧ Reads reservation (seen ++ more) := by
  obtain ⟨baseline, read, cost, _⟩ := settles
  obtain ⟨total, again, _⟩ := Attempt.bind_eq_ok.mp cost
  rw [recordedModelSpend, first] at read
  rw [recordedModelSpend, second] at again
  exact ⟨(reads_iff reservation).mpr ⟨baseline, read⟩, (reads_iff reservation).mpr ⟨total, again⟩⟩

/-- After an unusable cost a revision settles nothing. -/
theorem settles_of_malformed (early : malformed seen = true) (reads : Reads reservation seen)
    (first : timelineRecords before incidentId 0 500 false = seen)
    (second : timelineRecords after incidentId 0 500 false = seen ++ more) :
    ∃ amount, Settles reservation before after incidentId amount ∧ amount.value = 0 := by
  obtain ⟨baseline, read⟩ := (reads_iff reservation).mp reads
  have same := spendFrom_malformed reservation early read
  subst same
  have zero : Context.default.Represents 0 := ⟨.zero, by decide, Decimal.value_zero⟩
  obtain ⟨amount, settles, value⟩ := @settles_difference reservation before after incidentId
    reservation.usd reservation.usd 0 (by rw [recordedModelSpend, first]; exact read)
    (by rw [recordedModelSpend, second, spendFrom_append reservation early]; exact read)
    (sub_self _) zero
  exact ⟨amount, settles, value.trans (max_self 0)⟩

/-- At an unusable cost of its own a revision settles the rest of the reservation. -/
theorem settles_rest (early : malformed seen = false) (late : malformed more = true)
    (sums : Context.default.Sums 0 (costs seen))
    (represents : Context.default.Represents (reservation.usd.value - spent seen))
    (reads : Reads reservation (seen ++ more))
    (first : timelineRecords before incidentId 0 500 false = seen)
    (second : timelineRecords after incidentId 0 500 false = seen ++ more) :
    ∃ amount, Settles reservation before after incidentId amount ∧
      amount.value = max 0 (reservation.usd.value - spent seen) := by
  obtain ⟨baseline, read, value⟩ := @spendFrom_sums reservation seen .zero early
    (by rw [Decimal.value_zero]; exact sums)
  obtain ⟨total, again⟩ := (reads_iff reservation).mp reads
  have unusable : malformed (seen ++ more) = true := by
    rw [malformed_append, late, Bool.or_true]
  have same := spendFrom_malformed reservation unusable again
  subst same
  rw [Decimal.value_zero, zero_add] at value
  exact settles_difference reservation (by rw [recordedModelSpend, first]; exact read)
    (by rw [recordedModelSpend, second]; exact again) (by rw [value]) represents

/-- Without unusable costs a revision settles what its page shows. -/
theorem settles_spent (early : malformed seen = false) (late : malformed more = false)
    (sums : Context.default.Sums 0 (costs (seen ++ more)))
    (represents : Context.default.Represents (spent more))
    (first : timelineRecords before incidentId 0 500 false = seen)
    (second : timelineRecords after incidentId 0 500 false = seen ++ more) :
    ∃ amount, Settles reservation before after incidentId amount ∧ amount.value = spent more := by
  have usable : malformed (seen ++ more) = false := by
    rw [malformed_append, early, late, Bool.or_false]
  obtain ⟨total, again, value'⟩ := @spendFrom_sums reservation (seen ++ more) .zero usable
    (by rw [Decimal.value_zero]; exact sums)
  rw [costs_append] at sums
  obtain ⟨baseline, read, value⟩ := @spendFrom_sums reservation seen .zero early
    (by rw [Decimal.value_zero]; exact sums.before)
  rw [Decimal.value_zero, zero_add] at value value'
  obtain ⟨amount, settles, result⟩ := @settles_difference reservation before after incidentId
    baseline total (spent more) (by rw [recordedModelSpend, first]; exact read)
    (by rw [recordedModelSpend, second]; exact again)
    (by rw [value, value', spent_append, add_sub_cancel_left]) represents
  exact ⟨amount, settles, result.trans (max_eq_right (spent_nonneg more))⟩

end Readings

/-! ## Revisions that settle what they owe -/

/-- A revision appends to the timeline of its incident. -/
structure Revision (before after : Database) (incidentId : String)
    (during : List TimelineEventRecord) : Prop where
  grown : after.eventsOf incidentId = before.eventsOf incidentId ++ during
  numbered : Numbered (after.eventsOf incidentId)

/-- Whatever transactions run during a revision, it is one. -/
theorem run_revision (plant : Plant) (past steps : List Writer) (incidentId : String) :
    ∃ during, Revision ((writers plant).run Database.empty past)
      ((writers plant).run Database.empty (past ++ steps)) incidentId during := by
  obtain ⟨during, grown⟩ := run_eventsOf steps incidentId
  rw [← Machine.run_append] at grown
  exact ⟨during, grown, run_numbered (past ++ steps) incidentId⟩

theorem during_split (earlier during : List TimelineEventRecord) :
    shown earlier during ++ hidden earlier during = during :=
  List.take_append_drop _ _

/-- The first pages of a revision begin with the same events. -/
theorem Revision.pages {before after : Database} {incidentId : String}
    {during : List TimelineEventRecord} (revision : Revision before after incidentId during) :
    timelineRecords before incidentId 0 500 false = (before.eventsOf incidentId).take 500 ∧
      timelineRecords after incidentId 0 500 false =
        (before.eventsOf incidentId).take 500 ++ shown (before.eventsOf incidentId) during := by
  obtain ⟨grown, numbered⟩ := revision
  have earlierNumbered : Numbered (before.eventsOf incidentId) := (grown ▸ numbered).before
  refine ⟨firstPage_of_numbered earlierNumbered, ?_⟩
  rw [firstPage_of_numbered numbered, grown, List.take_append]
  rfl

theorem settlesOwed_of_settles {before after : Database} {incidentId : String}
    {during : List TimelineEventRecord} {value : ℚ}
    (settled : ∃ amount, Settles reservation before after incidentId amount ∧
      amount.value = value) :
    SettlesOwed reservation before after incidentId during ↔ value = owed reservation during := by
  obtain ⟨amount, settles, rfl⟩ := settled
  constructor
  · rintro ⟨other, again, owes⟩
    rw [settles.unique reservation again]
    exact owes
  · exact fun owes => ⟨amount, settles, owes⟩

/-- A revision whose sums lose no digit settles what its events owe exactly when it is
accountable. -/
theorem settlesOwed_iff {before after : Database} {incidentId : String}
    {during : List TimelineEventRecord} (revision : Revision before after incidentId during)
    (precise : Precise reservation (before.eventsOf incidentId) during) :
    SettlesOwed reservation before after incidentId during ↔
      Accountable reservation (before.eventsOf incidentId) during := by
  obtain ⟨first, second⟩ := revision.pages
  have reads : SettlesOwed reservation before after incidentId during →
      Reads reservation ((before.eventsOf incidentId).take 500) ∧
        Reads reservation ((before.eventsOf incidentId).take 500 ++
          shown (before.eventsOf incidentId) during) :=
    fun ⟨_, settles, _⟩ => settles.reads reservation first second
  have positive : 0 < reservation.usd.value := Decimal.value_pos.mpr reservation.positive
  have unusable := malformed_append (shown (before.eventsOf incidentId) during)
    (hidden (before.eventsOf incidentId) during)
  have sum := spent_append (shown (before.eventsOf incidentId) during)
    (hidden (before.eventsOf incidentId) during)
  rw [during_split] at unusable sum
  rw [Precise] at precise
  rw [Accountable]
  cases early : malformed ((before.eventsOf incidentId).take 500) with
  | true =>
      rw [if_pos rfl]
      rw [← and_iff_right_of_imp fun settles => (reads settles).1]
      refine and_congr_right fun readable => ?_
      rw [settlesOwed_of_settles reservation
        (settles_of_malformed reservation early readable first second), owed]
      cases malformed during with
      | true => simp [positive.ne]
      | false => simp [eq_comm]
  | false =>
      rw [early, if_neg Bool.false_ne_true] at precise
      rw [if_neg Bool.false_ne_true]
      cases late : malformed (shown (before.eventsOf incidentId) during) with
      | true =>
          rw [late, if_pos rfl] at precise
          rw [late, Bool.true_or] at unusable
          rw [if_pos rfl, ← and_iff_right_of_imp fun settles => (reads settles).2]
          refine and_congr_right fun readable => ?_
          rw [settlesOwed_of_settles reservation (settles_rest reservation early late precise.1
            precise.2 readable first second), owed, unusable, if_pos rfl]
          constructor
          · intro same
            rcases max_choice 0 (reservation.usd.value -
                spent ((before.eventsOf incidentId).take 500)) with least | rest
            · rw [least] at same
              linarith
            · rw [rest] at same
              linarith
          · intro nothing
            rw [nothing, sub_zero, max_eq_right positive.le]
      | false =>
          rw [late, if_neg Bool.false_ne_true] at precise
          rw [late, Bool.false_or] at unusable
          rw [if_neg Bool.false_ne_true, settlesOwed_of_settles reservation
            (settles_spent reservation early late precise.1 precise.2 first second), owed, unusable]
          cases malformed (hidden (before.eventsOf incidentId) during) with
          | true => simp
          | false => simp [sum]

/-- In every run, accountable revisions whose sums lose no digit settle what their events owe,
and where no digit is lost no others do. -/
theorem revision_settles_owed (plant : Plant) (past steps : List Writer) (incidentId : String) :
    ∃ during, ((writers plant).run Database.empty (past ++ steps)).eventsOf incidentId =
        ((writers plant).run Database.empty past).eventsOf incidentId ++ during ∧
      (Precise reservation (((writers plant).run Database.empty past).eventsOf incidentId) during ∧
          Accountable reservation (((writers plant).run Database.empty past).eventsOf incidentId)
            during →
        SettlesOwed reservation ((writers plant).run Database.empty past)
          ((writers plant).run Database.empty (past ++ steps)) incidentId during) ∧
      (Precise reservation (((writers plant).run Database.empty past).eventsOf incidentId) during →
        SettlesOwed reservation ((writers plant).run Database.empty past)
            ((writers plant).run Database.empty (past ++ steps)) incidentId during →
          Accountable reservation (((writers plant).run Database.empty past).eventsOf incidentId)
            during) := by
  obtain ⟨during, revision⟩ := run_revision plant past steps incidentId
  exact ⟨during, revision.grown,
    fun condition => (settlesOwed_iff reservation revision condition.1).mpr condition.2,
    fun precise => (settlesOwed_iff reservation revision precise).mp⟩

/-! ## Examples -/

def fourDollars : RunReservation := ⟨⟨4, 0⟩, by decide⟩

/-- A metrics event of the sample incident. -/
def recordCost (cost : Json) : Writer :=
  .append "incident-1" .modelMetricsRecorded "runtime" [("cost_usd", cost)] "1" .epoch

def openIncident : Writer := .create "incident-1" "Webhook race" .opened .epoch

/-- An incident that records a cost before its revision. -/
def samplePast (cost : Json) : List Writer := [openIncident, recordCost cost]

abbrev sampleRun (writes : List Writer) : Database :=
  (writers (samplePlant sampleIdle)).run Database.empty writes

/-- The events of the sample incident record these costs, and its row agrees with them. -/
structure Spending (db : Database) (prices : List Json) : Prop where
  standing : ∃ incident, db.incidents.find "incident-1" = some incident ∧
    incident.id = "incident-1" ∧ Chained db incident
  priced : List.Forall₂ (fun event price => event.type = .modelMetricsRecorded ∧
    event.payload = [("cost_usd", price)]) (db.eventsOf "incident-1") prices

theorem Spending.record {db : Database} {prices : List Json} {price : Json}
    (spending : Spending db prices)
    (encodes : Encodes .asciiOnly (.obj [("cost_usd", price)])) :
    Spending ((writers (samplePlant sampleIdle)).next db (recordCost price))
      (prices ++ [price]) := by
  obtain ⟨⟨incident, found, identified, chained⟩, priced⟩ := spending
  rw [← identified] at found
  have reaches : (Repositories.append (sampleServices sampleIdle) incident.id
      .modelMetricsRecorded "runtime" [("cost_usd", price)] "1" .epoch).Reaches db
        fun _ next => Spending next (prices ++ [price]) := by
    refine Repositories.append_reaches found chained rfl encodes
      fun event owner typed paid later =>
        ⟨⟨advanced incident event incident.state .epoch, ?_, identified, later⟩, ?_⟩
    · rw [← identified]
      exact Table.find_write_self found
    have events : (appended db incident event incident.state .epoch).eventsOf "incident-1" =
        db.eventsOf "incident-1" ++ [event] := by
      simp [appended, Database.eventsOf, owner, identified]
    rw [events]
    exact List.rel_append priced (.cons ⟨typed, paid⟩ .nil)
  rw [identified] at reaches
  obtain ⟨_, _, post⟩ := reaches.commit
  exact post

theorem price_encodes (price : Json) (normalizes : ∃ value,
    Domain.Hashing.normalize .asciiOnly price = .ok value) :
    Encodes .asciiOnly (.obj [("cost_usd", price)]) :=
  Domain.Hashing.normalize_obj_ok ["cost_usd"] rfl (by decide) (by decide) (by simpa using normalizes)

/-- The events of the sample incident before and during a revision that records one dollar. -/
theorem sampleRevision {price : Json} {during : List TimelineEventRecord}
    (normalizes : ∃ value, Domain.Hashing.normalize .asciiOnly price = .ok value)
    (grown : (sampleRun (samplePast price ++ [recordCost (.int 1)])).eventsOf "incident-1" =
      (sampleRun (samplePast price)).eventsOf "incident-1" ++ during) :
    ∃ first second, (sampleRun (samplePast price)).eventsOf "incident-1" = [first] ∧
      during = [second] ∧ (first.type = .modelMetricsRecorded ∧
        first.payload = [("cost_usd", price)]) ∧
      second.type = .modelMetricsRecorded ∧ second.payload = [("cost_usd", .int 1)] := by
  have opened : Spending (sampleRun [openIncident]) [] := by
    refine ⟨⟨_, rfl, ?_, ?_⟩, .nil⟩
    · rfl
    · exact ⟨rfl, rfl⟩
  have past := opened.record (price_encodes price normalizes)
  have later := past.record (price_encodes (.int 1) ⟨_, Domain.Hashing.normalize_int _ _⟩)
  obtain ⟨first, rest, recorded, nothing, before⟩ := List.forall₂_cons_right_iff.mp past.priced
  rw [List.forall₂_nil_right_iff] at nothing
  subst nothing
  obtain ⟨_, _, _, more, after⟩ := List.forall₂_cons_right_iff.mp later.priced
  obtain ⟨second, rest, added, nothing, rfl⟩ := List.forall₂_cons_right_iff.mp more
  rw [List.forall₂_nil_right_iff] at nothing
  subst nothing
  have past : (sampleRun (samplePast price)).eventsOf "incident-1" = [first] := before
  rw [past] at grown
  have both := grown.symm.trans after
  exact ⟨first, second, past, (List.cons.inj both).2, recorded, added⟩

theorem costs_singleton {event : TimelineEventRecord} {cost : Decimal}
    (typed : event.type = .modelMetricsRecorded) (priced : recordedCost event = some cost) :
    costs [event] = [cost] := by
  simp [costs, metrics, typed, priced]

theorem malformed_singleton {event : TimelineEventRecord}
    (typed : event.type = .modelMetricsRecorded) :
    malformed [event] = (recordedCost event).isNone := by
  simp [malformed, metrics, typed]

/-- A revision of one dollar after two dollars were spent. -/
theorem charged_revision : ∃ during,
    (sampleRun (samplePast (.int 2) ++ [recordCost (.int 1)])).eventsOf "incident-1" =
      (sampleRun (samplePast (.int 2))).eventsOf "incident-1" ++ during ∧
    owed fourDollars during = 1 ∧
    SettlesOwed fourDollars (sampleRun (samplePast (.int 2)))
      (sampleRun (samplePast (.int 2) ++ [recordCost (.int 1)])) "incident-1" during := by
  obtain ⟨during, grown, enough, _⟩ := revision_settles_owed fourDollars (samplePlant sampleIdle)
    (samplePast (.int 2)) [recordCost (.int 1)] "incident-1"
  obtain ⟨first, second, before, rfl, ⟨firstType, firstCost⟩, secondType, secondCost⟩ :=
    sampleRevision ⟨_, Domain.Hashing.normalize_int _ _⟩ grown
  have two : recordedCost first = some ⟨2, 0⟩ := by
    rw [recordedCost, firstCost]
    decide
  have one : recordedCost second = some ⟨1, 0⟩ := by
    rw [recordedCost, secondCost]
    decide
  have usable : malformed [first] = false := by
    rw [malformed_singleton firstType, two]
    rfl
  have settled : malformed [second] = false := by
    rw [malformed_singleton secondType, one]
    rfl
  have spends : spent [second] = 1 := by
    rw [spent, costs_singleton secondType one]
    norm_num [Decimal.value]
  rw [before] at enough
  refine ⟨[second], grown, ?_, enough ⟨?_, ?_⟩⟩
  · rw [owed, settled, if_neg Bool.false_ne_true, spends]
  · have listed : costs ([first] ++ [second]) = [⟨2, 0⟩, ⟨1, 0⟩] := by
      rw [costs_append, costs_singleton firstType two, costs_singleton secondType one]
      rfl
    have sums : Context.default.Sums 0 [⟨2, 0⟩, ⟨1, 0⟩] ∧ Context.default.Represents 1 :=
      ⟨⟨⟨⟨2, 0⟩, by decide, by norm_num [Decimal.value]⟩,
        ⟨⟨3, 0⟩, by decide, by norm_num [Decimal.value]⟩, trivial⟩,
        ⟨1, 0⟩, by decide, by norm_num [Decimal.value]⟩
    change ite (malformed [first]) True (ite (malformed [second]) _
      (Context.default.Sums 0 (costs ([first] ++ [second])) ∧
        Context.default.Represents (spent [second])))
    rw [usable, settled, listed, spends]
    exact sums
  · change ite (malformed [first]) _ (ite (malformed [second]) _ (ite (malformed []) _
      (spent [] = 0)))
    rw [usable, settled]
    rfl

/-- An unusable cost before a revision hides what the revision costs. -/
theorem hidden_revision :
    ¬ ∀ (reservation : RunReservation) (plant : Plant) (past steps : List Writer)
      (incidentId : String) (during : List TimelineEventRecord),
      ((writers plant).run Database.empty (past ++ steps)).eventsOf incidentId =
          ((writers plant).run Database.empty past).eventsOf incidentId ++ during →
        SettlesOwed reservation ((writers plant).run Database.empty past)
          ((writers plant).run Database.empty (past ++ steps)) incidentId during := by
  intro settles
  obtain ⟨during, revision⟩ := run_revision (samplePlant sampleIdle) (samplePast (.str "unknown"))
    [recordCost (.int 1)] "incident-1"
  have settled := settles fourDollars _ _ _ _ _ revision.grown
  obtain ⟨firstPage, secondPage⟩ := revision.pages
  obtain ⟨first, second, before, rfl, ⟨firstType, firstCost⟩, secondType, secondCost⟩ :=
    sampleRevision ⟨_, Domain.Hashing.normalize_str _ _⟩ revision.grown
  have unusable : recordedCost first = none := by
    rw [recordedCost, firstCost]
    decide
  have one : recordedCost second = some ⟨1, 0⟩ := by
    rw [recordedCost, secondCost]
    decide
  have early : malformed [first] = true := by
    rw [malformed_singleton firstType, unusable]
    rfl
  rw [before] at firstPage secondPage
  have reads : Reads fourDollars [first] := by
    rw [Reads, spendFrom, if_neg (not_not.mpr firstType), unusable]
    rfl
  have nothing := (settlesOwed_of_settles fourDollars
    (settles_of_malformed fourDollars early reads firstPage secondPage)).mp settled
  rw [owed, malformed_singleton secondType, one, spent, costs_singleton secondType one] at nothing
  norm_num [Decimal.value] at nothing

end CrossPatch.Runtime.RevisionSpend
