import Mathlib

/-!
# Civil dates of instants

An instant is a count of microseconds since the Unix epoch, inside the years 1
to 9999.  Its text is the ISO form with microseconds; the text determines the
instant, because the day number can be computed back from the civil date.
-/

namespace CrossPatch.Library.Calendar

/-! ## Day numbers and civil dates -/

structure Civil where
  year : Int
  month : Int
  day : Int

/-- Civil date of a day number, day 0 being 1970-01-01.  Years start in March
while computing, so that the leap day is the last one of its year. -/
def civilOfDays (days : Int) : Civil :=
  let shifted := days + 719468
  let era := shifted / 146097
  let dayOfEra := shifted % 146097
  let century := min (dayOfEra / 36524) 3
  let dayOfCentury := dayOfEra - 36524 * century
  let cycle := dayOfCentury / 1461
  let dayOfCycle := dayOfCentury % 1461
  let yearOfCycle := min (dayOfCycle / 365) 3
  let dayOfYear := dayOfCycle - 365 * yearOfCycle
  let year := 400 * era + 100 * century + 4 * cycle + yearOfCycle
  let marchMonth := (5 * dayOfYear + 2) / 153
  let day := dayOfYear - (153 * marchMonth + 2) / 5 + 1
  if marchMonth < 10 then ⟨year, marchMonth + 3, day⟩
  else ⟨year + 1, marchMonth - 9, day⟩

def daysOfCivil (date : Civil) : Int :=
  let year := if date.month ≤ 2 then date.year - 1 else date.year
  let marchMonth := if date.month ≤ 2 then date.month + 9 else date.month - 3
  let dayOfYear := (153 * marchMonth + 2) / 5 + date.day - 1
  365 * year + year / 4 - year / 100 + year / 400 + dayOfYear - 719468

theorem daysOfCivil_civilOfDays (days : Int) : daysOfCivil (civilOfDays days) = days := by
  unfold civilOfDays
  extract_lets shifted era dayOfEra century dayOfCentury cycle dayOfCycle yearOfCycle dayOfYear
    year marchMonth day
  have cycleBound : 0 ≤ cycle ∧ cycle ≤ 24 := by omega
  have centuryBound : 0 ≤ century ∧ century ≤ 3 := by omega
  have yearBound : 0 ≤ yearOfCycle ∧ yearOfCycle ≤ 3 := by omega
  have dayBound : 0 ≤ dayOfYear ∧ dayOfYear ≤ 365 := by omega
  have total : shifted =
      146097 * era + 36524 * century + 1461 * cycle + 365 * yearOfCycle + dayOfYear := by omega
  have fourth : year / 4 = 100 * era + 25 * century + cycle := by omega
  have hundredth : year / 100 = 4 * era + century := by omega
  have fourHundredth : year / 400 = era := by omega
  have marchBound : 0 ≤ marchMonth ∧ marchMonth ≤ 11 := by omega
  unfold daysOfCivil
  split
  · have months : marchMonth + 3 - 3 = marchMonth := by omega
    dsimp only
    rw [if_neg (by omega), if_neg (by omega), months, fourth, hundredth, fourHundredth]
    omega
  · have months : marchMonth - 9 + 9 = marchMonth := by omega
    have years : year + 1 - 1 = year := by omega
    dsimp only
    rw [if_pos (by omega), if_pos (by omega), months, years, fourth, hundredth, fourHundredth]
    omega

theorem civilOfDays_month (days : Int) :
    1 ≤ (civilOfDays days).month ∧ (civilOfDays days).month ≤ 12 := by
  unfold civilOfDays
  dsimp only
  split <;> dsimp only <;> omega

theorem civilOfDays_day (days : Int) :
    1 ≤ (civilOfDays days).day ∧ (civilOfDays days).day ≤ 31 := by
  unfold civilOfDays
  dsimp only
  split <;> dsimp only <;> omega

/-! ## Instants -/

def dayMicros : Int := 86400000000

def firstDay : Int := -719162

def lastDay : Int := 2932896

/-- A UTC instant of the years 1 to 9999, in microseconds since the epoch. -/
structure Instant where
  micros : Int
  low : firstDay * dayMicros ≤ micros
  high : micros < (lastDay + 1) * dayMicros
  deriving DecidableEq

instance : LE Instant := ⟨fun left right => left.micros ≤ right.micros⟩

instance : LT Instant := ⟨fun left right => left.micros < right.micros⟩

instance (left right : Instant) : Decidable (left ≤ right) :=
  inferInstanceAs (Decidable (left.micros ≤ right.micros))

instance (left right : Instant) : Decidable (left < right) :=
  inferInstanceAs (Decidable (left.micros < right.micros))

theorem Instant.le_iff {left right : Instant} :
    left ≤ right ↔ left.micros ≤ right.micros := Iff.rfl

theorem Instant.not_lt {left right : Instant} : ¬ left < right ↔ right ≤ left :=
  Int.not_lt

def Instant.epoch : Instant := ⟨0, by decide, by decide⟩

theorem civilOfDays_year {days : Int} (low : firstDay ≤ days) (high : days ≤ lastDay) :
    0 ≤ (civilOfDays days).year ∧ (civilOfDays days).year < 10000 := by
  have lower : -719162 ≤ days := low
  have upper : days ≤ 2932896 := high
  unfold civilOfDays
  dsimp only
  split <;> dsimp only <;> omega

/-! ## Text -/

def padded : Nat → Int → List Char
  | 0, _ => []
  | width + 1, value => padded width (value / 10) ++ [Nat.digitChar (value % 10).toNat]

/-- ISO text of an instant up to its zone designator. -/
def isoText (instant : Instant) : List Char :=
  let date := civilOfDays (instant.micros / dayMicros)
  let rest := instant.micros % dayMicros
  padded 4 date.year ++ '-' :: padded 2 date.month ++ '-' :: padded 2 date.day ++ 'T' ::
    padded 2 (rest / 3600000000) ++ ':' :: padded 2 (rest / 60000000 % 60) ++ ':' ::
    padded 2 (rest / 1000000 % 60) ++ '.' :: padded 6 (rest % 1000000)

theorem length_padded (width : Nat) (value : Int) : (padded width value).length = width := by
  induction width generalizing value with
  | zero => rfl
  | succ width ih => rw [padded, List.length_append, ih]; rfl

theorem digitChar_injective :
    ∀ left < 10, ∀ right < 10, Nat.digitChar left = Nat.digitChar right → left = right := by
  decide

theorem padded_injective {width : Nat} {left right : Int}
    (leftLow : 0 ≤ left) (leftHigh : left < 10 ^ width)
    (rightLow : 0 ≤ right) (rightHigh : right < 10 ^ width)
    (same : padded width left = padded width right) : left = right := by
  induction width generalizing left right with
  | zero => omega
  | succ width ih =>
      rw [padded, padded] at same
      obtain ⟨heads, digits⟩ := List.append_inj same (by rw [length_padded, length_padded])
      rw [Int.pow_succ] at leftHigh rightHigh
      have quotients : left / 10 = right / 10 :=
        ih (by omega) (by omega) (by omega) (by omega) heads
      have remainders := digitChar_injective (left % 10).toNat (by omega)
        (right % 10).toNat (by omega) (List.cons.inj digits).1
      omega

/-- Fixed-width fields split equal texts at the same place. -/
theorem padded_append_inj {width : Nat} {left right : Int} {tail tail' : List Char}
    (leftLow : 0 ≤ left) (leftHigh : left < 10 ^ width)
    (rightLow : 0 ≤ right) (rightHigh : right < 10 ^ width)
    (same : padded width left ++ tail = padded width right ++ tail') :
    left = right ∧ tail = tail' := by
  obtain ⟨heads, tails⟩ := List.append_inj same (by rw [length_padded, length_padded])
  exact ⟨padded_injective leftLow leftHigh rightLow rightHigh heads, tails⟩

theorem Instant.days_bounds (instant : Instant) :
    firstDay ≤ instant.micros / dayMicros ∧ instant.micros / dayMicros ≤ lastDay := by
  have low := instant.low
  have high := instant.high
  unfold dayMicros firstDay lastDay at *
  omega

theorem length_isoText (instant : Instant) : (isoText instant).length = 26 := by
  simp [isoText, length_padded]

theorem padded_ascii (width : Nat) (value : Int) :
    ∀ character ∈ padded width value, character.toNat < 128 := by
  induction width generalizing value with
  | zero => exact fun _ member => absurd member List.not_mem_nil
  | succ width ih =>
      intro character member
      rw [padded, List.mem_append, List.mem_singleton] at member
      rcases member with earlier | rfl
      · exact ih (value / 10) character earlier
      · have digits : ∀ digit < 10, (Nat.digitChar digit).toNat < 128 := by decide
        exact digits (value % 10).toNat (by omega)

theorem isoText_ascii (instant : Instant) :
    ∀ character ∈ isoText instant, character.toNat < 128 := by
  intro character member
  unfold isoText at member
  simp only [List.mem_append, List.mem_cons] at member
  rcases member with
    ((((((year | rfl | month) | rfl | day) | rfl | hour) | rfl | minute) | rfl | second) |
      rfl | micro)
  · exact padded_ascii _ _ character year
  · decide
  · exact padded_ascii _ _ character month
  · decide
  · exact padded_ascii _ _ character day
  · decide
  · exact padded_ascii _ _ character hour
  · decide
  · exact padded_ascii _ _ character minute
  · decide
  · exact padded_ascii _ _ character second
  · decide
  · exact padded_ascii _ _ character micro

/-- The text of an instant determines it. -/
theorem isoText_injective {left right : Instant} (same : isoText left = isoText right) :
    left = right := by
  have leftYear := civilOfDays_year left.days_bounds.1 left.days_bounds.2
  have rightYear := civilOfDays_year right.days_bounds.1 right.days_bounds.2
  have leftMonth := civilOfDays_month (left.micros / dayMicros)
  have rightMonth := civilOfDays_month (right.micros / dayMicros)
  have leftDay := civilOfDays_day (left.micros / dayMicros)
  have rightDay := civilOfDays_day (right.micros / dayMicros)
  have leftRest : 0 ≤ left.micros % dayMicros ∧ left.micros % dayMicros < 86400000000 := by
    unfold dayMicros; omega
  have rightRest : 0 ≤ right.micros % dayMicros ∧ right.micros % dayMicros < 86400000000 := by
    unfold dayMicros; omega
  unfold isoText at same
  simp only [List.append_assoc, List.cons_append] at same
  obtain ⟨years, same⟩ := padded_append_inj leftYear.1 leftYear.2 rightYear.1 rightYear.2 same
  obtain ⟨months, same⟩ := padded_append_inj (by omega) (by omega) (by omega) (by omega)
    (List.cons.inj same).2
  obtain ⟨days, same⟩ := padded_append_inj (by omega) (by omega) (by omega) (by omega)
    (List.cons.inj same).2
  obtain ⟨hours, same⟩ := padded_append_inj (by omega) (by omega) (by omega) (by omega)
    (List.cons.inj same).2
  obtain ⟨minutes, same⟩ := padded_append_inj (by omega) (by omega) (by omega) (by omega)
    (List.cons.inj same).2
  obtain ⟨seconds, same⟩ := padded_append_inj (by omega) (by omega) (by omega) (by omega)
    (List.cons.inj same).2
  have micros := padded_injective (by omega) (by omega) (by omega) (by omega)
    (List.cons.inj same).2
  have dates : civilOfDays (left.micros / dayMicros) =
      civilOfDays (right.micros / dayMicros) := by
    cases first : civilOfDays (left.micros / dayMicros)
    cases second : civilOfDays (right.micros / dayMicros)
    simp_all
  have dayNumbers : left.micros / dayMicros = right.micros / dayMicros := by
    rw [← daysOfCivil_civilOfDays (left.micros / dayMicros), dates, daysOfCivil_civilOfDays]
  have total : left.micros = right.micros := by
    unfold dayMicros at *
    omega
  cases left
  cases right
  cases total
  rfl

end CrossPatch.Library.Calendar
