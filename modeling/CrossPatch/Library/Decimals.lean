import CrossPatch.Library.Lines

/-!
# Decimal arithmetic

Finite decimals, and arithmetic in a context that bounds the digits and the exponents
of results.  A result with too many digits is rounded half to even, a result above the
exponents is refused, and a result that fits is exact.
-/

namespace CrossPatch.Library.Decimals

structure Decimal where
  coefficient : Int
  exponent : Int
  deriving DecidableEq

namespace Decimal

def zero : Decimal := ⟨0, 0⟩

def value (decimal : Decimal) : ℚ := decimal.coefficient * (10 : ℚ) ^ decimal.exponent

/-- The coefficient of the same number at a smaller exponent. -/
def align (decimal : Decimal) (scale : Int) : Int :=
  decimal.coefficient * 10 ^ (decimal.exponent - scale).toNat

def plus (left right : Decimal) : Decimal :=
  let scale := min left.exponent right.exponent
  ⟨left.align scale + right.align scale, scale⟩

def negate (decimal : Decimal) : Decimal := ⟨-decimal.coefficient, decimal.exponent⟩

def minus (left right : Decimal) : Decimal := left.plus right.negate

def times (left right : Decimal) : Decimal :=
  ⟨left.coefficient * right.coefficient, left.exponent + right.exponent⟩

/-- Round towards positive infinity. -/
def ceiling (decimal : Decimal) : Int :=
  if 0 ≤ decimal.exponent then decimal.coefficient * 10 ^ decimal.exponent.toNat
  else -(-decimal.coefficient / 10 ^ (-decimal.exponent).toNat)

instance : LT Decimal := ⟨fun left right => 0 < (right.minus left).coefficient⟩

instance (left right : Decimal) : Decidable (left < right) :=
  inferInstanceAs (Decidable (0 < (right.minus left).coefficient))

/-- The second argument is returned only if it is greater. -/
def maximum (left right : Decimal) : Decimal := if left < right then right else left

theorem value_align {decimal : Decimal} {scale : Int} (below : scale ≤ decimal.exponent) :
    (decimal.align scale : ℚ) * (10 : ℚ) ^ scale = decimal.value := by
  have steps : ((decimal.exponent - scale).toNat : Int) = decimal.exponent - scale :=
    Int.toNat_of_nonneg (by omega)
  have power : (10 : ℚ) ^ (decimal.exponent - scale).toNat * (10 : ℚ) ^ scale =
      (10 : ℚ) ^ decimal.exponent := by
    rw [← zpow_natCast, steps, ← zpow_add₀ (by norm_num)]
    congr 1
    omega
  unfold align value
  push_cast
  rw [mul_assoc, power]

theorem value_plus (left right : Decimal) : (left.plus right).value = left.value + right.value := by
  rw [← value_align (min_le_left left.exponent right.exponent),
    ← value_align (min_le_right left.exponent right.exponent), ← add_mul]
  unfold plus value
  push_cast
  rfl

theorem value_negate (decimal : Decimal) : decimal.negate.value = -decimal.value := by
  unfold negate value
  push_cast
  ring

theorem value_minus (left right : Decimal) :
    (left.minus right).value = left.value - right.value := by
  rw [minus, value_plus, value_negate, sub_eq_add_neg]

@[simp]
theorem value_zero : zero.value = 0 := by simp [zero, value]

theorem value_pos {decimal : Decimal} : 0 < decimal.value ↔ 0 < decimal.coefficient := by
  have power : (0 : ℚ) < (10 : ℚ) ^ decimal.exponent := zpow_pos (by norm_num) _
  rw [value, mul_pos_iff_of_pos_right power, Int.cast_pos]

theorem value_nonneg {decimal : Decimal} : 0 ≤ decimal.value ↔ 0 ≤ decimal.coefficient := by
  have power : (0 : ℚ) < (10 : ℚ) ^ decimal.exponent := zpow_pos (by norm_num) _
  rw [value, mul_nonneg_iff_of_pos_right power, Int.cast_nonneg_iff]

theorem lt_iff {left right : Decimal} : left < right ↔ left.value < right.value := by
  change 0 < (right.minus left).coefficient ↔ _
  rw [← value_pos, value_minus, sub_pos]

theorem value_maximum (left right : Decimal) :
    (left.maximum right).value = max left.value right.value := by
  unfold maximum
  split
  · rename_i less
    exact (max_eq_right (lt_iff.mp less).le).symm
  · rename_i notLess
    exact (max_eq_left (not_lt.mp fun less => notLess (lt_iff.mpr less))).symm

end Decimal

/-! ## Contexts -/

structure Context where
  precision : Nat
  smallest : Int
  largest : Int

/-- The context that arithmetic uses by default. -/
def Context.default : Context := ⟨28, -999999, 999999⟩

namespace Context

def digits (coefficient : Int) : Nat := Nat.log 10 coefficient.natAbs + 1

/-- The least exponent of a result. -/
def tiny (context : Context) : Int := context.smallest - (context.precision - 1)

/-- Divide by `scale`; a tie goes to the even quotient. -/
def roundHalfEven (coefficient : Int) (scale : Nat) : Int :=
  let quotient := coefficient / scale
  let rest := 2 * (coefficient % scale)
  if rest < scale then quotient
  else if scale < rest then quotient + 1
  else if quotient % 2 = 0 then quotient else quotient + 1

/-- How many digits of an exact result are dropped. -/
def excess (context : Context) (exact : Decimal) : Nat :=
  max (digits exact.coefficient - context.precision) (context.tiny - exact.exponent).toNat

def rounded (context : Context) (exact : Decimal) : Decimal :=
  let drop := context.excess exact
  if drop = 0 then exact
  else ⟨roundHalfEven exact.coefficient (10 ^ drop), exact.exponent + drop⟩

/-- The result of an operation, unless it overflows. -/
def finish (context : Context) (exact : Decimal) : Option Decimal :=
  let result := context.rounded exact
  if result.coefficient ≠ 0 ∧
      context.largest < result.exponent + digits result.coefficient - 1 then none
  else some result

def add (context : Context) (left right : Decimal) : Option Decimal :=
  context.finish (left.plus right)

def subtract (context : Context) (left right : Decimal) : Option Decimal :=
  context.finish (left.minus right)

def multiply (context : Context) (left right : Decimal) : Option Decimal :=
  context.finish (left.times right)

/-! ## Results without rounding -/

/-- Decimals that the context can hold. -/
def Carries (context : Context) (decimal : Decimal) : Prop :=
  digits decimal.coefficient ≤ context.precision ∧ context.tiny ≤ decimal.exponent ∧
    decimal.exponent + digits decimal.coefficient - 1 ≤ context.largest

instance (context : Context) (decimal : Decimal) : Decidable (context.Carries decimal) :=
  inferInstanceAs (Decidable (_ ∧ _ ∧ _))

/-- Numbers that the context can hold. -/
def Represents (context : Context) (number : ℚ) : Prop :=
  ∃ decimal, context.Carries decimal ∧ decimal.value = number

/-- The context can hold every number on the way from the first one to the sum. -/
def Sums (context : Context) : ℚ → List Decimal → Prop
  | _, [] => True
  | total, decimal :: rest =>
      context.Represents (total + decimal.value) ∧ context.Sums (total + decimal.value) rest

theorem Sums.before {context : Context} {total : ℚ} {first second : List Decimal}
    (sums : context.Sums total (first ++ second)) : context.Sums total first := by
  induction first generalizing total with
  | nil => exact trivial
  | cons decimal rest ih => exact ⟨sums.1, ih sums.2⟩

theorem digits_shift {coefficient : Int} (nonzero : coefficient ≠ 0) (steps : Nat) :
    digits (coefficient * 10 ^ steps) = digits coefficient + steps := by
  induction steps with
  | zero => rw [pow_zero, mul_one, Nat.add_zero]
  | succ steps ih =>
      have more : (coefficient * 10 ^ (steps + 1)).natAbs =
          (coefficient * 10 ^ steps).natAbs * 10 := by
        rw [pow_succ, ← mul_assoc, Int.natAbs_mul]
        rfl
      have present : (coefficient * 10 ^ steps).natAbs ≠ 0 :=
        Int.natAbs_ne_zero.mpr (mul_ne_zero nonzero (pow_ne_zero _ (by norm_num)))
      unfold digits at ih ⊢
      rw [more, Nat.log_mul_base (by norm_num) present]
      omega

/-- Of two spellings of a number, the one with the smaller exponent ends in zeros. -/
theorem coefficient_of_value {left right : Decimal} (same : left.value = right.value)
    (below : left.exponent ≤ right.exponent) :
    left.coefficient = right.coefficient * 10 ^ (right.exponent - left.exponent).toNat := by
  have unit : (10 : ℚ) ^ left.exponent ≠ 0 := zpow_ne_zero _ (by norm_num)
  have aligned := Decimal.value_align below
  rw [← same, Decimal.value] at aligned
  exact_mod_cast (mul_right_cancel₀ unit aligned).symm

/-- The digits that rounding drops from a number that the context can hold are zeros. -/
theorem Represents.whole {context : Context} {exact : Decimal}
    (represents : context.Represents exact.value) (nonzero : exact.coefficient ≠ 0) :
    ∃ part, exact.coefficient = part * 10 ^ context.excess exact ∧
      exact.exponent + digits exact.coefficient - 1 ≤ context.largest := by
  obtain ⟨decimal, ⟨short, above, below⟩, same⟩ := represents
  rcases le_total exact.exponent decimal.exponent with order | order
  · have zeros := coefficient_of_value same.symm order
    have present : decimal.coefficient ≠ 0 := by
      intro none
      rw [none, zero_mul] at zeros
      exact nonzero zeros
    have longer := digits_shift present (decimal.exponent - exact.exponent).toNat
    rw [← zeros] at longer
    have fewer : context.excess exact ≤ (decimal.exponent - exact.exponent).toNat := by
      unfold excess
      omega
    refine ⟨decimal.coefficient *
      10 ^ ((decimal.exponent - exact.exponent).toNat - context.excess exact), ?_, by omega⟩
    rw [mul_assoc, ← pow_add, Nat.sub_add_cancel fewer]
    exact zeros
  · have zeros := coefficient_of_value same order
    have longer := digits_shift nonzero (exact.exponent - decimal.exponent).toNat
    rw [← zeros] at longer
    have nothing : context.excess exact = 0 := by
      unfold excess
      omega
    refine ⟨exact.coefficient, ?_, by omega⟩
    rw [nothing, pow_zero, mul_one]

theorem roundHalfEven_mul (part : Int) {scale : Nat} (positive : 0 < scale) :
    roundHalfEven (part * scale) scale = part := by
  have whole : (scale : Int) ≠ 0 := by omega
  simp [roundHalfEven, Int.mul_ediv_cancel _ whole, positive]

theorem rounded_whole {context : Context} {exact : Decimal} {part : Int}
    (whole : exact.coefficient = part * 10 ^ context.excess exact) :
    context.rounded exact = ⟨part, exact.exponent + context.excess exact⟩ := by
  unfold rounded
  dsimp only
  split
  · rename_i nothing
    rw [nothing, pow_zero, mul_one] at whole
    rw [nothing, ← whole, Nat.cast_zero, add_zero]
  · have rounds := roundHalfEven_mul part (pow_pos (by norm_num : 0 < 10) (context.excess exact))
    push_cast at rounds
    rw [whole, rounds]

theorem rounded_zero {context : Context} {exact : Decimal} (nothing : exact.coefficient = 0) :
    (context.rounded exact).coefficient = 0 := by
  unfold rounded
  dsimp only
  split
  · exact nothing
  · rw [nothing]
    have rounds := roundHalfEven_mul 0 (pow_pos (by norm_num : 0 < 10) (context.excess exact))
    rwa [zero_mul] at rounds

/-- A number that the context can hold is its own rounding. -/
theorem finish_represented {context : Context} {exact : Decimal}
    (represents : context.Represents exact.value) :
    ∃ result, context.finish exact = some result ∧ result.value = exact.value := by
  by_cases nothing : exact.coefficient = 0
  · have rounds := @rounded_zero context exact nothing
    refine ⟨context.rounded exact, ?_, ?_⟩
    · simp [finish, rounds]
    · simp [Decimal.value, rounds, nothing]
  · obtain ⟨part, whole, below⟩ := represents.whole nothing
    have present : part ≠ 0 := by
      intro none
      rw [none, zero_mul] at whole
      exact nothing whole
    have longer := digits_shift present (context.excess exact)
    rw [← whole] at longer
    refine ⟨context.rounded exact, ?_, ?_⟩
    · unfold finish
      dsimp only
      rw [rounded_whole whole, if_neg]
      rintro ⟨_, above⟩
      dsimp only at above
      omega
    · rw [rounded_whole whole, Decimal.value, Decimal.value, whole,
        zpow_add₀ (by norm_num : (10 : ℚ) ≠ 0), zpow_natCast]
      push_cast
      ring

theorem add_represented {context : Context} {left right : Decimal}
    (represents : context.Represents (left.value + right.value)) :
    ∃ result, context.add left right = some result ∧ result.value = left.value + right.value := by
  rw [← Decimal.value_plus] at represents ⊢
  exact finish_represented represents

theorem subtract_represented {context : Context} {left right : Decimal}
    (represents : context.Represents (left.value - right.value)) :
    ∃ result, context.subtract left right = some result ∧
      result.value = left.value - right.value := by
  rw [← Decimal.value_minus] at represents ⊢
  exact finish_represented represents

end Context

end CrossPatch.Library.Decimals
