import CrossPatch.Library.Decimals

/-!
# Whole parts of doubles

The double nearest to a quotient has 53 significant bits, so a quotient just below a whole
number can become that number.  Whole numbers of up to 53 bits are doubles themselves, and
the nearest double never passes one.
-/

namespace CrossPatch.Library.Doubles

open CrossPatch.Library.Decimals.Context

/-- The doubles next to a quotient of at least one are multiples of `2 ^ -places`. -/
def places (numerator denominator : Nat) : Nat := 52 - Nat.log2 (numerator / denominator)

/-- The whole part of the double nearest to a quotient of at least one. -/
def wholePart (numerator denominator : Nat) : Int :=
  roundHalfEven (numerator * 2 ^ places numerator denominator) denominator /
    2 ^ places numerator denominator

theorem roundHalfEven_low (coefficient : Int) (scale : Nat) :
    coefficient / scale ≤ roundHalfEven coefficient scale := by
  unfold roundHalfEven
  dsimp only
  split_ifs <;> omega

theorem roundHalfEven_high {coefficient bound : Int} {scale : Nat} (positive : 0 < scale)
    (below : coefficient ≤ bound * scale) : roundHalfEven coefficient scale ≤ bound := by
  have divided := Int.mul_ediv_add_emod coefficient scale
  have rest := Int.emod_nonneg coefficient (Int.natCast_ne_zero.mpr positive.ne')
  have quotient : coefficient / scale ≤ bound :=
    Int.ediv_le_of_le_mul (Int.natCast_pos.mpr positive) below
  -- A quotient that is the bound already leaves no rest to round up.
  have exact : coefficient / scale = bound → coefficient % scale = 0 := by
    intro same
    rw [same, mul_comm] at divided
    omega
  unfold roundHalfEven
  dsimp only
  split_ifs <;> omega

/-- The whole part is not below the quotient rounded down. -/
theorem wholePart_low (numerator : Nat) {denominator : Nat} (positive : 0 < denominator) :
    (numerator : Int) / denominator ≤ wholePart numerator denominator := by
  have power : (0 : Int) < 2 ^ places numerator denominator := by positivity
  refine Int.le_ediv_of_mul_le power (le_trans ?_ (roundHalfEven_low _ _))
  apply Int.le_ediv_of_mul_le (Int.natCast_pos.mpr positive)
  have floor := Int.ediv_mul_le (numerator : Int) (Int.natCast_ne_zero.mpr positive.ne')
  calc (numerator : Int) / denominator * 2 ^ places numerator denominator * denominator
      = numerator / denominator * denominator * 2 ^ places numerator denominator := by ring
    _ ≤ numerator * 2 ^ places numerator denominator :=
        Int.mul_le_mul_of_nonneg_right floor power.le

/-- A whole number that the quotient does not exceed is not exceeded after rounding. -/
theorem wholePart_high {numerator denominator : Nat} {bound : Int} (positive : 0 < denominator)
    (below : (numerator : Int) ≤ bound * denominator) :
    wholePart numerator denominator ≤ bound := by
  have power : (0 : Int) < 2 ^ places numerator denominator := by positivity
  refine Int.ediv_le_of_le_mul power (roundHalfEven_high positive ?_)
  calc (numerator : Int) * 2 ^ places numerator denominator
      ≤ bound * denominator * 2 ^ places numerator denominator :=
        Int.mul_le_mul_of_nonneg_right below power.le
    _ = bound * 2 ^ places numerator denominator * denominator := by ring

end CrossPatch.Library.Doubles
