import FaultInjection.Number.Binary64
import Mathlib.Algebra.Order.Field.Power
import Mathlib.Algebra.Order.Ring.Rat
import Mathlib.Data.Rat.Cast.Defs
import Mathlib.Tactic.Positivity

/-!
# What floating-point numbers stand for

A finite floating-point number stands for a rational number (`Binary64.value?`), and both zeros
stand for zero.  The comparisons of floating-point numbers are those of the rational numbers
(`inUnitInterval_iff`, `isPositive_iff`).
-/

namespace FaultInjection.Number.Binary64

/-- The rational number that a finite floating-point number stands for. -/
def value? : Binary64 → Option ℚ
  | nan => none
  | infinite _ => none
  | finite negative m q => some (if negative then -(m * 2 ^ q) else m * 2 ^ q)

/-- Above zero: the positive infinity, or a number that stands for something positive. -/
def Positive (x : Binary64) : Prop := x = infinite false ∨ ∃ r, x.value? = some r ∧ 0 < r

/-- A power of two in the numerator or in the denominator makes the number that is scaled. -/
theorem scale_two (m : ℕ) (q : ℤ) :
    0 < (scale 2 m 1 (-q)).2 ∧
      ((scale 2 m 1 (-q)).1 : ℚ) = m * 2 ^ q * (scale 2 m 1 (-q)).2 := by
  have htwo : (2 : ℚ) ≠ 0 := by norm_num
  unfold scale
  split
  · next hq =>
    -- The power is in the denominator, and cancels.
    have hcancel : (2 : ℚ) ^ q * 2 ^ (-q).toNat = 1 := by
      rw [← zpow_natCast, Int.toNat_of_nonneg hq, ← zpow_add₀ htwo, add_neg_cancel, zpow_zero]
    constructor
    · simp
    · simp only [one_mul, Nat.pow_eq, Nat.cast_pow, Nat.cast_ofNat]
      rw [mul_assoc, hcancel, mul_one]
  · next hq =>
    have hpower : (2 : ℚ) ^ q = 2 ^ (- -q).toNat := by
      rw [← zpow_natCast, Int.toNat_of_nonneg (by omega), neg_neg]
    constructor
    · exact Nat.one_pos
    · simp only [Nat.pow_eq, Nat.cast_mul, Nat.cast_pow, Nat.cast_ofNat, Nat.cast_one, mul_one]
      rw [hpower]

theorem scale_two_le_iff (m : ℕ) (q : ℤ) :
    (scale 2 m 1 (-q)).1 ≤ (scale 2 m 1 (-q)).2 ↔ (m : ℚ) * 2 ^ q ≤ 1 := by
  obtain ⟨hpos, heq⟩ := scale_two m q
  have hden : (0 : ℚ) < (scale 2 m 1 (-q)).2 := Nat.cast_pos.mpr hpos
  calc (scale 2 m 1 (-q)).1 ≤ (scale 2 m 1 (-q)).2
      ↔ ((scale 2 m 1 (-q)).1 : ℚ) ≤ (scale 2 m 1 (-q)).2 := Nat.cast_le.symm
    _ ↔ (m : ℚ) * 2 ^ q * (scale 2 m 1 (-q)).2 ≤ 1 * (scale 2 m 1 (-q)).2 := by
        rw [heq, one_mul]
    _ ↔ (m : ℚ) * 2 ^ q ≤ 1 := mul_le_mul_iff_left₀ hden

/-- **The numbers of the unit interval** are finite, and stand for a number from zero to one. -/
theorem inUnitInterval_iff (x : Binary64) :
    x.inUnitInterval = true ↔ ∃ r, x.value? = some r ∧ 0 ≤ r ∧ r ≤ 1 := by
  cases x with
  | nan => simp [inUnitInterval, value?]
  | infinite negative => simp [inUnitInterval, value?]
  | finite negative m q =>
      have hpower : (0 : ℚ) < 2 ^ q := by positivity
      have hnonneg : (0 : ℚ) ≤ m * 2 ^ q := by positivity
      have hzero : (m : ℚ) * 2 ^ q = 0 ↔ m = 0 := by simp [hpower.ne']
      cases negative with
      | true =>
          -- Of the numbers with a minus sign only zero is there.
          simp only [inUnitInterval, value?, Bool.not_true, Bool.false_and, Bool.or_false,
            beq_iff_eq, if_true, Option.some.injEq, exists_eq_left', Left.nonneg_neg_iff]
          constructor
          · intro hm
            rw [hzero.mpr hm]
            norm_num
          · rintro ⟨hle, -⟩
            exact hzero.mp (le_antisymm hle hnonneg)
      | false =>
          simp only [inUnitInterval, value?, Bool.not_false, Bool.true_and, Bool.or_eq_true,
            beq_iff_eq, decide_eq_true_eq, Bool.false_eq_true, if_false, Option.some.injEq,
            exists_eq_left', scale_two_le_iff]
          constructor
          · rintro (hm | hle)
            · rw [hzero.mpr hm]
              norm_num
            · exact ⟨hnonneg, hle⟩
          · rintro ⟨-, hle⟩
            exact Or.inr hle

theorem isPositive_iff (x : Binary64) : x.isPositive = true ↔ x.Positive := by
  cases x with
  | nan => simp [isPositive, Positive, value?]
  | infinite negative => cases negative <;> simp [isPositive, Positive, value?]
  | finite negative m q =>
      have hpower : (0 : ℚ) < 2 ^ q := by positivity
      have hnonneg : (0 : ℚ) ≤ m * 2 ^ q := by positivity
      cases negative with
      | true => simp [isPositive, Positive, value?, hnonneg]
      | false => simp [isPositive, Positive, value?, hpower, Nat.pos_iff_ne_zero]

end FaultInjection.Number.Binary64
