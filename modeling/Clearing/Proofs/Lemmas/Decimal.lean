import Clearing.Decimal.Basic
import Mathlib.Data.Rat.Cast.Order
import Mathlib.Tactic.FieldSimp
import Mathlib.Tactic.Linarith
import Mathlib.Tactic.Positivity
import Mathlib.Tactic.Ring

/-!
# The number that an amount stands for

Order, equality of numbers and the sign of an amount, read as a rational number.
-/

namespace Clearing.Decimal

/-- The number that an amount stands for. -/
def value (a : Decimal) : ℚ := a.signed / 10 ^ a.scale

/-- A coefficient with a sign. -/
def signedBy (negative : Bool) (m : Nat) : ℤ := if negative then -(m : ℤ) else m

theorem signed_eq_signedBy (a : Decimal) : a.signed = signedBy a.negative a.coeff := rfl

theorem natAbs_signedBy (negative : Bool) (m : Nat) : (signedBy negative m).natAbs = m := by
  cases negative <;> simp [signedBy]

theorem signedBy_natAbs (z : ℤ) : signedBy (decide (z < 0)) z.natAbs = z := by
  by_cases h : z < 0
  · simp only [signedBy, h, decide_true, ↓reduceIte]
    omega
  · simp only [signedBy, h, decide_false, Bool.false_eq_true, ↓reduceIte]
    omega

theorem signedBy_mul (negative : Bool) (m k : Nat) :
    signedBy negative (m * k) = signedBy negative m * k := by
  cases negative <;> simp [signedBy]

/-- The sign of a zero does not count. -/
theorem signedBy_and_ne_zero (negative : Bool) (m : Nat) :
    signedBy (negative && m != 0) m = signedBy negative m := by
  cases negative
  · rfl
  · by_cases h : m = 0 <;> simp [signedBy, h]

theorem signedBy_mul_signedBy (x y : Bool) (m n : Nat) :
    signedBy x m * signedBy y n = signedBy (x != y) (m * n) := by
  cases x <;> cases y <;> simp [signedBy]

theorem natAbs_signed (a : Decimal) : a.signed.natAbs = a.coeff := natAbs_signedBy ..

/-! ## Order -/

theorem value_zero : zero.value = 0 := by simp [value, zero, signed]

/-- The numerator of an amount over a power of ten that is large enough. -/
theorem value_mul_pow (a : Decimal) {s : Nat} (h : a.scale ≤ s) :
    a.value * 10 ^ s = a.signed * 10 ^ (s - a.scale) := by
  obtain ⟨k, rfl⟩ := Nat.exists_eq_add_of_le h
  rw [value, pow_add, Nat.add_sub_cancel_left]
  field_simp

theorem crossed_eq (a b : Decimal) : (a.crossed b : ℚ) = a.value * 10 ^ (a.scale + b.scale) := by
  rw [value_mul_pow a (Nat.le_add_right ..), Nat.add_sub_cancel_left, crossed]
  push_cast [Nat.pow_eq]
  rfl

theorem lt_iff_value {a b : Decimal} : a < b ↔ a.value < b.value := by
  have hp : (0 : ℚ) < 10 ^ (a.scale + b.scale) := by positivity
  show a.crossed b < b.crossed a ↔ _
  rw [← Int.cast_lt (R := ℚ), crossed_eq, crossed_eq, Nat.add_comm b.scale, mul_lt_mul_iff_left₀ hp]

theorem le_iff_value {a b : Decimal} : a ≤ b ↔ a.value ≤ b.value := by
  have hp : (0 : ℚ) < 10 ^ (a.scale + b.scale) := by positivity
  show a.crossed b ≤ b.crossed a ↔ _
  rw [← Int.cast_le (R := ℚ), crossed_eq, crossed_eq, Nat.add_comm b.scale, mul_le_mul_iff_left₀ hp]

theorem le_zero_iff {a : Decimal} : a ≤ zero ↔ a.value ≤ 0 := by rw [le_iff_value, value_zero]

theorem lt_zero_iff {a : Decimal} : a < zero ↔ a.value < 0 := by rw [lt_iff_value, value_zero]

theorem sameNumber_iff_value {a b : Decimal} : a.sameNumber b = true ↔ a.value = b.value := by
  have hp : (10 : ℚ) ^ (a.scale + b.scale) ≠ 0 := by positivity
  rw [sameNumber, beq_iff_eq, ← Int.cast_inj (α := ℚ), crossed_eq, crossed_eq, Nat.add_comm b.scale,
    mul_left_inj' hp]

theorem isZero_iff_value {a : Decimal} : a.isZero = true ↔ a.value = 0 := by
  have hp : (10 : ℚ) ^ a.scale ≠ 0 := by positivity
  rw [isZero, beq_iff_eq, value, div_eq_zero_iff, or_iff_left hp, Int.cast_eq_zero,
    ← Int.natAbs_eq_zero, natAbs_signed]

theorem value_of_isZero {a : Decimal} (h : a.isZero = true) : a.value = 0 := isZero_iff_value.mp h

theorem value_neg (a : Decimal) : (-a).value = -a.value := by
  show ((neg a).signed : ℚ) / 10 ^ (neg a).scale = -(a.signed / 10 ^ a.scale)
  rw [← neg_div]
  congr 1
  cases h : a.negative <;> simp [neg, signed, h]

theorem scale_neg (a : Decimal) : (-a).scale = a.scale := rfl

/-- Amounts are at most `10 ^ -scale` apart from their neighbours, so a nonzero one is not smaller. -/
theorem one_le_abs_value_mul {a : Decimal} (h : a.value ≠ 0) : 1 ≤ |a.value| * 10 ^ a.scale := by
  have hs : a.signed ≠ 0 := by
    rintro hs
    exact h (by rw [value, hs, Int.cast_zero, zero_div])
  have hp : (0 : ℚ) < 10 ^ a.scale := by positivity
  rw [← abs_of_pos hp, ← abs_mul, value, div_mul_cancel₀ _ hp.ne', ← Int.cast_abs]
  exact_mod_cast Int.one_le_abs hs

end Clearing.Decimal
