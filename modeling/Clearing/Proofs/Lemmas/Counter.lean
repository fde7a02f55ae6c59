/-!
# Counters of 32 bits

Below the top of its range a counter goes up by one. At the top it starts over with the least number.
-/

namespace Clearing.Counter

variable {n m : Int32}

theorem toInt_add_one (h : n.toInt < 0x7fffffff) : (n + 1).toInt = n.toInt + 1 := by
  have hle := Int32.le_toInt n
  have hone : (1 : Int32).toInt = 1 := by decide
  rw [Int32.toInt_add, hone]
  exact Int.bmod_eq_of_le (by omega) (by omega)

theorem le_add_one_iff (h : n.toInt < 0x7fffffff) : m ≤ n + 1 ↔ m.toInt ≤ n.toInt + 1 := by
  rw [Int32.le_iff_toInt_le, toInt_add_one h]

theorem toInt_le (n : Int32) : n.toInt ≤ 0x7fffffff := Int.le_of_lt_add_one (Int32.toInt_lt n)

example : (Int32.maxValue + 1).toInt = -0x80000000 := by decide

end Clearing.Counter
