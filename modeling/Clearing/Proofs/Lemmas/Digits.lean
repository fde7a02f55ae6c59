import Clearing.Digits

/-!
# Runs of digits

A number filled with zeros to a width is a run of digits with that number as its value, and exactly as long as the
width if the number fits. A run of digits is below the power of ten of its length.
-/

namespace Clearing.Digits

variable {width n : Nat} {c : Char} {ds rest : List Char}

theorem exists_head_decimal (h : 0 < n) : ∃ c ds, decimal n = c :: ds ∧ c ≠ '0' := by
  induction n using Nat.strongRecOn with
  | ind n ih =>
      rcases Nat.lt_or_ge n 10 with hlt | hge
      · refine ⟨Nat.digitChar n, [], Nat.toDigits_of_lt_base hlt, ?_⟩
        have hdigit : ∀ d : Fin 10, 0 < d.val → Nat.digitChar d ≠ '0' := by decide
        exact hdigit ⟨n, hlt⟩ h
      · obtain ⟨c, ds, hds, hc⟩ := ih (n / 10) (by omega) (by omega)
        refine ⟨c, ds ++ [Nat.digitChar (n % 10)], ?_, hc⟩
        rw [decimal, Nat.toDigits_of_base_le (by decide) hge]
        exact congrArg (· ++ _) hds

theorem exists_digit_decimal (n : Nat) : ∃ c ds, decimal n = c :: ds ∧ c.isDigit = true := by
  obtain ⟨c, ds, hds⟩ := List.exists_cons_of_ne_nil (decimal_ne_nil n)
  exact ⟨c, ds, hds, isDigit_of_mem_decimal (hds ▸ List.mem_cons_self)⟩

theorem readNat?_decimal (n : Nat) : readNat? (decimal n) = some n := by
  have hdigits : (decimal n).all Char.isDigit = true := List.all_eq_true.mpr fun _ => isDigit_of_mem_decimal
  have hne : (decimal n).isEmpty = false := List.isEmpty_eq_false_iff.mpr (decimal_ne_nil n)
  rw [readNat?, hne, hdigits, value_decimal]
  rfl

theorem isDigit_of_mem_padded (h : c ∈ padded width n) : c.isDigit = true := by
  rcases List.mem_append.mp h with h | h
  · rw [List.eq_of_mem_replicate h]
    rfl
  · exact isDigit_of_mem_decimal h

theorem value_padded (width n : Nat) : value (padded width n) = n := by
  rw [value, padded, Nat.ofDigitChars_append, Nat.ofDigitChars_replicate_zero, Nat.mul_zero]
  exact value_decimal n

theorem le_length_padded (width n : Nat) : width ≤ (padded width n).length := by
  simp [padded]
  omega

theorem length_padded (hwidth : 0 < width) (h : n < Nat.pow 10 width) : (padded width n).length = width := by
  have hle : (decimal n).length ≤ width := (Nat.length_toDigits_le_iff (by decide) hwidth).mpr h
  simp [padded, hle]

theorem padded_ne_nil (width n : Nat) : padded width n ≠ [] := by simp [padded, decimal_ne_nil]

theorem exists_head_padded (width n : Nat) (rest : List Char) :
    ∃ c ds, padded width n ++ rest = c :: ds ∧ c.isDigit = true := by
  cases h : padded width n with
  | nil => exact absurd h (padded_ne_nil width n)
  | cons c ds => exact ⟨c, ds ++ rest, rfl, isDigit_of_mem_padded (h ▸ List.mem_cons_self)⟩

theorem takeWhile_padded (hc : c.isDigit = false) :
    (padded width n ++ c :: rest).takeWhile Char.isDigit = padded width n := by
  rw [List.takeWhile_append_of_pos fun _ => isDigit_of_mem_padded]
  simp [hc]

theorem dropWhile_padded (hc : c.isDigit = false) :
    (padded width n ++ c :: rest).dropWhile Char.isDigit = c :: rest := by
  rw [List.dropWhile_append_of_pos fun _ => isDigit_of_mem_padded]
  simp [hc]

theorem value_lt (h : ∀ c ∈ ds, c.isDigit = true) : value ds < Nat.pow 10 ds.length := by
  induction ds with
  | nil => decide
  | cons c ds ih =>
      have hc : c.toNat - '0'.toNat ≤ 9 := Nat.sub_le_of_le_add (Char.isDigit_iff_toNat.mp (h c List.mem_cons_self)).2
      have hds := ih fun c hc => h c (List.mem_cons_of_mem _ hc)
      rw [value] at hds ⊢
      rw [Nat.ofDigitChars_cons, Nat.ofDigitChars_eq_ofDigitChars_zero, Nat.mul_zero, Nat.zero_add]
      calc
        _ ≤ Nat.pow 10 ds.length * 9 + Nat.ofDigitChars 10 ds 0 := Nat.add_le_add_right (Nat.mul_le_mul_left _ hc) _
        _ < Nat.pow 10 ds.length * 9 + Nat.pow 10 ds.length := Nat.add_lt_add_left hds _
        _ = Nat.pow 10 (ds.length + 1) := (Nat.mul_succ _ 9).symm

end Clearing.Digits
