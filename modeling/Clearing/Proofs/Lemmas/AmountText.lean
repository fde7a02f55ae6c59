import Clearing.Proofs.Lemmas.Digits
import Clearing.Proofs.Lemmas.Reading
import Mathlib.Data.List.TakeWhile

/-!
# Amounts that are written and read

An amount of at most 28 fraction digits is read from its text with its coefficient and scale, and with its sign
unless it is zero. A zero with a sign is only ever read from a text with an exponent.
-/

namespace Clearing.Decimal

/-- An amount as it is read from its text: a zero has no sign. -/
def reread (a : Decimal) : Decimal := { a with negative := a.negative && !a.isZero }

variable {a : Decimal} {cs ds rest : List Char} {coeff scale : Nat} {point digit : Bool}

theorem reread_eq_self_iff : a.reread = a ↔ ¬ (a.negative = true ∧ a.isZero = true) := by
  obtain ⟨negative, coeff, scale⟩ := a
  cases negative <;> simp [reread, isZero]

theorem reread_reread (a : Decimal) : a.reread.reread = a.reread := by
  simp [reread, isZero]

/-! ## Digits -/

theorem ofDigitChars_cons (c : Char) (ds : List Char) (n : Nat) :
    Nat.ofDigitChars 10 (c :: ds) n = Nat.ofDigitChars 10 ds (10 * n + digitValue c) := by
  rw [Nat.ofDigitChars_cons, digitValue]

theorem le_ofDigitChars (ds : List Char) (n : Nat) : n ≤ Nat.ofDigitChars 10 ds n := by
  rw [Nat.ofDigitChars_eq_ofDigitChars_zero]
  exact (Nat.le_mul_of_pos_left n (by positivity)).trans (Nat.le_add_right ..)

theorem scan_whole (h : ∀ c ∈ ds, c.isDigit = true) (hlt : Nat.ofDigitChars 10 ds coeff < coeffBound) :
    scan coeff scale false digit (ds ++ rest) =
      scan (Nat.ofDigitChars 10 ds coeff) scale false (digit || !ds.isEmpty) rest := by
  induction ds generalizing coeff digit with
  | nil => simp [Nat.ofDigitChars_nil]
  | cons c ds ih =>
      have hc := h c List.mem_cons_self
      rw [ofDigitChars_cons] at hlt
      have hnext := (le_ofDigitChars ds _).trans_lt hlt
      rw [List.cons_append, scan]
      simp only [hc, if_true, Bool.false_eq_true, if_false, if_pos hnext]
      rw [ih (fun c hc => h c (List.mem_cons_of_mem _ hc)) hlt, ofDigitChars_cons]
      simp

theorem scan_fraction (h : ∀ c ∈ ds, c.isDigit = true) (hlt : Nat.ofDigitChars 10 ds coeff < coeffBound)
    (hscale : scale + ds.length ≤ maxScale) (hroom : scale < maxScale) (hdigit : digit = true) :
    scan coeff scale true digit ds = some (Nat.ofDigitChars 10 ds coeff, scale + ds.length) := by
  induction ds generalizing coeff scale digit with
  | nil => simp [scan, hdigit, Nat.ofDigitChars_nil]
  | cons c ds ih =>
      have hc := h c List.mem_cons_self
      rw [ofDigitChars_cons] at hlt ⊢
      have hnext := (le_ofDigitChars ds _).trans_lt hlt
      rw [scan]
      simp only [hc, if_true, if_neg (Nat.not_le.mpr hnext)]
      rw [List.length_cons] at hscale ⊢
      split
      · next hlast =>
        rw [ih (fun c hc => h c (List.mem_cons_of_mem _ hc)) hlt (by omega) hlast rfl]
        congr 2
        omega
      · next hlast =>
        obtain rfl : ds = [] := List.eq_nil_of_length_eq_zero (by omega)
        simp [scanEnd, scanBeyond, Nat.ofDigitChars_nil]

/-! ## Whole texts -/

theorem scan_point : scan coeff scale false digit ('.' :: cs) = scan coeff scale true digit cs := rfl

/-- The digits in front of the point, at least one, and as many behind it as the scale says. -/
theorem exists_parts (a : Decimal) : ∃ whole fraction : List Char,
    a.magnitudeText = (if a.scale = 0 then whole else whole ++ '.' :: fraction) ∧
      whole ≠ [] ∧ fraction.length = a.scale ∧ (∀ c ∈ whole ++ fraction, c.isDigit = true) ∧
      Nat.ofDigitChars 10 (whole ++ fraction) 0 = a.coeff := by
  have hlength : a.scale + 1 ≤ (Digits.padded (a.scale + 1) a.coeff).length := Digits.le_length_padded ..
  refine ⟨_, _, rfl, ?_, ?_, ?_, ?_⟩
  · rw [← List.length_pos_iff, List.length_take]
    omega
  · rw [List.length_drop]
    omega
  · rw [List.take_append_drop]
    exact fun _ => Digits.isDigit_of_mem_padded
  · rw [List.take_append_drop]
    exact Digits.value_padded ..

theorem scan_magnitudeText (h : a.scale ≤ maxScale) :
    scan 0 0 false false a.magnitudeText = some (a.coeff, a.scale) := by
  obtain ⟨whole, fraction, htext, hwhole, hfraction, hdigits, hvalue⟩ := a.exists_parts
  have hlt := a.coeff_lt
  rw [← hvalue, Nat.ofDigitChars_append] at hlt
  have hread : ∀ rest, scan 0 0 false false (whole ++ rest) = scan (Nat.ofDigitChars 10 whole 0) 0 false true rest := by
    intro rest
    have hbelow := (le_ofDigitChars fraction _).trans_lt hlt
    rw [scan_whole (fun c hc => hdigits c (List.mem_append_left _ hc)) hbelow, List.isEmpty_eq_false_iff.mpr hwhole]
    rfl
  rw [htext, ← hvalue, Nat.ofDigitChars_append]
  split
  · next hscale =>
    obtain rfl : fraction = [] := List.eq_nil_of_length_eq_zero (hfraction.trans hscale)
    rw [← List.append_nil whole, hread, scan, hscale]
    simp
  · rw [hread, scan_point, scan_fraction (fun c hc => hdigits c (List.mem_append_right _ hc)) hlt
      (by omega) (by decide) rfl, hfraction, Nat.zero_add]

theorem splitSign_chars (a : Decimal) : splitSign a.chars = (a.negative, a.magnitudeText) := by
  obtain ⟨whole, fraction, htext, hwhole, -, hdigits, -⟩ := a.exists_parts
  obtain ⟨c, ds, rfl⟩ := List.exists_cons_of_ne_nil hwhole
  have hc : c.isDigit = true := hdigits c (by simp)
  have hunsigned : ∀ rest, splitSign (c :: rest) = (false, c :: rest) := by
    intro rest
    unfold splitSign
    split
    · simp_all
    · simp_all
    · rfl
  unfold chars
  split
  · next h => rw [h, splitSign]
  · next h =>
    rw [Bool.eq_false_of_not_eq_true h, htext]
    split <;> exact hunsigned _

theorem readPlain?_chars (h : a.scale ≤ maxScale) : readPlain? a.chars = some a.reread := by
  unfold readPlain?
  rw [splitSign_chars]
  dsimp only
  rw [scan_magnitudeText h]
  exact dif_pos ⟨a.coeff_lt, a.dvd_coeff⟩

theorem ofText?_toString (h : a.scale ≤ maxScale) : ofText? (toString a) = some a.reread := by
  unfold ofText? ofChars? toString instToString
  rw [String.toList_ofList, readPlain?_chars h, Option.some_or]

/-! ## Zeros with a sign -/

theorem reread_of_narrow {negative : Bool} {m s : Nat} (h : narrow negative m s = some a) : a.reread = a := by
  unfold narrow ofParts? at h
  split at h
  · cases h
    simp [reread, isZero]
  · cases h

theorem reread_of_readPlain? (h : readPlain? cs = some a) : a.reread = a := by
  obtain ⟨⟨m, s⟩, -, h⟩ := Option.bind_eq_some_iff.mp h
  exact reread_of_narrow h

theorem exists_exponentMark (h : readScientific? cs = some a) : ∃ c ∈ cs, isExponentMark c = true := by
  obtain ⟨base, -, h⟩ := Option.bind_eq_some_iff.mp h
  by_contra hnone
  have hrest : cs.dropWhile (!isExponentMark ·) = [] := by
    rw [List.dropWhile_eq_nil_iff]
    intro c hc
    simpa using fun hmark => hnone ⟨c, hc, hmark⟩
  rw [hrest] at h
  cases h

/-- A text without an exponent gives an amount that is read again as it is. -/
theorem reread_of_ofChars? (h : ofChars? cs = some a) (hplain : ∀ c ∈ cs, isExponentMark c = false) :
    a.reread = a := by
  rcases Option.or_eq_some_iff.mp h with h | ⟨-, h⟩
  · exact reread_of_readPlain? h
  · obtain ⟨c, hc, hmark⟩ := exists_exponentMark h
    rw [hplain c hc] at hmark
    cases hmark

end Clearing.Decimal
