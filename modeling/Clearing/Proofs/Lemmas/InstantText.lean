import Clearing.Instant.Text
import Clearing.Proofs.Lemmas.Calendar
import Clearing.Proofs.Lemmas.Digits
import Mathlib.Tactic.Positivity

/-!
# Instants that are written and read

Every instant that was read has a text that is read as that instant. Its date is in range, and a leap second is
the last one of its minute.
-/

namespace Clearing.Instant

variable {c : Char} {cs rest : List Char} {width n : Nat}

/-! ## Parts of a text -/

theorem isBlank_eq_false (h : 0x21 ≤ c.toNat) (h' : c.toNat < 0x80) : isBlank c = false := by
  simp [isBlank, blankRanges]
  omega

theorem isBlank_of_isDigit (h : c.isDigit = true) : isBlank c = false := by
  have := Char.isDigit_iff_toNat.mp h
  exact isBlank_eq_false (by simp at this; omega) (by simp at this; omega)

theorem skipBlanks_cons (h : isBlank c = false) : skipBlanks (c :: cs) = c :: cs := by
  simp [skipBlanks, h]

theorem skipBlanks_padded : skipBlanks (Digits.padded width n ++ cs) = Digits.padded width n ++ cs := by
  obtain ⟨c, ds, hpadded, hc⟩ := Digits.exists_head_padded width n cs
  rw [hpadded]
  exact skipBlanks_cons (isBlank_of_isDigit hc)

theorem digits?_padded (hwidth : 0 < width) (h : n < 10 ^ width) :
    digits? width (Digits.padded width n ++ cs) = some (n, cs) := by
  have hlength := Digits.length_padded hwidth h
  have htake : ((Digits.padded width n ++ cs).take width).takeWhile Char.isDigit = Digits.padded width n := by
    rw [List.take_left' hlength, ← List.append_nil (Digits.padded width n),
      List.takeWhile_append_of_pos fun _ => Digits.isDigit_of_mem_padded]
    simp
  simp [digits?, skipBlanks_padded, htake, Digits.padded_ne_nil, Digits.value_padded]

theorem longDigits?_padded (h : n < 0x8000000000000000) (hc : c.isDigit = false) :
    longDigits? (Digits.padded width n ++ c :: cs) = some (n, c :: cs) := by
  simp [longDigits?, Digits.takeWhile_padded hc, Digits.dropWhile_padded hc, Digits.padded_ne_nil,
    Digits.value_padded, h]

theorem year?_yearChars {year : Int} (h : year.natAbs < 0x8000000000000000) (hc : c.isDigit = false) :
    year? (yearChars year ++ c :: cs) = some (year, c :: cs) := by
  unfold yearChars
  split
  · next hyear =>
    have hdigits : digits? 4 (Digits.padded 4 year.natAbs ++ c :: cs) = some (year.natAbs, c :: cs) :=
      digits?_padded (by decide) (by omega)
    have hvalue : (year.natAbs : Int) = year := by omega
    obtain ⟨d, ds, hd, hdigit⟩ := Digits.exists_head_padded 4 year.natAbs (c :: cs)
    unfold year?
    rw [skipBlanks_padded]
    split
    · next heq =>
      cases hd.symm.trans heq
      cases hdigit
    · next heq =>
      cases hd.symm.trans heq
      cases hdigit
    · simp only [hdigits, Option.map_some, hvalue]
  · have hdigits : longDigits? (Digits.padded 4 year.natAbs ++ c :: cs) = some (year.natAbs, c :: cs) :=
      longDigits?_padded h hc
    split
    · have hvalue : -(year.natAbs : Int) = year := by omega
      have hminus : isBlank '-' = false := by decide
      simp only [year?, List.cons_append, skipBlanks_cons hminus, hdigits, Option.map_some, hvalue]
    · have hvalue : (year.natAbs : Int) = year := by omega
      have hplus : isBlank '+' = false := by decide
      simp only [year?, List.cons_append, skipBlanks_cons hplus, hdigits, Option.map_some, hvalue]

theorem mark?_self (hc : isBlank c = false) : mark? c (c :: cs) = some cs := by
  simp [mark?, skipBlanks_cons hc]

/-- A fraction is read as it was written, up to a character that is no part of it. -/
theorem fraction?_fractionChars {nanos : Nat} (h : nanos < 1000000000) (hc : c.isDigit = false) (hpoint : c ≠ '.') :
    fraction? (fractionChars nanos ++ c :: cs) = some (nanos, c :: cs) := by
  have hwritten : ∀ width k, 0 < width → width ≤ 9 → k < 10 ^ width → k * 10 ^ (9 - width) = nanos →
      fraction? ('.' :: (Digits.padded width k ++ c :: cs)) = some (nanos, c :: cs) := by
    intro width k hwidth hle hk hnanos
    have hlength := Digits.length_padded hwidth hk
    simp [fraction?, Digits.takeWhile_padded hc, Digits.dropWhile_padded hc, Digits.padded_ne_nil, hlength,
      List.take_of_length_le (hlength.trans_le hle), Digits.value_padded, hnanos]
  unfold fractionChars
  split
  · next hzero =>
    unfold fraction?
    simp [hzero, hpoint]
  · split
    · exact hwritten 3 _ (by decide) (by decide) (by omega) (by omega)
    · split
      · exact hwritten 6 _ (by decide) (by decide) (by omega) (by omega)
      · exact hwritten 9 _ (by decide) (by decide) (by omega) (by omega)

theorem offset?_zulu : offset? ['Z'] = some (0, []) := by decide

/-! ## Whole texts -/

/-- The date is in range, and a leap second is the last one of its minute. -/
structure Writable (t : Instant) : Prop where
  dated : t.date.isValid = true
  leap : 1000000000 ≤ t.nanos → t.seconds % 60 = 59

theorem isValid_bounds {d : Date} (h : d.isValid = true) :
    Date.minYear ≤ d.year ∧ d.year ≤ Date.maxYear ∧ d.month ≤ 12 ∧ d.day ≤ 31 := by
  simp only [Date.isValid, Bool.and_eq_true, decide_eq_true_eq] at h
  obtain ⟨⟨⟨⟨⟨hfirst, hlast⟩, -⟩, hmonth⟩, -⟩, hday⟩ := h
  refine ⟨hfirst, hlast, hmonth, hday.trans ?_⟩
  unfold Date.daysInMonth
  split
  · split <;> decide
  all_goals decide

/-- The instant of a date and a time of day; second 60 is the second before it, with more nanoseconds. -/
theorem ofParts?_eq_some {d : Date} {hour minute second nanos : Nat} {offset : Int} {t : Instant} :
    ofParts? d hour minute second nanos offset = some t ↔
      (d.isValid = true ∧ hour ≤ 23 ∧ minute ≤ 59 ∧ second ≤ 60) ∧
      t.seconds = d.dayNumber * 86400 + (hour * 3600 + minute * 60 : Nat) + (min second 59 : Nat) - offset ∧
      t.nanos = (if second = 60 then nanos + 1000000000 else nanos) ∧ t.date.isValid = true := by
  unfold ofParts?
  cases hguard : !d.isValid || decide (23 < hour) || decide (59 < minute) || decide (60 < second) with
  | false =>
      have hrange : d.isValid = true ∧ hour ≤ 23 ∧ minute ≤ 59 ∧ second ≤ 60 := by
        simpa [and_assoc] using hguard
      have hsecond : (if second = 60 then 59 else second) = min second 59 := by
        split <;> omega
      simp only [Bool.false_eq_true, if_false, beq_iff_eq, hsecond, secondsPerDay,
        Option.dite_none_right_eq_some, Option.ite_none_right_eq_some]
      constructor
      · rintro ⟨hlt, hdate, h⟩
        cases h
        exact ⟨hrange, rfl, rfl, hdate⟩
      · rintro ⟨-, hseconds, hnanos, hdate⟩
        obtain ⟨seconds, nanos', hlt⟩ := t
        subst hseconds
        subst hnanos
        exact ⟨hlt, hdate, rfl⟩
  | true =>
      have hrange : ¬ (d.isValid = true ∧ hour ≤ 23 ∧ minute ≤ 59 ∧ second ≤ 60) := by
        rintro ⟨hd, hhour, hminute, hsecond⟩
        simp [hd] at hguard
        omega
      simp [hrange]

/-- The parts of a text are read as they were written, one behind the other. -/
theorem ofChars?_parts {d : Date} {hour minute second nanos : Nat} (hyear : d.year.natAbs < 0x8000000000000000)
    (hmonth : d.month < 100) (hday : d.day < 100) (hhour : hour < 100) (hminute : minute < 100)
    (hsecond : second < 100) (hnanos : nanos < 1000000000) :
    ofChars? (yearChars d.year ++ '-' :: Digits.padded 2 d.month ++ '-' :: Digits.padded 2 d.day
      ++ 'T' :: Digits.padded 2 hour ++ ':' :: Digits.padded 2 minute ++ ':' :: Digits.padded 2 second
      ++ fractionChars nanos ++ ['Z']) = ofParts? d hour minute second nanos 0 := by
  have hhyphen : isBlank '-' = false := by decide
  have hcolon : isBlank ':' = false := by decide
  have hzulu : isBlank 'Z' = false := by decide
  have htime : ('T' == 'T' || 'T' == 't' || 'T' == ' ') = true := by decide
  unfold ofChars?
  simp only [List.append_assoc, List.cons_append]
  rw [year?_yearChars hyear (by decide)]
  dsimp only [Option.bind_eq_bind, Option.bind_some]
  rw [mark?_self hhyphen]
  dsimp only [Option.bind_some]
  rw [digits?_padded (by decide) hmonth]
  dsimp only [Option.bind_some]
  rw [mark?_self hhyphen]
  dsimp only [Option.bind_some]
  rw [digits?_padded (by decide) hday]
  dsimp only [Option.bind_some]
  rw [if_pos htime, digits?_padded (by decide) hhour]
  dsimp only [Option.bind_some]
  rw [mark?_self hcolon]
  dsimp only [Option.bind_some]
  rw [digits?_padded (by decide) hminute]
  dsimp only [Option.bind_some]
  rw [mark?_self hcolon]
  dsimp only [Option.bind_some]
  rw [digits?_padded (by decide) hsecond]
  dsimp only [Option.bind_some]
  rw [fraction?_fractionChars hnanos (by decide) (by decide)]
  dsimp only [Option.bind_some]
  rw [skipBlanks_cons hzulu, offset?_zulu]
  rfl

theorem ofChars?_chars {t : Instant} (h : t.Writable) : ofChars? t.chars = some t := by
  obtain ⟨hfirst, hlast, hmonth, hday⟩ := isValid_bounds h.dated
  have hyear : t.date.year.natAbs < 0x8000000000000000 := by
    unfold Date.minYear at hfirst
    unfold Date.maxYear at hlast
    omega
  have hnanos := t.nanos_lt
  have hleap := h.leap
  have hnumber : t.date.dayNumber = t.seconds / 86400 := Date.dayNumber_ofDayNumber _
  have hofDay : ((t.seconds % 86400).toNat : Int) = t.seconds % 86400 :=
    Int.toNat_of_nonneg (Int.emod_nonneg _ (by decide))
  unfold chars secondsPerDay
  generalize (t.seconds % 86400).toNat = ofDay at *
  by_cases hlate : 1000000000 ≤ t.nanos
  · have hminute := hleap hlate
    simp only [hlate, if_true]
    rw [ofChars?_parts hyear (by omega) (by omega) (by omega) (by omega) (by omega) (by omega), ofParts?_eq_some,
      hnumber]
    have hsecond : ofDay % 60 + 1 = 60 := by omega
    rw [hsecond, if_pos rfl]
    refine ⟨⟨h.dated, ?_, ?_, ?_⟩, ?_, ?_, h.dated⟩ <;> omega
  · simp only [hlate, if_false]
    rw [ofChars?_parts hyear (by omega) (by omega) (by omega) (by omega) (by omega) (by omega), ofParts?_eq_some,
      hnumber]
    have hsecond : ofDay % 60 + 0 ≠ 60 := by omega
    rw [if_neg hsecond]
    refine ⟨⟨h.dated, ?_, ?_, ?_⟩, ?_, ?_, h.dated⟩ <;> omega

/-! ## Instants that were read -/

theorem fraction?_lt {nanos : Nat} (h : fraction? cs = some (nanos, rest)) : nanos < 1000000000 := by
  unfold fraction? at h
  split at h
  · next after =>
    rw [Option.ite_none_left_eq_some] at h
    cases h.2
    have hkept : ∀ c ∈ (after.takeWhile Char.isDigit).take 9, c.isDigit = true := fun c hc =>
      List.all_eq_true.mp (List.all_takeWhile ..) c (List.mem_of_mem_take hc)
    generalize hkept' : (after.takeWhile Char.isDigit).take 9 = kept at *
    have hlength : kept.length ≤ 9 := hkept' ▸ List.length_take_le ..
    calc
      Digits.value kept * 10 ^ (9 - kept.length) < 10 ^ kept.length * 10 ^ (9 - kept.length) :=
        Nat.mul_lt_mul_of_pos_right (Digits.value_lt hkept) (by positivity)
      _ = 10 ^ 9 := by rw [← Nat.pow_add, Nat.add_sub_cancel' hlength]
  · cases h
    decide

theorem offsetBody?_minutes {offset : Int} (h : offsetBody? cs = some (offset, rest)) : offset % 60 = 0 := by
  obtain ⟨⟨hours, after⟩, -, h⟩ := Option.bind_eq_some_iff.mp h
  obtain ⟨⟨minutes, after'⟩, -, h⟩ := Option.bind_eq_some_iff.mp h
  rw [Option.ite_none_left_eq_some] at h
  cases h.2
  omega

theorem offset?_minutes {offset : Int} (h : offset? cs = some (offset, rest)) : offset % 60 = 0 := by
  unfold offset? at h
  split at h
  · cases h
    decide
  · split at h
    · cases h
    · split at h
      · cases h
        decide
      · split at h
        · exact offsetBody?_minutes h
        · rw [Option.ite_none_right_eq_some] at h
          obtain ⟨⟨east, after⟩, heast, hwest⟩ := Option.map_eq_some_iff.mp h.2
          cases hwest
          have := offsetBody?_minutes heast
          omega

theorem writable_of_ofParts? {d : Date} {hour minute second nanos : Nat} {offset : Int} {t : Instant}
    (hnanos : nanos < 1000000000) (hoffset : offset % 60 = 0)
    (h : ofParts? d hour minute second nanos offset = some t) : t.Writable := by
  obtain ⟨-, hseconds, hsum, hdate⟩ := ofParts?_eq_some.mp h
  refine ⟨hdate, fun hleap => ?_⟩
  by_cases hsecond : second = 60
  · rw [hseconds, hsecond]
    omega
  · rw [if_neg hsecond] at hsum
    omega

theorem writable_of_ofChars? {t : Instant} (h : ofChars? cs = some t) : t.Writable := by
  obtain ⟨⟨year, cs₁⟩, -, h⟩ := Option.bind_eq_some_iff.mp h
  obtain ⟨cs₂, -, h⟩ := Option.bind_eq_some_iff.mp h
  obtain ⟨⟨month, cs₃⟩, -, h⟩ := Option.bind_eq_some_iff.mp h
  obtain ⟨cs₄, -, h⟩ := Option.bind_eq_some_iff.mp h
  obtain ⟨⟨day, cs₅⟩, -, h⟩ := Option.bind_eq_some_iff.mp h
  -- Behind the date stands a letter or a blank; without it there is no time.
  dsimp only at h
  split at h
  case h_2 => cases h
  split at h
  case isFalse => cases h
  obtain ⟨cs₆, -, h⟩ := Option.bind_eq_some_iff.mp h
  obtain ⟨⟨hour, cs₇⟩, -, h⟩ := Option.bind_eq_some_iff.mp h
  obtain ⟨cs₈, -, h⟩ := Option.bind_eq_some_iff.mp h
  obtain ⟨⟨minute, cs₉⟩, -, h⟩ := Option.bind_eq_some_iff.mp h
  obtain ⟨cs₁₀, -, h⟩ := Option.bind_eq_some_iff.mp h
  obtain ⟨⟨second, cs₁₁⟩, -, h⟩ := Option.bind_eq_some_iff.mp h
  obtain ⟨⟨nanos, cs₁₂⟩, hnanos, h⟩ := Option.bind_eq_some_iff.mp h
  obtain ⟨⟨offset, cs₁₃⟩, hoffset, h⟩ := Option.bind_eq_some_iff.mp h
  rw [Option.ite_none_left_eq_some] at h
  exact writable_of_ofParts? (fraction?_lt hnanos) (offset?_minutes hoffset) h.2

/-- An instant that was read is read again from its text. -/
theorem ofText?_toString {text : String} {t : Instant} (h : ofText? text = some t) :
    ofText? (toString t) = some t := by
  unfold ofText? toString instToString
  rw [String.toList_ofList]
  exact ofChars?_chars (writable_of_ofChars? h)

end Clearing.Instant
