import Clearing.Proofs.Lemmas.JsonText
import Clearing.Yaml.Scalar

/-!
# Scalars of JSON in YAML

A text in quotes and a number are written in JSON as they may be written in YAML, as long as the characters that JSON
leaves as they are may stand in quotes there as well.
-/

namespace Clearing.Yaml

open Json (chars escapeChar Stops)

/-! ## Marks -/

namespace Mark

theorem past_cons (m : Mark) (c : Char) (cs : List Char) : m.past (c :: cs) = (m.next c).past cs := rfl

theorem past_singleton (m : Mark) (c : Char) : m.past [c] = m.next c := rfl

theorem past_append (m : Mark) (cs ds : List Char) : m.past (cs ++ ds) = (m.past cs).past ds :=
  List.foldl_append

theorem column_past (m : Mark) (cs : List Char) : (m.past cs).column = m.column + cs.length := by
  induction cs generalizing m with
  | nil => rfl
  | cons c cs ih =>
      have hnext : (m.next c).column = m.column + 1 := rfl
      rw [past_cons, ih, hnext, List.length_cons, Nat.add_assoc, Nat.add_comm 1]

theorem line_past (m : Mark) (cs : List Char) : (m.past cs).line = m.line := by
  induction cs generalizing m with
  | nil => rfl
  | cons c cs ih => exact ih (m.next c)

theorem bytes_past (m : Mark) (cs : List Char) : (m.past cs).bytes = m.bytes + (String.ofList cs).utf8ByteSize := by
  induction cs generalizing m with
  | nil => rfl
  | cons c cs ih =>
      have hnext : (m.next c).bytes = m.bytes + c.utf8Size := rfl
      rw [past_cons, ih, hnext, String.ofList_cons, String.utf8ByteSize_append, String.utf8ByteSize_singleton,
        Nat.add_assoc]

end Mark

/-! ## Characters -/

/-- Whether a character can be written in quotes: control characters are escaped there, any other has to be printable
and may not end a line. -/
def isQuotable (c : Char) : Bool := decide (c.toNat < 0x20) || (isPrintable c && !isBreak c)

/-- A text that can be written in quotes. -/
def Quotable (s : String) : Prop := ∀ c ∈ s.toList, isQuotable c = true

instance (s : String) : Decidable (Quotable s) :=
  decidable_of_decidable_of_iff (p := s.toList.all isQuotable = true) List.all_eq_true

theorem isBreak_of_isQuotable {c : Char} (h : isQuotable c = true) (hcontrol : 0x20 ≤ c.toNat) :
    isBreak c = false := by
  simp only [isQuotable, Bool.or_eq_true, decide_eq_true_eq, Bool.and_eq_true, Bool.not_eq_true'] at h
  rcases h with h | h
  · omega
  · exact h.2

theorem isBlank_of_not_control {c : Char} (hcontrol : 0x20 ≤ c.toNat) (hc : c ≠ ' ') : isBlank c = false := by
  have htab : c ≠ '\t' := by
    rintro rfl
    exact absurd hcontrol (by decide)
  simp [isBlank, hc, htab]

theorem isGap_of_isAlphanum {c : Char} (h : c.isAlphanum = true) : isGap c = false := by
  rw [← Bool.not_eq_true]
  intro hgap
  simp only [isGap, isBlank, isBreak, Bool.or_eq_true, beq_iff_eq] at hgap
  rcases hgap with (rfl | rfl) | (((rfl | rfl) | rfl) | rfl) | rfl <;> cases h

theorem isPrintable_of_between {c : Char} (least greatest : Char) (h : c.val ≥ least.val ∧ c.val ≤ greatest.val)
    (hleast : 0x20 ≤ least.val.toNat) (hgreatest : greatest.val.toNat ≤ 0x7e) : isPrintable c = true := by
  have hrange : 0x20 ≤ c.toNat ∧ c.toNat ≤ 0x7e := ⟨Nat.le_trans hleast h.1, Nat.le_trans h.2 hgreatest⟩
  simp [isPrintable, hrange.1, hrange.2]

theorem isPrintable_of_isAlphanum {c : Char} (h : c.isAlphanum = true) : isPrintable c = true := by
  rcases (Bool.or_eq_true ..).mp h with hletter | hdigit
  · rcases (Bool.or_eq_true ..).mp hletter with hcapital | hsmall
    · exact isPrintable_of_between 'A' 'Z' (of_decide_eq_true hcapital) (by decide) (by decide)
    · exact isPrintable_of_between 'a' 'z' (((Bool.and_eq_true ..).mp hsmall).imp of_decide_eq_true of_decide_eq_true)
        (by decide) (by decide)
  · exact isPrintable_of_between '0' '9' (((Bool.and_eq_true ..).mp hdigit).imp of_decide_eq_true of_decide_eq_true)
      (by decide) (by decide)

theorem ne_of_isAlphanum {c d : Char} (hc : c.isAlphanum = true) (hd : d.isAlphanum = false) : c ≠ d := by
  rintro rfl
  cases hc.symm.trans hd

/-! ## Texts in quotes -/

theorem charOfCode?_toNat (c : Char) : charOfCode? c.toNat = some c := by
  have hvalid : c.toNat.isValidChar := c.valid
  rw [charOfCode?, if_pos hvalid, Char.ofNat_toNat]

/-- Behind blanks, a blank is added to them. -/
theorem doubleQuoted?_blank {back blanks rest : List Char} {m : Mark} (hm : m.column ≠ 0) :
    doubleQuoted? back { blanks } m (' ' :: rest)
      = doubleQuoted? back { blanks := blanks ++ [' '] } (m.next ' ') rest := by
  simp [doubleQuoted?, hm, isBlank, Gap.addBlank]

theorem doubleQuoted?_escape {back rest : List Char} {gap : Gap} {m : Mark} {l c : Char} (hl : isBreak l = false)
    (h : escape? l rest = some c) :
    doubleQuoted? back gap m ('\\' :: l :: rest) = doubleQuoted? (c :: gap.behind back) {}
      (m.past ('\\' :: l :: rest.take (codeLength l))) (rest.drop (codeLength l)) := by
  rw [doubleQuoted?.eq_4, if_neg (by rw [hl]; decide), h]
  rintro tail rfl rfl
  cases hl

theorem doubleQuoted?_plain {back rest : List Char} {gap : Gap} {m : Mark} {c : Char} (hm : m.column ≠ 0)
    (hblank : isBlank c = false) (hbreak : isBreak c = false) (hquote : c ≠ '"') (hbackslash : c ≠ '\\') :
    doubleQuoted? back gap m (c :: rest) = doubleQuoted? (c :: gap.behind back) {} (m.next c) rest := by
  rw [doubleQuoted?.eq_5]
  · simp [hm, hblank, hbreak, hquote, hbackslash]
  · rintro tail rfl
    cases hbreak
  · exact fun _ hc => absurd hc hbackslash
  · exact fun _ _ hc => absurd hc hbackslash

/-- A control character is written by its code. -/
theorem escape?_code {c : Char} (h : c.toNat < 0x20) (rest : List Char) :
    escape? 'u' (Digits.hexDigits 4 c.toNat ++ rest) = some c := by
  have hlength := Digits.length_hexDigits 4 c.toNat
  have hcode : Digits.readHex? (Digits.hexDigits 4 c.toNat) = some c.toNat :=
    Digits.readHex?_hexDigits 4 c.toNat (by show c.toNat < 65536; omega)
  have hlong : ¬ (Digits.hexDigits 4 c.toNat ++ rest).length < 4 := by
    rw [List.length_append]
    omega
  have htake : (Digits.hexDigits 4 c.toNat ++ rest).take 4 = Digits.hexDigits 4 c.toNat := List.take_left' hlength
  have hescape : escape? 'u' (Digits.hexDigits 4 c.toNat ++ rest) =
      if (Digits.hexDigits 4 c.toNat ++ rest).length < 4 then none
      else (Digits.readHex? ((Digits.hexDigits 4 c.toNat ++ rest).take 4)).bind charOfCode? := rfl
  rw [hescape, if_neg hlong, htake, hcode, Option.bind_some, charOfCode?_toNat]

theorem doubleQuoted?_escapeChar {back blanks rest : List Char} {m : Mark} {c : Char} (h : isQuotable c = true)
    (hc : c ≠ ' ') (hm : m.column ≠ 0) :
    doubleQuoted? back { blanks } m (escapeChar c ++ rest)
      = doubleQuoted? (c :: blanks.reverseAux back) {} (m.past (escapeChar c)) rest := by
  unfold escapeChar
  split
  · next l hl =>
      unfold Json.escapeLetter? at hl
      split at hl <;> cases hl <;> exact doubleQuoted?_escape rfl rfl
  · next hl =>
      have hquote : c ≠ '"' := by
        rintro rfl
        cases hl
      have hbackslash : c ≠ '\\' := by
        rintro rfl
        cases hl
      split
      · next hcontrol =>
          have hlength := Digits.length_hexDigits 4 c.toNat
          have hwidth : codeLength 'u' = 4 := rfl
          rw [List.cons_append, List.cons_append, doubleQuoted?_escape rfl (escape?_code hcontrol rest), hwidth,
            List.take_left' hlength, List.drop_left' hlength]
          rfl
      · next hplain =>
          have hcontrol := Nat.not_lt.mp hplain
          exact doubleQuoted?_plain hm (isBlank_of_not_control hcontrol hc) (isBreak_of_isQuotable h hcontrol) hquote
            hbackslash

/-- A quoted text is read up to its closing quote. -/
theorem doubleQuoted?_quoted {text back blanks rest : List Char} {m : Mark} (h : ∀ c ∈ text, isQuotable c = true)
    (hm : m.column ≠ 0) :
    doubleQuoted? back { blanks } m (text.flatMap escapeChar ++ '"' :: rest)
      = some ((blanks.reverseAux back).reverse ++ text,
          { mark := m.past (text.flatMap escapeChar ++ ['"']), rest }) := by
  induction text generalizing back blanks m with
  | nil => simp [doubleQuoted?, hm, isBlank, isBreak, Gap.behind, Gap.text, Mark.past]
  | cons c text ih =>
      -- a space joins the blanks that are kept back, any other character is preceded by them
      obtain ⟨hc, htext⟩ := List.forall_mem_cons.mp h
      have hcolumn : (m.past (escapeChar c)).column ≠ 0 := by
        rw [Mark.column_past]
        omega
      rw [List.flatMap_cons, List.append_assoc, List.append_assoc, Mark.past_append]
      by_cases hblank : c = ' '
      · subst hblank
        have hspace : escapeChar ' ' = [' '] := rfl
        rw [hspace] at hcolumn ⊢
        rw [List.singleton_append, doubleQuoted?_blank hm, ← Mark.past_singleton, ih htext hcolumn]
        simp [List.append_assoc]
      · rw [doubleQuoted?_escapeChar hc hblank hm, ih htext hcolumn]
        simp [List.append_assoc]

theorem isPrintable_of_mem_hexDigits {width n : Nat} {c : Char} (h : c ∈ Digits.hexDigits width n) :
    isPrintable c = true := by
  have hdigit : ∀ m < 16, isPrintable (Nat.digitChar m) = true := by decide
  induction width generalizing n with
  | zero => cases h
  | succ width ih =>
      rcases List.mem_append.mp h with h | h
      · exact ih h
      · rw [List.mem_singleton.mp h]
        exact hdigit _ (Nat.mod_lt n (by decide))

theorem isPrintable_of_mem_escapeChar {c d : Char} (h : isQuotable d = true) (hc : c ∈ escapeChar d) :
    isPrintable c = true := by
  unfold escapeChar at hc
  split at hc
  · next l hl =>
      unfold Json.escapeLetter? at hl
      split at hl <;> cases hl <;> exact List.all_eq_true.mp rfl c hc
  · split at hc
    · rcases List.mem_cons.mp hc with rfl | hc
      · rfl
      · rcases List.mem_cons.mp hc with rfl | hc
        · rfl
        · exact isPrintable_of_mem_hexDigits hc
    · next hplain =>
        rw [List.mem_singleton.mp hc]
        simp only [isQuotable, Bool.or_eq_true, decide_eq_true_eq, Bool.and_eq_true] at h
        exact (h.resolve_left hplain).1

theorem isPrintable_of_mem_quoted {text : List Char} (h : ∀ c ∈ text, isQuotable c = true) :
    ∀ c ∈ '"' :: (text.flatMap escapeChar ++ ['"']), isPrintable c = true := by
  refine List.forall_mem_cons.mpr ⟨rfl, List.forall_mem_append.mpr ⟨?_, List.forall_mem_singleton.mpr rfl⟩⟩
  intro c hc
  obtain ⟨d, hd, hc⟩ := List.mem_flatMap.mp hc
  exact isPrintable_of_mem_escapeChar (h d hd) hc

/-! ## Plain scalars -/

/-- Whether a character stands in a plain scalar wherever it is: no blank, no line end, no colon and no bracket. -/
def isWordChar (c : Char) : Bool := isPrintable c && !isGap c && c != ':' && !isFlowIndicator c

theorem isPrintable_of_isWordChar {c : Char} (h : isWordChar c = true) : isPrintable c = true := by
  simp only [isWordChar, Bool.and_eq_true] at h
  exact h.1.1.1

theorem plain?_word {inFlow : Bool} {indent : Int} {word back rest : List Char} {m : Mark}
    (h : ∀ c ∈ word, isWordChar c = true) (hrest : Stops rest) (hflow : inFlow = true ∨ rest = []) :
    plain? inFlow indent back {} m (word ++ rest)
      = some (back.reverse ++ word, false, { mark := m.past word, rest }) := by
  induction word generalizing back m with
  | nil =>
      cases rest with
      | nil => simp [plain?, Mark.past]
      | cons c rest =>
          obtain rfl : inFlow = true := hflow.resolve_right (List.cons_ne_nil c rest)
          rcases hrest with rfl | rfl | rfl <;>
            simp [plain?, Mark.past, isBlank, isBreak, Gap.isEmpty, isLoneColon, endsPlain, isFlowIndicator]
  | cons c word ih =>
      obtain ⟨hc, hword⟩ := List.forall_mem_cons.mp h
      simp only [isWordChar, isGap, Bool.and_eq_true, Bool.not_eq_true', Bool.or_eq_false_iff, bne_iff_ne] at hc
      obtain ⟨⟨⟨-, hblank, hbreak⟩, hcolon⟩, hindicator⟩ := hc
      have hlone : isLoneColon inFlow (c :: (word ++ rest)) = false := by
        unfold isLoneColon
        split
        · next heq => exact absurd (List.cons.inj heq).1 hcolon
        · rfl
      have hends : endsPlain inFlow (c :: (word ++ rest)) = false := by
        simp [endsPlain, hcolon, hindicator]
      have hstep : plain? inFlow indent back {} m (c :: (word ++ rest)) =
          plain? inFlow indent (c :: back) {} (m.next c) (word ++ rest) := by
        rw [plain?.eq_3]
        · simp [hblank, hbreak, hlone, hends, Gap.isEmpty, Gap.behind, Gap.text]
        · rintro tail rfl
          cases hbreak
      rw [List.cons_append, hstep, ih hword, List.reverse_cons, List.append_assoc, List.singleton_append,
        Mark.past_cons]

theorem isWordChar_of_isAlphanum {c : Char} (h : c.isAlphanum = true) : isWordChar c = true := by
  have hflow : isFlowIndicator c = false := by
    simp only [isFlowIndicator, Bool.or_eq_false_iff, beq_eq_false_iff_ne]
    exact ⟨⟨⟨⟨ne_of_isAlphanum h rfl, ne_of_isAlphanum h rfl⟩, ne_of_isAlphanum h rfl⟩, ne_of_isAlphanum h rfl⟩,
      ne_of_isAlphanum h rfl⟩
  have hcolon : c ≠ ':' := ne_of_isAlphanum h rfl
  simp [isWordChar, isPrintable_of_isAlphanum h, isGap_of_isAlphanum h, hcolon, hflow]

theorem startsMarker_of_isAlphanum {c : Char} {cs : List Char} (h : c.isAlphanum = true) :
    startsMarker (c :: cs) = false := by
  have hne {d : Char} {rest : List Char} (hd : d.isAlphanum = false) (heq : c :: cs = d :: rest) : False :=
    ne_of_isAlphanum h hd (List.cons.inj heq).1
  exact startsMarker.eq_3 _ (fun _ => hne rfl) (fun _ => hne rfl)

theorem mayBeginPlain_of_isAlphanum {inFlow : Bool} {c : Char} {cs : List Char} (h : c.isAlphanum = true) :
    mayBeginPlain inFlow (c :: cs) = true := by
  have hne {d : Char} (hd : d.isAlphanum = false) : (c == d) = false :=
    beq_eq_false_iff_ne.mpr (ne_of_isAlphanum h hd)
  have hindicator : indicators.contains c = false := by
    have hall : indicators.all (fun d => !d.isAlphanum) = true := rfl
    rw [← Bool.not_eq_true, List.contains_iff_mem]
    intro hmem
    simpa [h] using List.all_eq_true.mp hall c hmem
  rw [mayBeginPlain.eq_3 _ _ _ (ne_of_isAlphanum h rfl), hne rfl, hne rfl, isGap_of_isAlphanum h, hindicator]
  rfl

/-- Whether a text begins with a letter or a digit, perhaps behind a minus. -/
def beginsWord : List Char → Bool
  | '-' :: c :: _ => c.isDigit
  | c :: _ => c.isAlphanum
  | [] => false

theorem beginsWord_cons {c : Char} {cs : List Char} (h : beginsWord (c :: cs) = true) :
    (c = '-' ∧ ∃ d ds, cs = d :: ds ∧ d.isDigit = true) ∨ c.isAlphanum = true := by
  by_cases hminus : c = '-'
  · subst hminus
    cases cs with
    | nil => cases h
    | cons d ds => exact .inl ⟨rfl, d, ds, rfl, h⟩
  · rw [beginsWord.eq_2] at h
    · exact .inr h
    · rintro d ds rfl
      exact absurd rfl hminus

theorem isWordChar_of_mem_int {n : Int} : ∀ c ∈ chars (.int n), isWordChar c = true := by
  intro c hc
  have hdigit {c : Char} (hc : c ∈ Digits.decimal n.natAbs) : isWordChar c = true :=
    isWordChar_of_isAlphanum (by rw [Char.isAlphanum, Digits.isDigit_of_mem_decimal hc, Bool.or_true])
  have hchars : chars (.int n) = _ := Json.NumberToken.toList_toString n
  rw [hchars] at hc
  split at hc
  · rcases List.mem_cons.mp hc with rfl | hc
    · rfl
    · exact hdigit hc
  · exact hdigit hc

theorem beginsWord_int (n : Int) (rest : List Char) : beginsWord (chars (.int n) ++ rest) = true := by
  have hchars : chars (.int n) = _ := Json.NumberToken.toList_toString n
  obtain ⟨c, cs, hcs, hdigit⟩ := Digits.exists_digit_decimal n.natAbs
  rw [hchars, hcs]
  split
  · exact hdigit
  · rw [List.cons_append, beginsWord.eq_2]
    · rw [Char.isAlphanum, hdigit, Bool.or_true]
    · rintro d tail rfl
      cases hdigit

end Clearing.Yaml
