import Clearing.Json.Reader
import Clearing.Json.Writer
import Clearing.Proofs.Lemmas.Digits

/-!
# JSON texts that are read again

The compact text of a value is read as the value again, as far as a text can hold it: its numbers are integers of
64 bits, the members of its objects are in order, and it is not nested too deeply. A value that is nested too deeply is
not read at all.
-/

namespace Clearing.Json

/-! ## What a text can hold -/

mutual

/-- Values that a text holds without loss: integers of 64 bits, and objects with their members in order. -/
def Exact : Json → Prop
  | .int n => -0x8000000000000000 ≤ n ∧ n < 0x10000000000000000
  | .float _ => False
  | .array items => ExactItems items
  | .object members => (members.Pairwise fun a b => a.1 < b.1) ∧ ExactMembers members
  | _ => True

/-- Lists of such values. -/
def ExactItems : List Json → Prop
  | [] => True
  | v :: rest => Exact v ∧ ExactItems rest

/-- Members with such values. -/
def ExactMembers : List (String × Json) → Prop
  | [] => True
  | (_, v) :: rest => Exact v ∧ ExactMembers rest

end

mutual

/-- How many arrays and objects lie around the innermost part of a value. -/
def depth : Json → Nat
  | .array items => depthOfItems items + 1
  | .object members => depthOfMembers members + 1
  | _ => 0

/-- The largest depth of a list of values. -/
def depthOfItems : List Json → Nat
  | [] => 0
  | v :: rest => max (depth v) (depthOfItems rest)

/-- The largest depth of the values of members. -/
def depthOfMembers : List (String × Json) → Nat
  | [] => 0
  | (_, v) :: rest => max (depth v) (depthOfMembers rest)

end

theorem depthOfItems_le_iff {v : Json} {items : List Json} {n : Nat} :
    depthOfItems (v :: items) ≤ n ↔ depth v ≤ n ∧ depthOfItems items ≤ n := Nat.max_le

theorem depthOfMembers_le_iff {name : String} {v : Json} {members : List (String × Json)} {n : Nat} :
    depthOfMembers ((name, v) :: members) ≤ n ↔ depth v ≤ n ∧ depthOfMembers members ≤ n := Nat.max_le

/-- Behind a value, a text is at its end, or goes on with a comma, a bracket or a brace. -/
def Stops : List Char → Prop
  | [] => True
  | c :: _ => c = ',' ∨ c = ']' ∨ c = '\x7d'

theorem Stops.comma (rest : List Char) : Stops (',' :: rest) := .inl rfl

theorem Stops.bracket (rest : List Char) : Stops (']' :: rest) := .inr (.inl rfl)

theorem Stops.brace (rest : List Char) : Stops ('\x7d' :: rest) := .inr (.inr rfl)

/-! ## Texts in quotes -/

theorem textBody?_escapeChar (fuel : Nat) (c : Char) (tail : List Char) :
    textBody? (fuel + 1) (escapeChar c ++ tail) = (textBody? fuel tail).map fun p => (c :: p.1, p.2) := by
  unfold escapeChar
  split
  · next l hl =>
      unfold escapeLetter? at hl
      rw [Option.map_eq_bind]
      split at hl <;> cases hl <;> rfl
  · next hl =>
      split
      · next hcontrol =>
          have hcode : Digits.readHex? (Digits.hexDigits 4 c.toNat) = some c.toNat :=
            Digits.readHex?_hexDigits 4 c.toNat (by show c.toNat < 65536; omega)
          have hhigh : ¬ (0xD800 ≤ c.toNat ∧ c.toNat < 0xDC00) := by omega
          have hlow : ¬ (0xDC00 ≤ c.toNat ∧ c.toNat < 0xE000) := by omega
          simp only [Digits.hexDigits, List.nil_append, List.cons_append] at hcode ⊢
          rw [textBody?.eq_4, code?, hcode, Option.map_eq_bind]
          simp only [Option.bind_eq_bind, Option.bind_some, if_neg hhigh, if_neg hlow, Char.ofNat_toNat]
          rfl
      · next hplain =>
          have hquote : c ≠ '"' := by
            rintro rfl
            cases hl
          have hbackslash : c ≠ '\\' := by
            rintro rfl
            cases hl
          have hallowed : ¬ (c == '\\' || decide (c.toNat < 0x20)) = true := by
            rw [beq_false_of_ne hbackslash, decide_eq_false hplain]
            exact Bool.false_ne_true
          rw [List.singleton_append, textBody?.eq_6 _ _ _ hquote (fun _ _ _ _ _ h _ => hbackslash h)
            (fun _ _ h _ => hbackslash h), if_neg hallowed, Option.map_eq_bind]
          rfl

theorem length_escaped (cs : List Char) : cs.length ≤ (cs.flatMap escapeChar).length := by
  induction cs with
  | nil => exact Nat.le_refl 0
  | cons c cs ih =>
      have hc : 0 < (escapeChar c).length := by
        unfold escapeChar
        split
        · simp
        · split <;> simp
      rw [List.flatMap_cons, List.length_append, List.length_cons]
      omega

theorem textBody?_escaped (cs rest : List Char) {fuel : Nat} (h : cs.length < fuel) :
    textBody? fuel (cs.flatMap escapeChar ++ '"' :: rest) = some (cs, rest) := by
  induction cs generalizing fuel with
  | nil =>
      obtain ⟨fuel, rfl⟩ := Nat.exists_eq_succ_of_ne_zero (Nat.ne_of_gt h)
      simp [textBody?]
  | cons c cs ih =>
      obtain ⟨fuel, rfl⟩ := Nat.exists_eq_succ_of_ne_zero (Nat.ne_of_gt (Nat.zero_lt_of_lt h))
      rw [List.flatMap_cons, List.append_assoc, textBody?_escapeChar, ih (Nat.lt_of_succ_lt_succ h)]
      rfl

theorem textBody?_quoted (cs rest : List Char) :
    textBody? ((cs.flatMap escapeChar ++ '"' :: rest).length + 1) (cs.flatMap escapeChar ++ '"' :: rest)
      = some (cs, rest) := by
  have hfuel : cs.length < (cs.flatMap escapeChar ++ '"' :: rest).length + 1 := by
    have hescaped := length_escaped cs
    rw [List.length_append, List.length_cons]
    omega
  exact textBody?_escaped cs rest hfuel

/-! ## Numbers -/

namespace NumberToken

/-- The token of an integer's digits. -/
def ofDigits (negative : Bool) (ds : List Char) : NumberToken where
  negative := negative
  whole := ds
  fraction := []
  exponent := none

theorem appendDigits_eq {n : Nat} {ds : List Char} (h : Nat.ofDigitChars 10 ds n < UInt64.size) :
    appendDigits n ds = (Nat.ofDigitChars 10 ds n, ds.length) := by
  induction ds generalizing n with
  | nil => rfl
  | cons c ds ih =>
      rw [Nat.ofDigitChars_cons] at h ⊢
      have hnext : 10 * n + (c.toNat - '0'.toNat) < UInt64.size := by
        rw [Nat.ofDigitChars_eq_ofDigitChars_zero] at h
        exact Nat.lt_of_le_of_lt
          (Nat.le_trans (Nat.le_mul_of_pos_left _ (Nat.pow_pos (by decide))) (Nat.le_add_right ..)) h
      simp only [appendDigits, if_pos hnext, ih h, List.length_cons]

theorem wholeOk_decimal (n : Nat) : wholeOk (Digits.decimal n) = true := by
  rcases Nat.eq_zero_or_pos n with rfl | hn
  · rfl
  · obtain ⟨c, ds, hds, hc⟩ := Digits.exists_head_decimal hn
    simp [wholeOk, hds, hc]

theorem takeWhile_decimal (n : Nat) {rest : List Char} (h : Stops rest) :
    (Digits.decimal n ++ rest).takeWhile Char.isDigit = Digits.decimal n ∧
      (Digits.decimal n ++ rest).dropWhile Char.isDigit = rest := by
  rw [List.takeWhile_append_of_pos fun _ => Digits.isDigit_of_mem_decimal,
    List.dropWhile_append_of_pos fun _ => Digits.isDigit_of_mem_decimal]
  cases rest with
  | nil => simp
  | cons c rest => rcases h with rfl | rfl | rfl <;> simp

theorem fraction?_of_stops {rest : List Char} (h : Stops rest) : fraction? rest = some ([], rest) := by
  cases rest with
  | nil => rfl
  | cons c rest => rcases h with rfl | rfl | rfl <;> rfl

theorem exponent?_of_stops {rest : List Char} (h : Stops rest) : exponent? rest = some (none, rest) := by
  cases rest with
  | nil => rfl
  | cons c rest => rcases h with rfl | rfl | rfl <;> rfl

theorem take?_minus (n : Nat) {rest : List Char} (h : Stops rest) :
    take? ('-' :: Digits.decimal n ++ rest) = some (ofDigits true (Digits.decimal n), rest) := by
  obtain ⟨htake, hdrop⟩ := takeWhile_decimal n h
  simp [take?, htake, hdrop, wholeOk_decimal, fraction?_of_stops h, exponent?_of_stops h, ofDigits]

theorem take?_decimal (n : Nat) {rest : List Char} (h : Stops rest) :
    take? (Digits.decimal n ++ rest) = some (ofDigits false (Digits.decimal n), rest) := by
  obtain ⟨htake, hdrop⟩ := takeWhile_decimal n h
  have hunsigned : ∀ tail, Digits.decimal n ++ rest ≠ '-' :: tail := by
    intro tail htail
    rw [htail] at htake
    exact Digits.decimal_ne_nil n htake.symm
  simp [take?, htake, hdrop, wholeOk_decimal, fraction?_of_stops h, exponent?_of_stops h, ofDigits]

/-- The digits of an integer, behind its sign. -/
theorem toList_toString (n : Int) :
    (toString n).toList = if n < 0 then '-' :: Digits.decimal n.natAbs else Digits.decimal n.natAbs := by
  cases n with
  | ofNat m =>
      have hnonneg : ¬ (Int.ofNat m < 0) := Int.not_lt.mpr (Int.natCast_nonneg m)
      rw [if_neg hnonneg]
      exact Nat.toList_repr
  | negSucc m =>
      have hrepr : toString (Int.negSucc m) = "-" ++ Nat.repr (m + 1) := rfl
      rw [if_pos (Int.negSucc_lt_zero m), hrepr, String.toList_append, Nat.toList_repr]
      rfl

theorem take?_toString (n : Int) {rest : List Char} (h : Stops rest) :
    take? ((toString n).toList ++ rest) = some (ofDigits (n < 0) (Digits.decimal n.natAbs), rest) := by
  rw [toList_toString]
  by_cases hneg : n < 0
  · rw [if_pos hneg, take?_minus _ h, decide_eq_true hneg]
  · rw [if_neg hneg, take?_decimal _ h, decide_eq_false hneg]

theorem appendDigits_decimal {n : Nat} (h : n < UInt64.size) :
    appendDigits 0 (Digits.decimal n) = (n, (Digits.decimal n).length) := by
  have hvalue : Nat.ofDigitChars 10 (Digits.decimal n) 0 = n := Digits.value_decimal n
  rw [appendDigits_eq (by rwa [hvalue]), hvalue]

theorem value?_negative {n : Nat} (hpos : 0 < n) (hsize : n ≤ 0x8000000000000000) :
    (ofDigits true (Digits.decimal n)).value? = some (.int (-n)) := by
  have hlt : n < UInt64.size := Nat.lt_of_le_of_lt hsize (by decide)
  have hleast : (-0x8000000000000000 : Int) ≤ -(n : Int) := by omega
  have hne : (n != 0) = true := bne_iff_ne.mpr (Nat.ne_of_gt hpos)
  simp only [value?, ofDigits, appendDigits_decimal hlt, Nat.sub_self, hne, decide_eq_true hleast, List.isEmpty_nil,
    Option.isNone_none, Bool.not_true, Bool.false_or, Bool.and_true, beq_self_eq_true, if_true]

theorem value?_natural {n : Nat} (hsize : n < 0x10000000000000000) :
    (ofDigits false (Digits.decimal n)).value? = some (.int n) := by
  have hleast : (-0x8000000000000000 : Int) ≤ (n : Int) := by omega
  simp only [value?, ofDigits, appendDigits_decimal hsize, Nat.sub_self, decide_eq_true hleast, List.isEmpty_nil,
    Option.isNone_none, Bool.not_false, Bool.true_or, Bool.and_true, beq_self_eq_true, if_true, Bool.false_eq_true,
    if_false]

theorem value?_ofDigits {n : Int} (hleast : -0x8000000000000000 ≤ n) (hgreatest : n < 0x10000000000000000) :
    (ofDigits (n < 0) (Digits.decimal n.natAbs)).value? = some (.int n) := by
  by_cases hneg : n < 0
  · have hsigned : -(n.natAbs : Int) = n := by omega
    rw [decide_eq_true hneg, value?_negative (by omega) (by omega), hsigned]
  · have hsigned : (n.natAbs : Int) = n := by omega
    rw [decide_eq_false hneg, value?_natural (by omega), hsigned]

end NumberToken

/-- A number begins with a sign or a digit. -/
theorem exists_head_toString (n : Int) : ∃ c cs, (toString n).toList = c :: cs ∧ (c = '-' ∨ c.isDigit = true) := by
  rw [NumberToken.toList_toString]
  split
  · exact ⟨_, _, rfl, .inl rfl⟩
  · obtain ⟨c, cs, hcs, hdigit⟩ := Digits.exists_digit_decimal n.natAbs
    exact ⟨c, cs, hcs, .inr hdigit⟩

theorem isBlank_of_number {c : Char} (h : c = '-' ∨ c.isDigit = true) : isBlank c = false := by
  rw [← Bool.not_eq_true]
  intro hblank
  simp only [isBlank, Bool.or_eq_true, beq_iff_eq] at hblank
  rcases hblank with ((rfl | rfl) | rfl) | rfl <;> simp at h

theorem value?_of_number {c : Char} (h : c = '-' ∨ c.isDigit = true) (fuel room : Nat) (cs : List Char) :
    value? (fuel + 1) room (c :: cs) =
      (NumberToken.take? (c :: cs)).bind fun p => p.1.value?.map fun v => (v, p.2) := by
  have hskip : skipBlanks (c :: cs) = c :: cs := by simp [skipBlanks, isBlank_of_number h]
  rw [value?, hskip]
  split
  all_goals first
    | next heq =>
        obtain ⟨rfl, -⟩ := List.cons.inj heq
        simp at h
    | simp only [Option.map_eq_bind]
      rfl

/-! ## Values -/

/-- The characters of a value's text. -/
def chars (v : Json) : List Char := v.compact.toList

/-- The characters of the texts of items, with commas in between. -/
def charsOfItems (items : List Json) : List Char := [','].intercalate ((compactItems items).map String.toList)

/-- The characters of the texts of members, with commas in between. -/
def charsOfMembers (members : List (String × Json)) : List Char :=
  [','].intercalate ((compactMembers members).map String.toList)

theorem chars_string (s : String) : chars (.string s) = '"' :: (s.toList.flatMap escapeChar ++ ['"']) := by
  simp [chars, compact, quoted]

theorem chars_array (items : List Json) : chars (.array items) = '[' :: (charsOfItems items ++ [']']) := by
  simp [chars, compact, charsOfItems]

theorem chars_object (members : List (String × Json)) :
    chars (.object members) = '\x7b' :: (charsOfMembers members ++ ['\x7d']) := by
  simp [chars, compact, charsOfMembers]

theorem charsOfItems_single (v : Json) : charsOfItems [v] = chars v := by
  simp [charsOfItems, compactItems, chars]

theorem charsOfItems_cons (v w : Json) (rest : List Json) :
    charsOfItems (v :: w :: rest) = chars v ++ ',' :: charsOfItems (w :: rest) := by
  simp [charsOfItems, compactItems, chars]

theorem charsOfMembers_single (name : String) (v : Json) :
    charsOfMembers [(name, v)] = '"' :: (name.toList.flatMap escapeChar ++ '"' :: ':' :: chars v) := by
  simp [charsOfMembers, compactMembers, chars, quoted]

theorem charsOfMembers_cons (name : String) (v : Json) (m : String × Json) (rest : List (String × Json)) :
    charsOfMembers ((name, v) :: m :: rest) =
      '"' :: (name.toList.flatMap escapeChar ++ '"' :: ':' :: (chars v ++ ',' :: charsOfMembers (m :: rest))) := by
  simp [charsOfMembers, compactMembers, chars, quoted]

theorem exists_head_chars {v : Json} (h : v.Exact) :
    ∃ c cs, chars v = c :: cs ∧ isBlank c = false ∧ c ≠ ']' := by
  cases v with
  | null => exact ⟨'n', _, rfl, rfl, by decide⟩
  | bool b => cases b <;> exact ⟨_, _, rfl, rfl, by decide⟩
  | int n =>
      obtain ⟨c, cs, hcs, hc⟩ := exists_head_toString n
      have hchars : chars (.int n) = c :: cs := hcs
      have hbracket : c ≠ ']' := by
        rintro rfl
        simp at hc
      exact ⟨c, cs, hchars, isBlank_of_number hc, hbracket⟩
  | float x => exact absurd h (by simp [Exact])
  | string s => exact ⟨_, _, chars_string s, rfl, by decide⟩
  | array items => exact ⟨_, _, chars_array items, rfl, by decide⟩
  | object members => exact ⟨_, _, chars_object members, rfl, by decide⟩

theorem insertMember_of_lt {name : String} {v : Json} {members : List (String × Json)}
    (h : ∀ m ∈ members, m.1 < name) : insertMember name v members = members ++ [(name, v)] := by
  induction members with
  | nil => rfl
  | cons m rest ih =>
      obtain ⟨hm, hrest⟩ := List.forall_mem_cons.mp h
      have hne : name ≠ m.1 := by
        rintro rfl
        exact String.lt_irrefl _ hm
      rw [insertMember, if_neg (String.lt_asymm hm), if_neg hne, ih hrest, List.cons_append]

/-- Members that are in order stay as they are. -/
theorem ofMembers_of_sorted {members : List (String × Json)} (h : members.Pairwise fun a b => a.1 < b.1) :
    ofMembers members = .object members := by
  suffices hfold : ∀ acc : List (String × Json), (acc ++ members).Pairwise (fun a b => a.1 < b.1) →
      members.foldl (fun acc m => insertMember m.1 m.2 acc) acc = acc ++ members from
    congrArg Json.object (hfold [] h)
  clear h
  induction members with
  | nil => exact fun acc _ => (List.append_nil acc).symm
  | cons m rest ih =>
      intro acc hacc
      have hlast : ∀ x ∈ acc, x.1 < m.1 := fun x hx =>
        (List.pairwise_append.mp hacc).2.2 x hx m List.mem_cons_self
      rw [List.append_cons] at hacc
      rw [List.foldl_cons, insertMember_of_lt hlast, ih _ hacc, List.append_assoc, List.singleton_append]

section Steps

variable {fuel room : Nat}

theorem value?_quote {tail rest cs : List Char} (h : textBody? (tail.length + 1) tail = some (cs, rest)) :
    value? (fuel + 1) room ('"' :: tail) = some (.string (String.ofList cs), rest) := by
  have hstep : value? (fuel + 1) room ('"' :: tail) =
      (textBody? (tail.length + 1) tail).bind fun p => some (.string (String.ofList p.1), p.2) := rfl
  rw [hstep, h, Option.bind_some]

theorem value?_bracket {c : Char} {cs : List Char} (hblank : isBlank c = false) (hc : c ≠ ']') :
    value? (fuel + 1) room ('[' :: c :: cs) =
      if room = 0 then none else (items? fuel (room - 1) (c :: cs)).map fun p => (.array p.1, p.2) := by
  have hskip : skipBlanks (c :: cs) = c :: cs := by simp [skipBlanks, hblank]
  have hbracket : skipBlanks ('[' :: c :: cs) = '[' :: c :: cs := rfl
  simp only [value?, hbracket, hskip]
  split
  · rfl
  · split
    · next heq => exact absurd (List.cons.inj heq).1 hc
    · rw [Option.map_eq_bind]
      rfl

theorem value?_brace (cs : List Char) :
    value? (fuel + 1) room ('\x7b' :: '"' :: cs) =
      if room = 0 then none else (members? fuel (room - 1) ('"' :: cs)).map fun p => (ofMembers p.1, p.2) := by
  have hstep : value? (fuel + 1) room ('\x7b' :: '"' :: cs) =
      if room = 0 then none
      else (members? fuel (room - 1) ('"' :: cs)).bind fun p => some (ofMembers p.1, p.2) := rfl
  rw [hstep, Option.map_eq_bind]
  rfl

theorem value?_null (rest : List Char) : value? (fuel + 1) room (chars .null ++ rest) = some (.null, rest) := rfl

theorem value?_bool (b : Bool) (rest : List Char) :
    value? (fuel + 1) room (chars (.bool b) ++ rest) = some (.bool b, rest) := by
  cases b <;> rfl

theorem value?_int {n : Int} (hn : Exact (.int n)) {rest : List Char} (h : Stops rest) :
    value? (fuel + 1) room (chars (.int n) ++ rest) = some (.int n, rest) := by
  obtain ⟨c, cs, hcs, hc⟩ := exists_head_toString n
  have htake := NumberToken.take?_toString n h
  have hchars : chars (.int n) = c :: cs := hcs
  rw [hcs, List.cons_append] at htake
  rw [hchars, List.cons_append, value?_of_number hc, htake, Option.bind_some,
    NumberToken.value?_ofDigits hn.1 hn.2, Option.map_some]

theorem value?_string (s : String) (rest : List Char) :
    value? (fuel + 1) room (chars (.string s) ++ rest) = some (.string s, rest) := by
  rw [chars_string, List.cons_append, List.append_assoc, List.singleton_append,
    value?_quote (textBody?_quoted s.toList rest), String.ofList_toList]

theorem items?_last {v : Json} {cs rest : List Char} (hv : value? fuel room cs = some (v, ']' :: rest)) :
    items? (fuel + 1) room cs = some ([v], rest) := by
  rw [items?, hv]
  rfl

theorem items?_more {v : Json} {cs rest : List Char} (hv : value? fuel room cs = some (v, ',' :: rest)) :
    items? (fuel + 1) room cs = (items? fuel room rest).map fun p => (v :: p.1, p.2) := by
  rw [items?, hv, Option.map_eq_bind]
  rfl

theorem items?_of_none {cs : List Char} (hv : value? fuel room cs = none) : items? (fuel + 1) room cs = none := by
  rw [items?, hv]
  rfl

section Members

variable {name : String} {v : Json} {cs rest : List Char}

theorem members?_last (hv : value? fuel room cs = some (v, '\x7d' :: rest)) :
    members? (fuel + 1) room ('"' :: (name.toList.flatMap escapeChar ++ '"' :: ':' :: cs)) =
      some ([(name, v)], rest) := by
  have hname := textBody?_quoted name.toList (':' :: cs)
  generalize name.toList.flatMap escapeChar ++ '"' :: ':' :: cs = text at hname ⊢
  have hquote : skipBlanks ('"' :: text) = '"' :: text := rfl
  have hcolon : skipBlanks (':' :: cs) = ':' :: cs := rfl
  have hbrace : skipBlanks ('\x7d' :: rest) = '\x7d' :: rest := rfl
  simp only [members?, hquote, hname, hcolon, hv, hbrace, Option.bind_eq_bind, Option.bind_some, String.ofList_toList]

theorem members?_more (hv : value? fuel room cs = some (v, ',' :: rest)) :
    members? (fuel + 1) room ('"' :: (name.toList.flatMap escapeChar ++ '"' :: ':' :: cs)) =
      (members? fuel room rest).map fun p => ((name, v) :: p.1, p.2) := by
  have hname := textBody?_quoted name.toList (':' :: cs)
  generalize name.toList.flatMap escapeChar ++ '"' :: ':' :: cs = text at hname ⊢
  have hquote : skipBlanks ('"' :: text) = '"' :: text := rfl
  have hcolon : skipBlanks (':' :: cs) = ':' :: cs := rfl
  have hcomma : skipBlanks (',' :: rest) = ',' :: rest := rfl
  simp only [members?, hquote, hname, hcolon, hv, hcomma, Option.bind_eq_bind, Option.bind_some, String.ofList_toList]
  rw [Option.map_eq_bind]
  rfl

theorem members?_of_none (hv : value? fuel room cs = none) :
    members? (fuel + 1) room ('"' :: (name.toList.flatMap escapeChar ++ '"' :: ':' :: cs)) = none := by
  have hname := textBody?_quoted name.toList (':' :: cs)
  generalize name.toList.flatMap escapeChar ++ '"' :: ':' :: cs = text at hname ⊢
  have hquote : skipBlanks ('"' :: text) = '"' :: text := rfl
  have hcolon : skipBlanks (':' :: cs) = ':' :: cs := rfl
  simp only [members?, hquote, hname, hcolon, hv, Option.bind_eq_bind, Option.bind_some, Option.bind_none]

end Members

end Steps

theorem exists_head_items {v : Json} (h : v.Exact) (items : List Json) :
    ∃ c cs, charsOfItems (v :: items) = c :: cs ∧ isBlank c = false ∧ c ≠ ']' := by
  obtain ⟨c, cs, hcs, hblank, hc⟩ := exists_head_chars h
  cases items with
  | nil => exact ⟨c, cs, by rw [charsOfItems_single, hcs], hblank, hc⟩
  | cons w rest => exact ⟨c, _, by rw [charsOfItems_cons, hcs, List.cons_append], hblank, hc⟩

theorem exists_head_members (m : String × Json) (members : List (String × Json)) :
    ∃ cs, charsOfMembers (m :: members) = '"' :: cs := by
  obtain ⟨name, v⟩ := m
  cases members with
  | nil => exact ⟨_, charsOfMembers_single name v⟩
  | cons m members => exact ⟨_, charsOfMembers_cons name v m members⟩

/-- With this much fuel, shorter texts are read as what they are written of, if there is room for its nesting. -/
structure Reads (fuel : Nat) : Prop where
  value : ∀ (v : Json) (room : Nat) (rest : List Char), v.Exact → (chars v).length < fuel → Stops rest →
    value? fuel room (chars v ++ rest) = if depth v ≤ room then some (v, rest) else none
  items : ∀ (v : Json) (items : List Json) (room : Nat) (rest : List Char), ExactItems (v :: items) →
    (charsOfItems (v :: items)).length + 1 < fuel →
    items? fuel room (charsOfItems (v :: items) ++ ']' :: rest) =
      if depthOfItems (v :: items) ≤ room then some (v :: items, rest) else none
  members : ∀ (name : String) (v : Json) (members : List (String × Json)) (room : Nat) (rest : List Char),
    ExactMembers ((name, v) :: members) → (charsOfMembers ((name, v) :: members)).length + 1 < fuel →
    members? fuel room (charsOfMembers ((name, v) :: members) ++ '\x7d' :: rest) =
      if depthOfMembers ((name, v) :: members) ≤ room then some ((name, v) :: members, rest) else none

namespace Reads

variable {fuel : Nat} (ih : Reads fuel) {room : Nat} {rest : List Char}
include ih

theorem array {v : Json} {items : List Json} (h : ExactItems (v :: items))
    (hfuel : (chars (.array (v :: items))).length < fuel + 1) :
    value? (fuel + 1) room (chars (.array (v :: items)) ++ rest) =
      if depth (.array (v :: items)) ≤ room then some (.array (v :: items), rest) else none := by
  obtain ⟨c, cs, hcs, hblank, hc⟩ := exists_head_items h.1 items
  rw [chars_array, List.length_cons, List.length_append] at hfuel
  have hitems := ih.items v items (room - 1) rest h (by simpa using hfuel)
  rw [chars_array, List.cons_append, List.append_assoc, List.singleton_append]
  rw [hcs, List.cons_append] at hitems ⊢
  rw [value?_bracket hblank hc, hitems]
  cases room with
  | zero => simp [depth]
  | succ room => by_cases hdepth : depthOfItems (v :: items) ≤ room <;> simp [depth, hdepth]

theorem object {name : String} {v : Json} {members : List (String × Json)} (h : Exact (.object ((name, v) :: members)))
    (hfuel : (chars (.object ((name, v) :: members))).length < fuel + 1) :
    value? (fuel + 1) room (chars (.object ((name, v) :: members)) ++ rest) =
      if depth (.object ((name, v) :: members)) ≤ room then some (.object ((name, v) :: members), rest) else none := by
  obtain ⟨cs, hcs⟩ := exists_head_members (name, v) members
  rw [chars_object, List.length_cons, List.length_append] at hfuel
  have hmembers := ih.members name v members (room - 1) rest h.2 (by simpa using hfuel)
  rw [chars_object, List.cons_append, List.append_assoc, List.singleton_append]
  rw [hcs, List.cons_append] at hmembers ⊢
  rw [value?_brace, hmembers]
  cases room with
  | zero => simp [depth]
  | succ room =>
      by_cases hdepth : depthOfMembers ((name, v) :: members) ≤ room <;>
        simp [depth, hdepth, ofMembers_of_sorted h.1]

theorem value_succ (v : Json) (h : v.Exact) (hfuel : (chars v).length < fuel + 1) (hrest : Stops rest) :
    value? (fuel + 1) room (chars v ++ rest) = if depth v ≤ room then some (v, rest) else none := by
  cases v with
  | null => exact (value?_null rest).trans (if_pos (Nat.zero_le room)).symm
  | bool b => exact (value?_bool b rest).trans (if_pos (Nat.zero_le room)).symm
  | int n => exact (value?_int h hrest).trans (if_pos (Nat.zero_le room)).symm
  | float x => exact h.elim
  | string s => exact (value?_string s rest).trans (if_pos (Nat.zero_le room)).symm
  | array items =>
      cases items with
      | nil => cases room <;> rfl
      | cons v items => exact ih.array h hfuel
  | object members =>
      cases members with
      | nil => cases room <;> rfl
      | cons m members => exact ih.object h hfuel

theorem items_succ (v : Json) (items : List Json) (h : ExactItems (v :: items))
    (hfuel : (charsOfItems (v :: items)).length + 1 < fuel + 1) :
    items? (fuel + 1) room (charsOfItems (v :: items) ++ ']' :: rest) =
      if depthOfItems (v :: items) ≤ room then some (v :: items, rest) else none := by
  cases items with
  | nil =>
      rw [charsOfItems_single] at hfuel ⊢
      have hv := ih.value v room (']' :: rest) h.1 (Nat.lt_of_succ_lt_succ hfuel) (.bracket rest)
      by_cases hdepth : depth v ≤ room
      · have hall : depthOfItems [v] ≤ room := depthOfItems_le_iff.mpr ⟨hdepth, Nat.zero_le room⟩
        rw [if_pos hdepth] at hv
        rw [items?_last hv, if_pos hall]
      · rw [if_neg hdepth] at hv
        rw [items?_of_none hv, if_neg fun h => hdepth (depthOfItems_le_iff.mp h).1]
  | cons w items =>
      rw [charsOfItems_cons, List.length_append, List.length_cons] at hfuel
      rw [charsOfItems_cons, List.append_assoc, List.cons_append]
      have hv := ih.value v room (',' :: (charsOfItems (w :: items) ++ ']' :: rest)) h.1 (by omega) (.comma _)
      have hitems := ih.items w items room rest h.2 (by omega)
      by_cases hdepth : depth v ≤ room
      · rw [if_pos hdepth] at hv
        rw [items?_more hv, hitems]
        by_cases hlater : depthOfItems (w :: items) ≤ room
        · rw [if_pos hlater, if_pos (depthOfItems_le_iff.mpr ⟨hdepth, hlater⟩), Option.map_some]
        · rw [if_neg hlater, if_neg fun h => hlater (depthOfItems_le_iff.mp h).2, Option.map_none]
      · rw [if_neg hdepth] at hv
        rw [items?_of_none hv, if_neg fun h => hdepth (depthOfItems_le_iff.mp h).1]

theorem members_succ (name : String) (v : Json) (members : List (String × Json))
    (h : ExactMembers ((name, v) :: members)) (hfuel : (charsOfMembers ((name, v) :: members)).length + 1 < fuel + 1) :
    members? (fuel + 1) room (charsOfMembers ((name, v) :: members) ++ '\x7d' :: rest) =
      if depthOfMembers ((name, v) :: members) ≤ room then some ((name, v) :: members, rest) else none := by
  cases members with
  | nil =>
      rw [charsOfMembers_single] at hfuel ⊢
      simp only [List.length_cons, List.length_append] at hfuel
      simp only [List.cons_append, List.append_assoc]
      have hv := ih.value v room ('\x7d' :: rest) h.1 (by omega) (.brace rest)
      by_cases hdepth : depth v ≤ room
      · have hall : depthOfMembers [(name, v)] ≤ room := depthOfMembers_le_iff.mpr ⟨hdepth, Nat.zero_le room⟩
        rw [if_pos hdepth] at hv
        rw [members?_last hv, if_pos hall]
      · rw [if_neg hdepth] at hv
        rw [members?_of_none hv, if_neg fun h => hdepth (depthOfMembers_le_iff.mp h).1]
  | cons m members =>
      obtain ⟨name', w⟩ := m
      rw [charsOfMembers_cons] at hfuel ⊢
      simp only [List.length_cons, List.length_append] at hfuel
      simp only [List.cons_append, List.append_assoc]
      have hv := ih.value v room (',' :: (charsOfMembers ((name', w) :: members) ++ '\x7d' :: rest)) h.1 (by omega)
        (.comma _)
      have hmembers := ih.members name' w members room rest h.2 (by omega)
      by_cases hdepth : depth v ≤ room
      · rw [if_pos hdepth] at hv
        rw [members?_more hv, hmembers]
        by_cases hlater : depthOfMembers ((name', w) :: members) ≤ room
        · rw [if_pos hlater, if_pos (depthOfMembers_le_iff.mpr ⟨hdepth, hlater⟩), Option.map_some]
        · rw [if_neg hlater, if_neg fun h => hlater (depthOfMembers_le_iff.mp h).2, Option.map_none]
      · rw [if_neg hdepth] at hv
        rw [members?_of_none hv, if_neg fun h => hdepth (depthOfMembers_le_iff.mp h).1]

end Reads

theorem reads (fuel : Nat) : Reads fuel := by
  induction fuel with
  | zero => exact ⟨nofun, nofun, nofun⟩
  | succ fuel ih =>
      exact ⟨fun v _ _ h hfuel hrest => ih.value_succ v h hfuel hrest,
        fun v items _ _ h hfuel => ih.items_succ v items h hfuel,
        fun name v members _ _ h hfuel => ih.members_succ name v members h hfuel⟩

/-- The text of a value is read as the value, unless the value is nested too deeply: then it is not read. -/
theorem ofText?_compact {v : Json} (h : v.Exact) : ofText? v.compact = if depth v ≤ maxDepth then some v else none := by
  have hread := (reads (v.compact.toList.length + 1)).value v maxDepth [] h (Nat.lt_succ_self _) trivial
  rw [chars, List.append_nil] at hread
  have hend (x : Option Json) : ((x.map fun w => (w, [])).bind fun p : Json × List Char =>
      if (skipBlanks p.2).isEmpty then some p.1 else none) = x := by
    cases x <;> rfl
  rw [ofText?, hread]
  by_cases hdepth : depth v ≤ maxDepth
  · rw [if_pos hdepth, if_pos hdepth]
    exact hend (some v)
  · rw [if_neg hdepth, if_neg hdepth]
    exact hend none

end Clearing.Json
