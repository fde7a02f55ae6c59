import Clearing.Proofs.Lemmas.YamlScalars
import Clearing.Yaml.Token

/-!
# Tokens of JSON in YAML

The text of a JSON value is read as the tokens of one value in brackets. While they are read, no collection by
indentation is open and no token has to be a key, and one more token is one more step of the reader.
-/

namespace Clearing.Yaml

open Json (chars charsOfItems charsOfMembers escapeChar Stops)

/-! ## Values -/

/-- A name that can be written in quotes, and is short enough there for a key. -/
def Nameable (name : String) : Prop :=
  Quotable name ∧ (Json.quoted name).utf8ByteSize ≤ Reading.maxKeyLength

instance (name : String) : Decidable (Nameable name) := inferInstanceAs (Decidable (_ ∧ _))

mutual

/-- Values whose text is a text of YAML as well: numbers are integers, texts can be quoted, and no name is too long. -/
def Shared : Json → Prop
  | .float _ => False
  | .string s => Quotable s
  | .array items => SharedItems items
  | .object members => SharedMembers members
  | _ => True

/-- Lists of such values. -/
def SharedItems : List Json → Prop
  | [] => True
  | v :: rest => Shared v ∧ SharedItems rest

/-- Members with such names and values. -/
def SharedMembers : List (String × Json) → Prop
  | [] => True
  | (name, v) :: rest => Nameable name ∧ Shared v ∧ SharedMembers rest

end

/-- The mark between members, which does not stand in front of the first. -/
def separators (first : Bool) : List Token := if first then [] else [.separator]

mutual

/-- The tokens of a value's text. -/
def tokensOf : Json → List Token
  | .string s => [.scalar .quoted s]
  | .array items => .flowSequenceStart :: (tokensOfItems true items ++ [.flowSequenceEnd])
  | .object members => .flowMappingStart :: (tokensOfMembers true members ++ [.flowMappingEnd])
  | v => [.scalar .plain v.compact]

/-- The tokens of items, with marks in between, and one in front unless they are the first. -/
def tokensOfItems : (first : Bool) → List Json → List Token
  | _, [] => []
  | first, v :: rest => separators first ++ tokensOf v ++ tokensOfItems false rest

/-- The tokens of members, with marks in between, and one in front unless they are the first. -/
def tokensOfMembers : (first : Bool) → List (String × Json) → List Token
  | _, [] => []
  | first, (name, v) :: rest =>
    separators first ++ .key :: .scalar .quoted name :: .value :: tokensOf v ++ tokensOfMembers false rest

end

/-! ## Reading on -/

namespace Reading

/-- No collection by indentation is open, and nothing that was read so far has to be a key. -/
structure Loose (r : Reading) : Prop where
  indent : r.indent = -1
  outerIndents : r.outerIndents = []
  candidate : ∀ k, r.candidate = some k → k.required = false
  outerCandidates : ∀ k, some k ∈ r.outerCandidates → k.required = false

theorem required_of_none : ∀ k : KeyCandidate, none = some k → k.required = false := nofun

/-- What is left of a candidate at a place. -/
def near? (m : Mark) (k : KeyCandidate) : Option KeyCandidate :=
  if k.mark.line < m.line ∨ k.mark.bytes + maxKeyLength < m.bytes then none else some k

/-- The state without the candidates that can no longer be keys. -/
def fresh (r : Reading) : Reading :=
  { r with
    candidate := r.candidate.bind (near? r.cursor.mark)
    outerCandidates := r.outerCandidates.map fun k => k.bind (near? r.cursor.mark) }

theorem fresh_inFlow (r : Reading) : r.fresh.inFlow = r.inFlow := by simp [Reading.inFlow, fresh]

/-- Whether a token may begin with a character, and nothing is skipped in front of it. -/
def isHead (c : Char) : Bool := isPrintable c && !isGap c && c != '#' && c != '\ufeff'

variable {r : Reading} {c : Char} {cs : List Char}

theorem isPrintable_of_isHead (h : isHead c = true) : isPrintable c = true := by
  simp only [isHead, Bool.and_eq_true] at h
  exact h.1.1.1

theorem stillCandidate?_of_loose {m : Mark} {k : Option KeyCandidate} (h : ∀ x, k = some x → x.required = false) :
    stillCandidate? m k = some (k.bind (near? m)) := by
  cases k with
  | none => rfl
  | some k =>
      simp only [stillCandidate?, h k rfl, Option.bind_some, near?]
      split <;> rfl

theorem Loose.dropStale? (h : r.Loose) : r.dropStale? = some r.fresh := by
  have houter : ∀ outer : List (Option KeyCandidate), (∀ k, some k ∈ outer → k.required = false) →
      outer.mapM (stillCandidate? r.cursor.mark) = some (outer.map fun k => k.bind (near? r.cursor.mark)) := by
    intro outer h
    induction outer with
    | nil => rfl
    | cons k outer ih =>
        have hk := stillCandidate?_of_loose (m := r.cursor.mark) fun x hx => h x (hx ▸ List.mem_cons_self)
        rw [List.mapM_cons, hk, ih fun x hx => h x (List.mem_cons_of_mem k hx)]
        rfl
  rw [Reading.dropStale?, stillCandidate?_of_loose h.candidate, houter _ h.outerCandidates]
  rfl

theorem Loose.fresh (h : r.Loose) : r.fresh.Loose := by
  have hnear {m : Mark} {k : Option KeyCandidate} {x : KeyCandidate} (hx : k.bind (near? m) = some x) : k = some x := by
    obtain ⟨y, rfl, hy⟩ := Option.bind_eq_some_iff.mp hx
    rw [near?] at hy
    split at hy
    · cases hy
    · exact hy
  refine ⟨h.indent, h.outerIndents, fun k hk => h.candidate k (hnear hk), fun k hk => ?_⟩
  obtain ⟨x, hx, hk⟩ := List.mem_map.mp hk
  exact h.outerCandidates k (hnear hk ▸ hx)

theorem toToken_of_head (hrest : r.cursor.rest = c :: cs) (hc : isHead c = true) : r.toToken = r := by
  simp only [isHead, isGap, isBlank, Bool.and_eq_true, Bool.not_eq_true', Bool.or_eq_false_iff, bne_iff_ne,
    beq_eq_false_iff_ne] at hc
  obtain ⟨⟨⟨-, ⟨hspace, htab⟩, hbreak⟩, hcomment⟩, hmark⟩ := hc
  have hgaps : skipGaps r.inFlow r.keyAllowed false r.cursor.mark (c :: cs) =
      (r.keyAllowed, { mark := r.cursor.mark, rest := c :: cs }) := by
    rw [skipGaps.eq_3]
    · simp [hbreak, hcomment, hspace, htab, hmark]
    · rintro tail rfl
      cases hbreak
  rw [toToken, hrest, hgaps, ← hrest]

theorem Loose.closeTo (h : r.Loose) (column : Int) : r.closeTo column = r := by
  obtain ⟨cursor, tokens, indent, outerIndents, keyAllowed, candidate, outerCandidates⟩ := r
  obtain rfl : indent = -1 := h.indent
  obtain rfl : outerIndents = [] := h.outerIndents
  rw [Reading.closeTo]
  split <;> rfl

/-- Whatever fuel there is, so many tokens lead from one state to another. -/
def Leads (count : Nat) (r r' : Reading) : Prop := ∀ fuel, readAll? (fuel + count) r = readAll? fuel r'

theorem Loose.leads (h : r.Loose) (hrest : r.cursor.rest = c :: cs) (hc : isHead c = true) {r' : Reading}
    (hstep : r.fresh.step? (c :: cs) = some r') : Leads 1 r r' := by
  intro fuel
  have hfresh : r.fresh.cursor.rest = c :: cs := hrest
  rw [readAll?, toToken_of_head hrest hc, h.dropStale?]
  simp only [Option.bind_eq_bind, Option.bind_some, h.fresh.closeTo, hfresh, List.isEmpty_cons, hstep]
  rfl

/-- Giving up a candidate that need not be a key leaves nothing else behind. -/
theorem Loose.dropCandidate? (h : r.Loose) : r.dropCandidate? = some { r with candidate := none } := by
  have hrequired : r.candidate.any (·.required) = false := by
    cases hk : r.candidate with
    | none => rfl
    | some k => exact h.candidate k hk
  rw [Reading.dropCandidate?, hrequired]
  rfl

/-- The candidate at the place, if a key may begin there, or the one before. -/
def candidate? (r : Reading) : Option KeyCandidate :=
  if r.keyAllowed then some { position := r.tokens.size, mark := r.cursor.mark, required := false } else r.candidate

theorem Loose.takeCandidate? (h : r.Loose) : r.takeCandidate? = some { r with candidate := r.candidate? } := by
  have hcolumn : (r.indent == r.column) = false := by
    rw [h.indent, beq_eq_false_iff_ne]
    omega
  rw [Reading.takeCandidate?, candidate?]
  split
  · rw [h.dropCandidate?]
    simp only [Reading.inFlow, Reading.column] at hcolumn ⊢
    simp [hcolumn]
  · rfl

theorem Loose.required_candidate? (h : r.Loose) {k : KeyCandidate} (hk : r.candidate? = some k) :
    k.required = false := by
  rw [candidate?] at hk
  split at hk
  · cases hk
    rfl
  · exact h.candidate k hk

/-- Behind the last token nothing is left to do. -/
theorem Loose.readAll?_nil (h : r.Loose) (hrest : r.cursor.rest = []) (fuel : Nat) :
    readAll? (fuel + 1) r = some r.tokens := by
  have htoken : r.toToken = r := by
    rw [toToken, hrest, skipGaps, ← hrest]
  have hfresh : r.fresh.cursor.rest = [] := hrest
  rw [readAll?, htoken, h.dropStale?]
  simp only [Option.bind_eq_bind, Option.bind_some, h.fresh.closeTo, hfresh, List.isEmpty_nil, if_true,
    h.fresh.dropCandidate?]
  rfl

/-- Characters at the place have been read as tokens; so many more brackets are open then. -/
structure Went (cs : List Char) (ts : List Token) (opened : Int) (r r' : Reading) : Prop where
  loose : r'.Loose
  printable : ∀ c ∈ cs, isPrintable c = true
  rest : r.cursor.rest = cs ++ r'.cursor.rest
  tokens : r'.tokens.toList = r.tokens.toList ++ ts
  level : (r'.outerCandidates.length : Int) = r.outerCandidates.length + opened
  leads : ∃ count ≤ cs.length, Leads count r r'

theorem Went.rest_eq {ts : List Token} {d : Int} {r' : Reading} (h : Went cs ts d r r') {rest : List Char}
    (hrest : r.cursor.rest = cs ++ rest) : r'.cursor.rest = rest :=
  List.append_cancel_left (h.rest.symm.trans hrest)

theorem Went.trans {cs' : List Char} {ts ts' : List Token} {d d' : Int} {r' r'' : Reading} (h : Went cs ts d r r')
    (h' : Went cs' ts' d' r' r'') : Went (cs ++ cs') (ts ++ ts') (d + d') r r'' where
  loose := h'.loose
  printable := List.forall_mem_append.mpr ⟨h.printable, h'.printable⟩
  rest := by rw [h.rest, h'.rest, List.append_assoc]
  tokens := by rw [h'.tokens, h.tokens, List.append_assoc]
  level := by rw [h'.level, h.level, Int.add_assoc]
  leads := by
    obtain ⟨count, hcount, hleads⟩ := h.leads
    obtain ⟨count', hcount', hleads'⟩ := h'.leads
    refine ⟨count' + count, by rw [List.length_append]; omega, fun fuel => ?_⟩
    rw [← Nat.add_assoc, hleads, hleads']

/-! ## Marks of brackets -/

/-- A mark of one character has been read, and nothing else but the candidates and whether a key may begin changed. -/
theorem went_mark {t : Token} {d : Int} {r' : Reading} (h : r.Loose) (hrest : r.cursor.rest = c :: cs)
    (hc : isHead c = true) (hstep : r.fresh.step? (c :: cs) = some r') (hloose : r'.Loose)
    (hcursor : r'.cursor = r.fresh.cursor.skip 1) (htokens : r'.tokens = r.fresh.tokens.push t)
    (hlevel : (r'.outerCandidates.length : Int) = r.fresh.outerCandidates.length + d) : Went [c] [t] d r r' where
  loose := hloose
  printable := List.forall_mem_singleton.mpr (isPrintable_of_isHead hc)
  rest := by
    rw [hcursor, Cursor.skip]
    show r.cursor.rest = [c] ++ r.cursor.rest.drop 1
    rw [hrest]
    rfl
  tokens := by
    rw [htokens]
    exact Array.toList_push ..
  level := by
    rw [hlevel]
    simp [fresh]
  leads := ⟨1, Nat.le_refl 1, h.leads hrest hc hstep⟩

theorem went_open {t : Token} (h : r.Loose) (hrest : r.cursor.rest = c :: cs) (hc : isHead c = true)
    (hstep : r.fresh.step? (c :: cs) = r.fresh.open? t) : ∃ r', Went [c] [t] 1 r r' ∧ r'.keyAllowed = true := by
  rw [Reading.open?, h.fresh.takeCandidate?] at hstep
  refine ⟨_, went_mark h hrest hc hstep ⟨h.indent, h.outerIndents, required_of_none, ?_⟩ rfl rfl (by simp), rfl⟩
  intro k hk
  rcases List.mem_cons.mp hk with hk | hk
  · exact h.fresh.required_candidate? hk.symm
  · exact h.fresh.outerCandidates k hk

theorem went_close {t : Token} (h : r.Loose) (hrest : r.cursor.rest = c :: cs) (hc : isHead c = true)
    (hflow : r.inFlow = true) (hstep : r.fresh.step? (c :: cs) = r.fresh.close? t) :
    ∃ r', Went [c] [t] (-1) r r' := by
  have hloose := h.fresh
  rw [Reading.close?, hloose.dropCandidate?] at hstep
  cases houter : r.fresh.outerCandidates with
  | nil =>
      have hnone : r.fresh.inFlow = false := by rw [Reading.inFlow, houter]; rfl
      rw [fresh_inFlow, hflow] at hnone
      cases hnone
  | cons k outer =>
      simp only [houter, Option.bind_eq_bind, Option.bind_some] at hstep
      refine ⟨_, went_mark h hrest hc hstep ⟨h.indent, h.outerIndents, ?_, ?_⟩ rfl rfl ?_⟩
      · rintro x rfl
        exact hloose.outerCandidates x (houter ▸ List.mem_cons_self)
      · exact fun x hx => hloose.outerCandidates x (houter ▸ List.mem_cons_of_mem k hx)
      · have hlength : (outer.length : Int) = (k :: outer).length + -1 := by
          rw [List.length_cons]
          omega
        exact houter ▸ hlength

theorem went_separator (h : r.Loose) (hrest : r.cursor.rest = ',' :: cs) :
    ∃ r', Went [','] [.separator] 0 r r' ∧ r'.keyAllowed = true := by
  have hstep : r.fresh.step? (',' :: cs) = r.fresh.separator? := by
    simp [step?, startsMarker]
  rw [separator?, h.fresh.dropCandidate?] at hstep
  exact ⟨_, went_mark h hrest rfl hstep ⟨h.indent, h.outerIndents, required_of_none, h.fresh.outerCandidates⟩ rfl
    rfl (Int.add_zero _).symm, rfl⟩

/-! ## Scalars -/

theorem rest_skip_one {r : Reading} (hrest : r.cursor.rest = c :: cs) :
    r.cursor.skip 1 = { mark := r.cursor.mark.next c, rest := cs } := by
  rw [Cursor.skip, hrest]
  rfl

/-- The state behind a scalar. -/
def behindScalar (r : Reading) (style : ScalarStyle) (text : String) (m : Mark) (rest : List Char) : Reading :=
  { r.fresh with
    cursor := { mark := m, rest }
    tokens := r.tokens.push (.scalar style text)
    keyAllowed := false
    candidate := r.fresh.candidate? }

theorem went_scalar {style : ScalarStyle} {text : String} {m : Mark} {rest : List Char} (h : r.Loose)
    (hprintable : ∀ x ∈ c :: cs, isPrintable x = true) (hrest : r.cursor.rest = c :: (cs ++ rest))
    (hc : isHead c = true)
    (hstep : r.fresh.step? (c :: (cs ++ rest)) = some (r.behindScalar style text m rest)) :
    Went (c :: cs) [.scalar style text] 0 r (r.behindScalar style text m rest) where
  loose := ⟨h.indent, h.outerIndents, fun _ hk => h.fresh.required_candidate? hk, h.fresh.outerCandidates⟩
  printable := hprintable
  rest := hrest
  tokens := Array.toList_push ..
  level := by simp [behindScalar, fresh]
  leads := ⟨1, by simp, h.leads hrest hc hstep⟩

theorem step?_quoted {text rest : List Char} (h : r.Loose) (htext : ∀ c ∈ text, isQuotable c = true)
    (hrest : r.cursor.rest = '"' :: (text.flatMap escapeChar ++ '"' :: rest)) :
    r.fresh.step? ('"' :: (text.flatMap escapeChar ++ '"' :: rest)) =
      some (r.behindScalar .quoted (String.ofList text)
        (r.cursor.mark.past ('"' :: (text.flatMap escapeChar ++ ['"']))) rest) := by
  have hcolumn : (r.cursor.mark.next '"').column ≠ 0 := Nat.succ_ne_zero _
  have hscalar : doubleQuoted? [] {} (r.cursor.mark.next '"') (text.flatMap escapeChar ++ '"' :: rest) =
      some (text, { mark := r.cursor.mark.past ('"' :: (text.flatMap escapeChar ++ ['"'])), rest }) :=
    doubleQuoted?_quoted htext hcolumn
  have hstep : r.fresh.step? ('"' :: (text.flatMap escapeChar ++ '"' :: rest)) = r.fresh.quotedScalar? true := by
    simp [step?, startsMarker]
  have hcursor : r.fresh.cursor.skip 1 =
      { mark := r.cursor.mark.next '"', rest := text.flatMap escapeChar ++ '"' :: rest } := rest_skip_one hrest
  rw [hstep, quotedScalar?, h.fresh.takeCandidate?]
  simp only [Option.bind_eq_bind, Option.bind_some, hcursor, if_true, hscalar]
  rfl

theorem step?_minus {d : Char} {ds : List Char} (hd : d.isDigit = true) :
    r.step? ('-' :: d :: ds) = r.plainScalar? := by
  have hgap : isGap d = false := isGap_of_isAlphanum (by rw [Char.isAlphanum, hd, Bool.or_true])
  have hdash : d ≠ '-' := by
    rintro rfl
    cases hd
  have hmarker : startsMarker ('-' :: d :: ds) = false := by simp [startsMarker, hdash]
  have hbegins : mayBeginPlain r.inFlow ('-' :: d :: ds) = true := by
    simp only [isGap, Bool.or_eq_false_iff] at hgap
    simp [mayBeginPlain, hgap.1]
  simp [step?, hmarker, startsGap, hgap, hbegins]

/-- None of the characters that begin anything but a plain scalar is a letter or a digit. -/
theorem step?_of_isAlphanum (h : c.isAlphanum = true) : r.step? (c :: cs) = r.plainScalar? := by
  have hne {d : Char} (hd : d.isAlphanum = false) : (c == d) = false :=
    beq_eq_false_iff_ne.mpr (ne_of_isAlphanum h hd)
  have hpercent : (c == '%') = false := hne rfl
  have hdash : (c == '-') = false := hne rfl
  have hquestion : (c == '?') = false := hne rfl
  have hcolon : (c == ':') = false := hne rfl
  have hblock : (c == '|' || c == '>') = false := by rw [hne rfl, hne rfl]; rfl
  simp only [step?, hpercent, startsMarker_of_isAlphanum h, hdash, hquestion, hcolon, hblock,
    mayBeginPlain_of_isAlphanum h, Bool.and_false, Bool.false_and, Bool.false_eq_true, if_false, if_true]
  split
  all_goals first
    | cases h
    | rfl

theorem step?_of_beginsWord (h : beginsWord (c :: cs) = true) : r.step? (c :: cs) = r.plainScalar? := by
  rcases beginsWord_cons h with ⟨rfl, d, ds, rfl, hd⟩ | halnum
  · exact step?_minus hd
  · exact step?_of_isAlphanum halnum

theorem step?_word {rest : List Char} (h : r.Loose) (hbegins : beginsWord (c :: (cs ++ rest)) = true)
    (hword : ∀ x ∈ c :: cs, isWordChar x = true) (hrest : r.cursor.rest = c :: (cs ++ rest)) (hstops : Stops rest)
    (hflow : r.inFlow = true ∨ rest = []) :
    r.fresh.step? (c :: (cs ++ rest)) =
      some (r.behindScalar .plain (String.ofList (c :: cs)) (r.cursor.mark.past (c :: cs)) rest) := by
  have hscalar : plain? r.inFlow (r.indent + 1) [] {} r.cursor.mark r.cursor.rest =
      some (c :: cs, false, { mark := r.cursor.mark.past (c :: cs), rest }) := by
    rw [hrest]
    exact plain?_word hword hstops hflow
  rw [← r.fresh_inFlow] at hscalar
  rw [step?_of_beginsWord hbegins, plainScalar?, h.fresh.takeCandidate?]
  simp only [Option.bind_eq_bind, Option.bind_some]
  exact Option.bind_eq_some_iff.mpr ⟨_, hscalar, rfl⟩

theorem went_quoted {text rest : List Char} (h : r.Loose) (htext : ∀ c ∈ text, isQuotable c = true)
    (hrest : r.cursor.rest = '"' :: (text.flatMap escapeChar ++ '"' :: rest)) :
    Went ('"' :: (text.flatMap escapeChar ++ ['"'])) [.scalar .quoted (String.ofList text)] 0 r
      (r.behindScalar .quoted (String.ofList text)
        (r.cursor.mark.past ('"' :: (text.flatMap escapeChar ++ ['"']))) rest) := by
  have hsplit : text.flatMap escapeChar ++ '"' :: rest = text.flatMap escapeChar ++ ['"'] ++ rest := by
    rw [List.append_assoc, List.singleton_append]
  have hstep := step?_quoted h htext hrest
  rw [hsplit] at hrest hstep
  exact went_scalar h (isPrintable_of_mem_quoted htext) hrest rfl hstep

theorem isHead_of_beginsWord (h : beginsWord (c :: cs) = true) : isHead c = true := by
  rcases beginsWord_cons h with ⟨rfl, -⟩ | halnum
  · rfl
  · have hcomment : c ≠ '#' := ne_of_isAlphanum halnum rfl
    have hmark : c ≠ '\ufeff' := ne_of_isAlphanum halnum rfl
    simp [isHead, isPrintable_of_isAlphanum halnum, isGap_of_isAlphanum halnum, hcomment, hmark]

theorem went_word {rest : List Char} (h : r.Loose) (hbegins : beginsWord (c :: (cs ++ rest)) = true)
    (hword : ∀ x ∈ c :: cs, isWordChar x = true) (hrest : r.cursor.rest = c :: (cs ++ rest)) (hstops : Stops rest)
    (hflow : r.inFlow = true ∨ rest = []) :
    ∃ r', Went (c :: cs) [.scalar .plain (String.ofList (c :: cs))] 0 r r' :=
  ⟨_, went_scalar h (fun x hx => isPrintable_of_isWordChar (hword x hx)) hrest (isHead_of_beginsWord hbegins)
    (step?_word h hbegins hword hrest hstops hflow)⟩

/-! ## Names of members -/

theorem near?_past {k : KeyCandidate} (h : (String.ofList cs).utf8ByteSize ≤ maxKeyLength) :
    near? (k.mark.past cs) k = some k := by
  have hnear : ¬ (k.mark.line < (k.mark.past cs).line ∨ k.mark.bytes + maxKeyLength < (k.mark.past cs).bytes) := by
    rw [Mark.line_past, Mark.bytes_past]
    omega
  rw [near?, if_neg hnear]

/-- A key is marked in front of the token that turned out to be one. -/
theorem toList_insertKey (tokens : Array Token) (t : Token) :
    ((tokens.push t).insertIdxIfInBounds tokens.size .key).toList = tokens.toList ++ [.key, t] := by
  have hsize : tokens.size ≤ (tokens.push t).size := by simp
  have hinsert (ts : List Token) : (ts ++ [t]).insertIdx ts.length .key = ts ++ [.key, t] := by
    induction ts with
    | nil => rfl
    | cons x ts ih => rw [List.cons_append, List.length_cons, List.insertIdx_succ_cons, ih, List.cons_append]
  rw [Array.insertIdxIfInBounds, dif_pos hsize, Array.toList_insertIdx, Array.toList_push, ← Array.length_toList,
    hinsert]

/-- The state behind a colon that makes a key of a candidate. -/
def behindColon (r : Reading) (k : KeyCandidate) : Reading :=
  { r.fresh with
    cursor := r.cursor.skip 1
    tokens := (r.tokens.insertIdxIfInBounds k.position .key).push .value
    keyAllowed := false
    candidate := none }

theorem step?_colon {k : KeyCandidate} (hflow : r.inFlow = true) (hk : r.fresh.candidate = some k) :
    r.fresh.step? (':' :: cs) = some (r.behindColon k) := by
  have hinFlow : r.fresh.inFlow = true := r.fresh_inFlow.trans hflow
  have hstep : r.fresh.step? (':' :: cs) = r.fresh.value? := by
    simp [step?, startsMarker, hinFlow]
  let keyed : Reading :=
    { r.fresh with tokens := r.tokens.insertIdxIfInBounds k.position .key, candidate := none }
  have hvalue : r.fresh.value? = some { (keyed.openAt .mappingStart k.mark.column k.position).emitMark .value with
      keyAllowed := false } := by
    rw [value?, hk]
    rfl
  have hopen : keyed.openAt .mappingStart k.mark.column k.position = keyed := by
    have hkeyed : keyed.inFlow = true := hinFlow
    rw [openAt, hkeyed]
    rfl
  rw [hstep, hvalue, hopen]
  rfl

/-- A scalar is still a candidate behind it: it began on the same line, and not too far away. -/
theorem candidate_behindScalar {style : ScalarStyle} {text : String} {rest : List Char} (hallowed : r.keyAllowed = true)
    (hshort : (String.ofList cs).utf8ByteSize ≤ maxKeyLength) :
    (r.behindScalar style text (r.cursor.mark.past cs) rest).fresh.candidate =
      some { position := r.tokens.size, mark := r.cursor.mark, required := false } := by
  have hhere : r.fresh.candidate? = some { position := r.tokens.size, mark := r.cursor.mark, required := false } := by
    have hfresh : r.fresh.keyAllowed = true := hallowed
    rw [candidate?, hfresh]
    rfl
  rw [fresh, behindScalar, hhere, Option.bind_some]
  exact near?_past hshort

/-- The text in front of a colon turns out to be a name. -/
theorem went_name {name : List Char} (h : r.Loose) (hflow : r.inFlow = true) (hallowed : r.keyAllowed = true)
    (hname : ∀ c ∈ name, isQuotable c = true)
    (hshort : (String.ofList ('"' :: (name.flatMap escapeChar ++ ['"']))).utf8ByteSize ≤ maxKeyLength)
    (hrest : r.cursor.rest = '"' :: (name.flatMap escapeChar ++ '"' :: ':' :: cs)) :
    ∃ r', Went ('"' :: (name.flatMap escapeChar ++ ['"', ':'])) [.key, .scalar .quoted (String.ofList name), .value] 0
      r r' := by
  have hquoted := went_quoted h hname hrest
  generalize hbehind : r.behindScalar .quoted (String.ofList name)
    (r.cursor.mark.past ('"' :: (name.flatMap escapeChar ++ ['"']))) (':' :: cs) = r₁ at hquoted
  let k : KeyCandidate := { position := r.tokens.size, mark := r.cursor.mark, required := false }
  have hcandidate : r₁.fresh.candidate = some k := hbehind ▸ candidate_behindScalar hallowed hshort
  have hflow₁ : r₁.inFlow = true := by
    rw [← hbehind]
    exact r.fresh_inFlow.trans hflow
  have hrest₁ : r₁.cursor.rest = ':' :: cs := by
    rw [← hbehind]
    rfl
  have hcolon := hquoted.loose.leads hrest₁ rfl (step?_colon hflow₁ hcandidate)
  obtain ⟨count, hcount, hleads⟩ := hquoted.leads
  have hbefore (x : List Char) : '"' :: (name.flatMap escapeChar ++ ['"', ':']) ++ x =
      '"' :: (name.flatMap escapeChar ++ ['"']) ++ ':' :: x := by
    simp [List.append_assoc]
  exact ⟨r₁.behindColon k, {
    loose :=
      ⟨hquoted.loose.indent, hquoted.loose.outerIndents, required_of_none, hquoted.loose.fresh.outerCandidates⟩
    printable := by
      rw [← List.append_nil ('"' :: _), hbefore]
      exact List.forall_mem_append.mpr ⟨hquoted.printable, List.forall_mem_singleton.mpr rfl⟩
    rest := by
      rw [behindColon, rest_skip_one hrest₁, hbefore, ← hrest₁]
      exact hquoted.rest
    tokens := by
      rw [behindColon, ← hbehind, behindScalar, Array.toList_push, toList_insertKey, List.append_assoc]
      rfl
    level := by
      rw [← hquoted.level]
      simp [behindColon, fresh]
    leads := by
      refine ⟨1 + count, ?_, fun fuel => ?_⟩
      · simp only [List.length_cons, List.length_append] at hcount ⊢
        omega
      · rw [← Nat.add_assoc, hleads, hcolon] }⟩

/-! ## Whole values -/

theorem inFlow_iff : r.inFlow = true ↔ 0 < r.outerCandidates.length := by
  cases h : r.outerCandidates <;> simp [Reading.inFlow, h]

theorem Went.inFlow {ts : List Token} {r' : Reading} (h : Went cs ts 0 r r') (hflow : r.inFlow = true) :
    r'.inFlow = true := by
  have hlevel := h.level
  rw [inFlow_iff] at hflow ⊢
  omega

theorem Went.inFlow_of_open {ts : List Token} {r' : Reading} (h : Went cs ts 1 r r') : r'.inFlow = true := by
  have hlevel := h.level
  rw [inFlow_iff]
  omega

theorem went_plain {v : Json} {rest : List Char} (hword : ∀ c ∈ chars v, isWordChar c = true)
    (hbegins : beginsWord (chars v ++ rest) = true) (h : r.Loose) (hrest : r.cursor.rest = chars v ++ rest)
    (hstops : Stops rest) (hflow : r.inFlow = true ∨ rest = []) :
    ∃ r', Went (chars v) [.scalar .plain v.compact] 0 r r' := by
  have htext : String.ofList (chars v) = v.compact := String.ofList_toList
  rw [← htext]
  cases hchars : chars v with
  | nil =>
      rw [hchars] at hbegins
      cases rest with
      | nil => cases hbegins
      | cons c rest => rcases hstops with rfl | rfl | rfl <;> cases hbegins
  | cons c cs =>
      rw [hchars] at hword hbegins hrest
      exact went_word h hbegins hword hrest hstops hflow

theorem Went.refl (h : r.Loose) : Went [] [] 0 r r where
  loose := h
  printable := nofun
  rest := rfl
  tokens := (List.append_nil _).symm
  level := (Int.add_zero _).symm
  leads := ⟨0, Nat.le_refl 0, fun _ => rfl⟩

/-- What stands between two brackets is read inside them. -/
theorem went_enclosed {opening closing : Char} {start stop : Token} {ts : List Token} {rest : List Char} (h : r.Loose)
    (hrest : r.cursor.rest = opening :: (cs ++ closing :: rest)) (hopening : isHead opening = true)
    (hclosing : isHead closing = true)
    (hopen : ∀ (r : Reading) (tail : List Char), r.step? (opening :: tail) = r.open? start)
    (hclose : ∀ (r : Reading) (tail : List Char), r.step? (closing :: tail) = r.close? stop)
    (hinner : ∀ {r : Reading}, r.Loose → r.inFlow = true → r.keyAllowed = true →
      r.cursor.rest = cs ++ closing :: rest → ∃ r', Went cs ts 0 r r') :
    ∃ r', Went (opening :: (cs ++ [closing])) (start :: (ts ++ [stop])) 0 r r' := by
  obtain ⟨r₁, hopened, hallowed⟩ := went_open h hrest hopening (hopen ..)
  have hflow := hopened.inFlow_of_open
  obtain ⟨r₂, hread⟩ := hinner hopened.loose hflow hallowed (hopened.rest_eq hrest)
  obtain ⟨r₃, hclosed⟩ := went_close hread.loose (hread.rest_eq (hopened.rest_eq hrest)) hclosing
    (hread.inFlow hflow) (hclose ..)
  exact ⟨r₃, hopened.trans (hread.trans hclosed)⟩

theorem went_array {ts : List Token} {rest : List Char} (h : r.Loose)
    (hrest : r.cursor.rest = '[' :: (cs ++ ']' :: rest))
    (hinner : ∀ {r : Reading}, r.Loose → r.inFlow = true → r.cursor.rest = cs ++ ']' :: rest →
      ∃ r', Went cs ts 0 r r') :
    ∃ r', Went ('[' :: (cs ++ [']'])) (.flowSequenceStart :: (ts ++ [.flowSequenceEnd])) 0 r r' :=
  went_enclosed h hrest rfl rfl (fun _ _ => by simp [step?, startsMarker]) (fun _ _ => by simp [step?, startsMarker])
    fun h hflow _ => hinner h hflow

theorem went_object {ts : List Token} {rest : List Char} (h : r.Loose)
    (hrest : r.cursor.rest = '\x7b' :: (cs ++ '\x7d' :: rest))
    (hinner : ∀ {r : Reading}, r.Loose → r.inFlow = true → r.keyAllowed = true →
      r.cursor.rest = cs ++ '\x7d' :: rest → ∃ r', Went cs ts 0 r r') :
    ∃ r', Went ('\x7b' :: (cs ++ ['\x7d'])) (.flowMappingStart :: (ts ++ [.flowMappingEnd])) 0 r r' :=
  went_enclosed h hrest rfl rfl (fun _ _ => by simp [step?, startsMarker]) (fun _ _ => by simp [step?, startsMarker])
    hinner

theorem went_string {s : String} {rest : List Char} (hs : Quotable s) (h : r.Loose)
    (hrest : r.cursor.rest = chars (.string s) ++ rest) :
    ∃ r', Went (chars (.string s)) [.scalar .quoted s] 0 r r' := by
  have hchars := Json.chars_string s
  rw [hchars, List.cons_append, List.append_assoc, List.singleton_append] at hrest
  have hquoted := went_quoted h hs hrest
  rw [String.ofList_toList] at hquoted
  exact ⟨_, hchars ▸ hquoted⟩

/-- A name and what belongs to it are read as an entry. -/
theorem went_member {name : String} {v : Json} {rest : List Char} (hname : Nameable name) (h : r.Loose)
    (hflow : r.inFlow = true) (hallowed : r.keyAllowed = true)
    (hrest : r.cursor.rest = '"' :: (name.toList.flatMap escapeChar ++ '"' :: ':' :: (chars v ++ rest)))
    (hvalue : ∀ {r : Reading}, r.Loose → r.cursor.rest = chars v ++ rest → r.inFlow = true →
      ∃ r', Went (chars v) (tokensOf v) 0 r r') :
    ∃ r', Went ('"' :: (name.toList.flatMap escapeChar ++ '"' :: ':' :: chars v))
      (.key :: .scalar .quoted name :: .value :: tokensOf v) 0 r r' := by
  obtain ⟨hquotable, hshort⟩ := hname
  obtain ⟨r₁, hnamed⟩ := went_name h hflow hallowed hquotable hshort hrest
  have hrest₁ : r₁.cursor.rest = chars v ++ rest := hnamed.rest_eq (by rw [hrest]; simp)
  obtain ⟨r₂, hread⟩ := hvalue hnamed.loose hrest₁ (hnamed.inFlow hflow)
  have hboth := hnamed.trans hread
  simp only [String.ofList_toList, List.cons_append, List.append_assoc, List.nil_append, Int.add_zero] at hboth
  exact ⟨r₂, hboth⟩

/-- Behind a comma the next item or member is read. -/
theorem went_next {cs' : List Char} {ts ts' : List Token} {r' : Reading} {rest : List Char} (h : Went cs ts 0 r r')
    (hrest : r'.cursor.rest = ',' :: (cs' ++ rest)) (hflow : r'.inFlow = true)
    (hnext : ∀ {r : Reading}, r.Loose → r.inFlow = true → r.keyAllowed = true → r.cursor.rest = cs' ++ rest →
      ∃ r', Went cs' ts' 0 r r') :
    ∃ r'', Went (cs ++ ',' :: cs') (ts ++ .separator :: ts') 0 r r'' := by
  obtain ⟨r₁, hseparated, hallowed⟩ := went_separator h.loose hrest
  obtain ⟨r₂, hread⟩ := hnext hseparated.loose (hseparated.inFlow hflow) hallowed (hseparated.rest_eq hrest)
  exact ⟨r₂, h.trans (hseparated.trans hread)⟩

mutual

theorem went_value : (v : Json) → Shared v → {r : Reading} → {rest : List Char} → r.Loose →
    r.cursor.rest = chars v ++ rest → Stops rest → (r.inFlow = true ∨ rest = []) →
    ∃ r', Went (chars v) (tokensOf v) 0 r r'
  | .null, _, _, _, h, hrest, hstops, hflow => went_plain (List.all_eq_true.mp rfl) rfl h hrest hstops hflow
  | .bool true, _, _, _, h, hrest, hstops, hflow => went_plain (List.all_eq_true.mp rfl) rfl h hrest hstops hflow
  | .bool false, _, _, _, h, hrest, hstops, hflow => went_plain (List.all_eq_true.mp rfl) rfl h hrest hstops hflow
  | .int n, _, _, _, h, hrest, hstops, hflow =>
      went_plain isWordChar_of_mem_int (beginsWord_int n _) h hrest hstops hflow
  | .string _, hs, _, _, h, hrest, _, _ => went_string hs h hrest
  | .array items, hs, r, rest, h, hrest, _, _ => by
      rw [Json.chars_array] at hrest ⊢
      rw [List.cons_append, List.append_assoc, List.singleton_append] at hrest
      exact went_array h hrest (went_items items hs)
  | .object members, hs, r, rest, h, hrest, _, _ => by
      rw [Json.chars_object] at hrest ⊢
      rw [List.cons_append, List.append_assoc, List.singleton_append] at hrest
      exact went_object h hrest (went_members members hs)

theorem went_items : (items : List Json) → SharedItems items → {r : Reading} → {rest : List Char} → r.Loose →
    r.inFlow = true → r.cursor.rest = charsOfItems items ++ ']' :: rest →
    ∃ r', Went (charsOfItems items) (tokensOfItems true items) 0 r r'
  | [], _, r, _, h, _, _ => ⟨r, .refl h⟩
  | [v], hs, r, rest, h, hflow, hrest => by
      have hsingle : tokensOfItems true [v] = tokensOf v := List.append_nil _
      rw [Json.charsOfItems_single] at hrest ⊢
      rw [hsingle]
      exact went_value v hs.1 h hrest (.bracket rest) (.inl hflow)
  | v :: w :: items, hs, r, rest, h, hflow, hrest => by
      rw [Json.charsOfItems_cons] at hrest ⊢
      rw [List.append_assoc, List.cons_append] at hrest
      obtain ⟨r₁, hread⟩ := went_value v hs.1 h hrest (.comma _) (.inl hflow)
      exact went_next hread (hread.rest_eq hrest) (hread.inFlow hflow) fun h hflow _ =>
        went_items (w :: items) hs.2 h hflow

theorem went_members : (members : List (String × Json)) → SharedMembers members → {r : Reading} →
    {rest : List Char} → r.Loose → r.inFlow = true → r.keyAllowed = true →
    r.cursor.rest = charsOfMembers members ++ '\x7d' :: rest →
    ∃ r', Went (charsOfMembers members) (tokensOfMembers true members) 0 r r'
  | [], _, r, _, h, _, _, _ => ⟨r, .refl h⟩
  | [(name, v)], hs, r, rest, h, hflow, hallowed, hrest => by
      rw [Json.charsOfMembers_single] at hrest ⊢
      simp only [List.cons_append, List.append_assoc] at hrest
      have hvalue {r : Reading} (h : r.Loose) (hrest : r.cursor.rest = chars v ++ '\x7d' :: rest)
          (hflow : r.inFlow = true) := went_value v hs.2.1 h hrest (.brace rest) (.inl hflow)
      obtain ⟨r₁, hread⟩ := went_member hs.1 h hflow hallowed hrest hvalue
      exact ⟨r₁, by simpa [tokensOfMembers, separators] using hread⟩
  | (name, v) :: m :: members, hs, r, rest, h, hflow, hallowed, hrest => by
      rw [Json.charsOfMembers_cons] at hrest ⊢
      simp only [List.cons_append, List.append_assoc] at hrest
      have hvalue {r : Reading} (h : r.Loose)
          (hrest : r.cursor.rest = chars v ++ ',' :: (charsOfMembers (m :: members) ++ '\x7d' :: rest))
          (hflow : r.inFlow = true) := went_value v hs.2.1 h hrest (.comma _) (.inl hflow)
      obtain ⟨r₁, hread⟩ := went_member hs.1 h hflow hallowed hrest hvalue
      obtain ⟨r₂, hall⟩ := went_next hread (hread.rest_eq (by simpa using hrest)) (hread.inFlow hflow)
        (went_members (m :: members) hs.2.2)
      exact ⟨r₂, by simpa [tokensOfMembers, separators] using hall⟩

end

end Reading

/-- The text of a value is read as the tokens of the value. -/
theorem tokens?_compact {v : Json} (h : Shared v) : tokens? v.compact = some (tokensOf v) := by
  let r : Reading := { cursor := { rest := Json.chars v } }
  have hloose : r.Loose := ⟨rfl, rfl, Reading.required_of_none, nofun⟩
  have hrest : r.cursor.rest = Json.chars v ++ [] := (List.append_nil _).symm
  obtain ⟨r', hwent⟩ := Reading.went_value v h hloose hrest trivial (.inr rfl)
  obtain ⟨count, hcount, hleads⟩ := hwent.leads
  -- there is fuel for a token at every character, and one more
  have hfuel : v.compact.toList.length + 1 = (Json.chars v).length - count + 1 + count := by
    show (Json.chars v).length + 1 = _
    omega
  have hread : Reading.readAll? (v.compact.toList.length + 1) r = some r'.tokens := by
    rw [hfuel, hleads, hwent.loose.readAll?_nil (hwent.rest_eq hrest)]
  have htokens : r'.tokens.toList = tokensOf v := hwent.tokens
  have hprintable : v.compact.toList.all isPrintable = true := List.all_eq_true.mpr hwent.printable
  rw [tokens?, if_pos hprintable, ← htokens]
  exact congrArg (·.map Array.toList) hread

end Clearing.Yaml
