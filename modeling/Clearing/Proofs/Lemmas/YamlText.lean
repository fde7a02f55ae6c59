import Clearing.Proofs.Lemmas.YamlTokens
import Clearing.Yaml.Node

/-!
# JSON texts as texts of YAML

The compact text of a JSON value is read as YAML: as the node that the value is, with quoted scalars for its texts and
plain ones for all that is no text. This holds of values without fractions whose texts can be quoted and whose names
are not too long.
-/

namespace Clearing.Yaml

/-! ## Nodes -/

namespace Node

mutual

/-- The node that a value is. -/
def ofJson : Json → Node
  | .string s => .scalar .quoted none s
  | .array items => .sequence (ofItems items)
  | .object members => .mapping (ofMembers members)
  | v => .scalar .plain none v.compact

/-- The nodes that items are. -/
def ofItems : List Json → List Node
  | [] => []
  | v :: rest => ofJson v :: ofItems rest

/-- The entries that members are. -/
def ofMembers : List (String × Json) → List (Node × Node)
  | [] => []
  | (name, v) :: rest => (.scalar .quoted none name, ofJson v) :: ofMembers rest

end

/-- The source with other tokens. -/
def Source.reading (s : Source) (ts : List Token) : Source := { s with tokens := ts }

/-- Tokens that begin a value. -/
inductive Begins : Token → Prop where
  | scalar (style : ScalarStyle) (text : String) : Begins (.scalar style text)
  | sequence : Begins .flowSequenceStart
  | mapping : Begins .flowMappingStart

variable {fuel : Nat} {block level first : Bool} {s s' : Source} {t : Token} {rest : List Token} {x y : Node}

theorem Begins.ne (ht : Begins t) : t ≠ .flowSequenceEnd ∧ t ≠ .flowMappingEnd ∧ t ≠ .key ∧ t ≠ .value ∧
    t ≠ .separator := by
  cases ht <;> exact ⟨nofun, nofun, nofun, nofun, nofun⟩

theorem exists_begins (v : Json) : ∃ t ts, tokensOf v = t :: ts ∧ Begins t := by
  cases v with
  | array items => exact ⟨_, _, rfl, .sequence⟩
  | object members => exact ⟨_, _, rfl, .mapping⟩
  | _ => exact ⟨_, _, rfl, .scalar ..⟩

theorem run_accept : (accept t).run (s.reading (t :: rest)) = some (true, s.reading rest) := by
  simp [accept, isNext, peek, skip, Source.reading]

theorem run_accept_of_ne {u : Token} (h : t ≠ u) :
    (accept u).run (s.reading (t :: rest)) = some (false, s.reading (t :: rest)) := by
  simp [accept, isNext, peek, Source.reading, h]

theorem run_isNext {us : List Token} (h : t ∉ us) :
    (isNext us).run (s.reading (t :: rest)) = some (false, s.reading (t :: rest)) := by
  simp [isNext, peek, Source.reading, h]

theorem run_read (ht : Begins t) :
    (read (fuel + 1) block level).run (s.reading (t :: rest)) =
      (content fuel block level none false).run (s.reading (t :: rest)) := by
  have hrest (x : Option (Node × Source)) : (x.bind fun p => some (p.1, p.2)) = x := Option.bind_fun_some x
  cases ht <;> simp [read, peek, anchor?, tag?, Source.reading, hrest]

/-! ### Scalars -/

theorem run_read_scalar {style : ScalarStyle} {text : String} (hfuel : 2 ≤ fuel) :
    (read fuel block level).run (s.reading (.scalar style text :: rest)) =
      some (.scalar style none text, s.reading rest) := by
  obtain ⟨fuel, rfl⟩ := Nat.exists_eq_add_of_le' hfuel
  rw [run_read (.scalar style text)]
  simp [content, peek, skip, Source.reading]

/-! ### Sequences -/

theorem run_read_sequence (hfuel : 2 ≤ fuel) :
    (read fuel block level).run (s.reading (.flowSequenceStart :: rest)) =
      ((flowItems (fuel - 2) true).run (s.reading rest)).map fun p => (.sequence p.1, p.2) := by
  obtain ⟨fuel, rfl⟩ := Nat.exists_eq_add_of_le' hfuel
  rw [run_read .sequence]
  simp [content, peek, skip, Source.reading]

theorem run_flowItems_end : (flowItems (fuel + 1) first).run (s.reading (.flowSequenceEnd :: rest)) =
    some ([], s.reading rest) := by
  simp [flowItems, run_accept]

theorem run_flowItems (ht : Begins t) (hread : (read fuel false false).run (s.reading (t :: rest)) = some (x, s')) :
    (flowItems (fuel + 1) first).run (s.reading (separators first ++ t :: rest)) =
      ((flowItems fuel false).run s').map fun p => (x :: p.1, p.2) := by
  obtain ⟨hend, -, hkey, -⟩ := ht.ne
  have hseparator : Token.separator ≠ .flowSequenceEnd := nofun
  cases first <;>
    simp [flowItems, separators, expect, run_accept, run_accept_of_ne hseparator, run_accept_of_ne hend,
      run_accept_of_ne hkey, hread]

/-! ### Mappings -/

theorem run_read_mapping (hfuel : 2 ≤ fuel) :
    (read fuel block level).run (s.reading (.flowMappingStart :: rest)) =
      ((flowEntries (fuel - 2) true).run (s.reading rest)).map fun p => (.mapping p.1, p.2) := by
  obtain ⟨fuel, rfl⟩ := Nat.exists_eq_add_of_le' hfuel
  rw [run_read .mapping]
  simp [content, peek, skip, Source.reading]

theorem run_flowEntries_end : (flowEntries (fuel + 1) first).run (s.reading (.flowMappingEnd :: rest)) =
    some ([], s.reading rest) := by
  simp [flowEntries, run_accept]

theorem run_flowEntries {name : String} (hfuel : 2 ≤ fuel) (ht : Begins t)
    (hread : (read fuel false false).run (s.reading (t :: rest)) = some (y, s')) :
    (flowEntries (fuel + 1) first).run
        (s.reading (separators first ++ .key :: .scalar .quoted name :: .value :: t :: rest)) =
      ((flowEntries fuel false).run s').map fun p => ((.scalar .quoted none name, y) :: p.1, p.2) := by
  obtain ⟨hseparator, -, hkey, hvalue⟩ := ht.ne
  have hend : Token.separator ≠ .flowMappingEnd := nofun
  have hkeyEnd : Token.key ≠ .flowMappingEnd := nofun
  have hname : Token.scalar .quoted name ∉ [.value, .separator, .flowMappingEnd] := by simp
  have hfollower : t ∉ [.separator, .flowMappingEnd] := by simp [ht.ne]
  cases first <;>
    simp [flowEntries, separators, expect, run_accept, run_accept_of_ne hend, run_accept_of_ne hkeyEnd,
      run_isNext hname, run_read_scalar hfuel, valueBefore, run_isNext hfollower, hread]

/-! ### Whole values

The fuel is three times the number of tokens: every node takes two steps and every item of a collection one, and no
node is without a token. -/

theorem length_tokensOf_pos (v : Json) : 0 < (tokensOf v).length := by
  obtain ⟨t, ts, hts, -⟩ := exists_begins v
  rw [hts, List.length_cons]
  exact Nat.succ_pos _

mutual

theorem read_value : (v : Json) → (fuel : Nat) → (block : Bool) → (s : Source) → (rest : List Token) →
    3 * (tokensOf v).length ≤ fuel →
    (read fuel block false).run (s.reading (tokensOf v ++ rest)) = some (ofJson v, s.reading rest)
  | .null, _, _, _, _, hfuel | .bool _, _, _, _, _, hfuel | .int _, _, _, _, _, hfuel | .float _, _, _, _, _, hfuel
  | .string _, _, _, _, _, hfuel => run_read_scalar (Nat.le_of_succ_le hfuel)
  | .array items, fuel, _, s, rest, hfuel => by
      have hlength : (tokensOf (.array items)).length = (tokensOfItems true items).length + 2 := by
        simp [tokensOf]
      have hitems := read_items items (fuel - 2) true s rest (by omega)
      rw [tokensOf, List.cons_append, List.append_assoc, List.singleton_append, run_read_sequence (by omega), hitems]
      rfl
  | .object members, fuel, _, s, rest, hfuel => by
      have hlength : (tokensOf (.object members)).length = (tokensOfMembers true members).length + 2 := by
        simp [tokensOf]
      have hmembers := read_members members (fuel - 2) true s rest (by omega)
      rw [tokensOf, List.cons_append, List.append_assoc, List.singleton_append, run_read_mapping (by omega), hmembers]
      rfl

theorem read_items : (items : List Json) → (fuel : Nat) → (first : Bool) → (s : Source) → (rest : List Token) →
    3 * (tokensOfItems first items).length < fuel →
    (flowItems fuel first).run (s.reading (tokensOfItems first items ++ .flowSequenceEnd :: rest)) =
      some (ofItems items, s.reading rest)
  | [], fuel + 1, _, _, _, _ => run_flowItems_end
  | v :: items, fuel + 1, first, s, rest, hfuel => by
      have hpos := length_tokensOf_pos v
      simp only [tokensOfItems, List.length_append] at hfuel
      have hvalue := read_value v fuel false s (tokensOfItems false items ++ .flowSequenceEnd :: rest) (by omega)
      have hitems := read_items items fuel false s rest (by omega)
      obtain ⟨t, ts, hts, ht⟩ := exists_begins v
      rw [hts, List.cons_append] at hvalue
      rw [tokensOfItems, hts, List.append_assoc, List.append_assoc, List.cons_append, run_flowItems ht hvalue, hitems]
      rfl

theorem read_members : (members : List (String × Json)) → (fuel : Nat) → (first : Bool) → (s : Source) →
    (rest : List Token) → 3 * (tokensOfMembers first members).length < fuel →
    (flowEntries fuel first).run (s.reading (tokensOfMembers first members ++ .flowMappingEnd :: rest)) =
      some (ofMembers members, s.reading rest)
  | [], fuel + 1, _, _, _, _ => run_flowEntries_end
  | (name, v) :: members, fuel + 1, first, s, rest, hfuel => by
      have hpos := length_tokensOf_pos v
      simp only [tokensOfMembers, List.length_append, List.length_cons] at hfuel
      have hvalue := read_value v fuel false s (tokensOfMembers false members ++ .flowMappingEnd :: rest) (by omega)
      have hmembers := read_members members fuel false s rest (by omega)
      obtain ⟨t, ts, hts, ht⟩ := exists_begins v
      rw [hts, List.cons_append] at hvalue
      simp only [tokensOfMembers, hts, List.append_assoc, List.cons_append]
      rw [run_flowEntries (by omega) ht hvalue, hmembers]
      rfl

end

end Node

/-! ## Texts -/

/-- The document that a value is; it has no anchors. -/
def ofJson (v : Json) : Yaml := { root := .ofJson v, anchored := [] }

/-- The compact text of a value is a text of YAML for the same value. -/
theorem ofText?_compact {v : Json} (h : Shared v) : ofText? v.compact = some (ofJson v) := by
  have hread := Node.read_value v (3 * (tokensOf v).length + 8) true
    { tokens := tokensOf v, shorthands := commonShorthands } [] (by omega)
  rw [List.append_nil] at hread
  have hcontent : ofContent? [] (tokensOf v) = some (ofJson v) := Option.bind_eq_some_iff.mpr ⟨_, hread, rfl⟩
  obtain ⟨t, ts, hts, ht⟩ := Node.exists_begins v
  rw [ofText?, tokens?_compact h, Option.bind_some]
  rw [hts] at hcontent ⊢
  -- no value begins with a directive or with the mark of a document
  cases ht <;> simpa [ofTokens?, directives?] using hcontent

end Clearing.Yaml
