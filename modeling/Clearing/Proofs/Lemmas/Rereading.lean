import Clearing.Proofs.Lemmas.AmountText
import Clearing.Proofs.Lemmas.InstantText
import Clearing.Proofs.Lemmas.ReadBack
import Clearing.Yaml.Value

/-!
# Values that are written and read again

What is written of a value that was read gives the value again, but that a zero loses its sign. This holds of
amounts, identifiers, instants and names, and goes over from the fields to their record, one field after the other.
-/

namespace Clearing

/-! ## Amounts in a value -/

/-- Types whose values hold amounts. -/
class HasAmounts (α : Type) where
  /-- The amounts in a value. -/
  amounts : α → List Decimal
  /-- The value with a function applied to each amount. -/
  mapAmounts : (Decimal → Decimal) → α → α
  mapAmounts_congr : ∀ {f g : Decimal → Decimal} {a : α}, (∀ d ∈ amounts a, f d = g d) →
    mapAmounts f a = mapAmounts g a := by intros; simp_all
  mapAmounts_id : ∀ a : α, mapAmounts id a = a := by intros; rfl
  mapAmounts_mapAmounts : ∀ (f g : Decimal → Decimal) (a : α),
    mapAmounts g (mapAmounts f a) = mapAmounts (g ∘ f) a := by intros; rfl

export HasAmounts (amounts)

namespace HasAmounts

variable {α : Type}

/-- Values in which there are no amounts. -/
@[reducible] def without : HasAmounts α where
  amounts _ := []
  mapAmounts _ a := a

instance : HasAmounts Decimal where
  amounts a := [a]
  mapAmounts f a := f a

instance : HasAmounts Json := without
instance : HasAmounts String := without
instance : HasAmounts Bool := without
instance : HasAmounts Int := without
instance : HasAmounts Int32 := without
instance : HasAmounts Nat := without
instance : HasAmounts Uuid := without
instance : HasAmounts Instant := without
instance [Named α] : HasAmounts α := without
instance : HasAmounts (Option String) := without
instance : HasAmounts (Option Instant) := without

end HasAmounts

/-- A value as it is read from what is written of it: a zero has no sign. -/
def reread {α : Type} [HasAmounts α] (a : α) : α := HasAmounts.mapAmounts Decimal.reread a

section Reread

variable {α : Type} [HasAmounts α]

theorem reread_reread (a : α) : reread (reread a) = reread a := by
  rw [reread, reread, HasAmounts.mapAmounts_mapAmounts]
  exact HasAmounts.mapAmounts_congr fun d _ => d.reread_reread

theorem reread_eq_self {a : α} (h : ∀ d ∈ amounts a, ¬ (d.negative = true ∧ d.isZero = true)) : reread a = a :=
  calc
    reread a = HasAmounts.mapAmounts id a :=
      HasAmounts.mapAmounts_congr fun d hd => Decimal.reread_eq_self_iff.mpr (h d hd)
    _ = a := HasAmounts.mapAmounts_id a

end Reread

/-! ## Leaves -/

/-- Whatever is read from some format is read from the JSON written of it. -/
def ReadsAgain {δ α : Type} [Encode α] [HasAmounts α] (read : δ → Option α) (back : Json → Option α) : Prop :=
  ∀ ⦃v : δ⦄ ⦃a : α⦄, read v = some a → back (json a) = some (reread a)

/-- Types whose values, once read, are read again from what is written of them. -/
class Rereads (α : Type) [Encode α] [Decode α] [HasAmounts α] : Prop where
  again : ReadsAgain (ofJson? : Json → Option α) ofJson?

namespace Json

theorem scale_decimal?_le {v : Json} {a : Decimal} (h : decimal? v = some a) : a.scale ≤ maxScale := by
  cases v with
  | string text => exact Decimal.scale_ofText?_le h
  | int n =>
      rw [(Decimal.narrow_eq_some h).2]
      exact Nat.zero_le _
  | float x =>
      have htext : Decimal.ofText? (String.ofList x.plainChars) = some a := by
        rwa [Decimal.ofText?, String.toList_ofList]
      exact Decimal.scale_ofText?_le htext
  | _ => cases h

theorem intIn?_eq_some {least greatest n : Int} {v : Json} :
    intIn? least greatest v = some n ↔ v = .int n ∧ least ≤ n ∧ n ≤ greatest := by
  cases v with
  | int n' =>
      simp only [intIn?, int?, Option.bind_eq_bind, Option.bind_some, Option.ite_none_right_eq_some,
        Option.some.injEq, Json.int.injEq]
      constructor
      · rintro ⟨h, rfl⟩
        exact ⟨rfl, h⟩
      · rintro ⟨rfl, h⟩
        exact ⟨h, rfl⟩
  | _ => simp [intIn?, int?]

end Json

instance : Rereads Decimal := ⟨fun _ _ h => Decimal.ofText?_toString (Json.scale_decimal?_le h)⟩
instance : Rereads Json := ⟨fun _ _ _ => rfl⟩
instance : Rereads String := ⟨fun _ _ _ => rfl⟩
instance : Rereads Bool := ⟨fun _ _ _ => rfl⟩
instance {α : Type} [Named α] [Named.Lawful α] : Rereads α := ⟨fun _ _ _ => Named.Lawful.ofName?_name _⟩

theorem Instant.ofJson?_json {v : Json} {t : Instant} (h : ofJson? v = some t) : ofJson? (json t) = some t := by
  obtain ⟨text, -, h⟩ := Option.bind_eq_some_iff.mp h
  simp only [ofJson?, json, Json.string?, Option.bind_some]
  exact Instant.ofText?_toString h

instance : Rereads Instant := ⟨fun _ _ => Instant.ofJson?_json⟩

/-! ## Identifiers -/

namespace Uuid

variable {cs : List Char} {n : Nat} {ns : List Nat}

theorem hyphenate_cons (cs : List Char) (n m : Nat) (ms : List Nat) :
    hyphenate cs (n :: m :: ms) = cs.take n ++ '-' :: hyphenate (cs.drop n) (m :: ms) := rfl

theorem unhyphenate_cons {rest : List Char} {m : Nat} {ms : List Nat} (h : cs.drop n = '-' :: rest) :
    unhyphenate cs (n :: m :: ms) = (unhyphenate rest (m :: ms)).map (cs.take n ++ ·) := by
  simp [unhyphenate, h]

theorem length_hyphenate (h : cs.length = (n :: ns).sum) : (hyphenate cs (n :: ns)).length = cs.length + ns.length := by
  induction ns generalizing cs n with
  | nil => simp_all [hyphenate]
  | cons m ms ih =>
      have hrest : (cs.drop n).length = (m :: ms).sum := by simp_all
      simp only [hyphenate_cons, List.length_append, List.length_cons, ih hrest, List.length_take, List.length_drop]
      simp only [List.sum_cons] at h
      omega

theorem unhyphenate_hyphenate (h : cs.length = (n :: ns).sum) :
    unhyphenate (hyphenate cs (n :: ns)) (n :: ns) = some cs := by
  induction ns generalizing cs n with
  | nil => simp_all [hyphenate, unhyphenate]
  | cons m ms ih =>
      have hrest : (cs.drop n).length = (m :: ms).sum := by simp_all
      have htake : (cs.take n).length = n := by
        simp only [List.sum_cons] at h
        simp only [List.length_take]
        omega
      rw [hyphenate_cons, unhyphenate_cons (List.drop_left' htake), ih hrest, List.take_left' htake, Option.map_some,
        List.take_append_drop]

theorem ofDigits?_hexDigits (u : Uuid) : ofDigits? (Digits.hexDigits 32 u.value) = some u := by
  simp only [ofDigits?, Digits.readHex?_hexDigits 32 u.value u.value_lt, Option.bind_eq_bind, Option.bind_some]
  exact dif_pos ⟨Digits.length_hexDigits 32 u.value, u.value_lt⟩

theorem ofText?_toString (u : Uuid) : ofText? (toString u) = some u := by
  have hdigits : (Digits.hexDigits 32 u.value).length = (8 :: [4, 4, 4, 12]).sum := Digits.length_hexDigits 32 u.value
  have hlength : u.chars.length = 36 := by
    rw [chars, groups, length_hyphenate hdigits, hdigits]
    rfl
  have hgroups : ofGroups? u.chars = some u := by
    rw [ofGroups?, chars, groups, unhyphenate_hyphenate hdigits, Option.bind_some, ofDigits?_hexDigits]
  simp only [toString, ofText?, String.toList_ofList, ofChars?, hlength, hgroups]

end Uuid

theorem Uuid.ofJson?_json (u : Uuid) : ofJson? (json u) = some u := by
  simp only [ofJson?, json, Json.string?, Option.bind_some]
  exact Uuid.ofText?_toString u

instance : Rereads Uuid := ⟨fun _ u _ => u.ofJson?_json⟩

/-! ## Values that may be absent -/

section Optional

variable {α : Type} [Decode α]

theorem optionOfJson?_of_ne_null {v : Json} (h : v ≠ .null) : optionOfJson? v = (ofJson? v : Option α).map some := by
  cases v with
  | null => contradiction
  | _ => rfl

theorem optionOfJson?_json [Encode α] {v : Json} {x : Option α} (hjson : ∀ {w : Json} {a : α}, ofJson? w = some a →
    json a ≠ .null ∧ ofJson? (json a) = some a) (h : optionOfJson? v = some x) : optionOfJson? (json x) = some x := by
  cases x with
  | none => rfl
  | some a =>
      have hread : ofJson? v = some a := by
        cases v <;> simp_all [optionOfJson?]
      obtain ⟨hnull, hagain⟩ := hjson hread
      calc
        optionOfJson? (json a) = (ofJson? (json a)).map some := optionOfJson?_of_ne_null hnull
        _ = some (some a) := by rw [hagain, Option.map_some]

end Optional

instance : Rereads (Option String) :=
  ⟨fun _ _ => optionOfJson?_json fun _ => ⟨nofun, rfl⟩⟩

instance : Rereads (Option Instant) :=
  ⟨fun _ _ => optionOfJson?_json fun h => ⟨nofun, Instant.ofJson?_json h⟩⟩

/-! ## Numbers between bounds -/

namespace Document

/-- Formats whose integers lie between the bounds that were asked for. -/
class Bounded (δ : Type) [Document δ] : Prop where
  integer?_bounds : ∀ {least greatest n : Int} {v : δ}, integer? least greatest v = some n → least ≤ n ∧ n ≤ greatest

instance : Bounded Json := ⟨fun h => (Json.intIn?_eq_some.mp h).2⟩

instance : Bounded Yaml where
  integer?_bounds h := by
    simp only [integer?, Yaml.intIn?, Option.bind_eq_bind, Option.bind_eq_some_iff, Option.ite_none_left_eq_some,
      Option.ite_none_right_eq_some, Option.some.injEq] at h
    obtain ⟨text, -, n, -, -, hbounds, rfl⟩ := h
    exact hbounds

/-- Formats in which JSON values can be given. -/
class Hosts (ε : Type) [Document ε] where
  /-- The value in this format. -/
  ofJson : Json → ε
  text?_ofJson : ∀ s, text? (ofJson (.string s)) = some s
  flag?_ofJson : ∀ b, flag? (ofJson (.bool b)) = some b
  integer?_ofJson : ∀ {least greatest n : Int}, least ≤ n → n ≤ greatest →
    integer? least greatest (ofJson (.int n)) = some n
  label?_ofJson : ∀ s, label? (ofJson (.string s)) = some s
  members?_ofJson : ∀ {names : List String} {required : Nat} {ms : List (String × Json)}, (ms.map (·.1)).Nodup →
    members? names required (ofJson (.object ms)) = some (ms.map fun m => (m.1, ofJson m.2))

instance : Hosts Json where
  ofJson := id
  text?_ofJson _ := rfl
  flag?_ofJson _ := rfl
  integer?_ofJson hleast hgreatest := Json.intIn?_eq_some.mpr ⟨rfl, hleast, hgreatest⟩
  label?_ofJson _ := rfl
  members?_ofJson _ := congrArg some (List.map_id _).symm

variable {δ ε : Type} [Document δ] [Document ε] [Hosts ε]

theorem named?_ofJson {α : Type} [Named α] [Named.Lawful α] (a : α) : named? (Hosts.ofJson (json a) : ε) = some a := by
  show (label? (Hosts.ofJson (.string (Named.name a)) : ε)).bind Named.ofName? = some a
  rw [Hosts.label?_ofJson, Option.bind_some, Named.Lawful.ofName?_name]

theorem natural?_ofJson {n : Nat} {greatest : Int} (h : (n : Int) ≤ greatest) :
    (integer? 0 greatest (Hosts.ofJson (json n) : ε)).map Int.toNat = some n := by
  have hread : integer? 0 greatest (Hosts.ofJson (json n) : ε) = some (n : Int) :=
    Hosts.integer?_ofJson (Int.natCast_nonneg n) h
  rw [hread, Option.map_some, Int.toNat_natCast]

theorem int32?_ofJson (n : Int32) : int32? (Hosts.ofJson (json n) : ε) = some n := by
  have hread : integer? (-0x80000000) 0x7fffffff (Hosts.ofJson (json n) : ε) = some n.toInt :=
    Hosts.integer?_ofJson n.le_toInt (Int.le_of_lt_add_one n.toInt_lt)
  rw [int32?, hread, Option.map_some, Int32.ofInt_toInt]

theorem text?_hosted : ReadsAgain (text? : δ → Option String) fun v => text? (Hosts.ofJson v : ε) :=
  fun _ s _ => Hosts.text?_ofJson s

theorem flag?_hosted : ReadsAgain (flag? : δ → Option Bool) fun v => flag? (Hosts.ofJson v : ε) :=
  fun _ b _ => Hosts.flag?_ofJson b

theorem named?_hosted {α : Type} [Named α] [Named.Lawful α] :
    ReadsAgain (named? : δ → Option α) fun v => named? (Hosts.ofJson v : ε) := fun _ a _ => named?_ofJson a

theorem int32?_hosted : ReadsAgain (int32? : δ → Option Int32) fun v => int32? (Hosts.ofJson v : ε) :=
  fun _ n _ => int32?_ofJson n

theorem integer?_hosted [Bounded δ] (least greatest : Int) :
    ReadsAgain (integer? least greatest : δ → Option Int) fun v => integer? least greatest (Hosts.ofJson v : ε) :=
  fun _ _ h => Hosts.integer?_ofJson (Bounded.integer?_bounds h).1 (Bounded.integer?_bounds h).2

theorem natural?_hosted [Bounded δ] (greatest : Int) :
    ReadsAgain (fun v : δ => (integer? 0 greatest v).map Int.toNat)
      fun v => (integer? 0 greatest (Hosts.ofJson v : ε)).map Int.toNat := by
  intro v m h
  obtain ⟨n, hn, rfl⟩ := Option.map_eq_some_iff.mp h
  have hbounds := Bounded.integer?_bounds hn
  exact natural?_ofJson (by omega)

theorem integer?_again [Bounded δ] (least greatest : Int) :
    ReadsAgain (integer? least greatest : δ → Option Int) (integer? least greatest : Json → Option Int) :=
  integer?_hosted least greatest

theorem int32?_again : ReadsAgain (int32? : δ → Option Int32) (int32? : Json → Option Int32) :=
  int32?_hosted

theorem nat64?_lt [Bounded δ] {v : δ} {n : Nat} (h : nat64? v = some n) : n < UInt64.size := by
  obtain ⟨m, hm, rfl⟩ := Option.map_eq_some_iff.mp h
  have hbounds := Bounded.integer?_bounds hm
  simp only [UInt64.size]
  omega

end Document

instance : Rereads Int32 := ⟨Document.int32?_again⟩

/-! ## Fields -/

section Fields

variable {δ ε α β : Type} [Encode α] [HasAmounts α] {read : δ → Option α} {back : ε → Option α} {ms : List (String × δ)}
  {ms' : List (String × ε)} {name : String} {a : α} {b : β} {f : α → Option β} (e : Json → ε)

theorem Document.field?_bind (h : field? read ms name = some a) (hread : ReadsAgain read fun v => back (e v))
    (hm : find? ms' name = some (e (json a))) (hf : f (reread a) = some b) : (field? back ms' name >>= f) = some b := by
  obtain ⟨v, -, hv⟩ := Option.bind_eq_some_iff.mp h
  have hagain : back (e (json a)) = some (reread a) := hread hv
  have hback : field? back ms' name = some (reread a) := by
    rw [field?, hm, Option.bind_some, hagain]
  rw [hback]
  exact hf

theorem Document.fieldOr?_bind {default : α} (h : fieldOr? default read ms name = some a)
    (hread : ReadsAgain read fun v => back (e v)) (hdefault : back (e (json default)) = some (reread default))
    (hm : find? ms' name = some (e (json a))) (hf : f (reread a) = some b) :
    (fieldOr? default back ms' name >>= f) = some b := by
  have hagain : back (e (json a)) = some (reread a) := by
    unfold fieldOr? at h
    split at h
    · cases h
      exact hdefault
    · exact hread h
  have hback : fieldOr? default back ms' name = some (reread a) := by
    simp only [fieldOr?, hm, hagain]
  rw [hback]
  exact hf

theorem Document.members?_bind [Document ε] [Hosts ε] {names : List String} {required : Nat} {ms : List (String × Json)}
    {f : List (String × ε) → Option β} (hnames : (ms.map (·.1)).Nodup)
    (h : f (ms.map fun m => (m.1, Hosts.ofJson m.2)) = some b) :
    (members? names required (Hosts.ofJson (.object ms) : ε) >>= f) = some b := by
  rw [Hosts.members?_ofJson hnames]
  exact h

end Fields

namespace Json

variable {α β : Type} {ms ms' : List (String × Json)} {name : String} {b : β}

theorem members?_bind {names : List String} {required : Nat} {f : List (String × Json) → Option β}
    (h : f ms = some b) : (recordMembers? names required (.object ms) >>= f) = some b := h

theorem optional?_eq_ofJson? [Decode α] (ms : List (String × Json)) (name : String) :
    optional? ms name = (ofJson? ((member? ms name).getD .null) : Option (Option α)) := by
  unfold optional?
  cases member? ms name <;> rfl

variable [Encode α]

theorem fieldWith?_bind [HasAmounts α] {read : Json → Option α} {a : α} {f : α → Option β}
    (h : fieldWith? read ms name = some a) (hread : ReadsAgain read read) (hm : member? ms' name = some (json a))
    (hf : f (reread a) = some b) : (fieldWith? read ms' name >>= f) = some b :=
  Document.field?_bind id h hread hm hf

theorem field?_bind [Decode α] [HasAmounts α] [Rereads α] {a : α} {f : α → Option β} (h : field? ms name = some a)
    (hm : member? ms' name = some (json a)) (hf : f (reread a) = some b) : (field? ms' name >>= f) = some b :=
  fieldWith?_bind h Rereads.again hm hf

theorem optional?_bind [Decode α] [HasAmounts (Option α)] [Rereads (Option α)] {x : Option α} {f : Option α → Option β}
    (h : optional? ms name = some x) (hm : member? ms' name = some (json x)) (hf : f (reread x) = some b) :
    (optional? ms' name >>= f) = some b := by
  rw [optional?_eq_ofJson?] at h
  have hback : optional? ms' name = some (reread x) := by
    rw [optional?_eq_ofJson?, hm]
    exact Rereads.again h
  rw [hback]
  exact hf

end Json
end Clearing
