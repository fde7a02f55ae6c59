import Clearing.Decimal.Text
import Clearing.Instant.Text
import Clearing.Json.Basic
import Clearing.Uuid

/-!
# Values as JSON

`Encode` and `Decode` give a type its JSON form. Amounts, identifiers and instants are texts; an amount may
also be read from a number. Records are objects, or arrays that list the fields in order; a field that is
absent is an error unless its type is optional.
-/

namespace Clearing

/-- Types with a JSON form. -/
class Encode (α : Type) where
  /-- The JSON form of a value. -/
  json : α → Json

/-- Types that are read from JSON. -/
class Decode (α : Type) where
  /-- The value a JSON form stands for. -/
  ofJson? : Json → Option α

export Encode (json)
export Decode (ofJson?)

/-! ## Leaves -/

instance : Encode Json := ⟨id⟩
instance : Decode Json := ⟨some⟩
instance : Encode String := ⟨.string⟩
instance : Decode String := ⟨Json.string?⟩
instance : Encode Bool := ⟨.bool⟩
instance : Decode Bool := ⟨Json.bool?⟩
instance : Encode Int := ⟨.int⟩
instance : Encode Nat := ⟨fun n => .int n⟩
instance : Encode Int32 := ⟨fun n => .int n.toInt⟩

namespace Json

/-- An integer between two bounds, both included. -/
def intIn? (least greatest : Int) (v : Json) : Option Int := do
  let n ← v.int?
  if least ≤ n ∧ n ≤ greatest then some n else none

/-- A signed integer of 32 bits. -/
def int32? (v : Json) : Option Int32 := (intIn? (-0x80000000) 0x7fffffff v).map Int32.ofInt

/-- A signed integer of 64 bits. -/
def int64? : Json → Option Int := intIn? (-0x8000000000000000) 0x7fffffffffffffff

/-- A natural number of 32 bits. -/
def nat32? (v : Json) : Option Nat := (intIn? 0 0xffffffff v).map Int.toNat

/-- A natural number of 64 bits. -/
def nat64? (v : Json) : Option Nat := (intIn? 0 0xffffffffffffffff v).map Int.toNat

/-- An amount: a text, an integer as it is, or the shortest plain text of a binary64 value. -/
def decimal? : Json → Option Decimal
  | .string s => Decimal.ofText? s
  | .int n => Decimal.ofInt? n
  | .float x => Decimal.ofChars? x.plainChars
  | _ => none

end Json

instance : Decode Int32 := ⟨Json.int32?⟩
instance : Encode Decimal := ⟨fun a => .string (toString a)⟩
instance : Decode Decimal := ⟨Json.decimal?⟩
instance : Encode Uuid := ⟨fun u => .string (toString u)⟩
instance : Decode Uuid := ⟨fun v => v.string?.bind Uuid.ofText?⟩
instance : Encode Instant := ⟨fun t => .string (toString t)⟩
instance : Decode Instant := ⟨fun v => v.string?.bind Instant.ofText?⟩

/-- An absent value is `null`. -/
def jsonOfOption {α : Type} [Encode α] : Option α → Json
  | none => .null
  | some a => json a

instance {α : Type} [Encode α] : Encode (Option α) := ⟨jsonOfOption⟩

/-- `null` is an absent value. -/
def optionOfJson? {α : Type} [Decode α] : Json → Option (Option α)
  | .null => some none
  | v => (ofJson? v).map some

instance {α : Type} [Decode α] : Decode (Option α) := ⟨optionOfJson?⟩

instance {α : Type} [Encode α] : Encode (List α) := ⟨fun xs => .array (xs.map json)⟩

/-! ## Enumerations -/

/-- Types of finitely many named values. -/
class Named (α : Type) where
  /-- All values. -/
  all : List α
  /-- The name a value is written with. -/
  name : α → String

namespace Named

/-- The value with this name, exactly as it is written. -/
def ofName? {α : Type} [Named α] (text : String) : Option α := (all (α := α)).find? (name · == text)

/-- A value from its name, or from an object whose only member has that name and is `null`. -/
def ofJsonName? {α : Type} [Named α] : Json → Option α
  | .string s => ofName? s
  | .object [(s, .null)] => ofName? s
  | _ => none

instance {α : Type} [Named α] : Encode α := ⟨fun a => .string (name a)⟩
instance {α : Type} [Named α] : Decode α := ⟨ofJsonName?⟩

end Named

/-! ## Records -/

namespace Json

/-- The members of a record with these field names. An array stands for the record when it lists at least the
first `required` fields and no more than there are. -/
def recordMembers? (names : List String) (required : Nat) : Json → Option (List (String × Json))
  | .object members => some members
  | .array items =>
    if required ≤ items.length ∧ items.length ≤ names.length then some (names.zip items) else none
  | _ => none

/-- The members of a record none of whose fields has a default. -/
def fullRecord? (names : List String) (v : Json) : Option (List (String × Json)) :=
  recordMembers? names names.length v

/-- A field that has to be there, read with `read`. -/
def fieldWith? {α : Type} (read : Json → Option α) (members : List (String × Json)) (name : String) :
    Option α :=
  (member? members name).bind read

/-- A field that has to be there. -/
def field? {α : Type} [Decode α] (members : List (String × Json)) (name : String) : Option α :=
  fieldWith? ofJson? members name

/-- A field that may be absent or `null`. -/
def optional? {α : Type} [Decode α] (members : List (String × Json)) (name : String) :
    Option (Option α) :=
  match member? members name with
  | none => some none
  | some v => optionOfJson? v

end Json
end Clearing
