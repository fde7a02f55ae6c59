import Clearing.Json.Codec

/-!
# Documents that hold settings

Settings are read from JSON and from YAML. Both offer records, texts, truth values, integers and names of an
enumeration; a reader written against `Document` serves both.
-/

namespace Clearing

/-- Data formats from which records of settings are read. -/
class Document (δ : Type) where
  /-- The members of a record with these field names, of which an array form has to list `required`. -/
  members? : (names : List String) → (required : Nat) → δ → Option (List (String × δ))
  /-- A text. -/
  text? : δ → Option String
  /-- A truth value. -/
  flag? : δ → Option Bool
  /-- An integer between two bounds, both included. -/
  integer? : (least greatest : Int) → δ → Option Int
  /-- The name of a value of an enumeration. -/
  label? : δ → Option String

/-- The name in a JSON text, or of the only member of an object if that is `null`. -/
def Json.label? : Json → Option String
  | .string s => some s
  | .object [(s, .null)] => some s
  | _ => none

instance : Document Json where
  members? := Json.recordMembers?
  text? := Json.string?
  flag? := Json.bool?
  integer? := Json.intIn?
  label? := Json.label?

namespace Document

variable {δ α : Type} [Document δ]

/-- The member with this name. -/
def find? (members : List (String × δ)) (name : String) : Option δ :=
  (members.find? (·.1 == name)).map (·.2)

/-- A member that has to be there. -/
def field? (read : δ → Option α) (members : List (String × δ)) (name : String) : Option α :=
  (find? members name).bind read

/-- A member that has a default for when it is absent. -/
def fieldOr? (default : α) (read : δ → Option α) (members : List (String × δ)) (name : String) :
    Option α :=
  match find? members name with
  | none => some default
  | some v => read v

/-- A signed integer of 32 bits. -/
def int32? (v : δ) : Option Int32 := (integer? (-0x80000000) 0x7fffffff v).map Int32.ofInt

/-- A signed integer of 64 bits. -/
def int64? (v : δ) : Option Int := integer? (-0x8000000000000000) 0x7fffffffffffffff v

/-- A natural number of 32 bits. -/
def nat32? (v : δ) : Option Nat := (integer? 0 0xffffffff v).map Int.toNat

/-- A natural number of 64 bits. -/
def nat64? (v : δ) : Option Nat := (integer? 0 0xffffffffffffffff v).map Int.toNat

/-- A value of an enumeration. -/
def named? [Named α] (v : δ) : Option α := (label? v).bind Named.ofName?

end Document
end Clearing
