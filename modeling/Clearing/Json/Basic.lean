import Clearing.Json.Binary64

/-!
# JSON values

Task payloads are arbitrary JSON, and every record of the project has a JSON form. Whole numbers between
`-2 ^ 63` and `2 ^ 64` are integers; every other number is a binary64 value. Objects list their members.
-/

namespace Clearing

/-- A JSON value. -/
inductive Json where
  | null
  | bool (b : Bool)
  | int (n : Int)
  | float (x : Binary64)
  | string (s : String)
  | array (items : List Json)
  | object (members : List (String × Json))

namespace Json

instance : Inhabited Json := ⟨null⟩

/-- The value of the first member with this name. -/
def member? (members : List (String × Json)) (name : String) : Option Json :=
  (members.find? (·.1 == name)).map (·.2)

/-- Puts a member into a list sorted by name, in place of one with the same name. -/
def insertMember (name : String) (v : Json) : List (String × Json) → List (String × Json)
  | [] => [(name, v)]
  | (other, w) :: rest =>
    if name < other then (name, v) :: (other, w) :: rest
    else if name = other then (name, v) :: rest
    else (other, w) :: insertMember name v rest

/-- The object of these members, sorted by name; of two members with one name the later counts. -/
def ofMembers (members : List (String × Json)) : Json :=
  .object (members.foldl (fun acc m => insertMember m.1 m.2 acc) [])

/-- The integer a value is, if it is one. -/
def int? : Json → Option Int
  | .int n => some n
  | _ => none

/-- The text a value is, if it is one. -/
def string? : Json → Option String
  | .string s => some s
  | _ => none

/-- The truth value a value is, if it is one. -/
def bool? : Json → Option Bool
  | .bool b => some b
  | _ => none

end Json
end Clearing
