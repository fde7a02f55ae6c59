import Clearing.Document
import Clearing.Yaml.Node

/-!
# Values in YAML

Settings are read from YAML nodes. What a scalar means depends on what is asked for: an integer and a truth value
are written plainly, or as a block of lines with the tag that says so; a text may be written in any way. The name
of a value of an enumeration is a text, or a tag on nothing. Nothing at all is a record without members.
-/

namespace Clearing.Yaml

/-! ## Integers and truth values -/

/-- The number that digits in a base of at most sixteen write; there has to be one. -/
def digitsIn? (base : Nat) (cs : List Char) : Option Nat :=
  if cs.isEmpty then none
  else cs.foldlM (fun n c => do
    let d ← Digits.hexDigit? c
    if d < base then some (base * n + d) else none) 0

/-- A natural number: digits without a superfluous zero in front, or a hexadecimal, octal or binary number
behind `0x`, `0o` or `0b`. -/
def natural? : List Char → Option Nat
  | '0' :: 'x' :: rest => digitsIn? 16 rest
  | '0' :: 'o' :: rest => digitsIn? 8 rest
  | '0' :: 'b' :: rest => digitsIn? 2 rest
  | '0' :: _ :: _ => none
  | cs => Digits.readNat? cs

/-- An integer: a natural number with an optional sign. -/
def integer? : List Char → Option Int
  | '+' :: rest => (natural? rest).map Int.ofNat
  | '-' :: rest => (natural? rest).map fun n => -(n : Int)
  | cs => (natural? cs).map Int.ofNat

/-- A truth value in small letters, in capitals, or with one capital in front. -/
def truth? (text : String) : Option Bool :=
  if ["true", "True", "TRUE"].contains text then some true
  else if ["false", "False", "FALSE"].contains text then some false
  else none

/-- Whether a text says that there is nothing. -/
def isNothing (text : String) : Bool := ["", "~", "null", "Null", "NULL"].contains text

/-! ## Nodes as values -/

/-- The node itself, or the node that an alias stands for. -/
def node (y : Yaml) : Node :=
  match y.root with
  | .alias number => (y.anchored.lookup number).getD y.root
  | root => root

/-- The text of a scalar. -/
def text? (y : Yaml) : Option String :=
  match y.node with
  | .scalar _ _ text => some text
  | _ => none

/-- The text of a scalar that may have the type of a tag: a plain one, or a block of lines that bears the tag. -/
def typed? (tag : Address) (y : Yaml) : Option String :=
  match y.node with
  | .scalar .plain _ text => some text
  | .scalar .literal (some given) text => if given == tag then some text else none
  | _ => none

/-- A truth value. -/
def flag? (y : Yaml) : Option Bool := (y.typed? (.common "bool")).bind truth?

/-- An integer between two bounds; a minus needs room for negative numbers. -/
def intIn? (least greatest : Int) (y : Yaml) : Option Int := do
  let cs := (← y.typed? (.common "int")).toList
  let n ← integer? cs
  if 0 ≤ least ∧ cs.head? = some '-' then none
  else if least ≤ n ∧ n ≤ greatest then some n
  else none

/-- The name of a value of an enumeration. -/
def label? (y : Yaml) : Option String :=
  match y.node with
  | .scalar style tag text =>
    match tag.bind Address.name? with
    | none => some text
    | some name => if style == .plain && isNothing text then some name else none
  | _ => none

/-- The entries of a mapping whose keys are texts. -/
def entries? (y : Yaml) : Option (List (String × Yaml)) :=
  match y.node with
  | .mapping entries => entries.mapM fun (key, value) =>
    ({ y with root := key }.text?).map (·, { y with root := value })
  | .scalar .plain _ "" => some []
  | _ => none

/-- The members of a record, in which none of these names stands twice. -/
def members? (names : List String) (_required : Nat) (y : Yaml) : Option (List (String × Yaml)) := do
  let entries ← y.entries?
  if names.all fun name => (entries.filter (·.1 == name)).length ≤ 1 then some entries else none

instance : Document Yaml where
  members? := members?
  text? := text?
  flag? := flag?
  integer? := intIn?
  label? := label?

end Clearing.Yaml
