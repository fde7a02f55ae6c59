import Clearing.Decimal.Text

/-!
# Numerics

A numeric of a database has any number of digits before and behind the point; a zero has no scale and no sign.
One with more digits than an amount is read in groups of four digits, each with the power of 10000 it counts
by, and the groups are added up with the rounding of amounts. A group may be too large for its power, which is
told apart from a numeric that is no amount for other reasons.
-/

namespace Clearing.Sql

/-- The number `digits / 10 ^ scale` with a sign. -/
structure Numeric where
  negative : Bool
  digits : Nat
  scale : Nat

namespace Numeric

/-- The numeric of an amount. -/
def ofAmount (a : Decimal) : Numeric :=
  if a.isZero then { negative := false, digits := 0, scale := 0 }
  else { negative := a.negative, digits := a.coeff, scale := a.scale }

/-! ## Order -/

/-- The digits with their sign. -/
def signed (n : Numeric) : Int := if n.negative then -(n.digits : Int) else n.digits

/-- Whether a number is at most another. -/
def atMost (m n : Numeric) : Bool :=
  decide (m.signed * (Nat.pow 10 n.scale : Nat) ≤ n.signed * (Nat.pow 10 m.scale : Nat))

/-! ## Text -/

/-- The digits of the text, the last `scale` of them behind a point; a zero is one digit. -/
def chars (n : Numeric) : List Char :=
  if n.digits = 0 then ['0']
  else
    let ds := Digits.padded (n.scale + 1) n.digits
    let whole := ds.take (ds.length - n.scale)
    let body := if n.scale = 0 then whole else whole ++ '.' :: ds.drop (ds.length - n.scale)
    if n.negative then '-' :: body else body

instance : ToString Numeric := ⟨fun n => String.ofList n.chars⟩

/-- Reads an optional sign, digits, and digits behind a point if there is one. -/
def ofText? (text : String) : Option Numeric := do
  let (negative, body) := Decimal.splitSign text.toList
  let whole := body.takeWhile (· != '.')
  let fraction ← match body.dropWhile (· != '.') with
    | [] => some []
    | _ :: ds => (Digits.readNat? ds).map fun _ => ds
  let _ ← Digits.readNat? whole
  some { negative, digits := Digits.value (whole ++ fraction), scale := fraction.length }

/-! ## Amounts -/

/-- The digits of `n` in groups of four from the last, each with its power of 10000; the last one has the
power `weight`. Groups of zeros at the end are left out. -/
def groupsFrom (n : Nat) (weight : Int) : List (Nat × Int) :=
  if n = 0 then []
  else
    let rest := groupsFrom (n / 10000) (weight + 1)
    if n % 10000 = 0 then rest else (n % 10000, weight) :: rest
termination_by n
decreasing_by omega

/-- The groups that are not zero, from the first. -/
def groups (n : Numeric) : List (Nat × Int) :=
  let places := (n.scale + 3) / 4
  (groupsFrom (n.digits * Nat.pow 10 (4 * places - n.scale)) (-(places : Int))).reverse

/-- The power `10000 ^ weight` as an amount. -/
def unit? (weight : Int) : Option Decimal :=
  if weight < 0 then Decimal.ofParts? false 1 (4 * weight.natAbs) else Decimal.powerOfTen? (4 * weight.toNat)

/-- Why a numeric stands for no amount. -/
inductive Fault where
  /-- It has a power that no amount has, or its groups add up to too much. -/
  | notRepresentable
  /-- A group times its power is too large. -/
  | overflow
deriving DecidableEq

/-- An amount that is there, or a fault. -/
def orFault (fault : Fault) : Option Decimal → Except Fault Decimal
  | some a => .ok a
  | none => .error fault

/-- What a group counts. -/
def part (group : Nat × Int) : Except Fault Decimal := do
  let unit ← orFault .notRepresentable (unit? group.2)
  let digits ← orFault .notRepresentable (Decimal.ofInt? group.1)
  orFault .overflow (digits.mul? unit)

/-- The sum of groups, one after the other. -/
def sum (groups : List (Nat × Int)) : Except Fault Decimal :=
  groups.foldlM (fun total g => do orFault .notRepresentable (total.add? (← part g))) Decimal.zero

/-- Gives an amount zeros at the end of its fraction, up to `scale` places in all, while they fit. -/
def extend (a : Decimal) : (more : Nat) → Decimal
  | 0 => a
  | more + 1 =>
    match Decimal.ofParts? a.negative (10 * a.coeff) (a.scale + 1) with
    | some b => extend b more
    | none => a

/-- The same number with `scale` places: further ones are rounded off, missing ones filled as far as they fit. -/
def rescaled? (a : Decimal) (scale : Nat) : Option Decimal :=
  if scale < a.scale then a.dropDigits? (a.scale - scale) else some (extend a (scale - a.scale))

/-- The sum of the groups with the sign and, as far as they fit, the places of the numeric. -/
def rounded (n : Numeric) : Except Fault Decimal := do
  let total ← sum n.groups
  orFault .notRepresentable (rescaled? { total with negative := n.negative } n.scale)

/-- The amount a numeric stands for: the same digits with the same places, if an amount has so many. -/
def amount (n : Numeric) : Except Fault Decimal :=
  if n.digits = 0 then .ok Decimal.zero
  else
    match Decimal.ofParts? n.negative n.digits n.scale with
    | some a => .ok a
    | none => n.rounded

end Numeric
end Clearing.Sql
