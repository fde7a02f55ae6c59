import Clearing.Digits

/-!
# Identifiers

Users, wallets, orders, markets, trades, ledger entries and fee rows carry 128-bit identifiers, ordered by
value. They are written in lowercase groups of 8, 4, 4, 4 and 12 hexadecimal digits; the same digits are
read in either case, without hyphens, in braces, or behind `urn:uuid:`.
-/

namespace Clearing

/-- The number of identifiers of 128 bits. -/
abbrev uuidBound : Nat := 0x100000000000000000000000000000000

/-- A 128-bit identifier. -/
structure Uuid where
  value : Nat
  value_lt : value < uuidBound := by decide
deriving DecidableEq

namespace Uuid

instance : Inhabited Uuid := ⟨{ value := 0 }⟩
instance : LT Uuid := ⟨fun a b => a.value < b.value⟩
instance : LE Uuid := ⟨fun a b => a.value ≤ b.value⟩
instance (a b : Uuid) : Decidable (a < b) := inferInstanceAs (Decidable (a.value < b.value))
instance (a b : Uuid) : Decidable (a ≤ b) := inferInstanceAs (Decidable (a.value ≤ b.value))

/-- The identifier of a number, reduced to 128 bits. -/
def ofNat (n : Nat) : Uuid := { value := n % uuidBound, value_lt := Nat.mod_lt _ (by decide) }

/-! ## Text -/

/-- The lengths of the groups that hyphens separate. -/
def groups : List Nat := [8, 4, 4, 4, 12]

/-- Cuts a list into pieces of the given lengths, with a hyphen between them. -/
def hyphenate (cs : List Char) : List Nat → List Char
  | [] => []
  | [n] => cs.take n
  | n :: ns => cs.take n ++ '-' :: hyphenate (cs.drop n) ns

/-- The characters of an identifier. -/
def chars (u : Uuid) : List Char := hyphenate (Digits.hexDigits 32 u.value) groups

instance : ToString Uuid := ⟨fun u => String.ofList u.chars⟩

/-- Removes the hyphens between groups of the given lengths; `none` if one is missing or something is left. -/
def unhyphenate (cs : List Char) : List Nat → Option (List Char)
  | [] => none
  | [n] => if cs.length = n then some cs else none
  | n :: ns =>
    match cs.drop n with
    | '-' :: rest => (unhyphenate rest ns).map (cs.take n ++ ·)
    | _ => none

/-- An identifier of 32 hexadecimal digits. -/
def ofDigits? (cs : List Char) : Option Uuid := do
  let n ← Digits.readHex? cs
  if h : cs.length = 32 ∧ n < uuidBound then some { value := n, value_lt := h.2 } else none

/-- An identifier in hyphenated groups. -/
def ofGroups? (cs : List Char) : Option Uuid := (unhyphenate cs groups).bind ofDigits?

/-- What may stand before a hyphenated identifier, compared without regard to case. -/
def urnScheme : List Char := "urn:uuid:".toList

/-- Reads an identifier in any of its four written forms. -/
def ofChars? (cs : List Char) : Option Uuid :=
  match cs.length with
  | 32 => ofDigits? cs
  | 36 => ofGroups? cs
  | 38 => if cs.head? = some '\x7b' ∧ cs.getLast? = some '\x7d' then ofGroups? ((cs.drop 1).take 36) else none
  | 45 => if (cs.take 9).map Char.toLower = urnScheme then ofGroups? (cs.drop 9) else none
  | _ => none

/-- Reads an identifier. -/
def ofText? (text : String) : Option Uuid := ofChars? text.toList

end Uuid

/-! ## Fresh identifiers -/

/-- Where new identifiers come from: prescribed ones first, then numbered ones. -/
structure IdSupply where
  queue : List Uuid := []
  issued : Nat := 0
deriving Inhabited

namespace IdSupply

/-- The identifier with number `n`. -/
def numbered (n : Nat) : Uuid := Uuid.ofNat (0x00000000000040008000000000000000 + n)

/-- The next identifier. -/
def next (s : IdSupply) : Uuid :=
  match s.queue with
  | u :: _ => u
  | [] => numbered (s.issued + 1)

/-- The supply after the next identifier has been taken. -/
def advance (s : IdSupply) : IdSupply :=
  match s.queue with
  | _ :: rest => { s with queue := rest }
  | [] => { s with issued := s.issued + 1 }

end IdSupply
end Clearing
