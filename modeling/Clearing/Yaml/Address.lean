import Clearing.Digits
import Clearing.Yaml.Cursor

/-!
# Addresses of tags

A tag is known by its address: octets, written as characters of ASCII or as two digits behind a percent sign.
Octets behind percent signs have to look like characters of UTF-8, but need not be a text. An octet of value
zero ends an address, whatever follows.
-/

namespace Clearing.Yaml

/-- The address of a tag. -/
abbrev Address := List UInt8

namespace Address

/-- The address that a text spells. -/
def ofText (text : String) : Address := text.toUTF8.data.toList

/-- The text that an address spells, if it spells one. -/
def text? (a : Address) : Option String := String.fromUTF8? a.toByteArray

/-- The address of a type that all texts know. -/
def common (name : String) : Address := ofText ("tag:yaml.org,2002:" ++ name)

/-- The address of the tag that names no type. -/
def nonSpecific : Address := ofText "!"

/-- The name that a text gives itself: what follows an exclamation mark, or the mark alone. -/
def name? : Address → Option String
  | 0x21 :: rest => (if rest.isEmpty then nonSpecific else rest).text?
  | _ => none

/-! ## Reading -/

/-- Whether a character stands in an address; `verbatim` tells whether it is written in angle brackets. -/
def isTagChar (verbatim : Bool) (c : Char) : Bool :=
  isNameChar c || ";/?:@&=+$.%!~*'()".toList.contains c || (verbatim && [',', '[', ']'].contains c)

/-- The number of octets that have to follow, behind an octet where so many are missing. -/
def missingBehind? (missing : Nat) (o : UInt8) : Option Nat :=
  if 0 < missing then if 0x80 ≤ o && o < 0xc0 then some (missing - 1) else none
  else if o < 0x80 then some 0
  else if o < 0xc0 then none
  else if o < 0xe0 then some 1
  else if o < 0xf0 then some 2
  else if o < 0xf8 then some 3
  else none

/-- The octets that characters spell, where so many are missing from the last character. -/
def octets? : (missing : Nat) → List Char → Option Address
  | missing, [] => if missing = 0 then some [] else none
  | missing, '%' :: a :: b :: rest => do
    let o := UInt8.ofNat (← Digits.readHex? [a, b])
    return o :: (← octets? (← missingBehind? missing o) rest)
  | missing, c :: rest => if c == '%' || 0 < missing then none else return c.toUInt8 :: (← octets? 0 rest)

/-- The address that characters spell. -/
def read? (cs : List Char) : Option Address := (octets? 0 cs).map (·.takeWhile (· != 0))

end Address
end Clearing.Yaml
