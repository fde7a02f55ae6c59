import Clearing.Json.Basic

/-!
# Reading JSON

The reader accepts the standard grammar: blanks between tokens, escapes with surrogate pairs, numbers without
leading zeros. A number without fraction and exponent is an integer when it lies between `-2 ^ 63` and
`2 ^ 64`, except `-0`; every other number becomes binary64, by its leading digits that fit 64 bits, and has to
be finite.
-/

namespace Clearing.Json

/-- Blanks between tokens. -/
def isBlank (c : Char) : Bool := c == ' ' || c == '\t' || c == '\n' || c == '\r'

/-- The text from its first character that is no blank. -/
def skipBlanks (cs : List Char) : List Char := cs.dropWhile isBlank

/-! ## Numbers -/

/-- The digits of a number: an integer part, a fraction and an exponent with its sign. -/
structure NumberToken where
  negative : Bool
  whole : List Char
  fraction : List Char
  exponent : Option (Bool × List Char)

namespace NumberToken

/-- The integer part has digits, and more than one only if the first is not a zero. -/
def wholeOk (ds : List Char) : Bool := ds.length == 1 || (ds.head? != some '0' && !ds.isEmpty)

/-- Splits a fraction off the text behind an integer part: `none` for a point without digits. -/
def fraction? : List Char → Option (List Char × List Char)
  | '.' :: rest =>
    let ds := rest.takeWhile Char.isDigit
    if ds.isEmpty then none else some (ds, rest.dropWhile Char.isDigit)
  | cs => some ([], cs)

/-- Splits the digits of an exponent off a text: `none` if there are none. -/
def exponentDigits? (negative : Bool) (cs : List Char) :
    Option (Option (Bool × List Char) × List Char) :=
  let ds := cs.takeWhile Char.isDigit
  if ds.isEmpty then none else some (some (negative, ds), cs.dropWhile Char.isDigit)

/-- Splits an exponent off a text, if one begins there. -/
def exponent? : List Char → Option (Option (Bool × List Char) × List Char)
  | [] => some (none, [])
  | c :: rest =>
    if c == 'e' || c == 'E' then
      match rest with
      | '+' :: ds => exponentDigits? false ds
      | '-' :: ds => exponentDigits? true ds
      | ds => exponentDigits? false ds
    else some (none, c :: rest)

/-- Splits a number off the front of a text. -/
def take? (cs : List Char) : Option (NumberToken × List Char) := do
  let (negative, cs) := match cs with
    | '-' :: rest => (true, rest)
    | _ => (false, cs)
  let whole := cs.takeWhile Char.isDigit
  if !wholeOk whole then none
  else
    let (fraction, cs) ← fraction? (cs.dropWhile Char.isDigit)
    let (exponent, cs) ← exponent? cs
    some ({ negative, whole, fraction, exponent }, cs)

/-- Appends digits to a number while it fits 64 bits; gives the number and how many digits went in. -/
def appendDigits (n : Nat) : List Char → Nat × Nat
  | [] => (n, 0)
  | c :: rest =>
    let next := 10 * n + (c.toNat - '0'.toNat)
    if next < UInt64.size then
      let (m, taken) := appendDigits next rest
      (m, taken + 1)
    else (n, 0)

/-- The power of ten that an exponent stands for. -/
def power (t : NumberToken) : Int :=
  match t.exponent with
  | none => 0
  | some (true, ds) => -(Digits.value ds : Int)
  | some (false, ds) => Digits.value ds

/-- The value of a number. Digits that no longer fit 64 bits are dropped; those of the integer part still
count as places. -/
def value? (t : NumberToken) : Option Json :=
  let (digits, taken) := appendDigits 0 t.whole
  let dropped := t.whole.length - taken
  let signed : Int := if t.negative then -(digits : Int) else digits
  if t.fraction.isEmpty && t.exponent.isNone && dropped == 0 && (!t.negative || digits != 0)
      && decide (-0x8000000000000000 ≤ signed) then
    some (.int signed)
  else
    let (digits, places) := appendDigits digits t.fraction
    (Binary64.ofDecimal? t.negative digits (dropped - places + t.power)).map .float

end NumberToken

/-! ## Texts -/

/-- The character behind a backslash, for all escapes but those by code. -/
def unescapeLetter? : Char → Option Char
  | '"' => some '"'
  | '\\' => some '\\'
  | '/' => some '/'
  | 'b' => some '\x08'
  | 'f' => some '\x0c'
  | 'n' => some '\n'
  | 'r' => some '\r'
  | 't' => some '\t'
  | _ => none

/-- The code written by four hexadecimal digits. -/
def code? (a b c d : Char) : Option Nat := Digits.readHex? [a, b, c, d]

/-- The character of a pair of surrogates. -/
def joinSurrogates (high low : Nat) : Char :=
  Char.ofNat (0x10000 + (high - 0xD800) * 0x400 + (low - 0xDC00))

/-- Reads the rest of a text behind its opening quote. -/
def textBody? : (fuel : Nat) → List Char → Option (List Char × List Char)
  | 0, _ => none
  | fuel + 1, cs =>
    match cs with
    | [] => none
    | '"' :: rest => some ([], rest)
    | '\\' :: 'u' :: a :: b :: c :: d :: rest => do
      let code ← code? a b c d
      if 0xD800 ≤ code ∧ code < 0xDC00 then
        match rest with
        | '\\' :: 'u' :: a :: b :: c :: d :: rest => do
          let low ← code? a b c d
          if 0xDC00 ≤ low ∧ low < 0xE000 then
            let (tail, rest) ← textBody? fuel rest
            some (joinSurrogates code low :: tail, rest)
          else none
        | _ => none
      else if 0xDC00 ≤ code ∧ code < 0xE000 then none
      else
        let (tail, rest) ← textBody? fuel rest
        some (Char.ofNat code :: tail, rest)
    | '\\' :: l :: rest => do
      let c ← unescapeLetter? l
      let (tail, rest) ← textBody? fuel rest
      some (c :: tail, rest)
    | c :: rest =>
      if c == '\\' || c.toNat < 0x20 then none
      else do
        let (tail, rest) ← textBody? fuel rest
        some (c :: tail, rest)

/-! ## Values -/

mutual

/-- Reads one value in which at most `room` arrays and objects lie inside one another; `fuel` bounds the steps and is
never short when it exceeds the length of the text. -/
def value? : (fuel room : Nat) → List Char → Option (Json × List Char)
  | 0, _, _ => none
  | fuel + 1, room, cs =>
    match skipBlanks cs with
    | 'n' :: 'u' :: 'l' :: 'l' :: rest => some (.null, rest)
    | 't' :: 'r' :: 'u' :: 'e' :: rest => some (.bool true, rest)
    | 'f' :: 'a' :: 'l' :: 's' :: 'e' :: rest => some (.bool false, rest)
    | '"' :: rest => do
      let (s, rest) ← textBody? (rest.length + 1) rest
      some (.string (String.ofList s), rest)
    | '[' :: rest =>
      if room = 0 then none
      else match skipBlanks rest with
        | ']' :: rest => some (.array [], rest)
        | rest => do
          let (items, rest) ← items? fuel (room - 1) rest
          some (.array items, rest)
    | '\x7b' :: rest =>
      if room = 0 then none
      else match skipBlanks rest with
        | '\x7d' :: rest => some (.object [], rest)
        | rest => do
          let (members, rest) ← members? fuel (room - 1) rest
          some (ofMembers members, rest)
    | cs => do
      let (token, rest) ← NumberToken.take? cs
      let v ← token.value?
      some (v, rest)

/-- Reads the items of an array up to its closing bracket. -/
def items? : (fuel room : Nat) → List Char → Option (List Json × List Char)
  | 0, _, _ => none
  | fuel + 1, room, cs => do
    let (v, rest) ← value? fuel room cs
    match skipBlanks rest with
    | ']' :: rest => some ([v], rest)
    | ',' :: rest => do
      let (items, rest) ← items? fuel room rest
      some (v :: items, rest)
    | _ => none

/-- Reads the members of an object up to its closing brace. -/
def members? : (fuel room : Nat) → List Char → Option (List (String × Json) × List Char)
  | 0, _, _ => none
  | fuel + 1, room, cs => do
    match skipBlanks cs with
    | '"' :: rest =>
      let (name, rest) ← textBody? (rest.length + 1) rest
      match skipBlanks rest with
      | ':' :: rest =>
        let (v, rest) ← value? fuel room rest
        match skipBlanks rest with
        | '\x7d' :: rest => some ([(String.ofList name, v)], rest)
        | ',' :: rest =>
          let (members, rest) ← members? fuel room rest
          some ((String.ofList name, v) :: members, rest)
        | _ => none
      | _ => none
    | _ => none

end

/-- How many arrays and objects may lie inside one another. -/
def maxDepth : Nat := 127

/-- The byte, counted from 1, at which a text opens more arrays and objects than allowed, or its last one if it never
does; `level` of them are open, `inText` tells whether a quote is, and `place` bytes were passed. -/
def limitPlace (cs : List Char) (level : Nat := 0) (inText : Bool := false) (place : Nat := 0) : Nat :=
  match cs with
  | [] => place
  | '\\' :: c :: rest => limitPlace rest level inText (place + 1 + c.utf8Size)
  | c :: rest =>
    let next := place + c.utf8Size
    if c == '"' then limitPlace rest level (!inText) next
    else if inText then limitPlace rest level inText next
    else if c == '[' || c == '\x7b' then
      if level < maxDepth then limitPlace rest (level + 1) inText next else next
    else if c == ']' || c == '\x7d' then limitPlace rest (level - 1) inText next
    else limitPlace rest level inText next

/-- Reads a text that holds one value, nested no deeper than allowed, and nothing else. -/
def ofText? (text : String) : Option Json := do
  let cs := text.toList
  let (v, rest) ← value? (cs.length + 1) maxDepth cs
  if (skipBlanks rest).isEmpty then some v else none

end Clearing.Json
