import Clearing.Instant.Basic
import Clearing.Digits

/-!
# The text of an instant

An instant is written as date, `T`, time and `Z`, with 0, 3, 6 or 9 fraction digits, the fewest that are
exact. Reading is more liberal: blanks around the parts, one-digit months, days and times, signed years, any
number of fraction digits, a blank in place of `T`, and an offset from universal time.
-/

namespace Clearing.Instant

/-! ## Writing -/

/-- A year: four digits from 0 to 9999, otherwise a sign and at least four digits. -/
def yearChars (year : Int) : List Char :=
  if 0 ≤ year ∧ year ≤ 9999 then Digits.padded 4 year.natAbs
  else (if year < 0 then '-' else '+') :: Digits.padded 4 year.natAbs

/-- The fraction of a second, with the fewest of 0, 3, 6 and 9 digits that are exact. -/
def fractionChars (nanos : Nat) : List Char :=
  if nanos = 0 then []
  else if nanos % 1000000 = 0 then '.' :: Digits.padded 3 (nanos / 1000000)
  else if nanos % 1000 = 0 then '.' :: Digits.padded 6 (nanos / 1000)
  else '.' :: Digits.padded 9 nanos

/-- The characters of an instant; a leap second is second 60. -/
def chars (t : Instant) : List Char :=
  let d := t.date
  let ofDay := (t.seconds % secondsPerDay).toNat
  let leap := 1000000000 ≤ t.nanos
  let second := ofDay % 60 + if leap then 1 else 0
  let nanos := if leap then t.nanos - 1000000000 else t.nanos
  yearChars d.year ++ '-' :: Digits.padded 2 d.month ++ '-' :: Digits.padded 2 d.day
    ++ 'T' :: Digits.padded 2 (ofDay / 3600) ++ ':' :: Digits.padded 2 (ofDay / 60 % 60)
    ++ ':' :: Digits.padded 2 second ++ fractionChars nanos ++ ['Z']

instance : ToString Instant := ⟨fun t => String.ofList t.chars⟩

/-! ## Reading -/

/-- The ranges of code points with the white space property. -/
def blankRanges : List (Nat × Nat) :=
  [(0x09, 0x0D), (0x20, 0x20), (0x85, 0x85), (0xA0, 0xA0), (0x1680, 0x1680), (0x2000, 0x200A),
   (0x2028, 0x2029), (0x202F, 0x202F), (0x205F, 0x205F), (0x3000, 0x3000)]

/-- Whether a character is white space. -/
def isBlank (c : Char) : Bool := blankRanges.any fun r => decide (r.1 ≤ c.toNat) && decide (c.toNat ≤ r.2)

/-- The text from its first character that is no white space. -/
def skipBlanks (cs : List Char) : List Char := cs.dropWhile isBlank

/-- Takes a run of one to `width` digits, behind blanks. -/
def digits? (width : Nat) (cs : List Char) : Option (Nat × List Char) :=
  let cs := skipBlanks cs
  let ds := (cs.take width).takeWhile Char.isDigit
  if ds.isEmpty then none else some (Digits.value ds, cs.drop ds.length)

/-- Takes a run of digits of any length below `2 ^ 63`. -/
def longDigits? (cs : List Char) : Option (Nat × List Char) :=
  let ds := cs.takeWhile Char.isDigit
  if ds.isEmpty || decide (0x8000000000000000 ≤ Digits.value ds) then none
  else some (Digits.value ds, cs.dropWhile Char.isDigit)

/-- Takes a year behind blanks: up to four digits, or a sign and any number of them. -/
def year? (cs : List Char) : Option (Int × List Char) :=
  match skipBlanks cs with
  | '-' :: rest => (longDigits? rest).map fun (n, rest) => (-(n : Int), rest)
  | '+' :: rest => (longDigits? rest).map fun (n, rest) => ((n : Int), rest)
  | cs => (digits? 4 cs).map fun (n, rest) => ((n : Int), rest)

/-- Takes a given character behind blanks. -/
def mark? (c : Char) (cs : List Char) : Option (List Char) :=
  match skipBlanks cs with
  | d :: rest => if d = c then some rest else none
  | [] => none

/-- Takes a fraction, if a point follows: its first nine digits count, as nanoseconds. -/
def fraction? : List Char → Option (Nat × List Char)
  | '.' :: rest =>
    let ds := rest.takeWhile Char.isDigit
    let kept := ds.take 9
    if ds.isEmpty then none
    else some (Digits.value kept * Nat.pow 10 (9 - kept.length), rest.dropWhile Char.isDigit)
  | cs => some (0, cs)

/-- Two digits and what follows them. -/
def twoDigits? : List Char → Option (Nat × List Char)
  | a :: b :: rest => if a.isDigit && b.isDigit then some (Digits.value [a, b], rest) else none
  | _ => none

/-- Takes the hours and minutes of an offset, with colons and blanks between them; seconds as the result. -/
def offsetBody? (cs : List Char) : Option (Int × List Char) := do
  let (hours, cs) ← twoDigits? cs
  let (minutes, cs) ← twoDigits? (cs.dropWhile fun c => c == ':' || isBlank c)
  let total := hours * 3600 + minutes * 60
  if 59 < minutes ∨ 86400 ≤ total then none else some ((total : Int), cs)

/-- Takes an offset from universal time in seconds. -/
def offset? (cs : List Char) : Option (Int × List Char) :=
  if (cs.take 3).map Char.toUpper = ['U', 'T', 'C'] then some (0, cs.drop 3)
  else
    match cs with
    | [] => none
    | c :: rest =>
      if c == 'Z' || c == 'z' then some (0, rest)
      else if c == '+' then offsetBody? rest
      else if c == '-' || c == '\u2212' then (offsetBody? rest).map fun (n, rest) => (-n, rest)
      else none

/-- The instant of a date and a time of day at an offset, if all of them are in range. -/
def ofParts? (d : Date) (hour minute second nanos : Nat) (offset : Int) : Option Instant :=
  if !d.isValid || decide (23 < hour) || decide (59 < minute) || decide (60 < second) then none
  else
    let leap := second == 60
    let seconds := d.dayNumber * secondsPerDay + (hour * 3600 + minute * 60 : Nat)
      + (if leap then 59 else second : Nat) - offset
    let nanos := if leap then nanos + 1000000000 else nanos
    if h : nanos < 2000000000 then
      let t : Instant := { seconds, nanos, nanos_lt := h }
      if t.date.isValid then some t else none
    else none

/-- Reads an instant. -/
def ofChars? (cs : List Char) : Option Instant := do
  let (year, cs) ← year? cs
  let cs ← mark? '-' cs
  let (month, cs) ← digits? 2 cs
  let cs ← mark? '-' cs
  let (day, cs) ← digits? 2 cs
  let cs ← match cs with
    | c :: rest => if c == 'T' || c == 't' || c == ' ' then some rest else none
    | [] => none
  let (hour, cs) ← digits? 2 cs
  let cs ← mark? ':' cs
  let (minute, cs) ← digits? 2 cs
  let cs ← mark? ':' cs
  let (second, cs) ← digits? 2 cs
  let (nanos, cs) ← fraction? cs
  let (offset, cs) ← offset? (skipBlanks cs)
  if !(skipBlanks cs).isEmpty then none
  else ofParts? { year, month, day } hour minute second nanos offset

/-- Reads an instant. -/
def ofText? (text : String) : Option Instant := ofChars? text.toList

end Clearing.Instant
