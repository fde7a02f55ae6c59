import Clearing.Decimal.Basic
import Clearing.Digits

/-!
# The text of an amount

An amount is written as its sign, its integer part and exactly as many fraction digits as its scale. Reading
also takes a leading plus, a missing integer or fraction part, underscores after the first digit, more
fraction digits than fit (the first one dropped rounds half up, but behind an underscore only if the
coefficient is wide) and, when the plain form fails, an exponent.
-/

namespace Clearing.Decimal

/-! ## Writing -/

/-- The digits of the absolute value, with a point before the last `scale` of them. -/
def magnitudeText (a : Decimal) : List Char :=
  let ds := Digits.padded (a.scale + 1) a.coeff
  let whole := ds.take (ds.length - a.scale)
  if a.scale = 0 then whole else whole ++ '.' :: ds.drop (ds.length - a.scale)

/-- The characters of an amount. -/
def chars (a : Decimal) : List Char :=
  if a.negative then '-' :: a.magnitudeText else a.magnitudeText

instance : ToString Decimal := ⟨fun a => String.ofList a.chars⟩

/-! ## Reading the plain form -/

/-- Whether a character may stand where digits no longer count. -/
def isDigitOrMark (c : Char) : Bool := c.isDigit || c == '_'

/-- The value of a decimal digit. -/
def digitValue (c : Char) : Nat := c.toNat - '0'.toNat

/-- Ends a reading at a digit that no longer fits: the digit rounds half up, and what remains may hold only
digits and underscores. -/
def roundOff (coeff scale : Nat) (dropped : Char) (rest : List Char) : Option (Nat × Nat) :=
  if !rest.all isDigitOrMark then none
  else if dropped < '5' then some (coeff, scale)
  else if coeff + 1 < coeffBound then some (coeff + 1, scale)
  else if scale = 0 then none
  else some ((coeff + 1 + 4) / 10, scale - 1)

/-- Coefficients below this bound are narrow: one more digit keeps them within a machine word. -/
def narrowBound : Nat := UInt64.size / 10 - 255

/-- Reads on behind the last place: the next digit rounds, and underscores before it do not count. -/
def scanBeyond (coeff scale : Nat) : List Char → Option (Nat × Nat)
  | [] => some (coeff, scale)
  | c :: rest =>
    if c == '_' then scanBeyond coeff scale rest
    else if c.isDigit then roundOff coeff scale c rest
    else none

/-- Reads on behind the last place, where an underscore keeps a narrow coefficient as it is, whatever follows. -/
def scanEnd (wide : Bool) (coeff scale : Nat) (rest : List Char) : Option (Nat × Nat) :=
  if !wide && rest.head? == some '_' then
    if rest.all isDigitOrMark then some (coeff, scale) else none
  else scanBeyond coeff scale rest

/-- Reads digits, at most one point and underscores into a coefficient and a scale. `point` and `digit` tell
whether a point and a digit have been seen. -/
def scan (coeff scale : Nat) (point digit : Bool) : List Char → Option (Nat × Nat)
  | [] => if digit then some (coeff, scale) else none
  | c :: rest =>
    if c.isDigit then
      let next := 10 * coeff + digitValue c
      if point then
        if coeffBound ≤ next then roundOff coeff scale c rest
        else if scale + 1 < maxScale then scan next (scale + 1) true true rest
        else scanEnd (decide (narrowBound ≤ coeff)) next (scale + 1) rest
      else if next < coeffBound then scan next scale false true rest
      else none
    else if c == '.' then
      if point then none else scan coeff scale true digit rest
    else if c == '_' && digit then scan coeff scale point true rest
    else none

/-- Splits off a leading sign. -/
def splitSign : List Char → Bool × List Char
  | '-' :: rest => (true, rest)
  | '+' :: rest => (false, rest)
  | cs => (false, cs)

/-- Reads an amount without an exponent; a zero is positive. -/
def readPlain? (cs : List Char) : Option Decimal := do
  let (negative, body) := splitSign cs
  let (coeff, scale) ← scan 0 0 false false body
  narrow negative coeff scale

/-! ## Reading an exponent -/

/-- The amount with the same coefficient and sign at another scale. -/
def withScale? (a : Decimal) (scale : Nat) : Option Decimal := ofParts? a.negative a.coeff scale

/-- The amount with `d` fraction digits fewer, a half going away from zero. -/
def dropDigits? (a : Decimal) (d : Nat) : Option Decimal :=
  ofParts? a.negative ((a.coeff + Nat.pow 10 d / 2) / Nat.pow 10 d) (a.scale - d)

/-- The power `10 ^ k` as an amount, for exponents that fit. -/
def powerOfTen? (k : Nat) : Option Decimal := ofParts? false (Nat.pow 10 k) 0

/-- Takes zeros off the end of `scale` fraction digits. -/
def trimZeros (coeff : Nat) : (scale : Nat) → Nat × Nat
  | 0 => (coeff, 0)
  | scale + 1 => if coeff % 10 = 0 then trimZeros (coeff / 10) scale else (coeff, scale + 1)

/-- The amount without zeros at the end of its fraction. -/
def trimmed? (a : Decimal) : Option Decimal :=
  let (coeff, scale) := trimZeros a.coeff a.scale
  narrow a.negative coeff scale

/-- Multiplies by `10 ^ k` in steps of at most `10 ^ 19` and trims the fraction. -/
def raise? (a : Decimal) (k : Nat) : Option Decimal := do
  let step ← powerOfTen? 19
  let (a, k) ← if 19 ≤ k then (a.mul? step).map (·, k - 19) else some (a, k)
  (← a.mul? (← powerOfTen? k)).trimmed?

/-- Moves the point `k` places to the left. Digits that would fall behind the last place are rounded off. -/
def shiftRight? (a : Decimal) (k : Nat) : Option Decimal :=
  if maxScale < k then none
  else if a.scale + k ≤ maxScale then a.withScale? (a.scale + k)
  else do (← a.dropDigits? (a.scale - (maxScale - k))).withScale? maxScale

/-- Moves the point `k` places to the right. -/
def shiftLeft? (a : Decimal) (k : Nat) : Option Decimal :=
  if k ≤ a.scale then a.withScale? (a.scale - k)
  else if maxScale < k then none
  else a.raise? k

/-- An exponent without its minus: an optional plus and digits, below `2 ^ 32`. -/
def readExponent? (cs : List Char) : Option Nat := do
  let n ← Digits.readNat? (match cs with | '+' :: rest => rest | _ => cs)
  if n < UInt32.size then some n else none

/-- Whether a character starts an exponent. -/
def isExponentMark (c : Char) : Bool := c == 'e' || c == 'E'

/-- Reads a plain amount, an exponent mark and an exponent. -/
def readScientific? (cs : List Char) : Option Decimal := do
  let base ← readPlain? (cs.takeWhile (!isExponentMark ·))
  match cs.dropWhile (!isExponentMark ·) with
  | [] => none
  | _ :: '-' :: digits => base.shiftRight? (← readExponent? digits)
  | _ :: digits => base.shiftLeft? (← readExponent? digits)

/-- Reads an amount in plain form or, where that fails, with an exponent. -/
def ofChars? (cs : List Char) : Option Decimal :=
  (readPlain? cs).or (readScientific? cs)

/-- Reads an amount. -/
def ofText? (text : String) : Option Decimal := ofChars? text.toList

end Clearing.Decimal
