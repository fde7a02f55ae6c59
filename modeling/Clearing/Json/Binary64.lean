import Clearing.Digits

/-!
# Binary floating point in exact arithmetic

A JSON number with a fraction or an exponent stands for a binary64 value. Such a value is kept as a sign, an
integer mantissa and a power of two. `nearest?` rounds a quotient to it, half to even. `ofDecimal?` reads a
decimal in two roundings, one of its digits and one of their product with the power of ten, and `shortest`
selects the fewest decimal digits that are nearest to a value.
-/

namespace Clearing

/-- The finite value `mantissa * 2 ^ exponent` with a sign; the mantissa is below `2 ^ 53`. -/
structure Binary64 where
  negative : Bool
  mantissa : Nat
  exponent : Int
deriving DecidableEq

namespace Binary64

/-- The least exponent of a mantissa's unit. -/
def minExponent : Int := -1074

/-- The largest exponent of a mantissa's unit. -/
def maxExponent : Int := 971

/-- The zero of a sign. -/
def zero (negative : Bool) : Binary64 := { negative, mantissa := 0, exponent := minExponent }

/-- The least mantissa of 53 bits. -/
def leadingBit : Nat := 0x10000000000000

/-! ## Rounding a quotient -/

/-- `num * 2 ^ (-e) / den`, a half going to the even neighbour. -/
def scaledQuotient (num den : Nat) (e : Int) : Nat :=
  let n := num * Nat.pow 2 (-e).toNat
  let d := den * Nat.pow 2 e.toNat
  let q := n / d
  let r := n % d
  if 2 * r < d then q else if d < 2 * r then q + 1 else q + q % 2

/-- The exponent at which the mantissa of `num / den` has 53 bits, or the least exponent if that is larger. -/
def unitExponent (num den : Nat) : Int :=
  let e : Int := (num.log2 : Int) - den.log2 - 53
  let e := if num * Nat.pow 2 (-e).toNat < den * (2 * leadingBit) * Nat.pow 2 e.toNat then e else e + 1
  max e minExponent

/-- The value nearest to the signed quotient `num / den`; `none` beyond the largest finite value. -/
def nearest? (negative : Bool) (num den : Nat) : Option Binary64 :=
  if num = 0 then some (zero negative)
  else
    let e := unitExponent num den
    let m := scaledQuotient num den e
    let (m, e) := if m = 2 * leadingBit then (leadingBit, e + 1) else (m, e)
    if maxExponent < e then none else some { negative, mantissa := m, exponent := e }

/-! ## Decimals -/

/-- The value nearest to a natural number, which has to be in range. -/
def ofNat? (n : Nat) : Option Binary64 := nearest? false n 1

/-- The product of two values, rounded; `none` if it is out of range. -/
def times? (x y : Binary64) : Option Binary64 :=
  let e := x.exponent + y.exponent
  nearest? (x.negative != y.negative) (x.mantissa * y.mantissa * Nat.pow 2 e.toNat) (Nat.pow 2 (-e).toNat)

/-- The quotient of two values, rounded; `none` if it is out of range. -/
def over? (x y : Binary64) : Option Binary64 :=
  let e := x.exponent - y.exponent
  nearest? (x.negative != y.negative) (x.mantissa * Nat.pow 2 e.toNat) (y.mantissa * Nat.pow 2 (-e).toNat)

/-- The largest power of ten in range. -/
def maxPower : Nat := 308

/-- The value nearest to `10 ^ k`. -/
def powerOfTen? (k : Nat) : Option Binary64 := ofNat? (Nat.pow 10 k)

/-- Divides by `10 ^ k`, by the largest power of ten first while `k` is beyond it; each division rounds. -/
def lowered? (x : Binary64) (k : Nat) : Option Binary64 :=
  if k ≤ maxPower then do x.over? (← powerOfTen? k)
  else if x.mantissa = 0 then some x
  else do
    let y ← x.over? (← powerOfTen? maxPower)
    y.lowered? (k - maxPower)
termination_by k
decreasing_by simp only [maxPower] at *; omega

/-- The value read from `digits * 10 ^ power`: the digits are rounded, and so is their product with the power,
or their quotient by it. -/
def ofDecimal? (negative : Bool) (digits : Nat) (power : Int) : Option Binary64 := do
  if digits = 0 then some (zero negative)
  else
    let x : Binary64 := { (← ofNat? digits) with negative := negative }
    if power < 0 then x.lowered? power.natAbs
    else if power.toNat ≤ maxPower then x.times? (← powerOfTen? power.toNat)
    else none

/-! ## The fewest digits -/

/-- Which of two equally near decimals is taken. -/
inductive Tie where
  | even
  | up
deriving DecidableEq

/-- Compares `d * 10 ^ p` with a quarter of `b * 2 ^ e`. -/
def compareQuarter (d : Nat) (p : Int) (b : Nat) (e : Int) : Ordering :=
  compare (4 * d * Nat.pow 10 p.toNat * Nat.pow 2 (-e).toNat) (b * Nat.pow 2 e.toNat * Nat.pow 10 (-p).toNat)

/-- Whether `d * 10 ^ p` lies among the numbers that round to the size of `x`. Halfway points count when the
mantissa is even; below a power of two the neighbour is half as far. -/
def roundsTo (x : Binary64) (d : Nat) (p : Int) : Bool :=
  let narrow := x.mantissa == leadingBit && decide (minExponent < x.exponent)
  let lower := compareQuarter d p (4 * x.mantissa - if narrow then 1 else 2) x.exponent
  let upper := compareQuarter d p (4 * x.mantissa + 2) x.exponent
  let ends := x.mantissa % 2 == 0
  (lower == .gt || (ends && lower == .eq)) && (upper == .lt || (ends && upper == .eq))

/-- The least `k` for which the size of `x` is below `10 ^ k`. -/
def magnitude (x : Binary64) : Int :=
  let estimate : Int := (((x.mantissa.log2 : Int) + x.exponent) * 30103) / 100000 - 1
  let below (k : Int) : Bool := compareQuarter 1 k (4 * x.mantissa) x.exponent == .gt
  (([0, 1, 2].map (fun i : Int => estimate + i)).find? below).getD (estimate + 3)

/-- The decimal with its last digit at `10 ^ p` that rounds to `x` and is nearest to it, if there is one. -/
def onGrid? (tie : Tie) (x : Binary64) (p : Int) : Option Nat :=
  let low := x.mantissa * Nat.pow 2 x.exponent.toNat * Nat.pow 10 (-p).toNat
    / (Nat.pow 2 (-x.exponent).toNat * Nat.pow 10 p.toNat)
  match x.roundsTo low p, x.roundsTo (low + 1) p with
  | false, false => none
  | true, false => some low
  | false, true => some (low + 1)
  | true, true =>
    match compareQuarter (2 * low + 1) p (8 * x.mantissa) x.exponent with
    | .lt => some (low + 1)
    | .gt => some low
    | .eq => if tie = .even && low % 2 == 0 then some low else some (low + 1)

/-- Moves zeros at the end of a decimal into its power of ten. -/
def dropZeros (fuel d : Nat) (p : Int) : Nat × Int :=
  match fuel with
  | 0 => (d, p)
  | fuel + 1 => if d % 10 = 0 then dropZeros fuel (d / 10) (p + 1) else (d, p)

/-- The fewest digits, with their power of ten, that round to the size of `x`. -/
def shortest (tie : Tie) (x : Binary64) : Nat × Int :=
  if x.mantissa = 0 then (0, 0)
  else
    let k := x.magnitude
    let found := (List.range 17).findSome? fun n : Nat =>
      let p : Int := k - (n + 1)
      (x.onGrid? tie p).map (·, p)
    match found with
    | some (d, p) => dropZeros 20 d p
    | none =>
      let places := (-x.exponent).toNat
      (x.mantissa * Nat.pow 2 x.exponent.toNat * Nat.pow 10 places / Nat.pow 2 places, -(places : Int))

/-! ## Layout -/

/-- Puts a point after the first `k` digits, with zeros where digits are missing. -/
def pointed (ds : List Char) (k : Int) : List Char :=
  if k ≤ 0 then '0' :: '.' :: (List.replicate (-k).toNat '0' ++ ds)
  else if ds.length ≤ k.toNat then ds ++ List.replicate (k.toNat - ds.length) '0'
  else ds.take k.toNat ++ '.' :: ds.drop k.toNat

/-- The text without an exponent: an integer has no point. -/
def plainChars (x : Binary64) : List Char :=
  let (d, p) := x.shortest .up
  let ds := Digits.decimal d
  let body := if d = 0 then ['0'] else pointed ds (p + ds.length)
  if x.negative then '-' :: body else body

/-- A power of ten behind its mark, with its sign. -/
def exponentChars (e : Int) : List Char :=
  'e' :: (if e < 0 then '-' else '+') :: Digits.decimal e.natAbs

/-- The text in JSON: positional for a point after the digits -4 to 16, always with a point, and otherwise
one digit, the others behind a point, and the exponent. -/
def jsonChars (x : Binary64) : List Char :=
  let (d, p) := x.shortest .even
  let ds := Digits.decimal d
  let k : Int := p + ds.length
  let body :=
    if d = 0 then ['0', '.', '0']
    else if -5 < k ∧ k ≤ 16 then
      if (ds.length : Int) ≤ k then pointed ds k ++ ['.', '0'] else pointed ds k
    else if ds.length = 1 then ds ++ exponentChars (k - 1)
    else ds.take 1 ++ '.' :: ds.drop 1 ++ exponentChars (k - 1)
  if x.negative then '-' :: body else body

end Binary64
end Clearing
