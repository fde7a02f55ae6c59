/-!
# Decimal amounts

An amount is a sign, a coefficient below `2 ^ 96` and a scale, the number of its fraction digits, so `490` and
`490.00` are different values of one number. From the 29th on fraction digits are zeros. Order and equality of
numbers ignore the scale; arithmetic keeps as many of 28 fraction digits as fit and rounds the rest half to even.
Results that do not fit are `none`.
-/

namespace Clearing

/-- Coefficients are below this bound, which is `2 ^ 96`. -/
abbrev coeffBound : Nat := 0x1000000000000000000000000

/-- The largest number of fraction digits that count. -/
abbrev maxScale : Nat := 28

/-- A signed coefficient with a fixed number of fraction digits. -/
structure Decimal where
  negative : Bool
  coeff : Nat
  scale : Nat
  coeff_lt : coeff < coeffBound := by decide
  dvd_coeff : Nat.pow 10 (scale - maxScale) ∣ coeff := by decide
deriving DecidableEq

namespace Decimal

/-- The amount `0`. -/
def zero : Decimal where
  negative := false
  coeff := 0
  scale := 0

instance : Inhabited Decimal := ⟨zero⟩

/-- The amount with these parts, if they are in range; the sign is kept as it is. -/
def ofParts? (negative : Bool) (coeff scale : Nat) : Option Decimal :=
  if h : coeff < coeffBound ∧ Nat.pow 10 (scale - maxScale) ∣ coeff then
    some { negative, coeff, scale, coeff_lt := h.1, dvd_coeff := h.2 }
  else none

/-- Whether the number is zero, at any scale and of either sign. -/
def isZero (a : Decimal) : Bool := a.coeff == 0

/-! ## Order -/

/-- The coefficient with its sign. -/
def signed (a : Decimal) : Int := if a.negative then -(a.coeff : Int) else a.coeff

/-- The numerator of `a` over the common denominator `10 ^ (a.scale + b.scale)`. -/
def crossed (a b : Decimal) : Int := a.signed * (Nat.pow 10 b.scale : Nat)

instance : LT Decimal := ⟨fun a b => a.crossed b < b.crossed a⟩
instance : LE Decimal := ⟨fun a b => a.crossed b ≤ b.crossed a⟩
instance (a b : Decimal) : Decidable (a < b) := inferInstanceAs (Decidable (a.crossed b < b.crossed a))
instance (a b : Decimal) : Decidable (a ≤ b) := inferInstanceAs (Decidable (a.crossed b ≤ b.crossed a))

/-- Equality as numbers: `1.0` and `1` are the same, and so are `-0` and `0`. -/
def sameNumber (a b : Decimal) : Bool := a.crossed b == b.crossed a

/-! ## Rounding and fitting -/

/-- The quotient of `m` by `10 ^ d`, a half going to the even neighbour. -/
def roundHalfEven (m d : Nat) : Nat :=
  let unit := Nat.pow 10 d
  let q := m / unit
  let r := m % unit
  if 2 * r < unit then q else if unit < 2 * r then q + 1 else q + q % 2

/-- The amount of this sign, coefficient and scale, if they are in range; a zero is positive. -/
def narrow (negative : Bool) (coeff scale : Nat) : Option Decimal :=
  ofParts? (negative && coeff != 0) coeff scale

/-- The first of the scales `t`, `t - 1`, …, `0` at which `m / 10 ^ s`, rounded half to even, fits. -/
def fitFrom (negative : Bool) (m s : Nat) : (t : Nat) → Option Decimal
  | 0 => narrow negative (roundHalfEven m s) 0
  | t + 1 =>
    (narrow negative (roundHalfEven m (s - (t + 1))) (t + 1)).or (fitFrom negative m s t)

/-- The amount nearest to `m / 10 ^ s` with as many fraction digits as fit, up to `s` and 28. -/
def fit (negative : Bool) (m s : Nat) : Option Decimal := fitFrom negative m s (min s maxScale)

/-- The amount nearest to the signed number `m / 10 ^ s`. -/
def fitSigned (m : Int) (s : Nat) : Option Decimal := fit (decide (m < 0)) m.natAbs s

/-! ## Arithmetic -/

/-- The number with the other sign; a zero gets a sign as well. -/
def neg (a : Decimal) : Decimal := { a with negative := !a.negative }

instance : Neg Decimal := ⟨neg⟩

/-- The coefficient of `a` once its scale is raised to `s`. -/
def alignedTo (a : Decimal) (s : Nat) : Int := a.signed * (Nat.pow 10 (s - a.scale) : Nat)

/-- The sum of two numbers over `10 ^ s`. More than 28 places are kept while both numbers are single words; a
longer sum counts its places modulo 29, and only one that is too long is rounded. -/
def sumOver? (x y : Int) (s : Nat) : Option Decimal :=
  if s ≤ maxScale ∨ coeffBound ≤ max (x + y).natAbs (max x.natAbs y.natAbs) then fitSigned (x + y) s
  else
    let isShort := decide (max x.natAbs y.natAbs < UInt32.size)
    narrow (decide (x + y < 0)) (x + y).natAbs (if isShort then s else s % (maxScale + 1))

/-- The sum. A zero on the left gives the right operand as it is, and a zero on the right the left one. -/
def add? (a b : Decimal) : Option Decimal :=
  if a.isZero then some b
  else if b.isZero then some a
  else
    let s := max a.scale b.scale
    sumOver? (a.alignedTo s) (b.alignedTo s) s

/-- The difference. A zero on the left gives the right operand negated unless it is zero as well, and a
zero on the right gives the left operand as it is. -/
def sub? (a b : Decimal) : Option Decimal :=
  if a.isZero then some (if b.isZero then b else -b)
  else if b.isZero then some a
  else
    let s := max a.scale b.scale
    sumOver? (a.alignedTo s) (-b.alignedTo s) s

/-- The product. A zero operand gives `0`; so do two coefficients below `2 ^ 32` with more than 47
fraction digits between them. -/
def mul? (a b : Decimal) : Option Decimal :=
  if a.isZero || b.isZero then some zero
  else
    let s := a.scale + b.scale
    if a.coeff < UInt32.size ∧ b.coeff < UInt32.size ∧ 47 < s then some zero
    else fit (a.negative != b.negative) (a.coeff * b.coeff) s

/-! ## Whole numbers -/

/-- A whole number below the coefficient bound in size. -/
def ofInt? (n : Int) : Option Decimal := narrow (decide (n < 0)) n.natAbs 0

end Decimal
end Clearing
