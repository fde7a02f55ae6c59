/-!
# Runs of digits

Numbers are written and read over lists of characters: `decimal` writes a natural number in base ten,
`readNat?` reads a non-empty run of decimal digits, and `hexDigit?` and `hexDigits` serve base sixteen.
Main statements: the digits of a number have the number as their value (`value_decimal`), and reading as many
hexadecimal digits as a number needs gives the number (`readHex?_hexDigits`).
-/

namespace Clearing.Digits

/-! ## Base ten -/

/-- The decimal digits of `n`, most significant first. -/
def decimal (n : Nat) : List Char := Nat.toDigits 10 n

/-- The number whose decimal digits are `cs`; whatever is no digit counts by its code point. -/
def value (cs : List Char) : Nat := Nat.ofDigitChars 10 cs 0

/-- A non-empty list of ASCII digits as a number. -/
def readNat? (cs : List Char) : Option Nat :=
  if cs.isEmpty || !cs.all Char.isDigit then none else some (value cs)

/-- At least `width` digits, filled with zeros on the left. -/
def padded (width n : Nat) : List Char :=
  let ds := decimal n
  List.replicate (width - ds.length) '0' ++ ds

theorem decimal_ne_nil (n : Nat) : decimal n ≠ [] := by
  intro h
  have h' := congrArg List.length h
  have hp := Nat.length_toDigits_pos (b := 10) (n := n)
  simp only [decimal, List.length_nil] at h'
  omega

theorem isDigit_of_mem_decimal {n : Nat} {c : Char} (h : c ∈ decimal n) : c.isDigit = true :=
  Nat.isDigit_of_mem_toDigits (by decide) (by decide) h

theorem value_decimal (n : Nat) : value (decimal n) = n :=
  Nat.ofDigitChars_toDigits (by decide) (by decide)

/-! ## Base sixteen -/

/-- The value of one hexadecimal digit in either case. -/
def hexDigit? (c : Char) : Option Nat :=
  if '0' ≤ c ∧ c ≤ '9' then some (c.toNat - '0'.toNat)
  else if 'a' ≤ c ∧ c ≤ 'f' then some (c.toNat - 'a'.toNat + 10)
  else if 'A' ≤ c ∧ c ≤ 'F' then some (c.toNat - 'A'.toNat + 10)
  else none

/-- The number written by a list of hexadecimal digits, or `none` at the first other character. -/
def readHex? (cs : List Char) : Option Nat :=
  cs.foldlM (fun n c => (hexDigit? c).map (16 * n + ·)) 0

/-- Exactly `width` lowercase hexadecimal digits of `n`, the most significant first. -/
def hexDigits : (width : Nat) → Nat → List Char
  | 0, _ => []
  | width + 1, n => hexDigits width (n / 16) ++ [Nat.digitChar (n % 16)]

theorem length_hexDigits (width n : Nat) : (hexDigits width n).length = width := by
  induction width generalizing n with
  | zero => rfl
  | succ width ih => simp [hexDigits, ih]

theorem hexDigit?_digitChar (d : Fin 16) : hexDigit? (Nat.digitChar d) = some d.val := by
  revert d; decide

/-- Reading a fixed number of hexadecimal digits gives the number back when it fits them. -/
theorem readHex?_hexDigits (width n : Nat) (h : n < Nat.pow 16 width) :
    readHex? (hexDigits width n) = some n := by
  induction width generalizing n with
  | zero => simp [hexDigits, readHex?] at h ⊢; omega
  | succ width ih =>
    have hd : n / 16 < Nat.pow 16 width := by
      rw [Nat.div_lt_iff_lt_mul (by decide)]
      simpa [Nat.pow_succ] using h
    have hih := ih (n / 16) hd
    have hdigit := hexDigit?_digitChar ⟨n % 16, Nat.mod_lt _ (by decide)⟩
    simp only [readHex?] at hih ⊢
    simp only [hexDigits, List.foldlM_append, hih]
    simp only [List.foldlM_cons, List.foldlM_nil, Option.bind_eq_bind, Option.bind_some, hdigit,
      Option.map_some, Option.pure_def]
    congr 1
    omega

end Clearing.Digits
