/-!
# Lengths of time

A duration is a number of nanoseconds of at most `2 ^ 64 - 1` whole seconds. Products stop at the longest
duration; a sum that is longer does not exist.
-/

namespace Clearing

/-- The number of nanoseconds of the longest duration. -/
def longestNanos : Nat := (UInt64.size - 1) * 1000000000 + 999999999

/-- A length of time in nanoseconds. -/
structure Duration where
  nanos : Nat
  nanos_le : nanos ≤ longestNanos := by decide
deriving DecidableEq

namespace Duration

/-- No time. -/
def zero : Duration := { nanos := 0 }

instance : Inhabited Duration := ⟨zero⟩

/-- The duration of this many nanoseconds, if it exists. -/
def ofNanos? (n : Nat) : Option Duration :=
  if h : n ≤ longestNanos then some { nanos := n, nanos_le := h } else none

/-- The duration of this many nanoseconds, or the longest one. -/
def saturated (n : Nat) : Duration := { nanos := min n longestNanos, nanos_le := Nat.min_le_right _ _ }

/-- Whole seconds. -/
def ofSeconds (n : Nat) : Duration := saturated (n * 1000000000)

/-- Whole milliseconds. -/
def ofMillis (n : Nat) : Duration := saturated (n * 1000000)

/-- Whole seconds, rounded down. -/
def seconds (d : Duration) : Nat := d.nanos / 1000000000

/-- Whole milliseconds, rounded down. -/
def millis (d : Duration) : Nat := d.nanos / 1000000

/-- The product with a number, or the longest duration. -/
def scale (d : Duration) (factor : Nat) : Duration := saturated (d.nanos * factor)

/-- The shorter of two durations. -/
def shorter (a b : Duration) : Duration := if a.nanos ≤ b.nanos then a else b

/-- The sum, if it exists. -/
def add? (a b : Duration) : Option Duration := ofNanos? (a.nanos + b.nanos)

end Duration
end Clearing
