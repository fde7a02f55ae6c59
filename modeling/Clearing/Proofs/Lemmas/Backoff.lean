import Clearing.Retry

/-!
# Delays between attempts

Whatever the base delay is multiplied by, a delay does not exceed the longest one allowed, and at most half of it is
added at random.
-/

namespace Clearing

theorem Duration.nanos_shorter (a b : Duration) : (a.shorter b).nanos = min a.nanos b.nanos := by
  rw [shorter]
  split <;> omega

theorem Duration.nanos_ofMillis_le (n : Nat) : (ofMillis n).nanos ≤ n * 1000000 := Nat.min_le_left ..

theorem Duration.seconds_ofSeconds {n : Nat} (h : n < UInt64.size) : (ofSeconds n).seconds = n := by
  have hle : n * 1000000000 ≤ longestNanos := by
    simp only [longestNanos]
    omega
  simp only [ofSeconds, saturated, seconds, Nat.min_eq_left hle]
  omega

theorem Duration.isSome_add? {a b : Duration} (h : a.nanos + b.nanos ≤ longestNanos) : (a.add? b).isSome := by
  rw [add?, ofNanos?, dif_pos h]
  rfl

namespace RetryPolicy

variable (p : RetryPolicy) (attempt draw : Nat)

theorem delay_le : (p.delay attempt).nanos ≤ p.maxDelay.nanos := by
  rw [delay, Duration.nanos_shorter]
  exact Nat.min_le_right ..

/-- The random part is at most half of the delay. -/
theorem jitter_le :
    2 * (Duration.ofMillis (draw % (p.jitterBound attempt + 1))).nanos ≤ (p.delay attempt).nanos := by
  have hdraw : draw % (p.jitterBound attempt + 1) ≤ p.jitterBound attempt :=
    Nat.le_of_lt_succ (Nat.mod_lt _ (Nat.succ_pos _))
  have hbound : p.jitterBound attempt ≤ (p.delay attempt).nanos / 1000000 / 2 := Nat.mod_le ..
  have hnanos := Duration.nanos_ofMillis_le (draw % (p.jitterBound attempt + 1))
  omega

/-- A delay is in range as long as half of the longest one can be added to it. -/
theorem isSome_backoff? (h : 3 * p.maxDelay.nanos ≤ 2 * longestNanos + 1) : (p.backoff? attempt draw).isSome := by
  apply Duration.isSome_add?
  have hdelay := p.delay_le attempt
  have hjitter := p.jitter_le attempt draw
  omega

end RetryPolicy
end Clearing
