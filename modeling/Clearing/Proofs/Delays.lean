import Clearing.Proofs.Lemmas.Backoff

/-!
# The law of delays

The delay before the next attempt is the base delay times a power of two, or the longest delay allowed if that is
shorter; products that no duration holds are no exception. With its random part a delay is at most half as long again,
and delays of less than two milliseconds have none.
-/

namespace Clearing

theorem Duration.nanos_scale (d : Duration) (n : Nat) : (d.scale n).nanos = min (d.nanos * n) longestNanos := rfl

theorem Duration.nanos_add? {a b d : Duration} (h : a.add? b = some d) : d.nanos = a.nanos + b.nanos := by
  rw [add?, ofNanos?] at h
  split at h
  · cases h
    rfl
  · cases h

theorem Duration.add?_zero (a : Duration) : a.add? (.ofMillis 0) = some a := dif_pos a.nanos_le

namespace RetryPolicy

/-! ## Factors -/

theorem factor_of_le {attempt : Nat} (h : attempt ≤ 32) : factor attempt = Nat.pow 2 (attempt - 1) :=
  if_pos (by omega)

theorem factor_of_lt {attempt : Nat} (h : 32 < attempt) : factor attempt = UInt32.size - 1 :=
  if_neg (by omega)

/-- Beyond 32 attempts the factor is not the next power of two, but no smaller than the last one. -/
theorem factor_mono {first later : Nat} (h : first ≤ later) : factor first ≤ factor later := by
  by_cases hlater : later ≤ 32
  · rw [factor_of_le hlater, factor_of_le (Nat.le_trans h hlater)]
    exact Nat.pow_le_pow_right Nat.two_pos (by omega)
  · rw [factor_of_lt (Nat.lt_of_not_le hlater)]
    by_cases hfirst : first ≤ 32
    · rw [factor_of_le hfirst]
      have hlast : Nat.pow 2 (first - 1) ≤ Nat.pow 2 31 := Nat.pow_le_pow_right Nat.two_pos (by omega)
      exact Nat.le_trans hlast (by decide)
    · exact Nat.le_of_eq (factor_of_lt (Nat.lt_of_not_le hfirst))

/-! ## Delays -/

variable (p : RetryPolicy)

/-- A product that is too long for a duration is longer than the longest delay allowed. -/
theorem nanos_delay (attempt : Nat) :
    (p.delay attempt).nanos = min (p.baseDelay.nanos * factor attempt) p.maxDelay.nanos := by
  have hmax := p.maxDelay.nanos_le
  rw [delay, Duration.nanos_shorter, Duration.nanos_scale]
  omega

theorem delay_mono {first later : Nat} (h : first ≤ later) : (p.delay first).nanos ≤ (p.delay later).nanos := by
  have hproduct : p.baseDelay.nanos * factor first ≤ p.baseDelay.nanos * factor later :=
    Nat.mul_le_mul_left _ (factor_mono h)
  rw [nanos_delay, nanos_delay]
  omega

theorem nanos_backoff? {attempt draw : Nat} {d : Duration} (h : p.backoff? attempt draw = some d) :
    (p.delay attempt).nanos ≤ d.nanos ∧ 2 * d.nanos ≤ 3 * (p.delay attempt).nanos := by
  have hsum := Duration.nanos_add? h
  have hjitter := p.jitter_le attempt draw
  omega

/-- Half of one millisecond is no whole millisecond. -/
theorem backoff?_of_short {attempt : Nat} (h : (p.delay attempt).nanos < 2000000) (draw : Nat) :
    p.backoff? attempt draw = some (p.delay attempt) := by
  have hhalf : (p.delay attempt).millis / 2 = 0 := by
    rw [Duration.millis]
    omega
  rw [backoff?, jitterBound, hhalf, Nat.zero_mod, Nat.zero_add, Nat.mod_one]
  exact Duration.add?_zero _

/-- The delay of an attempt is the base delay times a power of two up to the longest delay, exactly; it never goes
down from one attempt to the next. The random part adds half of it at most, and is in range whenever half of the
longest delay can be added to it. -/
theorem backoff_law :
    ((p.delay 0).nanos = min p.baseDelay.nanos p.maxDelay.nanos ∧
      (∀ attempt, 1 ≤ attempt → attempt ≤ 32 →
        (p.delay attempt).nanos = min (p.baseDelay.nanos * Nat.pow 2 (attempt - 1)) p.maxDelay.nanos) ∧
      ∀ attempt, 32 < attempt →
        (p.delay attempt).nanos = min (p.baseDelay.nanos * (Nat.pow 2 32 - 1)) p.maxDelay.nanos) ∧
    (∀ first later, first ≤ later → (p.delay first).nanos ≤ (p.delay later).nanos) ∧
    (∀ attempt, (p.delay attempt).nanos ≤ p.maxDelay.nanos) ∧
    (∀ attempt draw d, p.backoff? attempt draw = some d →
      (p.delay attempt).nanos ≤ d.nanos ∧ 2 * d.nanos ≤ 3 * (p.delay attempt).nanos) ∧
    (∀ attempt draw, (p.delay attempt).nanos < 2000000 → p.backoff? attempt draw = some (p.delay attempt)) ∧
    (p.maxDelay.nanos + p.maxDelay.nanos / 2 ≤ longestNanos →
      ∀ attempt draw, (p.backoff? attempt draw).isSome) := by
  refine ⟨⟨?_, ?_, ?_⟩, ?_, p.delay_le, ?_, ?_, ?_⟩
  · rw [p.nanos_delay, factor_of_le (Nat.zero_le _)]
    exact congrArg (min · p.maxDelay.nanos) (Nat.mul_one _)
  · intro attempt _ hle
    rw [p.nanos_delay, factor_of_le hle]
  · intro attempt hlt
    rw [p.nanos_delay, factor_of_lt hlt]
  · exact fun first later h => p.delay_mono h
  · exact fun attempt draw d h => p.nanos_backoff? h
  · exact fun attempt draw h => p.backoff?_of_short h draw
  · exact fun h attempt draw => p.isSome_backoff? attempt draw (by omega)

end RetryPolicy

/-- A policy whose base delay no factor but one leaves in range, and whose longest delay has more milliseconds than
64 bits count. -/
def patientPolicy : RetryPolicy where
  baseDelay := { nanos := longestNanos }
  maxDelay := Duration.ofSeconds 12000000000000000000

theorem RetryPolicy.patient_delays :
    (patientPolicy.delay 33).nanos = patientPolicy.maxDelay.nanos ∧
      ∃ d, patientPolicy.backoff? 33 12345 = some d ∧ patientPolicy.maxDelay.nanos < d.nanos ∧
        2 * d.nanos ≤ 3 * patientPolicy.maxDelay.nanos := by
  obtain ⟨⟨-, -, hlast⟩, -, -, hbetween, -, hinRange⟩ := backoff_law patientPolicy
  have hdelay : (patientPolicy.delay 33).nanos = patientPolicy.maxDelay.nanos :=
    (hlast 33 (by decide)).trans (by decide)
  obtain ⟨d, hd⟩ := Option.isSome_iff_exists.mp (hinRange (by decide) 33 12345)
  obtain ⟨-, hle⟩ := hbetween 33 12345 d hd
  refine ⟨hdelay, d, hd, ?_, hdelay ▸ hle⟩
  have hsum := Duration.nanos_add? hd
  rw [hsum, hdelay]
  decide

end Clearing
