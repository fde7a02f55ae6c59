import Clearing.Retry

/-!
# Attempts

An attempt that ends in a conflict is followed by another one while some are left, and any other is the last one. The
calls that are made can be recorded, which changes nothing about them.
-/

namespace Clearing

variable {ω α : Type}

/-- An outcome that is no conflict. -/
def Quiet (x : Except SettlementError α) : Prop := ∀ e, x = .error e → e.isConflict = false

theorem Quiet.ok {a : α} : Quiet (.ok a) := fun _ h => nomatch h

theorem Quiet.error {e : SettlementError} (h : e.isConflict = false) :
    Quiet (.error e : Except SettlementError α) := by
  rintro _ ⟨⟩
  exact h

theorem exists_conflict {x : Except SettlementError α} (h : ¬ Quiet x) : ∃ e, x = .error e ∧ e.isConflict = true := by
  cases x with
  | ok a => exact absurd .ok h
  | error e =>
      cases hconflict : e.isConflict with
      | true => exact ⟨e, rfl, hconflict⟩
      | false => exact absurd (.error hconflict) h

/-! ## Recorded calls -/

/-- A call of an operation, with the state before and after it. -/
structure Call (ω α : Type) where
  before : ω
  outcome : Except SettlementError α
  after : ω

/-- An operation that keeps a record of its calls. -/
def recorded (operation : ω → Except SettlementError α × ω) (x : ω × List (Call ω α)) :
    Except SettlementError α × ω × List (Call ω α) :=
  match operation x.1 with
  | (outcome, w) => (outcome, w, x.2 ++ [⟨x.1, outcome, w⟩])

theorem recorded_eq {operation : ω → Except SettlementError α × ω} {w w' : ω} {outcome : Except SettlementError α}
    (h : operation w = (outcome, w')) (calls : List (Call ω α)) :
    recorded operation (w, calls) = (outcome, w', calls ++ [⟨w, outcome, w'⟩]) := by
  simp only [recorded, h]

/-- Pacing that leaves a record alone. -/
def Pacing.besides (pacing : Pacing ω) (ρ : Type) : Pacing (ω × ρ) where
  draw := pacing.draw
  note e x := (pacing.note e x.1, x.2)
  sleep d x := (pacing.sleep d x.1, x.2)

/-! ## One attempt after the other -/

namespace RetryPolicy

/-- The attempts of a policy, with any delays in between: nothing depends on how they are computed. -/
def attemptsBy (p : RetryPolicy) (backoff : Nat → Nat → Option Duration) (pacing : Pacing ω)
    (operation : ω → Except SettlementError α × ω) : (left attempt : Nat) → ω → Retried α × ω
  | 0, _, w =>
    let (r, w) := operation w
    (.finished r, w)
  | left + 1, attempt, w =>
    match operation w with
    | (.ok a, w) => (.finished (.ok a), w)
    | (.error e, w) =>
      if e.isConflict then
        match backoff attempt (pacing.draw attempt) with
        | none => (.delayOverflow, w)
        | some d =>
          let w := pacing.note (.retrying attempt p.maxAttempts (d.millis % UInt64.size) e) w
          p.attemptsBy backoff pacing operation left (attempt + 1) (pacing.sleep d w)
      else (.finished (.error e), w)

variable {p : RetryPolicy} {backoff : Nat → Nat → Option Duration} {pacing : Pacing ω}
  {operation : ω → Except SettlementError α × ω} {left attempt : Nat} {w w' : ω}

theorem attempts_eq : p.attempts pacing operation left attempt w
    = p.attemptsBy p.backoff? pacing operation left attempt w := by
  -- The equations of `attempts` are left alone: to check one, the kernel evaluates the delay.
  delta attempts attemptsBy
  rfl

/-- An attempt that meets no conflict is the last one. -/
theorem attemptsBy_of_quiet {outcome : Except SettlementError α} (h : operation w = (outcome, w'))
    (hquiet : Quiet outcome) : p.attemptsBy backoff pacing operation left attempt w = (.finished outcome, w') := by
  cases left with
  | zero => simp only [attemptsBy, h]
  | succ left =>
      cases outcome with
      | ok a => simp only [attemptsBy, h]
      | error e => simp only [attemptsBy, h, hquiet e rfl, Bool.false_eq_true, if_false]

/-- An attempt that meets a conflict is followed by another one, if attempts are left. -/
theorem attemptsBy_of_conflict {e : SettlementError} {d : Duration} (h : operation w = (.error e, w'))
    (hconflict : e.isConflict = true) (hdelay : backoff attempt (pacing.draw attempt) = some d) :
    p.attemptsBy backoff pacing operation (left + 1) attempt w
      = p.attemptsBy backoff pacing operation left (attempt + 1)
        (pacing.sleep d (pacing.note (.retrying attempt p.maxAttempts (d.millis % UInt64.size) e) w')) := by
  simp only [attemptsBy, h, hconflict, if_true, hdelay]

/-- No attempt follows a delay that is out of range. -/
theorem attemptsBy_of_overflow {e : SettlementError} (h : operation w = (.error e, w'))
    (hconflict : e.isConflict = true) (hdelay : backoff attempt (pacing.draw attempt) = none) :
    p.attemptsBy backoff pacing operation (left + 1) attempt w = (.delayOverflow, w') := by
  simp only [attemptsBy, h, hconflict, if_true, hdelay]

/-- Keeping a record of the calls changes nothing about them. -/
theorem attemptsBy_of_recorded {outcome : Retried α} {calls more : List (Call ω α)}
    (h : p.attemptsBy backoff (pacing.besides _) (recorded operation) left attempt (w, calls) = (outcome, w', more)) :
    p.attemptsBy backoff pacing operation left attempt w = (outcome, w') := by
  induction left generalizing attempt w calls with
  | zero =>
      cases h
      rfl
  | succ left ih =>
      cases hw : operation w with
      | mk result w₁ =>
          have hrecorded := recorded_eq hw calls
          cases result with
          | ok a =>
              rw [attemptsBy_of_quiet hrecorded .ok] at h
              cases h
              exact attemptsBy_of_quiet hw .ok
          | error e =>
              cases hconflict : e.isConflict with
              | false =>
                  rw [attemptsBy_of_quiet hrecorded (.error hconflict)] at h
                  cases h
                  exact attemptsBy_of_quiet hw (.error hconflict)
              | true =>
                  cases hdelay : backoff attempt (pacing.draw attempt) with
                  | none =>
                      rw [attemptsBy_of_overflow hrecorded hconflict hdelay] at h
                      cases h
                      exact attemptsBy_of_overflow hw hconflict hdelay
                  | some d =>
                      rw [attemptsBy_of_conflict hrecorded hconflict hdelay] at h
                      rw [attemptsBy_of_conflict hw hconflict hdelay]
                      exact ih h

end RetryPolicy
end Clearing
