import Clearing.Duration
import Clearing.Error
import Clearing.Event

/-!
# Trying again after a conflict

An operation that failed with a conflict is worth another attempt. The delay before it doubles from attempt to
attempt up to a limit, and up to half of it is added at random. Any other outcome, and the last conflict, is
passed on unchanged.
-/

namespace Clearing

/-- How often to try, and how long to wait in between. -/
structure RetryPolicy where
  maxAttempts : Nat := 3
  baseDelay : Duration := Duration.ofMillis 20
  maxDelay : Duration := Duration.ofMillis 500
deriving DecidableEq

namespace RetryPolicy

/-- What the base delay is multiplied by after a number of attempts: powers of two, as far as 32 bits go. -/
def factor (attempt : Nat) : Nat := if attempt - 1 < 32 then Nat.pow 2 (attempt - 1) else UInt32.size - 1

/-- The delay after a number of attempts, without the random part. -/
def delay (p : RetryPolicy) (attempt : Nat) : Duration :=
  (p.baseDelay.scale (factor attempt)).shorter p.maxDelay

/-- The largest random part of a delay in milliseconds: half of it, counted in 64 bits. -/
def jitterBound (p : RetryPolicy) (attempt : Nat) : Nat := (p.delay attempt).millis / 2 % UInt64.size

/-- The delay with a random part, which is `draw` reduced to its range; `none` if it is out of range. -/
def backoff? (p : RetryPolicy) (attempt draw : Nat) : Option Duration :=
  (p.delay attempt).add? (Duration.ofMillis (draw % (p.jitterBound attempt + 1)))

end RetryPolicy

/-- What becomes of retried attempts: the outcome of the last one, or a delay that is out of range. -/
inductive Retried (α : Type) where
  | finished (outcome : Except SettlementError α)
  | delayOverflow

/-- What retrying needs from its surroundings: random numbers by attempt, a log, and a clock to wait on. -/
structure Pacing (ω : Type) where
  draw : Nat → Nat
  note : Event → ω → ω
  sleep : Duration → ω → ω

namespace RetryPolicy

variable {ω α : Type}

/-- Makes attempt number `attempt`, and up to `left` more while they end in conflicts. -/
def attempts (p : RetryPolicy) (pacing : Pacing ω) (operation : ω → Except SettlementError α × ω) :
    (left attempt : Nat) → ω → Retried α × ω
  | 0, _, w =>
    let (r, w) := operation w
    (.finished r, w)
  | left + 1, attempt, w =>
    match operation w with
    | (.ok a, w) => (.finished (.ok a), w)
    | (.error e, w) =>
      if e.isConflict then
        match p.backoff? attempt (pacing.draw attempt) with
        | none => (.delayOverflow, w)
        | some d =>
          let w := pacing.note (.retrying attempt p.maxAttempts (d.millis % UInt64.size) e) w
          p.attempts pacing operation left (attempt + 1) (pacing.sleep d w)
      else (.finished (.error e), w)

/-- Repeats an operation while it fails with a conflict, up to the number of attempts. -/
def retry (p : RetryPolicy) (pacing : Pacing ω) (operation : ω → Except SettlementError α × ω)
    (w : ω) : Retried α × ω :=
  p.attempts pacing operation (p.maxAttempts - 1) 1 w

end RetryPolicy
end Clearing
