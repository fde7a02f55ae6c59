import Clearing.Proofs.Lemmas.Attempts
import Clearing.Proofs.Lemmas.Backoff

/-!
# How often an operation is called

An operation that is retried is called until it ends in anything but a conflict, or as often as the policy allows,
which is once at least. Between one call and the next there is one sleep, and there is none after the last.
-/

namespace Clearing

variable {α : Type}

/-- What a retried operation is seen to do. -/
inductive RetryStep (α : Type) where
  | called (outcome : Except SettlementError α)
  | slept (d : Duration)

namespace RetryStep

/-- Whether a step is a call. -/
def isCall : RetryStep α → Bool
  | .called _ => true
  | .slept _ => false

/-- Call number `first` and so many more, with a sleep before each of them. -/
def calls (outcomes : Nat → Except SettlementError α) (delays : Nat → Duration) (first : Nat) :
    (more : Nat) → List (RetryStep α)
  | 0 => [.called (outcomes first)]
  | more + 1 => .called (outcomes first) :: .slept (delays first) :: calls outcomes delays (first + 1) more

/-- An operation that ends in these outcomes, one call after the other from number 1 on. -/
def scripted (outcomes : Nat → Except SettlementError α) (seen : List (RetryStep α)) :
    Except SettlementError α × List (RetryStep α) :=
  (outcomes (seen.countP isCall + 1), seen ++ [.called (outcomes (seen.countP isCall + 1))])

/-- Pacing that is seen to sleep, with any random numbers. -/
def pacing (draw : Nat → Nat) : Pacing (List (RetryStep α)) where
  draw := draw
  note _ seen := seen
  sleep d seen := seen ++ [.slept d]

theorem countP_calls (outcomes : Nat → Except SettlementError α) (delays : Nat → Duration) (first more : Nat) :
    (calls outcomes delays first more).countP isCall = more + 1 := by
  induction more generalizing first with
  | zero => rfl
  | succ more ih =>
      rw [calls, List.countP_cons_of_pos rfl, List.countP_cons_of_neg Bool.false_ne_true, ih]

end RetryStep

/-- The position of the first outcome that is no conflict. -/
structure FirstQuiet (outcomes : Nat → Except SettlementError α) (k : Nat) : Prop where
  pos : 1 ≤ k
  quiet : Quiet (outcomes k)
  conflicts : ∀ i, 1 ≤ i → i < k → ¬ Quiet (outcomes i)

namespace RetryPolicy

/-- From any call on, an operation is called until it meets no conflict or no attempts are left. -/
theorem attemptsBy_scripted (p : RetryPolicy) (outcomes : Nat → Except SettlementError α) {draw : Nat → Nat}
    {delays : Nat → Duration} {backoff : Nat → Nat → Option Duration} {left attempt : Nat} {seen : List (RetryStep α)}
    (hcalls : seen.countP RetryStep.isCall + 1 = attempt)
    (hdelays : ∀ i, attempt ≤ i → i < attempt + left → backoff i (draw i) = some (delays i)) :
    ∃ more ≤ left, (∀ i, attempt ≤ i → i < attempt + more → ¬ Quiet (outcomes i)) ∧
      (more = left ∨ Quiet (outcomes (attempt + more))) ∧
      p.attemptsBy backoff (RetryStep.pacing draw) (RetryStep.scripted outcomes) left attempt seen
        = (.finished (outcomes (attempt + more)), seen ++ RetryStep.calls outcomes delays attempt more) := by
  have hcall : RetryStep.scripted outcomes seen = (outcomes attempt, seen ++ [.called (outcomes attempt)]) := by
    rw [RetryStep.scripted, hcalls]
  induction left generalizing attempt seen with
  | zero =>
      refine ⟨0, Nat.le_refl 0, fun i hi hlt => absurd hlt (Nat.not_lt_of_le hi), .inl rfl, ?_⟩
      simp only [attemptsBy, hcall]
      rfl
  | succ left ih =>
      by_cases hquiet : Quiet (outcomes attempt)
      · exact ⟨0, Nat.zero_le _, fun i hi hlt => absurd hlt (Nat.not_lt_of_le hi), .inr hquiet,
          attemptsBy_of_quiet hcall hquiet⟩
      · obtain ⟨e, he, hconflict⟩ := exists_conflict hquiet
        have hdelay := hdelays attempt (Nat.le_refl _) (by omega)
        -- The call and the sleep are seen, and the next call is one number further.
        have hnext : List.countP RetryStep.isCall
            (seen ++ [.called (outcomes attempt)] ++ [.slept (delays attempt)]) + 1 = attempt + 1 := by
          rw [List.countP_append, List.countP_append]
          exact congrArg (· + 1) hcalls
        obtain ⟨more, hmore, hconflicts, hends, hrest⟩ :=
          ih hnext (fun i hi hlt => hdelays i (by omega) (by omega)) (by rw [RetryStep.scripted, hnext])
        refine ⟨more + 1, Nat.succ_le_succ hmore, fun i hi hlt => ?_, ?_, ?_⟩
        · rcases Nat.eq_or_lt_of_le hi with rfl | hi
          · exact hquiet
          · exact hconflicts i hi (by omega)
        · rw [← Nat.add_assoc, Nat.add_right_comm]
          exact hends.imp_left (congrArg (· + 1))
        · rw [he] at hcall
          rw [attemptsBy_of_conflict hcall hconflict hdelay, ← he]
          have hshift : attempt + (more + 1) = attempt + 1 + more := by omega
          rw [hshift, RetryStep.calls]
          refine hrest.trans ?_
          rw [List.append_assoc, List.append_assoc]
          rfl

/-- An operation is called `n` times, where `n` is the smaller of the attempts that are allowed, one at least, and of
the position of the first outcome that is no conflict. The outcome of the last call is passed on. Between two calls
there is one sleep, as long as the policy may have it. -/
theorem retry_calls (p : RetryPolicy) (draw : Nat → Nat) (outcomes : Nat → Except SettlementError α)
    (hbackoff : ∀ i x, 1 ≤ i → i < p.maxAttempts → (p.backoff? i x).isSome) :
    ∃ n delays seen,
      p.retry (RetryStep.pacing draw) (RetryStep.scripted outcomes) [] = (.finished (outcomes n), seen) ∧
      seen = RetryStep.calls outcomes delays 1 (n - 1) ∧ seen.countP RetryStep.isCall = n ∧
      (∀ i, 1 ≤ i → i < n → p.backoff? i (draw i) = some (delays i)) ∧
      (∀ k, FirstQuiet outcomes k → n = min (max 1 p.maxAttempts) k) ∧
      ((∀ i, 1 ≤ i → ¬ Quiet (outcomes i)) →
        n = max 1 p.maxAttempts ∧ ∃ e, outcomes n = .error e ∧ e.isConflict = true) := by
  obtain ⟨delays, hdelays⟩ : ∃ delays : Nat → Duration, ∀ i, 1 ≤ i → i < 1 + (p.maxAttempts - 1) →
      p.backoff? i (draw i) = some (delays i) := by
    refine ⟨fun i => (p.backoff? i (draw i)).getD .zero, fun i hi hlt => ?_⟩
    obtain ⟨d, hd⟩ := Option.isSome_iff_exists.mp (hbackoff i (draw i) hi (by omega))
    simp only [hd, Option.getD_some]
  have hfirst : ([] : List (RetryStep α)).countP RetryStep.isCall + 1 = 1 := rfl
  obtain ⟨more, hmore, hconflicts, hends, hrest⟩ := p.attemptsBy_scripted outcomes hfirst hdelays
  refine ⟨1 + more, delays, _, attempts_eq.trans hrest, ?_, ?_, ?_, ?_, ?_⟩
  · rw [Nat.add_sub_cancel_left]
    rfl
  · rw [List.nil_append, RetryStep.countP_calls, Nat.add_comm]
  · exact fun i hi hlt => hdelays i hi (by omega)
  · intro k hk
    have hpos := hk.pos
    have hle : 1 + more ≤ k := Nat.le_of_not_lt fun hlt => hconflicts k hk.pos hlt hk.quiet
    rcases hends with hlast | hquiet
    · omega
    · have hge : k ≤ 1 + more := Nat.le_of_not_lt fun hlt => hk.conflicts _ (by omega) hlt hquiet
      omega
  · intro hall
    refine ⟨?_, exists_conflict (hall _ (by omega))⟩
    have hlast := hends.resolve_right (hall _ (by omega))
    omega

end RetryPolicy

/-- Two conflicts, and values from then on. -/
def clearing (n : Nat) : Except SettlementError Nat :=
  if n < 3 then .error (.store "failed to lock wallet" (.conflict "deadlock detected")) else .ok n

theorem clearing_firstQuiet : FirstQuiet clearing 3 where
  pos := by decide
  quiet := .ok
  conflicts i _ hlt hquiet := by
    have hconflict := hquiet _ (if_pos hlt)
    cases hconflict

theorem RetryPolicy.clearing_calls :
    (∃ seen, ({ maxAttempts := 5 } : RetryPolicy).retry (RetryStep.pacing fun _ => 0) (RetryStep.scripted clearing) []
      = (.finished (.ok 3), seen) ∧ seen.countP RetryStep.isCall = 3) ∧
    ∃ seen, ({ maxAttempts := 0 } : RetryPolicy).retry (RetryStep.pacing fun _ => 0) (RetryStep.scripted clearing) []
      = (.finished (clearing 1), seen) ∧ seen.countP RetryStep.isCall = 1 := by
  constructor
  · obtain ⟨n, delays, seen, hretry, -, hcalls, -, hmin, -⟩ :=
      retry_calls { maxAttempts := 5 } (fun _ => 0) clearing fun i x _ _ => isSome_backoff? _ i x (by decide)
    obtain rfl : n = 3 := hmin 3 clearing_firstQuiet
    exact ⟨seen, hretry, hcalls⟩
  · obtain ⟨n, delays, seen, hretry, -, hcalls, -, hmin, -⟩ :=
      retry_calls { maxAttempts := 0 } (fun _ => 0) clearing fun i x _ hlt => absurd hlt (Nat.not_lt_zero i)
    obtain rfl : n = 1 := hmin 3 clearing_firstQuiet
    exact ⟨seen, hretry, hcalls⟩

end Clearing
