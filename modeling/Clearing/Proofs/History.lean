import Clearing.Proofs.Lemmas.Trace
import Clearing.Proofs.Run

/-!
# Along a run

What the actions of a run bring about, one after the other, and conditions that every action of a run fulfils in
the state in which it happens.
-/

namespace Clearing

/-- The exchanges of an action: those of its command, if it is one. -/
def Action.trace {κ : Type} [Courier κ] (w : World MemoryStore κ) : Action κ → List Exchange
  | .perform s c => s.trace c w
  | .seedUser .. | .seedWallet .. | .seedMarket .. | .seedOrder .. | .seedVerification .. | .injectFault ..
  | .setIds _ | .setClock _ | .setCourier _ => []

namespace World

variable {β κ : Type} [Courier κ] {w : World MemoryStore κ} {actions : List (Action κ)} {a : Action κ}

/-- What each action of a run brings about, in order. -/
def gather (f : World MemoryStore κ → Action κ → List β) : World MemoryStore κ → List (Action κ) → List β
  | _, [] => []
  | w, a :: rest => f w a ++ gather f (a.apply w) rest

variable {f : World MemoryStore κ → Action κ → List β}

theorem gather_append (actions more : List (Action κ)) :
    w.gather f (actions ++ more) = w.gather f actions ++ (w.after actions).gather f more := by
  induction actions generalizing w with
  | nil => rfl
  | cons a rest ih =>
      rw [List.cons_append, gather, gather, ih, List.append_assoc]
      rfl

theorem gather_concat : w.gather f (actions ++ [a]) = w.gather f actions ++ f (w.after actions) a := by
  rw [gather_append, gather, gather, List.append_nil]

theorem gather_isPrefix_take (n : Nat) : w.gather f (actions.take n) <+: w.gather f actions := by
  conv_rhs => rw [← List.take_append_drop n actions, gather_append]
  exact List.prefix_append ..

/-- Every action of a run fulfils a condition in the state in which it happens. -/
def Along (P : World MemoryStore κ → Action κ → Prop) (w : World MemoryStore κ) (actions : List (Action κ)) : Prop :=
  Follows (fun before a => P (w.after before) a) actions

variable {P : World MemoryStore κ → Action κ → Prop}

theorem Along.nil : w.Along P [] := Follows.nil

theorem Along.cons {rest : List (Action κ)} (ha : P w a) (h : (a.apply w).Along P rest) : w.Along P (a :: rest) := by
  intro before x after heq
  cases before with
  | nil =>
      obtain ⟨rfl, -⟩ := List.cons.inj heq
      exact ha
  | cons first before =>
      obtain ⟨rfl, hrest⟩ := List.cons.inj heq
      exact h before x after hrest

theorem along_concat_iff : w.Along P (actions ++ [a]) ↔ w.Along P actions ∧ P (w.after actions) a :=
  Follows.concat_iff

theorem Along.take (h : w.Along P actions) (n : Nat) : w.Along P (actions.take n) := by
  intro before a rest heq
  refine h before a (rest ++ actions.drop n) ?_
  rw [← List.cons_append, ← List.append_assoc, ← heq, List.take_append_drop]

/-- What the first state has, and every action keeps, every state of a run has. -/
theorem Along.invariant {I : World MemoryStore κ → Prop} (h : w.Along P actions) (start : I w)
    (step : ∀ v a, P v a → I v → I (a.apply v)) : I (w.after actions) := by
  induction actions using List.reverseRecOn with
  | nil => exact start
  | append_singleton actions a ih =>
      obtain ⟨hactions, ha⟩ := along_concat_iff.mp h
      rw [after_concat]
      exact step _ a ha (ih hactions)

/-- What relates a state to itself and to what an action makes of it relates it to the next state of the run. -/
theorem Along.next {R : World MemoryStore κ → World MemoryStore κ → Prop} (h : w.Along P actions) {n : Nat}
    (refl : R (w.stateAt actions n) (w.stateAt actions n))
    (step : ∀ a, P (w.stateAt actions n) a → R (w.stateAt actions n) (a.apply (w.stateAt actions n))) :
    R (w.stateAt actions n) (w.stateAt actions (n + 1)) := by
  rcases w.stateAt_succ actions n with ⟨a, hnext⟩ | hover
  · have ha := h.take (n + 1)
    rw [hnext] at ha
    have heq : w.stateAt actions (n + 1) = a.apply (w.stateAt actions n) := by
      rw [stateAt, hnext, after_concat, stateAt]
    rw [heq]
    exact step a (along_concat_iff.mp ha).2
  · rw [hover]
    exact refl

/-- What holds from each state to the next holds from each state to every later one. -/
theorem Along.between {I : World MemoryStore κ → Prop} {R : World MemoryStore κ → World MemoryStore κ → Prop}
    (h : w.Along P actions) (start : I w) (step : ∀ v a, P v a → I v → I (a.apply v) ∧ R v (a.apply v))
    (refl : ∀ v, R v v) (trans : ∀ u v x, R u v → R v x → R u x) {m n : Nat} (hmn : m ≤ n) :
    R (w.stateAt actions m) (w.stateAt actions n) := by
  induction n, hmn using Nat.le_induction with
  | base => exact refl _
  | succ n hmn ih =>
      have hinv : I (w.stateAt actions n) := (h.take n).invariant start fun v a hv hI => (step v a hv hI).1
      exact trans _ _ _ ih (h.next (refl _) fun a ha => (step _ a ha hinv).2)

end World
end Clearing
