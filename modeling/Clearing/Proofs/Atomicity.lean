import Clearing.Courier.Mailbox
import Clearing.Proofs.Effect
import Clearing.Proofs.Lemmas.Rounding

/-!
# All or nothing

Whatever is in the rows, whichever failures are queued and whatever the courier answers: a command that fails
leaves the committed rows as they are, and a command that succeeds has had its complete effect. The counts of
commits and rollbacks tell which of the two it was.
-/

namespace Clearing

variable {κ : Type} [Courier κ] {s : Service} {c : Command} {w w' : World MemoryStore κ}

namespace Service

/-- Whether a command gets as far as opening its transaction. -/
def opens (s : Service) (c : Command) (w : World MemoryStore κ) : Bool :=
  (s.operation c).check.isOk && (w.store.fault? .begin).isNone

theorem counts_of_error {e : SettlementError} (h : s.perform c w = (.error e, w')) :
    w'.store.committed = w.store.committed ∧ w'.store.commits = w.store.commits ∧
      w'.store.rollbacks = w.store.rollbacks + if s.opens c w then 1 else 0 := by
  rcases Operation.perform_error h with ⟨hcheck, hstore⟩ | ⟨-, hbegin, faults, hstore⟩
    | ⟨hcheck, hbegin, s', hsame, hstore⟩
  · have hopens : s.opens c w = false := by
      cases hc : (s.operation c).check with
      | ok u => exact absurd hc hcheck
      | error e' => rw [opens, hc]; rfl
    rw [hstore, hopens]
    exact ⟨rfl, rfl, rfl⟩
  · have hopens : s.opens c w = false := by
      rw [opens, Option.isNone_eq_false_iff.mpr hbegin, Bool.and_false]
    rw [hstore, hopens]
    exact ⟨rfl, rfl, rfl⟩
  · have hopens : s.opens c w = true := by
      rw [opens, hcheck, hbegin]
      rfl
    rw [hstore, hopens]
    exact ⟨hsame.committed, hsame.commits, congrArg (· + 1) hsame.rollbacks⟩

theorem counts_of_ok {r : c.Result} (h : s.perform c w = (.ok r, w')) :
    w'.store.commits = w.store.commits + 1 ∧ w'.store.rollbacks = w.store.rollbacks := by
  obtain ⟨-, w₁, hrun, hstore, -⟩ := Operation.perform_ok h
  have hsame := (s.operation c).work.run_sameOutside w.opened
  rw [hrun] at hsame
  rw [hstore]
  exact ⟨congrArg (· + 1) hsame.commits, hsame.rollbacks⟩

end Service

namespace Command

/-- Whether the caller gets the result: computing what is left of an order may fail after the commit. -/
def Returns : (c : Command) → c.Result → Prop
  | .updateFill _, .applied .. => True
  | .updateFill _, .remainderOverflow _ => False
  | .settleTrade _, _ | .postTransfer .., _ | .moveEntry .., _ | .registerUser _, _ | .verifyEmail .., _
  | .checkCurrencies .., _ | .publishBatch _, _ => True

theorem returns_of_remaining {r : c.Result} (h : c.Effect s w w' r)
    (hrest : ∀ o ∈ w'.store.committed.orders.rows, o.remaining? ≠ none) : c.Returns r := by
  cases c with
  | updateFill request =>
      obtain ⟨o, -, -, hreport, hrows⟩ := h
      have hmem : request.updated w.store.now o ∈ w'.store.committed.orders.rows := by
        rw [hrows]
        exact Table.mem_insert_iff.mpr (.inl rfl)
      cases hrem : (request.updated w.store.now o).remaining? with
      | none => exact absurd hrem (hrest _ hmem)
      | some remaining =>
          rw [hreport, FillReport.ofOrder, hrem]
          trivial
  | settleTrade e | postTransfer t rates | moveEntry id status | registerUser registration
  | verifyEmail id code | checkCurrencies userId base quote | publishBatch c => trivial

end Command

/-- An order of the largest amount whose filled amount is below zero. No fill update leaves such an order, but
a transaction of its own may. -/
def overdrawnOrder : Order where
  id := .ofNat 1
  userId := .ofNat 2
  marketId := .ofNat 3
  side := .buy
  price := .zero
  amount := .ofCoeff (coeffBound - 1) 0
  filledAmount := -.ofCoeff 1 0
  status := .opened
  createdAt := .epoch
  updatedAt := .epoch

/-- A store that holds the overdrawn order and nothing else. -/
def overdrawnWorld : World MemoryStore Mailbox where
  store := { committed := Tables.putOrder {} overdrawnOrder, now := .epoch }
  courier := {}

end Clearing
