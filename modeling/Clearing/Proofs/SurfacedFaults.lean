import Clearing.Courier.Mailbox
import Clearing.Proofs.Lemmas.Faults
import Clearing.Proofs.Lemmas.Trace

/-!
# Failures that surface

Of the failures that are queued in the store at most one strikes a command, and the command ends with it: no step
hides it or gives it another kind. So a caller who is told of a conflict may trust it, and only then try again. A
failure does strike once the command comes to its place.
-/

namespace Clearing

variable {κ : Type} [Courier κ]

/-- An error is a failure of the store with the step at which it struck, and is classified as the failure is. -/
structure StoreError.Surfaces (failure : StoreError) (e : SettlementError) : Prop where
  source : ∃ context, e = .store context failure
  kind : e.kind = failure.kind
  isConflict : e.isConflict = (failure.kind == .conflict)
  isRetryable : e.isRetryable = failure.kind.isRetryable

theorem Wrapped.surfaces {failure : StoreError} {e : SettlementError} (h : Wrapped failure e) :
    failure.Surfaces e := by
  obtain ⟨context, rfl⟩ := h
  exact ⟨⟨context, rfl⟩, rfl, rfl, rfl⟩

/-! ## Places that a command comes to -/

/-- Only a lock of a ledger entry cannot be made to fail. -/
theorem Query.exists_faultPoint {q : Query} (h : ∀ id, q ≠ .lockLedgerEntry id) :
    ∃ point, q.faultPoint? = some point := by
  cases q with
  | lockLedgerEntry id => exact absurd rfl (h id)
  | _ => exact ⟨_, rfl⟩

variable {α : Type} {w : World MemoryStore κ} {point : FaultPoint} {q : Query}

/-- A unit of work that asks a query at whose place a failure is queued ends with the oldest failure there. -/
theorem Work.run_struck {x : Work α} {answer : Except StoreError q.Reply} (hasked : ⟨.ask q, answer⟩ ∈ x.trace w)
    (hpoint : q.faultPoint? = some point) (hqueued : queuedAt point w.store.faults ≠ []) :
    ∃ failure e w', x.run w = (.error e, w') ∧ Wrapped failure e ∧
      StruckAt point failure w.store.faults w'.store.faults := by
  induction x generalizing w with
  | done a => cases hasked
  | fail e => cases hasked
  | ask first context next ih =>
      cases hask : w.ask first with
      | mk result w₁ =>
          cases result with
          | ok r =>
              have hsame := World.faults_of_ask_ok hask
              rw [trace_ask_ok hask] at hasked
              rw [run, hask, ← hsame]
              rcases List.mem_cons.mp hasked with heq | hrest
              · cases heq
                obtain ⟨e, w', hstruck, -⟩ := World.ask_struck hpoint hqueued
                cases hask.symm.trans hstruck
              · exact ih r hrest (hsame ▸ hqueued)
          | error e =>
              rw [trace_ask_error hask, List.mem_singleton] at hasked
              cases hasked
              obtain ⟨failure, w', hstruck, hleft⟩ := World.ask_struck hpoint hqueued
              rw [run, hstruck]
              exact ⟨failure, _, w', rfl, ⟨context, rfl⟩, hleft⟩
  | hand m next ih =>
      rcases List.mem_cons.mp hasked with heq | hrest
      · cases heq
      · exact ih (w.hand m).1 hrest hqueued
  | note e next ih => exact ih hasked hqueued

namespace Operation

variable {o : Operation α}

/-- An operation ends with the oldest failure at a place. -/
def IsStruck (o : Operation α) (point : FaultPoint) (w : World MemoryStore κ) : Prop :=
  ∃ failure e, StruckAt point failure w.store.faults (o.perform w).2.store.faults ∧
    (o.perform w).1 = .error e ∧ failure.Surfaces e

theorem struck_at_begin (hcheck : o.check = .ok ()) (hqueued : queuedAt .begin w.store.faults ≠ []) :
    o.IsStruck .begin w := by
  obtain ⟨failure, s, hfault⟩ := MemoryStore.exists_fault hqueued
  have hperform : o.perform w = (.error (.store beginContext failure),
      { w with store := s, log := w.log ++ [.faultInjected .begin failure] }) := by
    simp only [perform, hcheck, World.transact, World.begin_eq, hfault]
  rw [IsStruck, hperform]
  exact ⟨failure, _, MemoryStore.struckAt_of_fault? hfault, rfl, Wrapped.surfaces ⟨beginContext, rfl⟩⟩

theorem struck_at_query {answer : Except StoreError q.Reply} (hasked : ⟨.ask q, answer⟩ ∈ o.trace w)
    (hpoint : q.faultPoint? = some point) (hqueued : queuedAt point w.store.faults ≠ []) : o.IsStruck point w := by
  rw [trace] at hasked
  split at hasked
  · cases hasked
  · next hcheck =>
      split at hasked
      · cases hasked
      · next hbegin =>
          obtain ⟨-, rfl⟩ := World.begin_ok hbegin
          obtain ⟨failure, e, w', hrun, hwrapped, hstruck⟩ := Work.run_struck hasked hpoint hqueued
          have hperform : o.perform w = w'.abandon o.name e := by
            simp only [perform, hcheck, World.transact, hbegin, hrun]
            rfl
          obtain ⟨log, habandon⟩ := World.abandon_eq (w := w') (α := α) o.name e
          rw [IsStruck, hperform, habandon]
          exact ⟨failure, e, hstruck, rfl, hwrapped.surfaces⟩

/-- An operation that succeeds has met no failure where it commits. -/
theorem not_queued_at_commit (hok : (o.perform w).1.isOk) : queuedAt .commit w.store.faults = [] := by
  cases hperform : o.perform w with
  | mk result w' =>
      cases result with
      | error e =>
          rw [hperform] at hok
          cases hok
      | ok a =>
          obtain ⟨w₁, w₂, hbegin, -, hrun⟩ := run_of_ok (congrArg Prod.fst hperform)
          obtain ⟨-, rfl⟩ := World.begin_ok hbegin
          have hends := (o.work.run_ends w.opened).faults w.store.faults
          have hopened : w.opened.withFaults w.store.faults = w.opened := rfl
          rw [hopened, hrun] at hends
          rcases hends with hsame | ⟨point, failure, e, -, herror, -⟩
          · cases hqueued : queuedAt .commit w.store.faults with
            | nil => rfl
            | cons failure rest =>
                have hthere : queuedAt .commit w₂.store.faults ≠ [] := by
                  rw [hsame, hqueued]
                  nofun
                obtain ⟨e, s, hfault⟩ := MemoryStore.exists_fault hthere
                simp only [perform, (perform_ok hperform).1, World.transact, hbegin, hrun, World.conclude,
                  World.commit_eq, hfault] at hperform
                cases hperform
          · cases herror

end Operation

/-- A command that succeeds has used up no failure. One that has used up a failure has used up the oldest at its place
and no other, and has failed with it. A command that comes to a place where a failure is queued, be it to open its
transaction, to ask a query or to commit, is struck there. -/
theorem Service.failure_surfaces (s : Service) (c : Command) (w : World MemoryStore κ) :
    ((s.perform c w).1.isOk → (s.perform c w).2.store.faults = w.store.faults) ∧
    ((s.perform c w).2.store.faults = w.store.faults ∨
      ∃ point failure e, StruckAt point failure w.store.faults (s.perform c w).2.store.faults ∧
        (s.perform c w).1 = .error e ∧ failure.Surfaces e) ∧
    ((s.operation c).check = .ok () → queuedAt .begin w.store.faults ≠ [] → (s.operation c).IsStruck .begin w) ∧
    (∀ q answer, ⟨.ask q, answer⟩ ∈ s.trace c w → (∀ id, q ≠ .lockLedgerEntry id) →
      ∃ point, q.faultPoint? = some point ∧
        (queuedAt point w.store.faults ≠ [] → (s.operation c).IsStruck point w)) ∧
    ((s.perform c w).1.isOk → queuedAt .commit w.store.faults = []) := by
  have hends := ((s.operation c).perform_ends w).faults w.store.faults
  rw [World.withFaults_self] at hends
  refine ⟨fun hok => ?_, hends.imp_right ?_, Operation.struck_at_begin, fun q answer hasked hq => ?_,
    Operation.not_queued_at_commit⟩
  · rcases hends with hsame | ⟨point, failure, e, -, herror, -⟩
    · exact hsame
    · replace herror : (s.perform c w).1 = .error e := herror
      rw [herror] at hok
      cases hok
  · rintro ⟨point, failure, e, hstruck, herror, hwrapped⟩
    exact ⟨point, failure, e, hstruck, herror, hwrapped.surfaces⟩
  · obtain ⟨point, hpoint⟩ := Query.exists_faultPoint hq
    exact ⟨point, hpoint, Operation.struck_at_query hasked hpoint⟩

/-- Of two failures to open a transaction the older one strikes, and the other stays queued. -/
example :
    let faults := [(.insertUser, .internal "disk full"), (.begin, .conflict "40001"), (.begin, .internal "closed")]
    let w : World MemoryStore Mailbox := { store := { now := .epoch, faults := faults }, courier := {} }
    let done := Service.perform {} (.checkCurrencies (.ofNat 1) "BTC" "USDT") w
    done.1 = .error (.store Operation.beginContext (.conflict "40001")) ∧
      done.2.store.faults = [(.insertUser, .internal "disk full"), (.begin, .internal "closed")] :=
  ⟨rfl, rfl⟩

end Clearing
