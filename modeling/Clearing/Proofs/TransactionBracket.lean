import Clearing.Proofs.Atomicity
import Clearing.Proofs.Lemmas.Rows
import Clearing.Proofs.Lemmas.Trace
import Clearing.Proofs.Lemmas.Turns

/-!
# How a transaction shows on the connection

Whatever a database answers: what is sent for a transaction is BEGIN, the statements of its queries up to the
first that fails or whose answer does not have what the query needs, and one of COMMIT and ROLLBACK. COMMIT is
sent if every answer has what is needed and the unit of work refuses nothing. After ROLLBACK the error of the
unit of work is passed on, and the operation succeeds if COMMIT is sent and not refused.
-/

namespace Clearing

open Sql

variable {α κ : Type}

/-! ## Transactions -/

namespace Operation

variable [Courier κ]

/-- What an operation sends whose transaction is opened, and what comes of it. -/
structure Bracketed (o : Operation α) (w : World Session κ) (last : Statement) : Prop where
  sent : (o.perform w).2.store.sent = w.store.sent ++ .begin :: ((o.turns w).map Turn.statement ++ [last])
  queries : ∀ x ∈ o.turns w, x.statement.isControl = false
  replies : (o.turns w).map Turn.answer = w.store.replies (o.turns w).length
  /-- Nothing is asked after the first turn that is not good. -/
  good : ∀ x ∈ (o.turns w).dropLast, x.isGood = true
  commit : last = .commit ↔ (∀ x ∈ o.turns w, x.isGood = true) ∧ o.work.refusal? w.begin.2 = none
  /-- The error is that of the unit of work, whatever ROLLBACK is answered. -/
  rollback : last ≠ .commit →
    last = .rollback ∧ ∃ e, (o.work.run w.begin.2).1 = .error e ∧ (o.perform w).1 = .error e
  ok : (o.perform w).1.isOk = true ↔ last = .commit ∧ w.store.onCommit = none

variable {o : Operation α} {w : World Session κ}

theorem perform_eq (hcheck : o.check = .ok ()) :
    (o.perform w).1 = (w.transact o.name o.work).1 ∧
      (o.perform w).2.store = (w.transact o.name o.work).2.store := by
  simp only [perform, hcheck]
  cases w.transact o.name o.work with
  | mk result w' => cases result <;> exact ⟨rfl, rfl⟩

theorem perform_refused (hcheck : o.check = .ok ()) {refusal : Refusal} (hbegin : w.store.onBegin = some refusal) :
    (o.perform w).2.store.sent = w.store.sent ++ [.begin] ∧
      (o.perform w).1 = .error (.store beginContext ((Failure.refused refusal).classify "transaction")) := by
  have hrefused : w.begin = (.error ((Failure.refused refusal).classify "transaction"), w.begin.2) :=
    Prod.ext (World.begin_refused hbegin) rfl
  rw [(perform_eq hcheck).1, (perform_eq hcheck).2, World.transact, hrefused]
  exact ⟨congrArg Session.sent World.store_begin, rfl⟩

theorem perform_bracketed (hcheck : o.check = .ok ()) (hbegin : w.store.onBegin = none) :
    ∃ last, o.Bracketed w last := by
  obtain ⟨hresult, hstore⟩ := perform_eq (w := w) hcheck
  have hopened : w.begin = (.ok (), w.begin.2) := Prod.ext (World.begin_opened hbegin) rfl
  have h := o.work.recorded w.begin.2
  have hends := Work.isOk_run_iff (x := o.work) (w := w.begin.2)
  have hreplies : (o.turns w).map Turn.answer = w.store.replies (o.turns w).length := by
    rw [turns, h.replies, World.store_begin]
    rfl
  cases hrun : o.work.run w.begin.2 with
  | mk result w₂ =>
      have hsent := h.sent
      have hcommit := h.onCommit
      rw [hrun, World.store_begin] at hsent hcommit
      rw [hrun] at hends
      have hlast : ∀ q, (w₂.store.sending q).sent =
          w.store.sent ++ .begin :: ((o.turns w).map Turn.statement ++ [q]) := by
        intro q
        show w₂.store.sent ++ [q] = _
        rw [hsent, Session.sending, List.append_assoc, List.append_assoc, List.singleton_append]
        rfl
      rw [World.transact, hopened] at hresult hstore
      simp only [hrun] at hresult hstore
      cases result with
      | ok a =>
          refine ⟨.commit, ?_, h.queries, hreplies, h.good, ?_, ?_, ?_⟩
          · rw [hstore, World.store_conclude, hlast]
          · exact ⟨fun _ => hends.mp rfl, fun _ => rfl⟩
          · exact fun hne => absurd rfl hne
          · rw [hresult, World.isOk_conclude, hcommit, Option.isNone_iff_eq_none]
            exact ⟨fun hnone => ⟨rfl, hnone⟩, fun hnone => hnone.2⟩
      | error e =>
          rw [World.abandon_error] at hresult
          refine ⟨.rollback, ?_, h.queries, hreplies, h.good, ?_, ?_, ?_⟩
          · rw [hstore, World.store_abandon, hlast]
          · exact ⟨Statement.noConfusion, fun hall => absurd (hends.mpr hall) Bool.false_ne_true⟩
          · exact fun _ => ⟨rfl, e, congrArg Prod.fst hrun, hresult⟩
          · rw [hresult]
            exact ⟨fun hok => absurd hok Bool.false_ne_true, fun heq => Statement.noConfusion heq.1⟩

theorem Bracketed.of_not_good {last : Statement} (h : o.Bracketed w last) {x : Turn} (hx : x ∈ o.turns w)
    (hbad : x.isGood = false) :
    (o.perform w).1.isOk = false ∧
      ∃ sent, (o.perform w).2.store.sent = w.store.sent ++ .begin :: sent ∧ .commit ∉ sent := by
  have hlast : last ≠ .commit := by
    intro heq
    exact absurd ((h.commit.mp heq).1 x hx) (Bool.eq_false_iff.mp hbad)
  obtain ⟨rfl, e, -, hresult⟩ := h.rollback hlast
  refine ⟨by rw [hresult]; rfl, _, h.sent, ?_⟩
  intro hmem
  rcases List.mem_append.mp hmem with hmem | hmem
  · obtain ⟨y, hy, hstatement⟩ := List.mem_map.mp hmem
    have hquery := h.queries y hy
    rw [hstatement] at hquery
    cases hquery
  · cases List.mem_singleton.mp hmem

end Operation

theorem World.run_of_transact_ok [Courier κ] {name : String} {work : Work α} {a : α} {w : World Session κ}
    (h : (w.transact name work).1 = .ok a) : (work.run w.begin.2).1 = .ok a := by
  rw [transact] at h
  cases hbegin : w.begin with
  | mk opened w₁ =>
      rw [hbegin] at h
      cases opened with
      | error e => cases h
      | ok u =>
          cases hrun : work.run w₁ with
          | mk result w₂ =>
              simp only [hrun] at h
              cases result with
              | error e =>
                  rw [abandon_error] at h
                  cases h
              | ok b =>
                  simp only [conclude] at h
                  split at h
                  · exact h
                  · cases h

/-! ## Calculations that end a call -/

namespace Sql.Turn

/-- Whether the first fault of the answer is a numeric whose calculation overflows. The call ends at once there,
without an error. -/
def overflows (x : Turn) : Bool :=
  match x.answer with
  | .ok a =>
    match readReply x.query a with
    | .error (.cell _ (.numeric .overflow)) => true
    | _ => false
  | .error _ => false

/-- Whether an order is updated, and what is left of it is out of range. -/
def leavesOverdrawn (x : Turn) : Bool :=
  match x.query, x.answer with
  | .updateOrder .., .ok a =>
    match readOne readOrder a with
    | .ok o => o.remaining?.isNone
    | .error _ => false
  | _, _ => false

theorem isGood_of_overflows {x : Turn} (h : x.overflows = true) : x.isGood = false := by
  rw [overflows] at h
  rw [isGood]
  cases hanswer : x.answer with
  | error f => rfl
  | ok a =>
      rw [hanswer] at h
      show a.meets (need x.query) = false
      rw [meets_need]
      cases hread : readReply x.query a with
      | error f => rfl
      | ok r =>
          simp only [hread] at h
          cases h

theorem leavesOverdrawn_of_updated {x : Turn} {id : Uuid} {status : OrderStatus} {filled : Decimal} {a : Answer}
    {o : Order} (hquery : x.query = .updateOrder id status filled) (hanswer : x.answer = .ok a)
    (hread : readOne readOrder a = .ok o) : x.leavesOverdrawn = o.remaining?.isNone := by
  rw [leavesOverdrawn, hquery, hanswer]
  dsimp only
  rw [hread]

end Sql.Turn

/-- Whether a fill update leaves an order behind of which what is left is out of range. The call ends there
without a result, though the transaction is committed. -/
def Command.overdraws : Command → List Turn → Bool
  | .updateFill _, turns => turns.any Turn.leavesOverdrawn
  | .settleTrade _, _ | .postTransfer .., _ | .moveEntry .., _ | .registerUser _, _ | .verifyEmail .., _
  | .checkCurrencies .., _ | .publishBatch _, _ => false

variable [Courier κ]

theorem FillRequest.returns_iff {request : FillRequest} {r : FillReport} {w w' : World Session κ}
    (h : request.work.run w = (.ok r, w')) :
    (Command.updateFill request).Returns r ↔
      (Command.updateFill request).overdraws (request.work.turns w) = false := by
  obtain ⟨o, w₁, hlock, h⟩ := Work.bind_ok h
  obtain ⟨u, w₂, hcheck, h⟩ := Work.bind_ok h
  obtain ⟨updated, w₃, hupdate, h⟩ := Work.bind_ok h
  obtain ⟨rfl, rfl⟩ := Work.pure_ok h
  have hturns : request.work.turns w =
      [w.store.turn (.lockOrder request.orderId),
       w₂.store.turn (.updateOrder o.id request.status request.filledAmount)] := by
    rw [work, Work.turns_bind hlock, Work.turns_bind hcheck, Work.turns_bind hupdate, Work.turns_query,
      Work.turns_query, Work.turns_ofExcept]
    rfl
  obtain ⟨a, ha, hread⟩ := World.answer_of_ask_ok (Work.ask_ok hupdate)
  have hoverdrawn : (Command.updateFill request).overdraws (request.work.turns w) = updated.remaining?.isNone := by
    rw [Command.overdraws, hturns, List.any_cons, List.any_cons, List.any_nil, Bool.or_false,
      Turn.leavesOverdrawn_of_updated rfl ha hread]
    exact Bool.false_or _
  rw [hoverdrawn, FillReport.ofOrder]
  cases updated.remaining? with
  | some remaining => exact ⟨fun _ => rfl, fun _ => trivial⟩
  | none => exact ⟨False.elim, fun hsome => absurd hsome.symm Bool.false_ne_true⟩

theorem Service.returns_iff {s : Service} {c : Command} {r : c.Result} {w : World Session κ}
    (hcheck : (s.operation c).check = .ok ()) (h : (s.perform c w).1 = .ok r) :
    c.Returns r ↔ c.overdraws ((s.operation c).turns w) = false := by
  rw [Service.perform, (Operation.perform_eq hcheck).1] at h
  cases c with
  | updateFill request => exact FillRequest.returns_iff (Prod.ext (World.run_of_transact_ok h) rfl)
  | settleTrade e | postTransfer t rates | moveEntry id status | registerUser registration
  | verifyEmail id code | checkCurrencies userId base quote | publishBatch config =>
      exact ⟨fun _ => rfl, fun _ => trivial⟩

/-- A deposit that is still pending. -/
def pendingDeposit : LedgerEntry where
  id := .ofNat 1
  userId := .ofNat 2
  kind := .deposit
  currency := "BTC"
  requestedAmount := .ofCoeff 5 0
  amount := .ofCoeff 5 0
  status := .pending
  address := none
  txHash := none
  createdAt := .epoch

/-- A database that answers the update of a deposit with a row whose status is no name of one, and refuses the
ROLLBACK that follows. -/
def misnamedWorld : World Session Mailbox :=
  let row := Tabled.row pendingDeposit
  { store := {
      script := [
        .ok { rows := [row] },
        .ok { rows := [row.map fun c => if c.1 = "status" then ("status", .text "paid") else c] }]
      onRollback := some { state := some "08006", message := "connection failure" } }
    courier := {} }

/-- A database that answers an update of an order with the overdrawn one. -/
def overdrawingWorld : World Session Mailbox where
  store := {
    script := [
      .ok { rows := [Tabled.row { overdrawnOrder with filledAmount := .zero }] },
      .ok { rows := [Tabled.row overdrawnOrder] }] }
  courier := {}

end Clearing
