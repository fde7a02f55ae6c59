import Clearing.Proofs.OrderLifecycle
import Clearing.Proofs.Refusals
import Clearing.Proofs.Lemmas.Differences

/-!
# Which fill updates are accepted

While no failures are queued, a fill update is carried out exactly if the order is there, its status may move that
way, and the requested amount neither falls behind what is filled, nor exceeds the order, nor disagrees with the
requested status. What is left is then reported, except that it may be out of range after a negative request.
-/

namespace Clearing

variable {κ : Type} [Courier κ] {t : Tables} {o : Order} {err : SettlementError}

theorem OrderStatus.mayBecome_iff {x y : OrderStatus} : x.mayBecome y = true ↔ (x, y) ∈ edges := by
  have hlegal : ∀ edge ∈ edges, edge.1.mayBecome edge.2 = true := by decide
  exact ⟨mem_edges_of_mayBecome, hlegal (x, y)⟩

namespace FillRequest

variable {r : FillRequest}

/-- An order that a fill update may be applied to. -/
structure Accepted (r : FillRequest) (t : Tables) (o : Order) : Prop where
  order : t.order? r.orderId = some o
  edge : (o.status, r.status) ∈ OrderStatus.edges
  current : o.filledAmount.value ≤ r.filledAmount.value
  amount : r.filledAmount.value ≤ o.amount.value
  opened : r.status = .opened → r.filledAmount.value = 0
  partiallyFilled : r.status = .partiallyFilled → r.filledAmount.value ≠ 0
  filled : r.status = .filled → r.filledAmount.value = o.amount.value

/-- What is reported of an order that a fill update has been applied to. -/
inductive Reported (r : FillRequest) (now : Instant) (o : Order) : FillReport → Prop where
  | applied {rest : Decimal} (left : o.amount.sub? r.filledAmount = some rest) :
      r.Reported now o (.applied (r.updated now o) rest)
  | overflow (left : o.amount.sub? r.filledAmount = none) (negative : r.filledAmount.value < 0) :
      r.Reported now o (.remainderOverflow (r.updated now o))

theorem Hurdle.mem_all (c : Hurdle) : c ∈ all := by
  cases c <;> simp only [all, List.mem_cons, true_or, or_true, reduceCtorEq, false_or]

theorem noFailure_iff : NoFailure (r.Fails t) Hurdle.all ↔ ∃ o, r.Accepted t o := by
  constructor
  · intro h
    have hnone : ∀ {c : Hurdle} {x : SettlementError}, ¬ r.Fails t c x := fun {c} {x} hx =>
      h c c.mem_all x hx
    cases ho : t.order? r.orderId with
    | none => exact absurd (.order ho) hnone
    | some o =>
        refine ⟨o, ho, ?_, ?_, ?_, ?_, ?_, ?_⟩
        · rw [← OrderStatus.mayBecome_iff]
          by_contra hmay
          exact hnone (.transition ho (by simpa using hmay))
        · by_contra hlt
          exact hnone (.decrease ho (not_le.mp hlt))
        · by_contra hlt
          exact hnone (.excess ho (not_le.mp hlt))
        · intro hstatus
          by_contra hne
          exact hnone (.amount ho (.opened hstatus hne))
        · intro hstatus hzero
          exact hnone (.amount ho (.partiallyFilled hstatus hzero))
        · intro hstatus
          by_contra hne
          exact hnone (.amount ho (.filled hstatus hne))
  · rintro ⟨o, h⟩ c - x hx
    cases hx with
    | order hnone => cases hnone.symm.trans h.order
    | transition ho hmay =>
        cases ho.symm.trans h.order
        cases hmay.symm.trans (OrderStatus.mayBecome_iff.mpr h.edge)
    | decrease ho hlt =>
        cases ho.symm.trans h.order
        exact absurd h.current (not_le.mpr hlt)
    | excess ho hlt =>
        cases ho.symm.trans h.order
        exact absurd h.amount (not_le.mpr hlt)
    | amount ho hdisagrees =>
        cases ho.symm.trans h.order
        cases hdisagrees with
        | opened hstatus hne => exact hne (h.opened hstatus)
        | partiallyFilled hstatus hzero => exact h.partiallyFilled hstatus hzero
        | filled hstatus hne => exact hne (h.filled hstatus)

/-- What is left of an order is in range unless the request is negative. -/
theorem Accepted.reported (h : r.Accepted t o) (now : Instant) :
    r.Reported now o (FillReport.ofOrder (r.updated now o)) := by
  have hleft : (r.updated now o).remaining? = o.amount.sub? r.filledAmount := rfl
  rw [FillReport.ofOrder, hleft]
  cases hrest : o.amount.sub? r.filledAmount with
  | some rest => exact .applied hrest
  | none =>
      refine .overflow hrest (not_le.mp fun hnonneg => ?_)
      obtain ⟨rest, hsome, -⟩ := Decimal.sub?_sign (hnonneg.trans h.amount) hnonneg
      cases hrest.symm.trans hsome

theorem Reported.unique {now : Instant} {x y : FillReport} (h : r.Reported now o x) (h' : r.Reported now o y) :
    y = x := by
  cases h with
  | applied left =>
      cases h' with
      | applied left' => cases left.symm.trans left'; rfl
      | overflow left' => cases left.symm.trans left'
  | overflow left =>
      cases h' with
      | applied left' => cases left.symm.trans left'
      | overflow => rfl

end FillRequest

/-- A fill update succeeds exactly for an order that it may be applied to, which it gives the requested status and
amount; otherwise it is refused for the first condition that fails, and the committed rows stay as they are. -/
theorem Service.fills_iff (s : Service) (r : FillRequest) {w : World MemoryStore κ} (hfaults : w.store.faults = []) :
    (∀ report, (s.perform (.updateFill r) w).1 = .ok report ↔
      ∃ o, r.Accepted w.store.committed o ∧ r.Reported w.store.now o report) ∧
    (∀ o, r.Accepted w.store.committed o → (s.perform (.updateFill r) w).2.store.committed
      = w.store.committed.putOrder (r.updated w.store.now o)) ∧
    (∀ err, (s.perform (.updateFill r) w).1 = .error err ↔
      FirstFailure (r.Fails w.store.committed) FillRequest.Hurdle.all err) ∧
    ∀ err, (s.perform (.updateFill r) w).1 = .error err →
      (s.perform (.updateFill r) w).2.store.committed = w.store.committed := by
  have hexplains := s.explains_fill r hfaults
  have hok : ∀ {o : Order}, r.Accepted w.store.committed o →
      (s.perform (.updateFill r) w).1 = .ok (FillReport.ofOrder (r.updated w.store.now o)) ∧
      (s.perform (.updateFill r) w).2.store.committed
        = w.store.committed.putOrder (r.updated w.store.now o) := by
    intro o ho
    obtain ⟨report, hreport⟩ := hexplains.ok_iff.mpr (FillRequest.noFailure_iff.mpr ⟨o, ho⟩)
    obtain ⟨x, hx, -, hofOrder, hrows⟩ := Command.effect_of_perform (Prod.ext hreport rfl)
    obtain rfl : o = x := Option.some.inj (ho.order.symm.trans hx)
    exact ⟨hreport.trans (congrArg _ hofOrder), hrows⟩
  refine ⟨fun report => ⟨fun h => ?_, ?_⟩, fun o ho => (hok ho).2,
    fun err => hexplains.error_iff fun c x y hx hy => hx.unique hy,
    fun err herror => (counts_of_error (Prod.ext herror rfl)).1⟩
  · obtain ⟨o, ho⟩ := FillRequest.noFailure_iff.mp (hexplains.ok_iff.mp ⟨report, h⟩)
    obtain rfl := Except.ok.inj (h.symm.trans (hok ho).1)
    exact ⟨o, ho, ho.reported w.store.now⟩
  · rintro ⟨o, ho, hreported⟩
    rw [(hok ho).1, (ho.reported w.store.now).unique hreported]

/-- An open order for ten. -/
def restingOrder : Order := (emptyWorld.store.seedOrder (.ofNat 1) (.ofNat 2) .buy (.ofCoeff 1 0) (.ofCoeff 10 0)).1

/-- A store that holds this order and nothing else. -/
def restingWorld : World MemoryStore Mailbox :=
  emptyWorld.after [.seedOrder (.ofNat 1) (.ofNat 2) .buy (.ofCoeff 1 0) (.ofCoeff 10 0)]

def fillOf (status : OrderStatus) (amount : Decimal) : FillRequest := ⟨restingOrder.id, status, amount⟩

theorem Service.resting_order_fills :
    (({} : Service).perform (.updateFill (fillOf .partiallyFilled (.ofCoeff 250 2))) restingWorld).1
      = .ok (.applied ((fillOf .partiallyFilled (.ofCoeff 250 2)).updated .epoch restingOrder) (.ofCoeff 750 2)) ∧
    FirstFailure ((fillOf .opened (.ofCoeff 1001 2)).Fails restingWorld.store.committed) FillRequest.Hurdle.all
      (.fillExceedsAmount restingOrder.id (.ofCoeff 10 0) (.ofCoeff 1001 2)) := by
  constructor
  · have hnonzero : (Decimal.ofCoeff 250 2).value ≠ 0 := by
      rw [Ne, ← Decimal.isZero_iff_value]
      decide
    have haccepted : (fillOf .partiallyFilled (.ofCoeff 250 2)).Accepted restingWorld.store.committed restingOrder :=
      ⟨rfl, by decide, Decimal.le_iff_value.mp (by decide), Decimal.le_iff_value.mp (by decide), nofun,
       fun _ => hnonzero, nofun⟩
    exact ((fills_iff {} _ rfl).1 _).mpr ⟨restingOrder, haccepted, .applied (by decide)⟩
  · exact ((fills_iff {} (fillOf .opened (.ofCoeff 1001 2)) (w := restingWorld) rfl).2.2.1 _).mp rfl

/-! ## An accepted update whose caller gets no result -/

theorem Service.accepted_without_return :
    ¬ ∀ (s : Service) (r : FillRequest) (w : World MemoryStore Mailbox), w.store.faults = [] →
      ((∃ report, (s.perform (.updateFill r) w).1 = .ok report ∧ Command.Returns (.updateFill r) report) ↔
        ∃ o, r.Accepted w.store.committed o) := by
  intro h
  let cancel : FillRequest := ⟨overdrawnOrder.id, .cancelled, overdrawnOrder.filledAmount⟩
  have haccepted : cancel.Accepted overdrawnWorld.store.committed overdrawnOrder :=
    ⟨rfl, by decide, le_rfl, Decimal.le_iff_value.mp (by decide), nofun, nofun, nofun⟩
  obtain ⟨report, hreport, hreturns⟩ := (h {} cancel overdrawnWorld rfl).mpr ⟨overdrawnOrder, haccepted⟩
  obtain ⟨o, ho, -, hofOrder, -⟩ := Command.effect_of_perform (Prod.ext hreport rfl)
  obtain rfl : overdrawnOrder = o := Option.some.inj ho
  have hrest : (cancel.updated overdrawnWorld.store.now overdrawnOrder).remaining? = none := by
    show overdrawnOrder.remaining? = none
    decide
  rw [hofOrder, FillReport.ofOrder, hrest] at hreturns
  exact hreturns

end Clearing
