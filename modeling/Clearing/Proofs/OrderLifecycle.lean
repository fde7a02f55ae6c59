import Clearing.Proofs.Lemmas.Rounding
import Clearing.Proofs.Run

/-!
# The life of an order

Over any run, what is filled of an order lies between zero and its amount and agrees with its status; from one
state to the next an order stays as it is or moves along one of six edges, and nothing but its status and what
is filled of it changes.
-/

namespace Clearing

variable {κ : Type} [Courier κ]

/-- The moves of an order that is not final. -/
def OrderStatus.edges : List (OrderStatus × OrderStatus) :=
  [(.opened, .opened), (.opened, .partiallyFilled), (.opened, .cancelled),
   (.partiallyFilled, .partiallyFilled), (.partiallyFilled, .filled), (.partiallyFilled, .cancelled)]

theorem OrderStatus.mem_edges_of_mayBecome {x y : OrderStatus} (h : x.mayBecome y = true) : (x, y) ∈ edges := by
  cases x <;> cases y <;> first | decide | cases h

theorem OrderStatus.not_terminal_of_edge {x y : OrderStatus} (h : (x, y) ∈ edges) : x.isTerminal = false := by
  cases x <;> cases y <;> first | rfl | (revert h; decide)

namespace Order

/-- What is filled of an order is in range and agrees with its status. -/
structure Coherent (o : Order) : Prop where
  nonneg : 0 ≤ o.filledAmount.value
  le_amount : o.filledAmount.value ≤ o.amount.value
  opened : o.status = .opened → o.filledAmount.value = 0
  partiallyFilled : o.status = .partiallyFilled → 0 < o.filledAmount.value
  filled : o.status = .filled → o.filledAmount.value = o.amount.value

/-- No amount of an order has more than 28 fraction digits. -/
structure InScale (o : Order) : Prop where
  amount : o.amount.scale ≤ maxScale
  filledAmount : o.filledAmount.scale ≤ maxScale

/-- An order before and after a fill update. -/
structure Advances (o o' : Order) : Prop where
  id : o'.id = o.id
  userId : o'.userId = o.userId
  marketId : o'.marketId = o.marketId
  side : o'.side = o.side
  price : o'.price = o.price
  amount : o'.amount = o.amount
  filled : o.filledAmount.value ≤ o'.filledAmount.value
  status : (o.status, o'.status) ∈ OrderStatus.edges

/-- What is left of an order, rounded or not, is in range. -/
theorem Coherent.remaining? {o : Order} (h : o.Coherent) (hs : o.InScale) :
    ∃ rest, o.remaining? = some rest ∧ 0 ≤ rest.value ∧ rest.value ≤ o.amount.value :=
  Decimal.sub?_between hs.amount hs.filledAmount h.nonneg h.le_amount

end Order

/-! ## A fill update -/

namespace FillRequest

variable {request : FillRequest} {o : Order}

theorem check_ok (h : request.check o = .ok ()) :
    o.status.mayBecome request.status = true ∧ o.filledAmount.value ≤ request.filledAmount.value ∧
      request.filledAmount.value ≤ o.amount.value ∧ request.checkAmount o = .ok () := by
  rw [check] at h
  split at h
  · cases h
  · next hmay =>
      split at h
      · cases h
      · next hdecrease =>
          split at h
          · cases h
          · next hexceeds =>
              rw [Decimal.lt_iff_value, not_lt] at hdecrease hexceeds
              exact ⟨by simpa using hmay, hdecrease, hexceeds, h⟩

theorem coherent_updated (now : Instant) (ho : o.Coherent) (h : request.check o = .ok ()) :
    (request.updated now o).Coherent := by
  obtain ⟨-, hle, hamount, hstatus⟩ := check_ok h
  have hnonneg : 0 ≤ request.filledAmount.value := ho.nonneg.trans hle
  rw [checkAmount] at hstatus
  refine ⟨hnonneg, hamount, ?_, ?_, ?_⟩
  · rintro (hs : request.status = .opened)
    simp only [hs] at hstatus
    split at hstatus
    · next hzero => exact Decimal.value_of_isZero hzero
    · cases hstatus
  · rintro (hs : request.status = .partiallyFilled)
    simp only [hs] at hstatus
    split at hstatus
    · cases hstatus
    · next hzero =>
        refine hnonneg.lt_of_ne fun heq => hzero ?_
        exact Decimal.isZero_iff_value.mpr heq.symm
  · rintro (hs : request.status = .filled)
    simp only [hs] at hstatus
    split at hstatus
    · next hsame => exact Decimal.sameNumber_iff_value.mp hsame
    · cases hstatus

theorem advances_updated (now : Instant) (h : request.check o = .ok ()) :
    o.Advances (request.updated now o) := by
  obtain ⟨hmay, hle, -, -⟩ := check_ok h
  exact ⟨rfl, rfl, rfl, rfl, rfl, rfl, hle, OrderStatus.mem_edges_of_mayBecome hmay⟩

end FillRequest

/-! ## One action -/

/-- Every order is coherent, with amounts of at most 28 fraction digits. -/
def Tables.OrdersCoherent (t : Tables) : Prop := ∀ o ∈ t.orders.rows, o.Coherent ∧ o.InScale

/-- Every order is still there, as it was or one move further. -/
def Tables.OrdersAdvance (t t' : Tables) : Prop :=
  ∀ o ∈ t.orders.rows, ∃ o', t'.order? o.id = some o' ∧ (o' = o ∨ o.Advances o')

/-- Orders are seeded with amounts that are not negative, and amounts have at most 28 fraction digits, as those
that are read have. -/
def Action.Orderly : Action κ → Prop
  | .seedOrder _ _ _ _ amount => amount.scale ≤ maxScale ∧ 0 ≤ amount.value
  | .perform _ (.updateFill request) => request.filledAmount.scale ≤ maxScale
  | _ => True

theorem Tables.OrdersAdvance.of_eq {t t' : Tables} (h : t'.orders = t.orders) : t.OrdersAdvance t' := by
  intro o ho
  refine ⟨o, ?_, .inl rfl⟩
  rw [order?, h]
  exact Tables.order?_eq_some.mpr ⟨ho, rfl⟩

namespace FillRequest

variable {request : FillRequest} {now : Instant} {t t' : Tables} {r : FillReport} {o : Order}

theorem Filled.coherent (h : request.Filled now t r o t') (ht : t.OrdersCoherent)
    (hs : request.filledAmount.scale ≤ maxScale) : t'.OrdersCoherent := by
  obtain ⟨hcoherent, hscale⟩ := ht o (Tables.order?_eq_some.mp h.order).1
  rw [h.rows]
  exact Table.forall_mem_insert ⟨coherent_updated now hcoherent h.allowed, hscale.amount, hs⟩ ht

theorem Filled.advance (h : request.Filled now t r o t') : t.OrdersAdvance t' := by
  intro x hx
  rw [h.rows]
  by_cases hid : o.id = x.id
  · obtain ⟨ho, hoid⟩ := Tables.order?_eq_some.mp h.order
    obtain rfl : o = x := Table.eq_of_key_eq ho hx (Uuid.value_cast_inj.mpr hid)
    refine ⟨request.updated now o, ?_, .inr (advances_updated now h.allowed)⟩
    rw [Tables.order?_putOrder]
    exact if_pos rfl
  · refine ⟨x, ?_, .inl rfl⟩
    rw [Tables.order?_putOrder]
    exact (if_neg hid).trans (Tables.order?_eq_some.mpr ⟨hx, rfl⟩)

end FillRequest

namespace Action

variable {a : Action κ} {w : World MemoryStore κ} {ids : List Uuid}

theorem orders_coherent (ht : w.store.committed.OrdersCoherent) (ha : a.Orderly) :
    (a.apply w).store.committed.OrdersCoherent := by
  have hstep := a.booked w
  generalize (a.apply w).store.committed = t at hstep
  cases hstep with
  | same hopens h =>
      intro x hx
      rw [h.orders] at hx
      exact ht x hx
  | wallet userId currency balance => exact ht
  | market base quote => exact ht
  | order userId marketId side price amount =>
      obtain ⟨hscale, hnonneg⟩ := ha
      refine Table.forall_mem_insert ⟨⟨?_, ?_, fun _ => Decimal.value_zero, nofun, nofun⟩, hscale, Nat.zero_le _⟩ ht
      · exact Decimal.value_zero.ge
      · exact Decimal.value_zero.trans_le hnonneg
  | fill h => exact h.coherent ht ha
  | trade hcheck h =>
      rw [h.rows]
      exact ht

theorem orders_advance (hin : w.store.committed.Within ids) (hfresh : ∀ id ∈ a.seeded w, id ∉ ids) :
    w.store.committed.OrdersAdvance (a.apply w).store.committed := by
  have hstep := a.booked w
  generalize (a.apply w).store.committed = t at hstep
  cases hstep with
  | same hopens h => exact .of_eq h.orders
  | wallet userId currency balance => exact .of_eq rfl
  | market base quote => exact .of_eq rfl
  | order userId marketId side price amount =>
      -- The new order is not written over an old one.
      intro x hx
      refine ⟨x, ?_, .inl rfl⟩
      have hne : w.store.ids.next ≠ x.id := by
        rintro heq
        exact hfresh _ (List.mem_singleton_self _) (heq ▸ hin.orders x hx)
      rw [Tables.order?_putOrder]
      exact (if_neg hne).trans (Tables.order?_eq_some.mpr ⟨hx, rfl⟩)
  | fill h => exact h.advance
  | trade hcheck h => exact .of_eq (by rw [h.rows]; rfl)

end Action

/-! ## Whole runs -/

/-- A run from an empty store that seeds every row under an identifier of its own. -/
structure World.Orderly (w : World MemoryStore κ) (actions : List (Action κ)) : Prop where
  empty : w.store.committed = {}
  distinct : (w.seededIds actions).Nodup
  each : ∀ a ∈ actions, a.Orderly

namespace World

variable {w : World MemoryStore κ} {actions more : List (Action κ)} {a : Action κ}

theorem Orderly.left (h : w.Orderly (actions ++ more)) : w.Orderly actions := by
  have hdistinct := h.distinct
  rw [seededIds_append] at hdistinct
  exact ⟨h.empty, hdistinct.of_append_left, fun a ha => h.each a (List.mem_append_left _ ha)⟩

theorem Orderly.take (h : w.Orderly actions) (n : Nat) : w.Orderly (actions.take n) := by
  rw [← List.take_append_drop n actions] at h
  exact h.left

theorem Orderly.coherent (h : w.Orderly actions) : (w.after actions).store.committed.OrdersCoherent := by
  induction actions using List.reverseRecOn with
  | nil =>
      rw [after, List.foldl_nil, h.empty]
      intro o ho
      cases ho
  | append_singleton actions a ih =>
      rw [after_concat]
      exact Action.orders_coherent (ih h.left) (h.each a (List.mem_append_right _ (List.mem_singleton_self _)))

theorem Orderly.advance (h : w.Orderly (actions ++ [a])) :
    (w.after actions).store.committed.OrdersAdvance (w.after (actions ++ [a])).store.committed := by
  have hdistinct := h.distinct
  rw [seededIds_concat, List.nodup_append] at hdistinct
  rw [after_concat]
  apply Action.orders_advance (within_seededIds h.empty actions)
  intro id hid hmem
  exact hdistinct.2.2 id hmem id hid rfl

theorem Orderly.advance_stateAt (h : w.Orderly actions) (n : Nat) :
    (w.stateAt actions n).store.committed.OrdersAdvance (w.stateAt actions (n + 1)).store.committed := by
  rcases w.stateAt_succ actions n with ⟨a, hnext⟩ | hover
  · have horderly := h.take (n + 1)
    rw [hnext] at horderly
    rw [stateAt, stateAt, hnext]
    exact horderly.advance
  · rw [hover]
    exact .of_eq rfl

theorem Orderly.final_stateAt (h : w.Orderly actions) {m n : Nat} (hmn : m ≤ n) {o : Order}
    (ho : o ∈ (w.stateAt actions m).store.committed.orders.rows) (hfinal : o.status.isTerminal = true) :
    (w.stateAt actions n).store.committed.order? o.id = some o := by
  induction n, hmn using Nat.le_induction with
  | base => exact Tables.order?_eq_some.mpr ⟨ho, rfl⟩
  | succ n hmn ih =>
      obtain ⟨o', ho', rfl | hadvances⟩ := h.advance_stateAt n o (Tables.order?_eq_some.mp ih).1
      · exact ho'
      · rw [OrderStatus.not_terminal_of_edge hadvances.status] at hfinal
        cases hfinal

/-- The report of a fill update always says what is left, and that is in range. -/
theorem Orderly.remaining (h : w.Orderly actions) {s : Service} {request : FillRequest}
    (hs : request.filledAmount.scale ≤ maxScale) {r : FillReport} {w' : World MemoryStore κ}
    (hr : s.perform (.updateFill request) (w.after actions) = (.ok r, w')) :
    ∃ rest, r = .applied r.order rest ∧ 0 ≤ rest.value ∧ rest.value ≤ r.order.amount.value := by
  obtain ⟨o, hfilled⟩ := Command.effect_of_perform hr
  have hmem : request.updated (w.after actions).store.now o ∈ w'.store.committed.orders.rows := by
    rw [hfilled.rows]
    exact Table.mem_insert_iff.mpr (.inl rfl)
  obtain ⟨hcoherent, hscale⟩ := hfilled.coherent h.coherent hs _ hmem
  obtain ⟨rest, hrest, hnonneg, hle⟩ := hcoherent.remaining? hscale
  refine ⟨rest, ?_, hnonneg, ?_⟩
  · rw [hfilled.report, FillReport.order_ofOrder, FillReport.ofOrder, hrest]
  · rw [hfilled.report, FillReport.order_ofOrder]
    exact hle

/-- In every state of a run orders are coherent, and from each state to the next they stay or advance; a final
order stays for good, and what is left of an order can always be reported. -/
theorem order_lifecycle (h : w.Orderly actions) :
    (∀ n, ∀ o ∈ (w.stateAt actions n).store.committed.orders.rows, o.Coherent) ∧
    (∀ n, ∀ o ∈ (w.stateAt actions n).store.committed.orders.rows,
      ∃ o', (w.stateAt actions (n + 1)).store.committed.order? o.id = some o' ∧ (o' = o ∨ o.Advances o')) ∧
    (∀ m n, m ≤ n → ∀ o ∈ (w.stateAt actions m).store.committed.orders.rows, o.status.isTerminal = true →
      (w.stateAt actions n).store.committed.order? o.id = some o) ∧
    (∀ n (s : Service) (request : FillRequest) (r : FillReport) (w' : World MemoryStore κ),
      request.filledAmount.scale ≤ maxScale →
      s.perform (.updateFill request) (w.stateAt actions n) = (.ok r, w') →
      ∃ rest, r = .applied r.order rest ∧ 0 ≤ rest.value ∧ rest.value ≤ r.order.amount.value) := by
  refine ⟨fun n o ho => ((h.take n).coherent o ho).1, h.advance_stateAt, ?_, ?_⟩
  · intro m n hmn o ho hfinal
    exact h.final_stateAt hmn ho hfinal
  · intro n s request r w' hs hr
    exact (h.take n).remaining hs hr

end World

/-- A run that seeds an order and fills it in two steps. -/
def fillRun : List (Action Mailbox) :=
  let id := IdSupply.numbered 1
  [.seedOrder (.ofNat 1) (.ofNat 2) .buy .zero (.ofCoeff 5 0),
   .perform {} (.updateFill ⟨id, .partiallyFilled, .ofCoeff 25 1⟩),
   .perform {} (.updateFill ⟨id, .filled, .ofCoeff 50 1⟩)]

theorem fillRun_orderly : emptyWorld.Orderly fillRun := by
  refine ⟨rfl, by decide, ?_⟩
  intro a ha
  simp only [fillRun, List.mem_cons, List.not_mem_nil, or_false] at ha
  rcases ha with rfl | rfl | rfl
  · refine ⟨by decide, ?_⟩
    rw [Decimal.value_ofCoeff (by decide) (by decide)]
    positivity
  · show (1 : Nat) ≤ maxScale
    decide
  · show (1 : Nat) ≤ maxScale
    decide

theorem World.fillRun_fills :
    ∃ o, (emptyWorld.stateAt fillRun 3).store.committed.order? (IdSupply.numbered 1) = some o ∧
      o.status = .filled ∧ o.Coherent := by
  have hstatus : ((emptyWorld.stateAt fillRun 3).store.committed.order? (IdSupply.numbered 1)).map (·.status)
      = some .filled := by decide
  obtain ⟨o, ho, hfilled⟩ := Option.map_eq_some_iff.mp hstatus
  exact ⟨o, ho, hfilled, (order_lifecycle fillRun_orderly).1 3 o (Tables.order?_eq_some.mp ho).1⟩

end Clearing
