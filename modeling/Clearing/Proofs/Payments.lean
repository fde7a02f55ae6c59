import Clearing.Proofs.Lemmas.Decimal
import Clearing.Proofs.Run

/-!
# Payments in the log of trades

What users have paid and received is a sum over the log. Rows written later do not change what the trades so far
come to, as long as orders keep their owners and markets stay as they are.
-/

namespace Clearing

/-! ## Sums over a log -/

/-- The sum over the members of a list that fulfil a condition. -/
def sumWhere {α : Type} (condition : α → Bool) (f : α → ℚ) (xs : List α) : ℚ :=
  ((xs.filter condition).map f).sum

section Sums

variable {α : Type} {condition other : α → Bool} {f : α → ℚ} {xs : List α} {x : α}

theorem sumWhere_nil : sumWhere condition f [] = 0 := rfl

theorem sumWhere_cons :
    sumWhere condition f (x :: xs) = (if condition x then f x else 0) + sumWhere condition f xs := by
  by_cases h : condition x = true
  · simp only [sumWhere, List.filter_cons, h, ↓reduceIte, List.map_cons, List.sum_cons]
  · rw [Bool.not_eq_true] at h
    simp only [sumWhere, List.filter_cons, h, Bool.false_eq_true, ↓reduceIte, zero_add]

theorem sumWhere_append {ys : List α} :
    sumWhere condition f (xs ++ ys) = sumWhere condition f xs + sumWhere condition f ys := by
  rw [sumWhere, List.filter_append, List.map_append, List.sum_append, sumWhere, sumWhere]

theorem sumWhere_concat :
    sumWhere condition f (xs ++ [x]) = sumWhere condition f xs + if condition x then f x else 0 := by
  rw [sumWhere_append, sumWhere_cons, sumWhere_nil, add_zero]

theorem sumWhere_congr (h : ∀ x ∈ xs, condition x = other x) : sumWhere condition f xs = sumWhere other f xs := by
  rw [sumWhere, sumWhere, List.filter_congr h]

theorem sumWhere_eq_zero (h : ∀ x ∈ xs, condition x = false) : sumWhere condition f xs = 0 := by
  rw [sumWhere, List.filter_eq_nil_iff.mpr (fun x hx => by rw [h x hx]; exact Bool.false_ne_true)]
  rfl

theorem sumWhere_nonneg (h : ∀ x ∈ xs, 0 ≤ f x) : 0 ≤ sumWhere condition f xs := by
  induction xs with
  | nil => exact le_rfl
  | cons y rest ih =>
      rw [sumWhere_cons]
      have hrest := ih fun x hx => h x (List.mem_cons_of_mem _ hx)
      have hy := h y (List.mem_cons_self ..)
      split
      · linarith
      · linarith

theorem le_sumWhere (h : ∀ x ∈ xs, 0 ≤ f x) (hx : x ∈ xs) (hc : condition x = true) :
    f x ≤ sumWhere condition f xs := by
  induction xs with
  | nil => cases hx
  | cons y rest ih =>
      have hrest : ∀ x ∈ rest, 0 ≤ f x := fun x hx => h x (List.mem_cons_of_mem _ hx)
      have hnonneg : 0 ≤ sumWhere condition f rest := sumWhere_nonneg hrest
      rw [sumWhere_cons]
      rcases List.mem_cons.mp hx with rfl | hx
      · rw [if_pos hc]
        linarith
      · have := ih hrest hx
        have hy := h y (List.mem_cons_self ..)
        split
        · linarith
        · linarith

theorem sumWhere_eq_sum : sumWhere condition f xs = (xs.map fun x => if condition x then f x else 0).sum := by
  induction xs with
  | nil => rfl
  | cons y rest ih => rw [sumWhere_cons, ih, List.map_cons, List.sum_cons]

end Sums

/-! ## Payments and receipts -/

/-- What the buyer of a trade has paid. -/
def Trade.cost (tr : Trade) : ℚ := tr.price.value * tr.amount.value + tr.fee.value

/-- What the seller of a trade has received. -/
def Trade.proceeds (tr : Trade) : ℚ := tr.price.value * tr.amount.value - tr.fee.value

namespace Tables

/-- Whether an order is a user's. -/
def isOrderOf (t : Tables) (orderId userId : Uuid) : Bool := (t.order? orderId).any (·.userId = userId)

/-- Whether the market of a trade quotes in a currency. -/
def isQuotedIn (t : Tables) (tr : Trade) (currency : String) : Bool :=
  (t.market? tr.marketId).any (·.quoteCurrency = currency)

/-- What a user has paid in a currency. -/
def spent (t : Tables) (userId : Uuid) (currency : String) : ℚ :=
  sumWhere (fun tr => t.isOrderOf tr.buyOrderId userId && t.isQuotedIn tr currency) Trade.cost t.trades

/-- What a user has received in a currency. -/
def earned (t : Tables) (userId : Uuid) (currency : String) : ℚ :=
  sumWhere (fun tr => t.isOrderOf tr.sellOrderId userId && t.isQuotedIn tr currency) Trade.proceeds t.trades

/-- What the trades in some currencies have taken in fees, once from each side. -/
def charged (t : Tables) (among : String → Bool) : ℚ :=
  sumWhere (fun tr => (t.market? tr.marketId).any (among ·.quoteCurrency)) (·.fee.value) t.trades

/-- What the wallets in some currencies hold. -/
def held (t : Tables) (among : String → Bool) : ℚ :=
  sumWhere (among ·.currency) (·.balance.value) t.wallets.rows

end Tables

/-- What the wallets in some currencies were opened with. -/
def openedWith (os : List Opening) (among : String → Bool) : ℚ := sumWhere (among ·.currency) (·.balance.value) os

/-! ## What later rows leave as it is -/

namespace Tables

/-- A user holds a wallet in a currency. -/
def Holds (t : Tables) (userId : Uuid) (currency : String) : Prop :=
  ∃ v ∈ t.wallets.rows, v.userId = userId ∧ v.currency = currency

/-- An order and a market are there, and the owner of the one holds a wallet in the quote currency of the other. -/
def Funded (t : Tables) (orderId marketId : Uuid) : Prop :=
  ∃ o m, t.order? orderId = some o ∧ t.market? marketId = some m ∧ t.Holds o.userId m.quoteCurrency

/-- The rows that a trade rests on are there. -/
structure Resolves (t : Tables) (tr : Trade) : Prop where
  buy : t.Funded tr.buyOrderId tr.marketId
  sell : t.Funded tr.sellOrderId tr.marketId

/-- What one side of the trades in a log comes to, for the orders of a user and the markets of a currency. -/
def flow (t : Tables) (side : Trade → Uuid) (amount : Trade → ℚ) (trades : List Trade) (userId : Uuid)
    (currency : String) : ℚ :=
  sumWhere (fun tr => t.isOrderOf (side tr) userId && t.isQuotedIn tr currency) amount trades

/-- Orders keep their owners, markets stay as they are, and nobody loses a wallet. -/
structure Keeps (t t' : Tables) : Prop where
  order : ∀ {id o}, t.order? id = some o → ∃ o', t'.order? id = some o' ∧ o'.userId = o.userId
  market : ∀ {id m}, t.market? id = some m → t'.market? id = some m
  holds : ∀ {userId currency}, t.Holds userId currency → t'.Holds userId currency

variable {t t' : Tables} {tr : Trade}

theorem Keeps.funded {orderId marketId : Uuid} (h : t.Keeps t') (hfunded : t.Funded orderId marketId) :
    t'.Funded orderId marketId := by
  obtain ⟨o, m, ho, hm, hholds⟩ := hfunded
  obtain ⟨o', ho', hu⟩ := h.order ho
  refine ⟨o', m, ho', h.market hm, ?_⟩
  rw [hu]
  exact h.holds hholds

theorem Keeps.resolves (h : t.Keeps t') (htr : t.Resolves tr) : t'.Resolves tr :=
  ⟨h.funded htr.buy, h.funded htr.sell⟩

/-- Later rows do not change what the trades so far come to. -/
theorem Keeps.flow_eq {side : Trade → Uuid} (h : t.Keeps t')
    (hfunded : ∀ tr ∈ t.trades, t.Funded (side tr) tr.marketId) (amount : Trade → ℚ) (userId : Uuid)
    (currency : String) :
    t'.flow side amount t.trades userId currency = t.flow side amount t.trades userId currency := by
  apply sumWhere_congr
  intro tr htr
  obtain ⟨o, m, ho, hm, -⟩ := hfunded tr htr
  obtain ⟨o', ho', hu⟩ := h.order ho
  simp only [isOrderOf, isQuotedIn, ho, ho', hm, h.market hm, Option.any_some, hu]

section Kept

variable (h : t.Keeps t') (hres : ∀ tr ∈ t.trades, t.Resolves tr)
include h hres

theorem Keeps.spent_sum (userId : Uuid) (currency : String) :
    t'.flow (·.buyOrderId) Trade.cost t.trades userId currency = t.spent userId currency :=
  h.flow_eq (fun tr htr => (hres tr htr).buy) ..

theorem Keeps.earned_sum (userId : Uuid) (currency : String) :
    t'.flow (·.sellOrderId) Trade.proceeds t.trades userId currency = t.earned userId currency :=
  h.flow_eq (fun tr htr => (hres tr htr).sell) ..

theorem Keeps.charged_sum (among : String → Bool) :
    sumWhere (fun tr => (t'.market? tr.marketId).any (among ·.quoteCurrency)) (·.fee.value) t.trades
      = t.charged among := by
  apply sumWhere_congr
  intro tr htr
  obtain ⟨o, m, -, hm, -⟩ := (hres tr htr).buy
  rw [hm, h.market hm]

end Kept

theorem Keeps.of_sameBooks (h : SameBooks t t') : t.Keeps t' := by
  refine ⟨?_, ?_, ?_⟩
  · intro id o ho
    exact ⟨o, by rw [order?, h.orders]; exact ho, rfl⟩
  · intro id m hm
    rw [market?, h.markets]
    exact hm
  · intro userId currency hholds
    rw [Holds, h.wallets]
    exact hholds

theorem Keeps.putMarket {m : Market} (hfresh : t.market? m.id = none) : t.Keeps (t.putMarket m) := by
  refine ⟨fun ho => ⟨_, ho, rfl⟩, ?_, fun hholds => hholds⟩
  intro id m' hm
  have hne : m.id ≠ id := by
    rintro rfl
    rw [hfresh] at hm
    cases hm
  rw [market?_putMarket, if_neg hne]
  exact hm

theorem Keeps.putOrder {o : Order} (hold : ∀ x, t.order? o.id = some x → x.userId = o.userId) :
    t.Keeps (t.putOrder o) := by
  refine ⟨?_, fun hm => hm, fun hholds => hholds⟩
  intro id x hx
  by_cases hid : o.id = id
  · refine ⟨o, by rw [order?_putOrder, if_pos hid], ?_⟩
    subst hid
    exact (hold x hx).symm
  · exact ⟨x, by rw [order?_putOrder, if_neg hid]; exact hx, rfl⟩

end Tables
end Clearing
