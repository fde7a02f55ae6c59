import Clearing.Proofs.ExactSettlement
import Clearing.Proofs.Payments

/-!
# Balanced books

The wallets agree with the log of trades and with what they were opened with. Opening a wallet keeps the books
balanced, and so does a settlement of moderate size, which is exact.
-/

namespace Clearing

open Decimal

/-! ## Settling amounts of moderate size -/

/-- Two wallets are one wallet with different balances. -/
structure Wallet.SameOwner (v v' : Wallet) : Prop where
  id : v'.id = v.id
  userId : v'.userId = v.userId
  currency : v'.currency = v.currency

/-- Price and quantity have at most four places, the fee has at most eight, and the cost is not too large. -/
structure Execution.Moderate (e : Execution) : Prop where
  price : Places 4 e.price.value
  quantity : Places 4 e.quantity.value
  fee : Places 8 e.fee.value
  scale : e.fee.scale ≤ maxScale
  bound : e.cost < 10 ^ 20

/-- A balance with at most eight places that is not negative. -/
structure Decimal.Moderate (a : Decimal) : Prop where
  nonneg : 0 ≤ a.value
  places : Places 8 a.value
  scale : a.scale ≤ maxScale

theorem representable_of_moderate {x : ℚ} (h : Places 8 x) (hx : |x| ≤ 3 * 10 ^ 20) : Representable x := by
  apply h.representable (by decide)
  have hbound : (3 * 10 ^ 20 * 10 ^ 8 : ℚ) < coeffBound := by norm_num
  linarith

namespace Execution

variable {e : Execution} {t t' : Tables} {p : Parties} {b s : Wallet}

section Moderate

variable (h : e.Moderate) (hcheck : e.check = .ok ())
include h

theorem Moderate.places_cost : Places 8 e.cost := (h.price.mul h.quantity).add h.fee

theorem Moderate.places_proceeds : Places 8 e.proceeds := (h.price.mul h.quantity).sub h.fee

include hcheck

theorem Moderate.bounds : 0 ≤ e.worth ∧ 0 ≤ e.fee.value ∧ e.worth + e.fee.value < 10 ^ 20 := by
  obtain ⟨hprice, hquantity, hfee⟩ := check_ok hcheck
  exact ⟨(mul_pos hprice hquantity).le, hfee, h.bound⟩

theorem Moderate.representable : e.Representable := by
  obtain ⟨hworth, hfee, hbound⟩ := h.bounds hcheck
  refine ⟨?_, ?_, ?_⟩
  · apply representable_of_moderate (h.price.mul h.quantity)
    rw [← worth, abs_of_nonneg hworth]
    linarith
  · apply representable_of_moderate h.places_cost
    rw [cost, abs_of_nonneg (add_nonneg hworth hfee)]
    linarith
  · apply representable_of_moderate h.places_proceeds
    rw [proceeds, abs_le]
    constructor
    · linarith
    · linarith

theorem Moderate.balancesRepresentable {buyer seller : Wallet} (hb : buyer.balance.Moderate)
    (hs : seller.balance.Moderate) (hbmax : buyer.balance.value < 10 ^ 20)
    (hsmax : seller.balance.value < 10 ^ 20) : e.BalancesRepresentable buyer seller := by
  obtain ⟨hworth, hfee, hbound⟩ := h.bounds hcheck
  have hb0 := hb.nonneg
  have hs0 := hs.nonneg
  have hdouble : Places 8 (2 * e.fee.value) := by
    rw [two_mul]
    exact h.fee.add h.fee
  rw [BalancesRepresentable]
  split
  · constructor
    · apply representable_of_moderate hdouble
      rw [abs_of_nonneg (by linarith)]
      linarith
    · apply representable_of_moderate (hb.places.sub hdouble)
      rw [abs_le]
      constructor
      · linarith
      · linarith
  · constructor
    · apply representable_of_moderate (hb.places.sub h.places_cost)
      rw [cost, abs_le]
      constructor
      · linarith
      · linarith
    · apply representable_of_moderate (hs.places.add h.places_proceeds)
      rw [proceeds, abs_le]
      constructor
      · linarith
      · linarith

end Moderate

theorem Found.sameOwner (h : e.Found t p) (hm : e.Moved p b s) :
    p.buyer.SameOwner b ∧ p.seller.SameOwner s := by
  cases hm with
  | within same deltas sum applied =>
      rw [← h.buyer_eq_seller same]
      exact ⟨⟨rfl, rfl, rfl⟩, rfl, rfl, rfl⟩
  | between apart deltas buyer seller => exact ⟨⟨rfl, rfl, rfl⟩, rfl, rfl, rfl⟩

/-- Balances that a settlement has written are not negative and have at most 28 fraction digits. -/
theorem Moved.in_range (h : e.Moved p b s) (hfee : e.fee.scale ≤ maxScale)
    (hb : p.buyer.balance.scale ≤ maxScale) (hs : p.seller.balance.scale ≤ maxScale) :
    (0 ≤ b.balance.value ∧ b.balance.scale ≤ maxScale) ∧ 0 ≤ s.balance.value ∧ s.balance.scale ≤ maxScale := by
  cases h with
  | within same deltas sum applied =>
      obtain ⟨hadd, hnonneg⟩ := Wallet.apply_ok applied
      obtain ⟨hpaid, hreceived⟩ := scale_deltas hfee deltas
      have hscale := scale_add?_le hb (scale_add?_le hpaid hreceived sum) hadd
      exact ⟨⟨hnonneg, hscale⟩, hnonneg, hscale⟩
  | between apart deltas buyer seller =>
      obtain ⟨hadd, hnonneg⟩ := Wallet.apply_ok buyer
      obtain ⟨hadd', hnonneg'⟩ := Wallet.apply_ok seller
      obtain ⟨hpaid, hreceived⟩ := scale_deltas hfee deltas
      exact ⟨⟨hnonneg, scale_add?_le hb hpaid hadd⟩, hnonneg', scale_add?_le hs hreceived hadd'⟩

end Execution

/-! ## The books -/

/-- The wallets agree with the log of trades and with what they were opened with. -/
structure Tables.Balanced (t : Tables) (os : List Opening) : Prop where
  resolved : ∀ tr ∈ t.trades, t.Resolves tr
  fee : ∀ tr ∈ t.trades, 0 ≤ tr.fee.value
  sole : ∀ v ∈ t.wallets.rows, ∀ v' ∈ t.wallets.rows, v.userId = v'.userId → v.currency = v'.currency → v = v'
  moderate : ∀ v ∈ t.wallets.rows, v.balance.Moderate
  wallet : ∀ v ∈ t.wallets.rows, ∃ o ∈ os, o.userId = v.userId ∧ o.currency = v.currency ∧
    v.balance.value = o.balance.value - t.spent v.userId v.currency + t.earned v.userId v.currency
  total : ∀ among, t.held among = openedWith os among - 2 * t.charged among

namespace Tables

variable {t t' : Tables} {os : List Opening} {v : Wallet}

theorem Balanced.empty : Tables.Balanced {} [] := by
  refine ⟨?_, ?_, ?_, ?_, ?_, ?_⟩
  · exact fun tr htr => absurd htr List.not_mem_nil
  · exact fun tr htr => absurd htr List.not_mem_nil
  · exact fun v hv => absurd hv List.not_mem_nil
  · exact fun v hv => absurd hv List.not_mem_nil
  · exact fun v hv => absurd hv List.not_mem_nil
  · intro among
    show (0 : ℚ) = 0 - 2 * 0
    norm_num

theorem Balanced.balance_le (h : t.Balanced os) (hv : v ∈ t.wallets.rows) :
    v.balance.value ≤ openedWith os fun _ => true := by
  have hheld : v.balance.value ≤ t.held fun _ => true :=
    le_sumWhere (f := fun x : Wallet => x.balance.value) (fun x hx => (h.moderate x hx).nonneg) hv rfl
  have hcharged : 0 ≤ t.charged fun _ => true := sumWhere_nonneg h.fee
  have htotal := h.total fun _ => true
  linarith

/-- A user has one wallet in a currency. -/
theorem Balanced.owner_iff {userId : Uuid} {currency : String} {x : Wallet} (h : t.Balanced os)
    (hx : t.walletOf? userId currency = some x) (hv : v ∈ t.wallets.rows) :
    (userId = v.userId ∧ currency = v.currency) ↔ v.id = x.id := by
  obtain ⟨hmem, hu, hc⟩ := Tables.walletOf?_eq_some hx
  constructor
  · rintro ⟨hvu, hvc⟩
    rw [h.sole v hv x hmem (hvu.symm.trans hu.symm) (hvc.symm.trans hc.symm)]
  · intro hid
    obtain rfl := Table.eq_of_key_eq hv hmem (Uuid.value_cast_inj.mpr hid)
    exact ⟨hu.symm, hc.symm⟩

/-- The books stay balanced while neither wallets nor trades change. -/
theorem Balanced.keep (h : t.Balanced os) (hk : t.Keeps t') (hwallets : t'.wallets = t.wallets)
    (htrades : t'.trades = t.trades) : t'.Balanced os := by
  refine ⟨?_, ?_, ?_, ?_, ?_, ?_⟩
  · rw [htrades]
    exact fun tr htr => hk.resolves (h.resolved tr htr)
  · rw [htrades]
    exact h.fee
  · rw [hwallets]
    exact h.sole
  · rw [hwallets]
    exact h.moderate
  · intro v hv
    rw [hwallets] at hv
    obtain ⟨o, ho, hu, hc, hbalance⟩ := h.wallet v hv
    refine ⟨o, ho, hu, hc, ?_⟩
    rw [hbalance, ← hk.spent_sum h.resolved, ← hk.earned_sum h.resolved, ← htrades]
    rfl
  · intro among
    rw [held, charged, hwallets, htrades, hk.charged_sum h.resolved]
    exact h.total among

/-! ## Writing a wallet -/

theorem held_putWallet (among : String → Bool) :
    (t.putWallet v).held among
        + (t.wallet? v.id).elim 0 (fun x => if among x.currency then x.balance.value else 0)
      = t.held among + if among v.currency then v.balance.value else 0 := by
  rw [held, held, sumWhere_eq_sum, sumWhere_eq_sum]
  exact Table.sum_insert fun x : Wallet => if among x.currency then x.balance.value else 0

theorem held_putWallet_of_sameOwner {x : Wallet} (hx : t.wallet? v.id = some x) (hsame : x.SameOwner v)
    (among : String → Bool) :
    (t.putWallet v).held among = t.held among + if among v.currency then v.balance.value - x.balance.value else 0 := by
  have hheld := held_putWallet (t := t) (v := v) among
  rw [hx, Option.elim_some, ← hsame.currency] at hheld
  by_cases hc : among v.currency = true
  · rw [if_pos hc, if_pos hc] at hheld
    rw [if_pos hc]
    linarith
  · rw [if_neg hc, if_neg hc] at hheld
    rw [if_neg hc]
    linarith

theorem Holds.putWallet {userId : Uuid} {currency : String} (h : t.Holds userId currency)
    (hold : ∀ x, t.wallet? v.id = some x → x.SameOwner v) : (t.putWallet v).Holds userId currency := by
  obtain ⟨x, hx, hu, hc⟩ := h
  by_cases hid : x.id = v.id
  · have hsame := hold x (Tables.wallet?_eq_some.mpr ⟨hx, hid⟩)
    refine ⟨v, Table.mem_insert_iff.mpr (.inl rfl), ?_, ?_⟩
    · rw [hsame.userId, hu]
    · rw [hsame.currency, hc]
  · refine ⟨x, Table.mem_insert_iff.mpr (.inr ⟨hx, ?_⟩), hu, hc⟩
    exact fun heq => hid (Uuid.value_cast_inj.mp heq)

theorem Keeps.putWallet (hold : ∀ x, t.wallet? v.id = some x → x.SameOwner v) : t.Keeps (t.putWallet v) :=
  ⟨fun ho => ⟨_, ho, rfl⟩, fun hm => hm, fun h => h.putWallet hold⟩

/-! ## Opening a wallet -/

section Open

variable (h : t.Balanced os) (hnew : ∀ o ∈ os, ¬ (o.userId = v.userId ∧ o.currency = v.currency))
include h hnew

/-- No wallet has the owner and the currency of a wallet that is opened. -/
theorem Balanced.not_holds : ¬ t.Holds v.userId v.currency := by
  rintro ⟨x, hx, hu, hc⟩
  obtain ⟨o, ho, hou, hoc, -⟩ := h.wallet x hx
  exact hnew o ho ⟨hou.trans hu, hoc.trans hc⟩

theorem Balanced.flow_eq_zero {side : Trade → Uuid} (hfunded : ∀ tr ∈ t.trades, t.Funded (side tr) tr.marketId)
    (amount : Trade → ℚ) : t.flow side amount t.trades v.userId v.currency = 0 := by
  apply sumWhere_eq_zero
  intro tr htr
  obtain ⟨o, m, ho, hm, hholds⟩ := hfunded tr htr
  rw [Bool.and_eq_false_iff, isOrderOf, ho, isQuotedIn, hm, Option.any_some, Option.any_some,
    decide_eq_false_iff_not, decide_eq_false_iff_not, ← not_and_or]
  rintro ⟨hu, hc⟩
  exact h.not_holds hnew (hu ▸ hc ▸ hholds)

theorem Balanced.spent_eq_zero : t.spent v.userId v.currency = 0 :=
  h.flow_eq_zero hnew (fun tr htr => (h.resolved tr htr).buy) Trade.cost

theorem Balanced.earned_eq_zero : t.earned v.userId v.currency = 0 :=
  h.flow_eq_zero hnew (fun tr htr => (h.resolved tr htr).sell) Trade.proceeds

theorem Balanced.open (hfresh : t.wallet? v.id = none) (hv : v.balance.Moderate) :
    (t.putWallet v).Balanced (os ++ [⟨v.userId, v.currency, v.balance⟩]) := by
  have hk : t.Keeps (t.putWallet v) := .putWallet fun x hx => by rw [hfresh] at hx; cases hx
  refine ⟨fun tr htr => hk.resolves (h.resolved tr htr), h.fee, ?_, ?_, ?_, ?_⟩
  · intro x hx y hy hu hc
    rcases Table.mem_insert_iff.mp hx with rfl | ⟨hxt, -⟩
    · rcases Table.mem_insert_iff.mp hy with rfl | ⟨hyt, -⟩
      · rfl
      · exact absurd ⟨y, hyt, hu.symm, hc.symm⟩ (h.not_holds hnew)
    · rcases Table.mem_insert_iff.mp hy with rfl | ⟨hyt, -⟩
      · exact absurd ⟨x, hxt, hu, hc⟩ (h.not_holds hnew)
      · exact h.sole x hxt y hyt hu hc
  · exact Table.forall_mem_insert hv h.moderate
  · intro x hx
    rcases Table.mem_insert_iff.mp hx with rfl | ⟨hx, -⟩
    · refine ⟨_, List.mem_append_right _ (List.mem_singleton_self _), rfl, rfl, ?_⟩
      show x.balance.value = x.balance.value - t.spent x.userId x.currency + t.earned x.userId x.currency
      rw [h.spent_eq_zero hnew, h.earned_eq_zero hnew, sub_zero, add_zero]
    · obtain ⟨o, ho, hbooks⟩ := h.wallet x hx
      exact ⟨o, List.mem_append_left _ ho, hbooks⟩
  · intro among
    have hheld := held_putWallet (t := t) (v := v) among
    have htotal := h.total among
    rw [hfresh, Option.elim_none, add_zero] at hheld
    rw [hheld, htotal, openedWith, openedWith, sumWhere_concat]
    show _ = _ - 2 * t.charged among
    ring

end Open
end Tables

/-! ## Settling a trade -/

theorem Wallet.SameOwner.refl (v : Wallet) : v.SameOwner v := ⟨rfl, rfl, rfl⟩

namespace Execution

variable {e : Execution} {t : Tables} {os : List Opening} {p : Parties} {b s : Wallet} {tr : Trade}

/-- The rows that a settlement leaves. -/
def settledRows (t : Tables) (tr : Trade) (b s : Wallet) : Tables := ((t.addTrade tr).putWallet b).putWallet s

section Rows

variable (hfound : e.Found t p) (hmoved : e.Moved p b s)
include hfound hmoved

theorem wallet?_bought {x : Wallet} (hx : (t.addTrade tr).wallet? b.id = some x) : p.buyer = x := by
  rw [(hfound.sameOwner hmoved).1.id] at hx
  exact Option.some.inj (hfound.wallet?_buyer.symm.trans hx)

theorem wallet?_sold {x : Wallet} (hne : b.id ≠ s.id)
    (hx : ((t.addTrade tr).putWallet b).wallet? s.id = some x) : p.seller = x := by
  rw [Tables.wallet?_putWallet, if_neg hne, (hfound.sameOwner hmoved).2.id] at hx
  exact Option.some.inj (hfound.wallet?_seller.symm.trans hx)

theorem keeps_settled : t.Keeps (settledRows t tr b s) := by
  obtain ⟨hb, hs⟩ := hfound.sameOwner hmoved
  have hbought : ∀ x, (t.addTrade tr).wallet? b.id = some x → x.SameOwner b := by
    intro x hx
    rw [← wallet?_bought hfound hmoved hx]
    exact hb
  have hsold : ∀ x, ((t.addTrade tr).putWallet b).wallet? s.id = some x → x.SameOwner s := by
    intro x hx
    by_cases hid : s.id = b.id
    · rw [Tables.wallet?_putWallet, if_pos hid.symm] at hx
      obtain rfl := Option.some.inj hx
      rw [hmoved.eq_of_id hid]
      exact .refl b
    · rw [← wallet?_sold hfound hmoved (Ne.symm hid) hx]
      exact hs
  refine ⟨fun ho => ⟨_, ho, rfl⟩, fun hm => hm, ?_⟩
  intro userId currency hholds
  have hadded : (t.addTrade tr).Holds userId currency := hholds
  exact (hadded.putWallet hbought).putWallet hsold

theorem resolves_settled (id : Uuid) (now : Instant) :
    (settledRows t (e.toTrade id now) b s).Resolves (e.toTrade id now) := by
  obtain ⟨hbuyer, hbu, hbc⟩ := Tables.walletOf?_eq_some hfound.buyer
  obtain ⟨hseller, hsu, hsc⟩ := Tables.walletOf?_eq_some hfound.seller
  apply (keeps_settled hfound hmoved).resolves
  exact ⟨⟨p.buy, p.market, hfound.buy, hfound.market, p.buyer, hbuyer, hbu, hbc⟩,
    ⟨p.sell, p.market, hfound.sell, hfound.market, p.seller, hseller, hsu, hsc⟩⟩

theorem mem_settled {v : Wallet} (hv : v ∈ (settledRows t tr b s).wallets.rows) :
    v = s ∨ (v = b ∧ p.buyer.id ≠ p.seller.id) ∨
      (v ∈ t.wallets.rows ∧ v.id ≠ p.buyer.id ∧ v.id ≠ p.seller.id) := by
  obtain ⟨hb, hs⟩ := hfound.sameOwner hmoved
  rcases Table.mem_insert_iff.mp hv with rfl | ⟨hv, hvs⟩
  · exact .inl rfl
  · have hvs' : v.id ≠ s.id := fun heq => hvs (Uuid.value_cast_inj.mpr heq)
    rw [hs.id] at hvs'
    rcases Table.mem_insert_iff.mp hv with rfl | ⟨hv, hvb⟩
    · rw [hb.id] at hvs'
      exact .inr (.inl ⟨rfl, hvs'⟩)
    · have hvb' : v.id ≠ b.id := fun heq => hvb (Uuid.value_cast_inj.mpr heq)
      rw [hb.id] at hvb'
      exact .inr (.inr ⟨hv, hvb', hvs'⟩)

/-- Every wallet after a settlement is a wallet before it, less what it has paid, plus what it has received. -/
theorem wallet_before (hexact : e.MovesExactly p.buyer p.seller b s) {v : Wallet}
    (hv : v ∈ (settledRows t tr b s).wallets.rows) :
    ∃ x ∈ t.wallets.rows, x.SameOwner v ∧ v.balance.value
      = x.balance.value - (if x.id = p.buyer.id then e.cost else 0)
        + if x.id = p.seller.id then e.proceeds else 0 := by
  obtain ⟨hb, hs⟩ := hfound.sameOwner hmoved
  have hbuyer := (Tables.walletOf?_eq_some hfound.buyer).1
  have hseller := (Tables.walletOf?_eq_some hfound.seller).1
  rw [MovesExactly] at hexact
  rcases mem_settled hfound hmoved hv with rfl | ⟨rfl, hne⟩ | ⟨hv, hvb, hvs⟩
  · refine ⟨p.seller, hseller, hs, ?_⟩
    by_cases hid : p.buyer.id = p.seller.id
    · rw [if_pos hid] at hexact
      rw [if_pos hid.symm, if_pos rfl, hexact.2, hexact.1, hfound.buyer_eq_seller hid]
      have := cost_sub_proceeds e
      linarith
    · rw [if_neg hid] at hexact
      rw [if_neg (Ne.symm hid), if_pos rfl, hexact.2, sub_zero]
  · refine ⟨p.buyer, hbuyer, hb, ?_⟩
    rw [if_neg hne] at hexact
    rw [if_pos rfl, if_neg hne, hexact.1, add_zero]
  · refine ⟨v, hv, .refl v, ?_⟩
    rw [if_neg hvb, if_neg hvs, sub_zero, add_zero]

theorem held_settled (hexact : e.MovesExactly p.buyer p.seller b s) (among : String → Bool) :
    (settledRows t tr b s).held among
      = t.held among - if among p.market.quoteCurrency then 2 * e.fee.value else 0 := by
  obtain ⟨hb, hs⟩ := hfound.sameOwner hmoved
  have hbquote : b.currency = p.market.quoteCurrency :=
    hb.currency.trans (Tables.walletOf?_eq_some hfound.buyer).2.2
  have hsquote : s.currency = p.market.quoteCurrency :=
    hs.currency.trans (Tables.walletOf?_eq_some hfound.seller).2.2
  have hbuyer : (t.addTrade tr).wallet? b.id = some p.buyer := by
    rw [hb.id]
    exact hfound.wallet?_buyer
  have hadded : (t.addTrade tr).held among = t.held among := rfl
  rw [MovesExactly] at hexact
  rw [settledRows]
  by_cases hid : p.buyer.id = p.seller.id
  · -- The second write repeats the first.
    rw [if_pos hid] at hexact
    rw [hexact.2, Tables.putWallet_putWallet, Tables.held_putWallet_of_sameOwner hbuyer hb, hadded, hbquote,
      hexact.1]
    split
    · ring
    · ring
  · rw [if_neg hid] at hexact
    have hne : b.id ≠ s.id := by rwa [hb.id, hs.id]
    have hseller : ((t.addTrade tr).putWallet b).wallet? s.id = some p.seller := by
      rw [Tables.wallet?_putWallet, if_neg hne, hs.id]
      exact hfound.wallet?_seller
    rw [Tables.held_putWallet_of_sameOwner hseller hs, Tables.held_putWallet_of_sameOwner hbuyer hb, hadded,
      hbquote, hsquote, hexact.1, hexact.2]
    have hnet := cost_sub_proceeds e
    split
    · linarith
    · ring

end Rows

/-! ## Settling keeps the books balanced -/

/-- A settled trade adds to one side of the flow of the wallet it was settled with. -/
theorem flow_settled {side : Trade → Uuid} {o : Order} {x v : Wallet} (h : t.Balanced os)
    (hk : t.Keeps (settledRows t tr b s)) (hfunded : ∀ tr ∈ t.trades, t.Funded (side tr) tr.marketId)
    (ho : t.order? (side tr) = some o) (hm : t.market? tr.marketId = some p.market)
    (hx : t.walletOf? o.userId p.market.quoteCurrency = some x) (hv : v ∈ t.wallets.rows) (amount : Trade → ℚ) :
    (settledRows t tr b s).flow side amount (t.trades ++ [tr]) v.userId v.currency
      = t.flow side amount t.trades v.userId v.currency + if v.id = x.id then amount tr else 0 := by
  rw [← hk.flow_eq hfunded]
  refine sumWhere_concat.trans (congrArg (_ + ·) (if_congr ?_ rfl rfl))
  rw [← h.owner_iff hx hv]
  show (t.isOrderOf (side tr) v.userId && t.isQuotedIn tr v.currency) = true ↔ _
  rw [Tables.isOrderOf, Tables.isQuotedIn, ho, hm, Option.any_some, Option.any_some, Bool.and_eq_true,
    decide_eq_true_iff, decide_eq_true_iff]

section Balanced

variable (h : t.Balanced os) (hfound : e.Found t p)
include h hfound

theorem spent_settled (hmoved : e.Moved p b s) (id : Uuid) (now : Instant) {v : Wallet}
    (hv : v ∈ t.wallets.rows) :
    (settledRows t (e.toTrade id now) b s).spent v.userId v.currency
      = t.spent v.userId v.currency + if v.id = p.buyer.id then e.cost else 0 :=
  flow_settled h (keeps_settled hfound hmoved) (fun tr htr => (h.resolved tr htr).buy) hfound.buy
    hfound.market hfound.buyer hv Trade.cost

theorem earned_settled (hmoved : e.Moved p b s) (id : Uuid) (now : Instant) {v : Wallet}
    (hv : v ∈ t.wallets.rows) :
    (settledRows t (e.toTrade id now) b s).earned v.userId v.currency
      = t.earned v.userId v.currency + if v.id = p.seller.id then e.proceeds else 0 :=
  flow_settled h (keeps_settled hfound hmoved) (fun tr htr => (h.resolved tr htr).sell) hfound.sell
    hfound.market hfound.seller hv Trade.proceeds

theorem charged_settled (hmoved : e.Moved p b s) (id : Uuid) (now : Instant) (among : String → Bool) :
    (settledRows t (e.toTrade id now) b s).charged among
      = t.charged among + if among p.market.quoteCurrency then e.fee.value else 0 := by
  have hk : t.Keeps (settledRows t (e.toTrade id now) b s) := keeps_settled hfound hmoved
  rw [← hk.charged_sum h.resolved]
  refine sumWhere_concat.trans (congrArg (_ + ·) (if_congr ?_ rfl rfl))
  show (t.market? e.marketId).any _ = true ↔ _
  rw [hfound.market, Option.any_some]

theorem moderate_settled (hmoved : e.Moved p b s) (he : e.Moderate)
    (hexact : e.MovesExactly p.buyer p.seller b s) {v : Wallet}
    (hv : v ∈ (settledRows t tr b s).wallets.rows) : v.balance.Moderate := by
  have hbuyer := h.moderate _ (Tables.walletOf?_eq_some hfound.buyer).1
  have hseller := h.moderate _ (Tables.walletOf?_eq_some hfound.seller).1
  obtain ⟨hb, hs⟩ := hmoved.in_range he.scale hbuyer.scale hseller.scale
  have hplaces : Places 8 v.balance.value := by
    obtain ⟨x, hx, -, hvalue⟩ := wallet_before hfound hmoved hexact hv
    rw [hvalue]
    exact ((h.moderate x hx).places.sub (he.places_cost.ite _)).add (he.places_proceeds.ite _)
  rcases mem_settled hfound hmoved hv with rfl | ⟨rfl, -⟩ | ⟨hv, -, -⟩
  · exact ⟨hs.1, hplaces, hs.2⟩
  · exact ⟨hb.1, hplaces, hb.2⟩
  · exact h.moderate v hv

theorem balanced_settled (hmoved : e.Moved p b s) (he : e.Moderate) (hcheck : e.check = .ok ())
    (hexact : e.MovesExactly p.buyer p.seller b s) (id : Uuid) (now : Instant) :
    (settledRows t (e.toTrade id now) b s).Balanced os := by
  have hk : t.Keeps (settledRows t (e.toTrade id now) b s) := keeps_settled hfound hmoved
  refine ⟨?_, ?_, ?_, fun v hv => moderate_settled h hfound hmoved he hexact hv, ?_, ?_⟩
  · intro x hx
    rcases List.mem_append.mp hx with hx | hx
    · exact hk.resolves (h.resolved x hx)
    · obtain rfl := List.mem_singleton.mp hx
      exact resolves_settled hfound hmoved id now
  · intro x hx
    rcases List.mem_append.mp hx with hx | hx
    · exact h.fee x hx
    · obtain rfl := List.mem_singleton.mp hx
      exact (check_ok hcheck).2.2
  · intro x hx y hy hu hc
    obtain ⟨x', hx', hxs, -⟩ := wallet_before hfound hmoved hexact hx
    obtain ⟨y', hy', hys, -⟩ := wallet_before hfound hmoved hexact hy
    obtain rfl := h.sole x' hx' y' hy' (by rw [← hxs.userId, hu, hys.userId])
      (by rw [← hxs.currency, hc, hys.currency])
    exact Table.eq_of_key_eq hx hy (Uuid.value_cast_inj.mpr (hxs.id.trans hys.id.symm))
  · intro v hv
    obtain ⟨x, hx, hsame, hvalue⟩ := wallet_before hfound hmoved hexact hv
    obtain ⟨o, ho, hou, hoc, hbooks⟩ := h.wallet x hx
    refine ⟨o, ho, hou.trans hsame.userId.symm, hoc.trans hsame.currency.symm, ?_⟩
    rw [hsame.userId, hsame.currency, spent_settled h hfound hmoved id now hx,
      earned_settled h hfound hmoved id now hx, hvalue, hbooks]
    ring
  · intro among
    rw [held_settled hfound hmoved hexact, charged_settled h hfound hmoved, h.total among]
    split
    · ring
    · ring

end Balanced

/-- A settlement of moderate size is exact, and keeps the books balanced. -/
theorem Settled.balanced {ids : IdSupply} {now : Instant} {r : Settlement} {t' : Tables} (h : t.Balanced os)
    (hbound : openedWith os (fun _ => true) < 10 ^ 20) (he : e.Moderate) (hcheck : e.check = .ok ())
    (hsettled : e.Settled ids now t r t') : t'.Balanced os := by
  obtain ⟨⟨p, hfound, hmoved⟩, htrade, rfl⟩ := hsettled
  have hbuyer := (Tables.walletOf?_eq_some hfound.buyer).1
  have hseller := (Tables.walletOf?_eq_some hfound.seller).1
  have hb := h.moderate _ hbuyer
  have hs := h.moderate _ hseller
  have hbalances := he.balancesRepresentable hcheck hb hs ((h.balance_le hbuyer).trans_lt hbound)
    ((h.balance_le hseller).trans_lt hbound)
  have hexact := (hmoved.exact_iff he.scale (check_ok hcheck).2.2 hb.scale hs.scale
    (he.representable hcheck)).mpr hbalances
  rw [htrade]
  exact balanced_settled h hfound hmoved he hcheck hexact ids.next now

end Execution

end Clearing
