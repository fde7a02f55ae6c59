import Clearing.Proofs.ExactSettlement
import Clearing.Proofs.Lemmas.FirstFailure
import Clearing.Proofs.Lemmas.RowByRow
import Clearing.Proofs.LockOrder

/-!
# Which trades are settled

Sixteen conditions are looked at in a fixed order. A trade is settled if and only if all of them hold, and is
refused with the error of the first one that does not. They look at no more than the identity, market and side of
the two orders, and at the balances of the two wallets.
-/

namespace Clearing

/-! ## Balances -/

/-- Why a wallet refuses a change of its balance. -/
inductive Wallet.Refuses (v : Wallet) (delta : Decimal) : SettlementError → Prop where
  | overflow (h : v.balance.add? delta = none) : v.Refuses delta (.invalidAmount (.balanceOverflow v.id delta))
  | deficit {balance : Decimal} (h : v.balance.add? delta = some balance) (negative : balance.value < 0) :
      v.Refuses delta (.insufficientBalance v.id v.balance (-delta))

namespace Wallet

variable {v : Wallet} {delta : Decimal} {err : SettlementError}

theorem apply_error (h : v.apply delta = .error err) : v.Refuses delta err := by
  rw [apply] at h
  split at h
  · next hsum =>
      cases h
      exact .overflow hsum
  · next balance hsum =>
      split at h
      · next hneg =>
          cases h
          rw [Decimal.lt_iff_value, Decimal.value_zero] at hneg
          exact .deficit hsum hneg
      · cases h

theorem not_refuses (h : ∃ balance, v.balance.add? delta = some balance ∧ 0 ≤ balance.value) :
    ¬ v.Refuses delta err := by
  obtain ⟨balance, hsum, hnonneg⟩ := h
  rintro (hnone | ⟨hsum', hneg⟩)
  · cases hnone.symm.trans hsum
  · obtain rfl := Option.some.inj (hsum.symm.trans hsum')
    exact absurd hneg hnonneg.not_gt

theorem Refuses.unique {err' : SettlementError} (h : v.Refuses delta err) (h' : v.Refuses delta err') :
    err' = err := by
  cases h with
  | overflow h =>
      cases h' with
      | overflow => rfl
      | deficit h' => rw [h] at h'; cases h'
  | deficit h =>
      cases h' with
      | overflow h' => rw [h] at h'; cases h'
      | deficit => rfl

end Wallet

namespace Execution

/-! ## The conditions -/

/-- What a trade is worth, what the buyer pays and what the seller receives, as far as they are in range. -/
structure Amounts (e : Execution) (total paid received : Decimal) : Prop where
  worth : e.price.mul? e.quantity = some total
  cost : total.add? e.fee = some paid
  proceeds : total.sub? e.fee = some received

/-- What a settlement depends on, in the order in which it is looked at. -/
inductive Hurdle where
  | price | quantity | fee
  | amounts
  | buyOrder | sellOrder | markets | buySide | sellSide
  | market | buyerWallet | sellerWallet
  | netAmount | ownBalance | buyerBalance | sellerBalance

namespace Hurdle

def ofInput : List Hurdle := [.price, .quantity, .fee]

def ofBalances : List Hurdle := [.netAmount, .ownBalance, .buyerBalance, .sellerBalance]

def ofWork : List Hurdle :=
  [.amounts, .buyOrder, .sellOrder, .markets, .buySide, .sellSide, .market, .buyerWallet, .sellerWallet] ++ ofBalances

def all : List Hurdle := ofInput ++ ofWork

end Hurdle

/-- A trade fails at a hurdle with an error. -/
inductive Fails (e : Execution) (t : Tables) : Hurdle → SettlementError → Prop where
  | price (h : e.price.value ≤ 0) : Fails e t .price (.invalidAmount (.priceNotPositive e.price))
  | quantity (h : e.quantity.value ≤ 0) : Fails e t .quantity (.invalidAmount (.quantityNotPositive e.quantity))
  | fee (h : e.fee.value < 0) : Fails e t .fee (.invalidAmount (.feeNegative e.fee))
  | amounts (h : ∀ total paid received, ¬ e.Amounts total paid received) :
      Fails e t .amounts (.invalidAmount (.valueOverflow e.price e.quantity e.fee))
  | buyOrder (h : t.order? e.buyOrderId = none) :
      Fails e t .buyOrder (.store "failed to load buy order" (.notFound s!"order {e.buyOrderId}"))
  | sellOrder (h : t.order? e.sellOrderId = none) :
      Fails e t .sellOrder (.store "failed to load sell order" (.notFound s!"order {e.sellOrderId}"))
  | markets {buy sell : Order} (hbuy : t.order? e.buyOrderId = some buy) (hsell : t.order? e.sellOrderId = some sell)
      (h : buy.marketId ≠ e.marketId ∨ sell.marketId ≠ e.marketId) :
      Fails e t .markets (.marketMismatch (.orders e.marketId buy.marketId sell.marketId))
  | buySide {buy : Order} (hbuy : t.order? e.buyOrderId = some buy) (h : buy.side ≠ .buy) :
      Fails e t .buySide (.sideMismatch (.order .buy buy.id buy.side))
  | sellSide {sell : Order} (hsell : t.order? e.sellOrderId = some sell) (h : sell.side ≠ .sell) :
      Fails e t .sellSide (.sideMismatch (.order .sell sell.id sell.side))
  | market (h : t.market? e.marketId = none) :
      Fails e t .market (.store "failed to load market" (.notFound s!"market {e.marketId}"))
  | buyerWallet {buy : Order} {m : Market} (hbuy : t.order? e.buyOrderId = some buy)
      (hmarket : t.market? e.marketId = some m) (h : t.walletOf? buy.userId m.quoteCurrency = none) :
      Fails e t .buyerWallet
        (.store "failed to load buyer wallet" (.notFound s!"wallet ({buy.userId}, {m.quoteCurrency})"))
  | sellerWallet {sell : Order} {m : Market} (hsell : t.order? e.sellOrderId = some sell)
      (hmarket : t.market? e.marketId = some m) (h : t.walletOf? sell.userId m.quoteCurrency = none) :
      Fails e t .sellerWallet
        (.store "failed to load seller wallet" (.notFound s!"wallet ({sell.userId}, {m.quoteCurrency})"))
  | netAmount {p : Parties} {total paid received : Decimal} (found : e.Found t p)
      (amounts : e.Amounts total paid received) (own : p.buyer.id = p.seller.id)
      (h : (-paid).add? received = none) :
      Fails e t .netAmount (.invalidAmount (.selfTradeOverflow p.buyer.id))
  | ownBalance {p : Parties} {total paid received net : Decimal} {err : SettlementError} (found : e.Found t p)
      (amounts : e.Amounts total paid received) (own : p.buyer.id = p.seller.id)
      (sum : (-paid).add? received = some net) (h : p.buyer.Refuses net err) : Fails e t .ownBalance err
  | buyerBalance {p : Parties} {total paid received : Decimal} {err : SettlementError} (found : e.Found t p)
      (amounts : e.Amounts total paid received) (apart : p.buyer.id ≠ p.seller.id)
      (h : p.buyer.Refuses (-paid) err) : Fails e t .buyerBalance err
  | sellerBalance {p : Parties} {total paid received : Decimal} {err : SettlementError} (found : e.Found t p)
      (amounts : e.Amounts total paid received) (apart : p.buyer.id ≠ p.seller.id)
      (h : p.seller.Refuses received err) : Fails e t .sellerBalance err

/-! ## What is determined -/

variable {e : Execution} {t : Tables} {p q : Parties} {total paid received : Decimal} {c : Hurdle}
  {err err' : SettlementError}

theorem Amounts.deltas?_eq (h : e.Amounts total paid received) : e.deltas? = some (-paid, received) := by
  simp only [deltas?, h.worth, h.cost, h.proceeds, Option.bind_eq_bind, Option.bind_some]

theorem Amounts.unique {total' paid' received' : Decimal} (h : e.Amounts total paid received)
    (h' : e.Amounts total' paid' received') : paid' = paid ∧ received' = received := by
  obtain rfl := Option.some.inj (h.worth.symm.trans h'.worth)
  exact ⟨Option.some.inj (h'.cost.symm.trans h.cost), Option.some.inj (h'.proceeds.symm.trans h.proceeds)⟩

theorem Found.unique (h : e.Found t p) (h' : e.Found t q) : q = p := by
  obtain ⟨buy, sell, market, buyer, seller⟩ := p
  obtain ⟨buy', sell', market', buyer', seller'⟩ := q
  obtain rfl : buy = buy' := Option.some.inj (h.buy.symm.trans h'.buy)
  obtain rfl : sell = sell' := Option.some.inj (h.sell.symm.trans h'.sell)
  obtain rfl : market = market' := Option.some.inj (h.market.symm.trans h'.market)
  obtain rfl : buyer = buyer' := Option.some.inj (h.buyer.symm.trans h'.buyer)
  obtain rfl : seller = seller' := Option.some.inj (h.seller.symm.trans h'.seller)
  rfl

section Balances

variable (hfound : e.Found t p) (hamounts : e.Amounts total paid received)
include hfound hamounts

theorem fails_netAmount_iff : e.Fails t .netAmount err ↔ p.buyer.id = p.seller.id ∧
    (-paid).add? received = none ∧ err = .invalidAmount (.selfTradeOverflow p.buyer.id) := by
  constructor
  · rintro ⟨⟩
    next found amounts own h =>
      obtain rfl := hfound.unique found
      obtain ⟨rfl, rfl⟩ := hamounts.unique amounts
      exact ⟨own, h, rfl⟩
  · rintro ⟨own, h, rfl⟩
    exact .netAmount hfound hamounts own h

theorem fails_ownBalance_iff : e.Fails t .ownBalance err ↔ p.buyer.id = p.seller.id ∧
    ∃ net, (-paid).add? received = some net ∧ p.buyer.Refuses net err := by
  constructor
  · rintro ⟨⟩
    next net found amounts own sum h =>
      obtain rfl := hfound.unique found
      obtain ⟨rfl, rfl⟩ := hamounts.unique amounts
      exact ⟨own, net, sum, h⟩
  · rintro ⟨own, net, sum, h⟩
    exact .ownBalance hfound hamounts own sum h

theorem fails_buyerBalance_iff :
    e.Fails t .buyerBalance err ↔ p.buyer.id ≠ p.seller.id ∧ p.buyer.Refuses (-paid) err := by
  constructor
  · rintro ⟨⟩
    next found amounts apart h =>
      obtain rfl := hfound.unique found
      obtain ⟨rfl, rfl⟩ := hamounts.unique amounts
      exact ⟨apart, h⟩
  · rintro ⟨apart, h⟩
    exact .buyerBalance hfound hamounts apart h

theorem fails_sellerBalance_iff :
    e.Fails t .sellerBalance err ↔ p.buyer.id ≠ p.seller.id ∧ p.seller.Refuses received err := by
  constructor
  · rintro ⟨⟩
    next found amounts apart h =>
      obtain rfl := hfound.unique found
      obtain ⟨rfl, rfl⟩ := hamounts.unique amounts
      exact ⟨apart, h⟩
  · rintro ⟨apart, h⟩
    exact .sellerBalance hfound hamounts apart h

end Balances

theorem Fails.unique (h : e.Fails t c err) (h' : e.Fails t c err') : err' = err := by
  cases h with
  | price | quantity | fee | amounts | buyOrder | sellOrder | market =>
      cases h'
      rfl
  | markets hbuy hsell =>
      cases h' with
      | markets hbuy' hsell' =>
          obtain rfl := Option.some.inj (hbuy.symm.trans hbuy')
          obtain rfl := Option.some.inj (hsell.symm.trans hsell')
          rfl
  | buySide hbuy =>
      cases h' with
      | buySide hbuy' =>
          obtain rfl := Option.some.inj (hbuy.symm.trans hbuy')
          rfl
  | sellSide hsell =>
      cases h' with
      | sellSide hsell' =>
          obtain rfl := Option.some.inj (hsell.symm.trans hsell')
          rfl
  | buyerWallet hbuy hmarket =>
      cases h' with
      | buyerWallet hbuy' hmarket' =>
          obtain rfl := Option.some.inj (hbuy.symm.trans hbuy')
          obtain rfl := Option.some.inj (hmarket.symm.trans hmarket')
          rfl
  | sellerWallet hsell hmarket =>
      cases h' with
      | sellerWallet hsell' hmarket' =>
          obtain rfl := Option.some.inj (hsell.symm.trans hsell')
          obtain rfl := Option.some.inj (hmarket.symm.trans hmarket')
          rfl
  | netAmount found amounts =>
      obtain ⟨-, -, rfl⟩ := (fails_netAmount_iff found amounts).mp h'
      rfl
  | ownBalance found amounts own sum h =>
      obtain ⟨-, net, sum', h'⟩ := (fails_ownBalance_iff found amounts).mp h'
      obtain rfl := Option.some.inj (sum.symm.trans sum')
      exact h.unique h'
  | buyerBalance found amounts apart h => exact h.unique ((fails_buyerBalance_iff found amounts).mp h').2
  | sellerBalance found amounts apart h => exact h.unique ((fails_sellerBalance_iff found amounts).mp h').2

/-! ## The conditions explain the outcome -/

theorem explains_check : Explains (e.Fails t) Hurdle.ofInput e.check := by
  rw [check]
  refine .ite (fun h => .price (Decimal.le_zero_iff.mp h)) ?_ fun _ => .ite
    (fun h => .quantity (Decimal.le_zero_iff.mp h)) ?_ fun _ => .ite
    (fun h => .fee (Decimal.lt_zero_iff.mp h)) ?_ fun _ => NoFailure.nil
  · intro x hx
    cases hx with
    | price h => exact Decimal.le_zero_iff.mpr h
  · intro x hx
    cases hx with
    | quantity h => exact Decimal.le_zero_iff.mpr h
  · intro x hx
    cases hx with
    | fee h => exact Decimal.lt_zero_iff.mpr h

theorem explains_checkOrders {buy sell : Order} (hbuy : t.order? e.buyOrderId = some buy)
    (hsell : t.order? e.sellOrderId = some sell) :
    Explains (e.Fails t) [.markets, .buySide, .sellSide] (e.checkOrders buy sell) := by
  rw [checkOrders]
  refine .ite (.markets hbuy hsell) ?_ fun _ => .ite (.buySide hbuy) ?_ fun _ => .ite (.sellSide hsell) ?_
    fun _ => NoFailure.nil
  · intro x hx
    cases hx with
    | markets hbuy' hsell' h =>
        obtain rfl := Option.some.inj (hbuy.symm.trans hbuy')
        obtain rfl := Option.some.inj (hsell.symm.trans hsell')
        exact h
  · intro x hx
    cases hx with
    | buySide hbuy' h =>
        obtain rfl := Option.some.inj (hbuy.symm.trans hbuy')
        exact h
  · intro x hx
    cases hx with
    | sellSide hsell' h =>
        obtain rfl := Option.some.inj (hsell.symm.trans hsell')
        exact h

theorem explains_apply {v : Wallet} {delta : Decimal}
    (hrefused : ∀ err, v.Refuses delta err → e.Fails t c err) (honly : ∀ err, e.Fails t c err → v.Refuses delta err) :
    Explains (e.Fails t) [c] (v.apply delta) := by
  cases h : v.apply delta with
  | ok balance => exact .single fun err herr => Wallet.not_refuses ⟨balance, Wallet.apply_ok h⟩ (honly err herr)
  | error err => exact .head (hrefused err (Wallet.apply_error h))

section Work

variable {κ : Type} [Courier κ] {w : World MemoryStore κ} (hfaults : w.store.faults = [])
include hfaults

section Moves

variable (ht : w.store.draft = t) (hfound : e.Found t p) (hamounts : e.Amounts total paid received)
include ht hfound hamounts

theorem exchange_screened (hapart : p.buyer.id ≠ p.seller.id) :
    (e.exchange p.buyer p.seller (-paid) received).Screened (e.Fails t) [.buyerBalance, .sellerBalance]
      (fun _ _ => True) w := by
  subst ht
  show Work.Screened _ ([Hurdle.buyerBalance] ++ ([Hurdle.sellerBalance] ++ ([] ++ ([] ++ ([] ++ []))))) _ _ _
  refine .bind (.ofExcept (explains_apply (fun _ h => .buyerBalance hfound hamounts hapart h)
    fun _ h => ((fails_buyerBalance_iff hfound hamounts).mp h).2) fun buyerBalance _ => ?_)
  refine .bind (.ofExcept (explains_apply (fun _ h => .sellerBalance hfound hamounts hapart h)
    fun _ h => ((fails_sellerBalance_iff hfound hamounts).mp h).2) fun sellerBalance _ => ?_)
  -- The checks are done, and the rows to be written are there.
  refine .bind (.query hfaults (fun _ h => h.elim) fun trade t ht => ⟨.nil, ?_⟩)
  obtain ⟨-, rfl⟩ := ht
  refine .bind (.query hfaults ?_ fun buyer t ht => ⟨.nil, ?_⟩)
  · rintro _ ⟨hnone, -⟩
    cases hnone.symm.trans hfound.wallet?_buyer
  obtain ⟨v, hv, hbuyer, rfl⟩ := ht
  refine .bind (.query hfaults ?_ fun seller t ht => ⟨.nil, .pure .nil trivial⟩)
  rintro _ ⟨hnone, -⟩
  replace hnone : ((w.store.draft.addTrade trade).putWallet buyer).wallet? p.seller.id = none := hnone
  rw [Tables.wallet?_putWallet] at hnone
  split at hnone
  · cases hnone
  · cases hnone.symm.trans hfound.wallet?_seller

theorem settleBetween_screened (hapart : p.buyer.id ≠ p.seller.id) :
    (e.settleBetween p.buyer.id p.seller.id (-paid) received).Screened (e.Fails t) Hurdle.ofBalances
      (fun _ _ => True) w := by
  subst ht
  have hpass : NoFailure (e.Fails w.store.draft) [.netAmount, .ownBalance] :=
    .cons (fun x hx => hapart ((fails_netAmount_iff hfound hamounts).mp hx).1)
      (.single fun x hx => hapart ((fails_ownBalance_iff hfound hamounts).mp hx).1)
  have hbuyer := hfound.wallet?_buyer
  have hseller := hfound.wallet?_seller
  refine .skip hpass ?_
  rw [settleBetween]
  -- Whichever wallet is locked first, both are there.
  by_cases hlt : p.buyer.id < p.seller.id
  · rw [if_pos hlt]
    refine .lock_bind hfaults hbuyer (.lock_bind ?_ hseller ?_)
    · exact hfaults
    rw [if_pos rfl]
    exact exchange_screened hfaults rfl hfound hamounts hapart
  · rw [if_neg hlt]
    refine .lock_bind hfaults hseller (.lock_bind ?_ hbuyer ?_)
    · exact hfaults
    rw [if_neg (Ne.symm hapart)]
    exact exchange_screened hfaults rfl hfound hamounts hapart

theorem settleWithin_screened (hown : p.buyer.id = p.seller.id) :
    (e.settleWithin p.buyer.id (-paid) received).Screened (e.Fails t) Hurdle.ofBalances
      (fun _ _ => True) w := by
  subst ht
  have hpass : NoFailure (e.Fails w.store.draft) [.buyerBalance, .sellerBalance] :=
    .cons (fun x hx => ((fails_buyerBalance_iff hfound hamounts).mp hx).1 hown)
      (.single fun x hx => ((fails_sellerBalance_iff hfound hamounts).mp hx).1 hown)
  have hbuyer := hfound.wallet?_buyer
  show Work.Screened _ ([Hurdle.netAmount] ++ ([Hurdle.ownBalance] ++ ([] ++ ([] ++
    [Hurdle.buyerBalance, Hurdle.sellerBalance])))) _ _ _
  refine .lock_bind hfaults hbuyer ?_
  refine .bind (.ofOption (fun h => .head (.netAmount hfound hamounts hown h)) fun net hnet => ⟨.single ?_, ?_⟩)
  · intro x hx
    cases hnet.symm.trans ((fails_netAmount_iff hfound hamounts).mp hx).2.1
  refine .bind (.ofExcept (explains_apply (fun _ h => .ownBalance hfound hamounts hown hnet h) ?_) fun balance _ => ?_)
  · intro err herr
    obtain ⟨-, net', hnet', h⟩ := (fails_ownBalance_iff hfound hamounts).mp herr
    obtain rfl := Option.some.inj (hnet.symm.trans hnet')
    exact h
  refine .bind (.query hfaults (fun _ h => h.elim) fun trade t ht => ⟨.nil, ?_⟩)
  obtain ⟨-, rfl⟩ := ht
  refine .bind (.query hfaults ?_ fun v t ht => ⟨.nil, .pure hpass trivial⟩)
  rintro _ ⟨hnone, -⟩
  cases hnone.symm.trans hbuyer

end Moves

theorem work_screened : e.work.Screened (e.Fails w.store.draft) Hurdle.ofWork (fun _ _ => True) w := by
  -- The hurdles are handed out to the steps of the work that look at them.
  show Work.Screened _ ([Hurdle.amounts] ++ ([Hurdle.buyOrder] ++ ([Hurdle.sellOrder] ++
    ([Hurdle.markets, Hurdle.buySide, Hurdle.sellSide] ++ ([Hurdle.market] ++ ([Hurdle.buyerWallet] ++
    ([Hurdle.sellerWallet] ++ Hurdle.ofBalances))))))) _ _ _
  refine .bind (.ofOption ?_ fun (x, received) hdeltas => ?_)
  · intro hnone
    refine .head (.amounts fun total paid received h => ?_)
    cases hnone.symm.trans h.deltas?_eq
  obtain ⟨total, paid, htotal, hpaid, rfl, hreceived⟩ := deltas?_eq_some hdeltas
  have hamounts : e.Amounts total paid received := ⟨htotal, hpaid, hreceived⟩
  refine ⟨.single ?_, .bind (.read rfl hfaults ?_ ?_ fun buy hbuy => ?_)⟩
  · intro x hx
    cases hx with
    | amounts h => exact h _ _ _ hamounts
  · rintro _ ⟨hnone, rfl⟩
    exact .buyOrder hnone
  · rintro buy ⟨hbuy, -⟩ x hx
    cases hx with
    | buyOrder h => cases h.symm.trans hbuy
  replace hbuy := hbuy.1
  refine .bind (.read rfl hfaults ?_ ?_ fun sell hsell => ?_)
  · rintro _ ⟨hnone, rfl⟩
    exact .sellOrder hnone
  · rintro sell ⟨hsell, -⟩ x hx
    cases hx with
    | sellOrder h => cases h.symm.trans hsell
  replace hsell := hsell.1
  refine .bind (.ofExcept (explains_checkOrders hbuy hsell) fun _ horders =>
    .bind (.read rfl hfaults ?_ ?_ fun market hmarket => ?_))
  · rintro _ ⟨hnone, rfl⟩
    exact .market hnone
  · rintro market ⟨hmarket, -⟩ x hx
    cases hx with
    | market h => cases h.symm.trans hmarket
  replace hmarket := hmarket.1
  refine .bind (.read rfl hfaults ?_ ?_ fun buyer hbuyer => ?_)
  · rintro _ ⟨hnone, rfl⟩
    exact .buyerWallet hbuy hmarket hnone
  · rintro buyer ⟨hbuyer, -⟩ x hx
    cases hx with
    | buyerWallet hbuy' hmarket' h =>
        obtain rfl := Option.some.inj (hbuy.symm.trans hbuy')
        obtain rfl := Option.some.inj (hmarket.symm.trans hmarket')
        cases h.symm.trans hbuyer
  replace hbuyer := hbuyer.1
  refine .bind (.read rfl hfaults ?_ ?_ fun seller hseller => ?_)
  · rintro _ ⟨hnone, rfl⟩
    exact .sellerWallet hsell hmarket hnone
  · rintro seller ⟨hseller, -⟩ x hx
    cases hx with
    | sellerWallet hsell' hmarket' h =>
        obtain rfl := Option.some.inj (hsell.symm.trans hsell')
        obtain rfl := Option.some.inj (hmarket.symm.trans hmarket')
        cases h.symm.trans hseller
  have hfound : e.Found w.store.draft ⟨buy, sell, market, buyer, seller⟩ :=
    ⟨hbuy, hsell, horders, hmarket, hbuyer, hseller.1⟩
  by_cases hid : buyer.id = seller.id
  · rw [if_pos hid]
    refine settleWithin_screened ?_ ?_ hfound hamounts hid
    · exact hfaults
    · rfl
  · rw [if_neg hid]
    refine settleBetween_screened ?_ ?_ hfound hamounts hid
    · exact hfaults
    · rfl

end Work

/-! ## The trades that are settled -/

/-- All conditions on a trade hold. -/
structure Accepted (e : Execution) (t : Tables) (p : Parties) (total paid received : Decimal) : Prop where
  price : 0 < e.price.value
  quantity : 0 < e.quantity.value
  fee : 0 ≤ e.fee.value
  amounts : e.Amounts total paid received
  buy : t.order? e.buyOrderId = some p.buy
  sell : t.order? e.sellOrderId = some p.sell
  markets : p.buy.marketId = e.marketId ∧ p.sell.marketId = e.marketId
  sides : p.buy.side = .buy ∧ p.sell.side = .sell
  market : t.market? e.marketId = some p.market
  buyer : t.walletOf? p.buy.userId p.market.quoteCurrency = some p.buyer
  seller : t.walletOf? p.sell.userId p.market.quoteCurrency = some p.seller
  own : p.buyer.id = p.seller.id → ∃ net balance, (-paid).add? received = some net ∧
    p.buyer.balance.add? net = some balance ∧ 0 ≤ balance.value
  apart : p.buyer.id ≠ p.seller.id →
    (∃ balance, p.buyer.balance.add? (-paid) = some balance ∧ 0 ≤ balance.value) ∧
    ∃ balance, p.seller.balance.add? received = some balance ∧ 0 ≤ balance.value

theorem checkOrders_ok_iff {buy sell : Order} : e.checkOrders buy sell = .ok () ↔
    (buy.marketId = e.marketId ∧ sell.marketId = e.marketId) ∧ buy.side = .buy ∧ sell.side = .sell := by
  rw [checkOrders]
  split
  · next h => exact iff_of_false (fun heq => nomatch heq) fun ⟨hmarkets, _⟩ => by tauto
  · next hmarkets =>
      push Not at hmarkets
      split
      · next h => exact iff_of_false (fun heq => nomatch heq) fun ⟨_, hbuy, _⟩ => h hbuy
      · next hbuy =>
          push Not at hbuy
          split
          · next h => exact iff_of_false (fun heq => nomatch heq) fun ⟨_, _, hsell⟩ => h hsell
          · next hsell =>
              push Not at hsell
              exact iff_of_true rfl ⟨hmarkets, hbuy, hsell⟩

theorem Accepted.found (h : e.Accepted t p total paid received) : e.Found t p :=
  ⟨h.buy, h.sell, checkOrders_ok_iff.mpr ⟨h.markets, h.sides⟩, h.market, h.buyer, h.seller⟩

theorem Accepted.noFailure (h : e.Accepted t p total paid received) : NoFailure (e.Fails t) Hurdle.all := by
  intro c _ err hfails
  cases hfails with
  | price hprice => exact absurd hprice h.price.not_ge
  | quantity hquantity => exact absurd hquantity h.quantity.not_ge
  | fee hfee => exact absurd hfee h.fee.not_gt
  | amounts hnone => exact hnone _ _ _ h.amounts
  | buyOrder hnone => cases hnone.symm.trans h.buy
  | sellOrder hnone => cases hnone.symm.trans h.sell
  | markets hbuy hsell hne =>
      obtain rfl := Option.some.inj (h.buy.symm.trans hbuy)
      obtain rfl := Option.some.inj (h.sell.symm.trans hsell)
      exact hne.elim (fun hne => hne h.markets.1) fun hne => hne h.markets.2
  | buySide hbuy hne =>
      obtain rfl := Option.some.inj (h.buy.symm.trans hbuy)
      exact hne h.sides.1
  | sellSide hsell hne =>
      obtain rfl := Option.some.inj (h.sell.symm.trans hsell)
      exact hne h.sides.2
  | market hnone => cases hnone.symm.trans h.market
  | buyerWallet hbuy hmarket hnone =>
      obtain rfl := Option.some.inj (h.buy.symm.trans hbuy)
      obtain rfl := Option.some.inj (h.market.symm.trans hmarket)
      cases hnone.symm.trans h.buyer
  | sellerWallet hsell hmarket hnone =>
      obtain rfl := Option.some.inj (h.sell.symm.trans hsell)
      obtain rfl := Option.some.inj (h.market.symm.trans hmarket)
      cases hnone.symm.trans h.seller
  | netAmount found amounts own hnone =>
      obtain rfl := h.found.unique found
      obtain ⟨rfl, rfl⟩ := h.amounts.unique amounts
      obtain ⟨net, balance, hnet, -, -⟩ := h.own own
      cases hnone.symm.trans hnet
  | ownBalance found amounts own sum hrefuses =>
      obtain rfl := h.found.unique found
      obtain ⟨rfl, rfl⟩ := h.amounts.unique amounts
      obtain ⟨net, balance, hnet, hbalance⟩ := h.own own
      obtain rfl := Option.some.inj (hnet.symm.trans sum)
      exact Wallet.not_refuses ⟨balance, hbalance⟩ hrefuses
  | buyerBalance found amounts apart hrefuses =>
      obtain rfl := h.found.unique found
      obtain ⟨rfl, rfl⟩ := h.amounts.unique amounts
      exact Wallet.not_refuses (h.apart apart).1 hrefuses
  | sellerBalance found amounts apart hrefuses =>
      obtain rfl := h.found.unique found
      obtain ⟨rfl, rfl⟩ := h.amounts.unique amounts
      exact Wallet.not_refuses (h.apart apart).2 hrefuses

theorem Settled.accepted {ids : IdSupply} {now : Instant} {t' : Tables} {s : Settlement}
    (hcheck : e.check = .ok ()) (h : e.Settled ids now t s t') :
    ∃ p total paid received, e.Accepted t p total paid received := by
  obtain ⟨hprice, hquantity, hfee⟩ := check_ok hcheck
  obtain ⟨⟨p, hfound, hmoved⟩, -, -⟩ := h
  obtain ⟨hmarkets, hsides⟩ := checkOrders_ok_iff.mp hfound.orders
  generalize s.buyerWallet = b, s.sellerWallet = v at hmoved
  cases hmoved with
  | within same deltas sum applied =>
      obtain ⟨total, paid, htotal, hpaid, rfl, hreceived⟩ := deltas?_eq_some deltas
      exact ⟨p, total, paid, _, hprice, hquantity, hfee, ⟨htotal, hpaid, hreceived⟩, hfound.buy, hfound.sell, hmarkets,
        hsides, hfound.market, hfound.buyer, hfound.seller, fun _ => ⟨_, _, sum, Wallet.apply_ok applied⟩,
        fun apart => absurd same apart⟩
  | between apart deltas buyer seller =>
      obtain ⟨total, paid, htotal, hpaid, rfl, hreceived⟩ := deltas?_eq_some deltas
      exact ⟨p, total, paid, _, hprice, hquantity, hfee, ⟨htotal, hpaid, hreceived⟩, hfound.buy, hfound.sell, hmarkets,
        hsides, hfound.market, hfound.buyer, hfound.seller, fun own => absurd own apart,
        fun _ => ⟨⟨_, Wallet.apply_ok buyer⟩, _, Wallet.apply_ok seller⟩⟩

end Execution

/-! ## What a trade does not look at -/

/-- What a settlement looks at of an order. -/
structure Placement where
  id : Uuid
  userId : Uuid
  marketId : Uuid
  side : OrderSide

/-- Who has placed an order, where, and on which side. -/
def Order.placement (o : Order) : Placement := ⟨o.id, o.userId, o.marketId, o.side⟩

/-- What a settlement looks at of a wallet: all but the locked balance. -/
def Wallet.unlocked (v : Wallet) : Wallet := { v with lockedBalance := .zero }

theorem Order.of_placement {o o' : Order} (h : o'.placement = o.placement) :
    o'.id = o.id ∧ o'.userId = o.userId ∧ o'.marketId = o.marketId ∧ o'.side = o.side := by
  simpa only [placement, Placement.mk.injEq] using h

theorem Wallet.of_unlocked {v v' : Wallet} (h : v'.unlocked = v.unlocked) :
    v'.id = v.id ∧ v'.userId = v.userId ∧ v'.currency = v.currency ∧ v'.balance = v.balance := by
  simp only [unlocked, Wallet.mk.injEq] at h
  exact ⟨h.1, h.2.1, h.2.2.1, h.2.2.2.1⟩

theorem Wallet.Refuses.unlocked {v v' : Wallet} {delta : Decimal} {err : SettlementError}
    (hv : v'.unlocked = v.unlocked) (h : v.Refuses delta err) : v'.Refuses delta err := by
  obtain ⟨hid, -, -, hbalance⟩ := of_unlocked hv
  cases h with
  | overflow h =>
      rw [← hid]
      exact .overflow (hbalance ▸ h)
  | deficit h negative =>
      rw [← hid, ← hbalance]
      exact .deficit (hbalance ▸ h) negative

theorem Wallet.apply_unlocked {v v' : Wallet} {delta balance balance' : Decimal} (hv : v'.unlocked = v.unlocked)
    (h : v.apply delta = .ok balance) (h' : v'.apply delta = .ok balance') :
    ({ v' with balance := balance' } : Wallet).unlocked = ({ v with balance := balance } : Wallet).unlocked := by
  have hsum := (apply_ok h).1
  rw [← (of_unlocked hv).2.2.2] at hsum
  obtain rfl := Option.some.inj (hsum.symm.trans (apply_ok h').1)
  exact congrArg (fun x : Wallet => { x with balance := balance }) hv

theorem Option.of_map_eq_some {α β : Type} {f : α → β} {x y : Option α} {a : α} (h : y.map f = x.map f)
    (hx : x = some a) : ∃ b, y = some b ∧ f b = f a := by
  rw [hx] at h
  exact Option.map_eq_some_iff.mp h

theorem Option.map_eq_of_rel {α β : Type} {f : α → β} {x y : Option α} (h : Option.Rel (fun a b => f b = f a) x y) :
    y.map f = x.map f := by
  cases h with
  | some h => exact congrArg some h
  | none => rfl

theorem Option.of_map_eq_none {α β : Type} {f : α → β} {x y : Option α} (h : y.map f = x.map f) (hx : x = none) :
    y = none := by
  rw [hx] at h
  exact Option.map_eq_none_iff.mp h

theorem Tables.map_placement {t t' : Tables}
    (h : t'.orders.rows.map Order.placement = t.orders.rows.map Order.placement) (id : Uuid) :
    (t'.order? id).map Order.placement = (t.order? id).map Order.placement := by
  have hkey : Table.SameKey fun o o' : Order => o'.placement = o.placement := by
    intro o o' ho
    show (o'.id.value : Int) = o.id.value
    rw [(Order.of_placement ho).1]
  exact Option.map_eq_of_rel ((Table.rowByRow_of_map_eq h).get? hkey id.value)

/-- Parties that a settlement does not tell apart. -/
structure Parties.Alike (p q : Parties) : Prop where
  buy : q.buy.placement = p.buy.placement
  sell : q.sell.placement = p.sell.placement
  market : q.market = p.market
  buyer : q.buyer.unlocked = p.buyer.unlocked
  seller : q.seller.unlocked = p.seller.unlocked

theorem Parties.Alike.own_iff {p q : Parties} (h : p.Alike q) :
    q.buyer.id = q.seller.id ↔ p.buyer.id = p.seller.id := by
  rw [(Wallet.of_unlocked h.buyer).1, (Wallet.of_unlocked h.seller).1]

namespace Execution

variable {e : Execution} {t t' : Tables} {p q : Parties} {c : Hurdle} {err : SettlementError}

/-- What a trade looks at is the same in both tables. -/
structure Alike (e : Execution) (t t' : Tables) : Prop where
  buy : (t'.order? e.buyOrderId).map Order.placement = (t.order? e.buyOrderId).map Order.placement
  sell : (t'.order? e.sellOrderId).map Order.placement = (t.order? e.sellOrderId).map Order.placement
  market : t'.market? e.marketId = t.market? e.marketId
  wallet : ∀ o m, t.order? e.buyOrderId = some o ∨ t.order? e.sellOrderId = some o → t.market? e.marketId = some m →
    (t'.walletOf? o.userId m.quoteCurrency).map Wallet.unlocked
      = (t.walletOf? o.userId m.quoteCurrency).map Wallet.unlocked

namespace Alike

theorem symm (h : e.Alike t t') : e.Alike t' t := by
  refine ⟨h.buy.symm, h.sell.symm, h.market.symm, fun o m ho hm => ?_⟩
  have hplaced : ∃ x, (t.order? e.buyOrderId = some x ∨ t.order? e.sellOrderId = some x) ∧
      x.placement = o.placement := by
    rcases ho with ho | ho
    · obtain ⟨x, hx, heq⟩ := Option.of_map_eq_some h.buy.symm ho
      exact ⟨x, .inl hx, heq⟩
    · obtain ⟨x, hx, heq⟩ := Option.of_map_eq_some h.sell.symm ho
      exact ⟨x, .inr hx, heq⟩
  obtain ⟨x, hx, heq⟩ := hplaced
  rw [← (Order.of_placement heq).2.1]
  exact (h.wallet x m hx (h.market ▸ hm)).symm

/-- An order of the trade is there in the other table as well, with a wallet of its owner that is as large. -/
theorem placed (h : e.Alike t t') {id : Uuid} (hid : id = e.buyOrderId ∨ id = e.sellOrderId) {o : Order} {m : Market}
    (ho : t.order? id = some o) (hmarket : t.market? e.marketId = some m) :
    ∃ o', t'.order? id = some o' ∧ o'.placement = o.placement ∧
      (t'.walletOf? o'.userId m.quoteCurrency).map Wallet.unlocked
        = (t.walletOf? o.userId m.quoteCurrency).map Wallet.unlocked := by
  have hsame : (t'.order? id).map Order.placement = (t.order? id).map Order.placement := by
    rcases hid with rfl | rfl
    · exact h.buy
    · exact h.sell
  have hnamed : t.order? e.buyOrderId = some o ∨ t.order? e.sellOrderId = some o := by
    rcases hid with rfl | rfl
    · exact .inl ho
    · exact .inr ho
  obtain ⟨o', ho', heq⟩ := Option.of_map_eq_some hsame ho
  refine ⟨o', ho', heq, ?_⟩
  rw [(Order.of_placement heq).2.1]
  exact h.wallet o m hnamed hmarket

theorem found (h : e.Alike t t') (hp : e.Found t p) : ∃ q, e.Found t' q ∧ p.Alike q := by
  obtain ⟨buy, hbuy, hbuyEq, hbuyerOf⟩ := h.placed (.inl rfl) hp.buy hp.market
  obtain ⟨sell, hsell, hsellEq, hsellerOf⟩ := h.placed (.inr rfl) hp.sell hp.market
  obtain ⟨buyer, hbuyer, hbuyerEq⟩ := Option.of_map_eq_some hbuyerOf hp.buyer
  obtain ⟨seller, hseller, hsellerEq⟩ := Option.of_map_eq_some hsellerOf hp.seller
  have horders : e.checkOrders buy sell = .ok () := by
    obtain ⟨-, -, hbuyMarket, hbuySide⟩ := Order.of_placement hbuyEq
    obtain ⟨-, -, hsellMarket, hsellSide⟩ := Order.of_placement hsellEq
    rw [checkOrders_ok_iff, hbuyMarket, hbuySide, hsellMarket, hsellSide]
    exact checkOrders_ok_iff.mp hp.orders
  exact ⟨⟨buy, sell, p.market, buyer, seller⟩, ⟨hbuy, hsell, horders, h.market.trans hp.market, hbuyer, hseller⟩,
    hbuyEq, hsellEq, rfl, hbuyerEq, hsellerEq⟩

end Alike

/-- Where a trade looks at the same, it fails at the same hurdles with the same errors. -/
theorem Fails.alike (hsame : e.Alike t t') (h : e.Fails t c err) : e.Fails t' c err := by
  cases h with
  | price h => exact .price h
  | quantity h => exact .quantity h
  | fee h => exact .fee h
  | amounts h => exact .amounts h
  | buyOrder h => exact .buyOrder (Option.of_map_eq_none hsame.buy h)
  | sellOrder h => exact .sellOrder (Option.of_map_eq_none hsame.sell h)
  | markets hbuy hsell h =>
      obtain ⟨buy, hbuy, hb⟩ := Option.of_map_eq_some hsame.buy hbuy
      obtain ⟨sell, hsell, hs⟩ := Option.of_map_eq_some hsame.sell hsell
      rw [← (Order.of_placement hb).2.2.1, ← (Order.of_placement hs).2.2.1] at h ⊢
      exact .markets hbuy hsell h
  | buySide hbuy h =>
      obtain ⟨buy, hbuy, hb⟩ := Option.of_map_eq_some hsame.buy hbuy
      rw [← (Order.of_placement hb).2.2.2] at h ⊢
      rw [← (Order.of_placement hb).1]
      exact .buySide hbuy h
  | sellSide hsell h =>
      obtain ⟨sell, hsell, hs⟩ := Option.of_map_eq_some hsame.sell hsell
      rw [← (Order.of_placement hs).2.2.2] at h ⊢
      rw [← (Order.of_placement hs).1]
      exact .sellSide hsell h
  | market h => exact .market (hsame.market.trans h)
  | buyerWallet hbuy hmarket h =>
      obtain ⟨buy, hbuy', hb, hwallet⟩ := hsame.placed (.inl rfl) hbuy hmarket
      rw [← (Order.of_placement hb).2.1]
      exact .buyerWallet hbuy' (hsame.market.trans hmarket) (Option.of_map_eq_none hwallet h)
  | sellerWallet hsell hmarket h =>
      obtain ⟨sell, hsell', hs, hwallet⟩ := hsame.placed (.inr rfl) hsell hmarket
      rw [← (Order.of_placement hs).2.1]
      exact .sellerWallet hsell' (hsame.market.trans hmarket) (Option.of_map_eq_none hwallet h)
  | netAmount found amounts own h =>
      obtain ⟨q, hq, hpq⟩ := hsame.found found
      rw [← (Wallet.of_unlocked hpq.buyer).1]
      exact .netAmount hq amounts (hpq.own_iff.mpr own) h
  | ownBalance found amounts own sum h =>
      obtain ⟨q, hq, hpq⟩ := hsame.found found
      exact .ownBalance hq amounts (hpq.own_iff.mpr own) sum (h.unlocked hpq.buyer)
  | buyerBalance found amounts apart h =>
      obtain ⟨q, hq, hpq⟩ := hsame.found found
      exact .buyerBalance hq amounts (hpq.own_iff.not.mpr apart) (h.unlocked hpq.buyer)
  | sellerBalance found amounts apart h =>
      obtain ⟨q, hq, hpq⟩ := hsame.found found
      exact .sellerBalance hq amounts (hpq.own_iff.not.mpr apart) (h.unlocked hpq.seller)

theorem Moved.alike {b v b' v' : Wallet} (hpq : p.Alike q) (h : e.Moved p b v) (h' : e.Moved q b' v') :
    b'.unlocked = b.unlocked ∧ v'.unlocked = v.unlocked := by
  cases h with
  | within same deltas sum applied =>
      cases h' with
      | between apart => exact absurd (hpq.own_iff.mpr same) apart
      | within same' deltas' sum' applied' =>
          cases deltas.symm.trans deltas'
          cases sum.symm.trans sum'
          have happlied := Wallet.apply_unlocked hpq.buyer applied applied'
          exact ⟨happlied, happlied⟩
  | between apart deltas buyer seller =>
      cases h' with
      | within same => exact absurd (hpq.own_iff.mp same) apart
      | between apart' deltas' buyer' seller' =>
          cases deltas.symm.trans deltas'
          exact ⟨Wallet.apply_unlocked hpq.buyer buyer buyer', Wallet.apply_unlocked hpq.seller seller seller'⟩

theorem alike_of_rows (horders : t'.orders.rows.map Order.placement = t.orders.rows.map Order.placement)
    (hwallets : t'.wallets.rows.map Wallet.unlocked = t.wallets.rows.map Wallet.unlocked)
    (hmarkets : t'.markets = t.markets) : e.Alike t t' := by
  refine ⟨Tables.map_placement horders _, Tables.map_placement horders _, ?_, fun o m _ _ => ?_⟩
  · rw [Tables.market?, Tables.market?, hmarkets]
  · apply Option.map_eq_of_rel
    refine (Table.rowByRow_of_map_eq hwallets).find? fun v v' hv => ?_
    rw [(Wallet.of_unlocked hv).2.1, (Wallet.of_unlocked hv).2.2.1]

end Execution

variable {κ : Type} [Courier κ]

namespace Service

theorem explains_settle (s : Service) (e : Execution) {w : World MemoryStore κ} (hfaults : w.store.faults = []) :
    Explains (e.Fails w.store.committed) Execution.Hurdle.all (s.perform (.settleTrade e) w).1 := by
  exact Operation.explains_perform hfaults Execution.explains_check fun _ =>
    Execution.work_screened (w := w.opened) hfaults

theorem settles_alike (s : Service) {e : Execution} {w w' : World MemoryStore κ} (hfaults : w.store.faults = [])
    (hfaults' : w'.store.faults = []) (hsame : e.Alike w.store.committed w'.store.committed) :
    (∀ err, (s.perform (.settleTrade e) w').1 = .error err ↔ (s.perform (.settleTrade e) w).1 = .error err) ∧
    ∀ r r', (s.perform (.settleTrade e) w).1 = .ok r → (s.perform (.settleTrade e) w').1 = .ok r' →
      r'.trade = { r.trade with id := r'.trade.id, createdAt := r'.trade.createdAt } ∧
      r'.buyerWallet.unlocked = r.buyerWallet.unlocked ∧ r'.sellerWallet.unlocked = r.sellerWallet.unlocked := by
  constructor
  · intro err
    have hfails : ∀ c x, e.Fails w'.store.committed c x ↔ e.Fails w.store.committed c x :=
      fun c x => ⟨.alike hsame.symm, .alike hsame⟩
    rw [(s.explains_settle e hfaults').error_iff fun _ _ _ => Execution.Fails.unique,
      (s.explains_settle e hfaults).error_iff fun _ _ _ => Execution.Fails.unique]
    exact ⟨.congr hfails, .congr fun c x => (hfails c x).symm⟩
  · intro r r' hr hr'
    obtain ⟨⟨p, hp, hmoved⟩, htrade, -⟩ := Command.effect_of_perform (Prod.ext hr rfl)
    obtain ⟨⟨q, hq, hmoved'⟩, htrade', -⟩ := Command.effect_of_perform (Prod.ext hr' rfl)
    obtain ⟨q', hq', hpq⟩ := hsame.found hp
    obtain rfl := hq.unique hq'
    refine ⟨?_, hmoved.alike hpq hmoved'⟩
    rw [htrade, htrade']
    rfl

/-- While no failures are queued, a trade is settled if and only if it is accepted, and is refused with the error of
the first hurdle at which it fails. The trade that is written carries the amounts that were given. Nothing depends on
the price, the amounts, the status and the times of the orders, and nothing on a locked balance. -/
theorem settles_iff (s : Service) (e : Execution) {w : World MemoryStore κ} (hfaults : w.store.faults = []) :
    ((∃ r, (s.perform (.settleTrade e) w).1 = .ok r) ↔
      ∃ p total paid received, e.Accepted w.store.committed p total paid received) ∧
    (∀ err, (s.perform (.settleTrade e) w).1 = .error err ↔
      FirstFailure (e.Fails w.store.committed) Execution.Hurdle.all err) ∧
    (∀ r w', s.perform (.settleTrade e) w = (.ok r, w') →
      r.trade.price = e.price ∧ r.trade.amount = e.quantity ∧ r.trade.fee = e.fee ∧
      w'.store.committed.trades = w.store.committed.trades ++ [r.trade]) ∧
    ∀ w' : World MemoryStore κ, w'.store.faults = [] →
      w'.store.committed.orders.rows.map Order.placement = w.store.committed.orders.rows.map Order.placement →
      w'.store.committed.wallets.rows.map Wallet.unlocked = w.store.committed.wallets.rows.map Wallet.unlocked →
      w'.store.committed.markets = w.store.committed.markets →
      (∀ err, (s.perform (.settleTrade e) w').1 = .error err ↔ (s.perform (.settleTrade e) w).1 = .error err) ∧
      ∀ r r', (s.perform (.settleTrade e) w).1 = .ok r → (s.perform (.settleTrade e) w').1 = .ok r' →
        r'.trade = { r.trade with id := r'.trade.id, createdAt := r'.trade.createdAt } ∧
        r'.buyerWallet.unlocked = r.buyerWallet.unlocked ∧ r'.sellerWallet.unlocked = r.sellerWallet.unlocked := by
  have hexplains := s.explains_settle e hfaults
  refine ⟨⟨?_, ?_⟩, fun err => hexplains.error_iff fun _ _ _ => Execution.Fails.unique, ?_, ?_⟩
  · rintro ⟨r, hr⟩
    have hperform : s.perform (.settleTrade e) w = (.ok r, (s.perform (.settleTrade e) w).2) := Prod.ext hr rfl
    exact Execution.Settled.accepted (Operation.perform_ok hperform).1 (Command.effect_of_perform hperform)
  · rintro ⟨p, total, paid, received, haccepted⟩
    exact hexplains.ok_iff.mpr haccepted.noFailure
  · intro r w' hperform
    obtain ⟨-, htrade, hrows⟩ := Command.effect_of_perform hperform
    rw [hrows, htrade]
    exact ⟨rfl, rfl, rfl, rfl⟩
  · intro w' hfaults' horders hwallets hmarkets
    exact s.settles_alike hfaults hfaults' (Execution.alike_of_rows horders hwallets hmarkets)

end Service

/-- A trade of the crossed world that buys two by order 4, which its owner can pay at a price of 50 at most. -/
def offeredTrade (sell : Nat) (price : Decimal) : Execution where
  buyOrderId := IdSupply.numbered 4
  sellOrderId := IdSupply.numbered sell
  marketId := IdSupply.numbered 3
  price := price
  quantity := .ofCoeff 2 0
  fee := .zero

theorem Service.offered_trades_end :
    (∃ p total paid received,
      (offeredTrade 5 (.ofCoeff 50 0)).Accepted crossedWorld.store.committed p total paid received) ∧
    (∃ p total paid received,
      (offeredTrade 7 (.ofCoeff 50 0)).Accepted crossedWorld.store.committed p total paid received) ∧
    FirstFailure ((offeredTrade 5 (.ofCoeff 51 0)).Fails crossedWorld.store.committed) Execution.Hurdle.all
      (.insufficientBalance (IdSupply.numbered 1) (.ofCoeff 100 0) (.ofCoeff 102 0)) ∧
    FirstFailure ((offeredTrade 6 (.ofCoeff 51 0)).Fails crossedWorld.store.committed) Execution.Hurdle.all
      (.sideMismatch (.order .sell (IdSupply.numbered 6) .buy)) := by
  refine ⟨?_, ?_, ?_, ?_⟩
  · exact (settles_iff {} (offeredTrade 5 (.ofCoeff 50 0)) rfl).1.mp ⟨_, rfl⟩
  · exact (settles_iff {} (offeredTrade 7 (.ofCoeff 50 0)) rfl).1.mp ⟨_, rfl⟩
  · exact ((settles_iff {} (offeredTrade 5 (.ofCoeff 51 0)) rfl).2.1 _).mp rfl
  · exact ((settles_iff {} (offeredTrade 6 (.ofCoeff 51 0)) rfl).2.1 _).mp rfl

end Clearing
