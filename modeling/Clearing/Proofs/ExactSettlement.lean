import Clearing.Proofs.Lemmas.Rounding
import Clearing.Proofs.Run

/-!
# When a settlement is exact

A settlement refuses amounts that are too large, and rounds amounts that have too many digits. It moves exactly
what the trade says if and only if every amount it computes on the way is representable.
-/

namespace Clearing

open Decimal

/-! ## The amounts of a trade -/

theorem Wallet.apply_ok {w : Wallet} {delta balance : Decimal} (h : w.apply delta = .ok balance) :
    w.balance.add? delta = some balance ∧ 0 ≤ balance.value := by
  rw [apply] at h
  split at h
  · cases h
  · next b hb =>
      split at h
      · cases h
      · next hneg =>
          cases h
          rw [lt_iff_value, value_zero, not_lt] at hneg
          exact ⟨hb, hneg⟩

namespace Execution

variable {e : Execution}

/-- Price times quantity. -/
def worth (e : Execution) : ℚ := e.price.value * e.quantity.value

/-- What the buyer pays. -/
def cost (e : Execution) : ℚ := e.worth + e.fee.value

/-- What the seller receives. -/
def proceeds (e : Execution) : ℚ := e.worth - e.fee.value

theorem check_ok (h : e.check = .ok ()) : 0 < e.price.value ∧ 0 < e.quantity.value ∧ 0 ≤ e.fee.value := by
  rw [check] at h
  split at h
  · cases h
  · next hprice =>
      split at h
      · cases h
      · next hquantity =>
          split at h
          · cases h
          · next hfee =>
              rw [le_iff_value, value_zero, not_le] at hprice hquantity
              rw [lt_iff_value, value_zero, not_lt] at hfee
              exact ⟨hprice, hquantity, hfee⟩

theorem deltas?_eq_some {paid received : Decimal} (h : e.deltas? = some (paid, received)) :
    ∃ total sum, e.price.mul? e.quantity = some total ∧ total.add? e.fee = some sum ∧ paid = -sum ∧
      total.sub? e.fee = some received := by
  simp only [deltas?, Option.bind_eq_bind, Option.bind_eq_some_iff, Option.some.injEq, Prod.mk.injEq] at h
  obtain ⟨total, htotal, sum, hsum, difference, hdifference, hpaid, rfl⟩ := h
  exact ⟨total, sum, htotal, hsum, hpaid.symm, hdifference⟩

/-- The amounts of a trade are representable, whoever takes part. -/
structure Representable (e : Execution) : Prop where
  worth : Decimal.Representable e.worth
  cost : Decimal.Representable e.cost
  proceeds : Decimal.Representable e.proceeds

variable (hfee : e.fee.scale ≤ maxScale) {paid received : Decimal} (hdeltas : e.deltas? = some (paid, received))
include hfee hdeltas

theorem scale_deltas : paid.scale ≤ maxScale ∧ received.scale ≤ maxScale := by
  obtain ⟨total, sum, htotal, hsum, rfl, hdifference⟩ := deltas?_eq_some hdeltas
  have hs := scale_mul?_le htotal
  exact ⟨(scale_neg sum).trans_le (scale_add?_le hs hfee hsum), scale_sub?_le hs hfee hdifference⟩

theorem value_deltas (h : e.Representable) : paid.value = -e.cost ∧ received.value = e.proceeds := by
  obtain ⟨total, sum, htotal, hsum, rfl, hdifference⟩ := deltas?_eq_some hdeltas
  have hs := scale_mul?_le htotal
  have hworth : total.value = e.worth := by
    obtain ⟨total', htotal', hv⟩ := mul?_of_representable h.worth
    rw [Option.some.inj (htotal.symm.trans htotal'), hv]
    rfl
  constructor
  · have hcost := h.cost
    rw [cost, ← hworth] at hcost
    obtain ⟨sum', hsum', hv⟩ := add?_of_representable hs hfee hcost
    rw [value_neg, Option.some.inj (hsum.symm.trans hsum'), hv, hworth]
    rfl
  · have hproceeds := h.proceeds
    rw [proceeds, ← hworth] at hproceeds
    obtain ⟨difference, hd, hv⟩ := sub?_of_representable hs hfee hproceeds
    rw [Option.some.inj (hdifference.symm.trans hd), hv, hworth]
    rfl

omit hfee hdeltas

/-! ## The balances after a trade -/

/-- The buyer has paid the cost and the seller has received the proceeds; in a wallet that they share only two
fees are missing. -/
def MovesExactly (e : Execution) (buyer seller buyer' seller' : Wallet) : Prop :=
  if buyer.id = seller.id then
    buyer'.balance.value = buyer.balance.value - 2 * e.fee.value ∧ seller' = buyer'
  else
    buyer'.balance.value = buyer.balance.value - e.cost ∧
      seller'.balance.value = seller.balance.value + e.proceeds

/-- What a trade changes the balances by and what they become is representable. -/
def BalancesRepresentable (e : Execution) (buyer seller : Wallet) : Prop :=
  if buyer.id = seller.id then
    Decimal.Representable (2 * e.fee.value) ∧ Decimal.Representable (buyer.balance.value - 2 * e.fee.value)
  else
    Decimal.Representable (buyer.balance.value - e.cost) ∧
      Decimal.Representable (seller.balance.value + e.proceeds)

theorem cost_sub_proceeds (e : Execution) : -e.cost + e.proceeds = -(2 * e.fee.value) := by
  rw [cost, proceeds]
  ring

/-- The balance of a wallet moves exactly if and only if its new balance is representable. -/
theorem apply_exact_iff {v : Wallet} {delta balance : Decimal} (hv : v.balance.scale ≤ maxScale)
    (hdelta : delta.scale ≤ maxScale) (h : v.balance.add? delta = some balance) :
    balance.value = v.balance.value + delta.value ↔
      Decimal.Representable (v.balance.value + delta.value) := by
  constructor
  · intro heq
    exact ⟨balance, scale_add?_le hv hdelta h, heq⟩
  · intro hrep
    obtain ⟨c, hc, hval⟩ := add?_of_representable hv hdelta hrep
    rw [Option.some.inj (h.symm.trans hc), hval]

section Wallets

variable {p : Parties} {b s : Wallet} (hfee : e.fee.scale ≤ maxScale) (hnonneg : 0 ≤ e.fee.value)
  (hbuyer : p.buyer.balance.scale ≤ maxScale) (hseller : p.seller.balance.scale ≤ maxScale)
include hfee hnonneg hbuyer hseller

theorem Moved.exact_iff (h : e.Moved p b s) (hworth : e.Representable) :
    e.MovesExactly p.buyer p.seller b s ↔ e.BalancesRepresentable p.buyer p.seller := by
  cases h with
  | @within paid received net balance same hdeltas hsum happlied =>
      obtain ⟨hpaid, hreceived⟩ := value_deltas hfee hdeltas hworth
      obtain ⟨hspaid, hsreceived⟩ := scale_deltas hfee hdeltas
      obtain ⟨hadd, hnonneg'⟩ := Wallet.apply_ok happlied
      have hnet : paid.value + received.value = -(2 * e.fee.value) := by
        rw [hpaid, hreceived, cost_sub_proceeds]
      have hsnet := scale_add?_le hspaid hsreceived hsum
      rw [MovesExactly, BalancesRepresentable, if_pos same, if_pos same, sub_eq_add_neg, ← hnet]
      constructor
      · rintro ⟨hexact, -⟩
        -- Both changes are added up before the balance moves, and their sum must not have been rounded either.
        have hnetval : net.value = paid.value + received.value := by
          have hexact' : balance.value = p.buyer.balance.value + (paid.value + received.value) := hexact
          refine add?_exact_of_covered hspaid hsreceived hbuyer hsum hadd ?_ ?_ hexact'
          · linarith
          · linarith
        have hrep := Decimal.Representable.intro hsnet
        refine ⟨?_, ⟨balance, scale_add?_le hbuyer hsnet hadd, hexact⟩⟩
        rw [hnetval, hnet] at hrep
        simpa only [neg_neg] using hrep.neg
      · rintro ⟨hdouble, hafter⟩
        have hrep := hdouble.neg
        rw [← hnet] at hrep
        obtain ⟨c, hc, hval⟩ := add?_of_representable hspaid hsreceived hrep
        obtain rfl : net = c := Option.some.inj (hsum.symm.trans hc)
        rw [← hval] at hafter ⊢
        exact ⟨(apply_exact_iff hbuyer hsnet hadd).mpr hafter, rfl⟩
  | @between paid received buyerBalance sellerBalance apart hdeltas hbought hsold =>
      obtain ⟨hpaid, hreceived⟩ := value_deltas hfee hdeltas hworth
      obtain ⟨hspaid, hsreceived⟩ := scale_deltas hfee hdeltas
      rw [MovesExactly, BalancesRepresentable, if_neg apart, if_neg apart, sub_eq_add_neg, ← hpaid, ← hreceived]
      exact and_congr (apply_exact_iff hbuyer hspaid (Wallet.apply_ok hbought).1)
        (apply_exact_iff hseller hsreceived (Wallet.apply_ok hsold).1)

end Wallets
end Execution

/-! ## Settling -/

/-- A settlement moves exactly what its trade says, at a value that is representable with cost and proceeds, if and only
if these are and the balances that it computes are as well. That the value is representable is what is asked of a trade
that may settle at all; where it is not, neither side holds. -/
theorem Service.settlement_exact_iff {κ : Type} [Courier κ] {s : Service} {e : Execution}
    {w w' : World MemoryStore κ} {r : Settlement}
    (hscale : ∀ v ∈ w.store.committed.wallets.rows, v.balance.scale ≤ maxScale) (hfee : e.fee.scale ≤ maxScale)
    (h : s.perform (.settleTrade e) w = (.ok r, w')) :
    ∃ buyer seller, w.store.committed.wallet? r.buyerWallet.id = some buyer ∧
      w.store.committed.wallet? r.sellerWallet.id = some seller ∧
      w'.store.committed.wallet? r.buyerWallet.id = some r.buyerWallet ∧
      w'.store.committed.wallet? r.sellerWallet.id = some r.sellerWallet ∧
      (e.Representable ∧ e.MovesExactly buyer seller r.buyerWallet r.sellerWallet ↔
        e.Representable ∧ e.BalancesRepresentable buyer seller) := by
  have heffect := Command.effect_of_perform h
  obtain ⟨-, hbought, hsold⟩ := Command.shows_of_effect heffect
  obtain ⟨-, -, hnonneg⟩ := Execution.check_ok (Operation.perform_ok h).1
  obtain ⟨⟨p, hfound, hmoved⟩, -, -⟩ := heffect
  obtain ⟨hbuyer, hseller⟩ := hmoved.ids
  refine ⟨p.buyer, p.seller, hbuyer ▸ hfound.wallet?_buyer, hseller ▸ hfound.wallet?_seller, hbought, hsold, ?_⟩
  refine and_congr_right fun hworth => hmoved.exact_iff hfee hnonneg ?_ ?_ hworth
  · exact hscale _ (Tables.walletOf?_eq_some hfound.buyer).1
  · exact hscale _ (Tables.walletOf?_eq_some hfound.seller).1

/-! ## A trade that is worth too little, and one that is not -/

/-- A buyer with 100 and a seller with 5 whose orders are on one market. -/
def dustWorld : World MemoryStore Mailbox :=
  emptyWorld.after [
    .seedWallet (.ofNat 1) "USDT" (.ofCoeff 100 0),
    .seedWallet (.ofNat 2) "USDT" (.ofCoeff 5 0),
    .seedMarket "BTC" "USDT",
    .seedOrder (.ofNat 1) (IdSupply.numbered 3) .buy .zero .zero,
    .seedOrder (.ofNat 2) (IdSupply.numbered 3) .sell .zero .zero]

/-- A tenth at the smallest price there is, free of charge. -/
def dustTrade : Execution where
  buyOrderId := IdSupply.numbered 4
  sellOrderId := IdSupply.numbered 5
  marketId := IdSupply.numbered 3
  price := .ofCoeff 1 28
  quantity := .ofCoeff 1 1
  fee := .zero

theorem dustTrade_cost : dustTrade.cost = 1 / 10 ^ 29 := by
  simp (disch := decide) only [Execution.cost, Execution.worth, dustTrade, value_ofCoeff, value_zero]
  norm_num

/-- Two at a price of five, for a fee of one. -/
def plainTrade : Execution := { dustTrade with price := .ofCoeff 5 0, quantity := .ofCoeff 2 0, fee := .ofCoeff 1 0 }

theorem plainTrade_representable : plainTrade.Representable := by
  have hworth : plainTrade.worth = (Decimal.ofCoeff 10 0).value := by
    simp (disch := decide) only [Execution.worth, plainTrade, value_ofCoeff]
    norm_num
  have hfee : plainTrade.fee.value = 1 := by
    simp (disch := decide) only [plainTrade, value_ofCoeff]
    norm_num
  refine ⟨?_, ?_, ?_⟩
  · exact ⟨.ofCoeff 10 0, by decide, hworth.symm⟩
  · refine ⟨.ofCoeff 11 0, by decide, ?_⟩
    rw [Execution.cost, hworth, hfee]
    simp (disch := decide) only [value_ofCoeff]
    norm_num
  · refine ⟨.ofCoeff 9 0, by decide, ?_⟩
    rw [Execution.proceeds, hworth, hfee]
    simp (disch := decide) only [value_ofCoeff]
    norm_num

/-- How the trades above settle: between which wallets, and with which balances afterwards. -/
theorem settles_of_result {e : Execution} {buyerBalance sellerBalance : Decimal}
    (hresult : ((Service.perform {} (.settleTrade e) dustWorld).1.toOption.map fun r =>
      (r.buyerWallet.id, r.sellerWallet.id, r.buyerWallet.balance, r.sellerWallet.balance))
        = some (IdSupply.numbered 1, IdSupply.numbered 2, buyerBalance, sellerBalance)) :
    ∃ r w', Service.perform {} (.settleTrade e) dustWorld = (.ok r, w') ∧
      r.buyerWallet.id = IdSupply.numbered 1 ∧ r.sellerWallet.id = IdSupply.numbered 2 ∧
      r.buyerWallet.balance = buyerBalance ∧ r.sellerWallet.balance = sellerBalance := by
  obtain ⟨r, hr, hparts⟩ := Option.map_eq_some_iff.mp hresult
  simp only [Prod.mk.injEq] at hparts
  cases h : Service.perform {} (.settleTrade e) dustWorld with
  | mk result w' =>
      rw [h] at hr
      cases result with
      | ok r' =>
          obtain rfl : r' = r := Option.some.inj hr
          exact ⟨r', w', rfl, hparts⟩
      | error e => cases hr

/-- The dust trade settles, and leaves both balances as they are. -/
theorem dustTrade_settles : ∃ r w', Service.perform {} (.settleTrade dustTrade) dustWorld = (.ok r, w') ∧
    r.buyerWallet.id = IdSupply.numbered 1 ∧ r.sellerWallet.id = IdSupply.numbered 2 ∧
    r.buyerWallet.balance = .ofCoeff 100 0 ∧ r.sellerWallet.balance = .ofCoeff 5 0 :=
  settles_of_result (by decide)

theorem plainTrade_settles : ∃ r w', Service.perform {} (.settleTrade plainTrade) dustWorld = (.ok r, w') ∧
    r.buyerWallet.id = IdSupply.numbered 1 ∧ r.sellerWallet.id = IdSupply.numbered 2 ∧
    r.buyerWallet.balance = .ofCoeff 89 0 ∧ r.sellerWallet.balance = .ofCoeff 14 0 :=
  settles_of_result (by decide)

theorem Service.dust_settlement_exact_iff :
    (∃ r w' buyer seller, Service.perform {} (.settleTrade dustTrade) dustWorld = (.ok r, w') ∧
      dustWorld.store.committed.wallet? r.buyerWallet.id = some buyer ∧
      dustWorld.store.committed.wallet? r.sellerWallet.id = some seller ∧
      (dustTrade.Representable ∧ dustTrade.MovesExactly buyer seller r.buyerWallet r.sellerWallet ↔
        dustTrade.Representable ∧ dustTrade.BalancesRepresentable buyer seller)) ∧
    ∃ r w' buyer seller, Service.perform {} (.settleTrade plainTrade) dustWorld = (.ok r, w') ∧
      dustWorld.store.committed.wallet? r.buyerWallet.id = some buyer ∧
      dustWorld.store.committed.wallet? r.sellerWallet.id = some seller ∧
      plainTrade.Representable ∧ plainTrade.MovesExactly buyer seller r.buyerWallet r.sellerWallet ∧
      plainTrade.BalancesRepresentable buyer seller := by
  have hscale : ∀ v ∈ dustWorld.store.committed.wallets.rows, v.balance.scale ≤ maxScale := by decide
  constructor
  · obtain ⟨r, w', h, -⟩ := dustTrade_settles
    obtain ⟨buyer, seller, hbuyer, hseller, -, -, hiff⟩ := settlement_exact_iff hscale (Nat.zero_le _) h
    exact ⟨r, w', buyer, seller, h, hbuyer, hseller, hiff⟩
  · obtain ⟨r, w', h, hbuyerId, hsellerId, hbuyerBalance, hsellerBalance⟩ := plainTrade_settles
    obtain ⟨buyer, seller, hbuyer, hseller, -, -, hiff⟩ := settlement_exact_iff hscale (by decide) h
    have hcost : plainTrade.cost = 11 := by
      simp (disch := decide) only [Execution.cost, Execution.worth, plainTrade, value_ofCoeff]
      norm_num
    have hproceeds : plainTrade.proceeds = 9 := by
      simp (disch := decide) only [Execution.proceeds, Execution.worth, plainTrade, value_ofCoeff]
      norm_num
    have hbefore : buyer.id ≠ seller.id ∧ buyer.balance = .ofCoeff 100 0 ∧ seller.balance = .ofCoeff 5 0 := by
      rw [hbuyerId] at hbuyer
      rw [hsellerId] at hseller
      cases hbuyer
      cases hseller
      decide
    obtain ⟨hne, hpaidFrom, hpaidTo⟩ := hbefore
    have hmoves : plainTrade.MovesExactly buyer seller r.buyerWallet r.sellerWallet := by
      rw [Execution.MovesExactly, if_neg hne, hpaidFrom, hpaidTo, hbuyerBalance, hsellerBalance, hcost, hproceeds]
      simp (disch := decide) only [value_ofCoeff]
      norm_num
    exact ⟨r, w', buyer, seller, h, hbuyer, hseller, plainTrade_representable, hmoves,
      (hiff.mp ⟨plainTrade_representable, hmoves⟩).2⟩

/-- Settlements do not always move what their trades say: the dust trade should take something from its buyer. -/
theorem Service.settles_rounded :
    ¬ ∀ (s : Service) (e : Execution) (w w' : World MemoryStore Mailbox) (r : Settlement) (buyer seller : Wallet),
      (∀ v ∈ w.store.committed.wallets.rows, 0 ≤ v.balance.value) →
      s.perform (.settleTrade e) w = (.ok r, w') →
      w.store.committed.wallet? r.buyerWallet.id = some buyer →
      w.store.committed.wallet? r.sellerWallet.id = some seller →
      e.MovesExactly buyer seller r.buyerWallet r.sellerWallet := by
  intro hclaim
  obtain ⟨r, w', h, hbuyer, hseller, hbalance, -⟩ := dustTrade_settles
  have hnonneg : ∀ v ∈ dustWorld.store.committed.wallets.rows, Decimal.zero ≤ v.balance := by decide
  have hexact := hclaim {} dustTrade dustWorld w' r _ _
    (fun v hv => by simpa only [le_iff_value, value_zero] using hnonneg v hv) h
    (by rw [hbuyer]; rfl) (by rw [hseller]; rfl)
  rw [Execution.MovesExactly, if_neg (by decide), hbalance, dustTrade_cost] at hexact
  have hcost : (Decimal.ofCoeff 100 0).value = (Decimal.ofCoeff 100 0).value - 1 / 10 ^ 29 := hexact.1
  linarith

end Clearing
