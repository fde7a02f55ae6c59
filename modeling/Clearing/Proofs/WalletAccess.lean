import Clearing.Proofs.ExactSettlement
import Clearing.Proofs.Requests

/-!
# How a settlement uses wallets

A settlement looks the wallets of buyer and seller up before it locks or writes anything. What it writes to a wallet
follows from the row that the lock has given: its balance with the wallet's share of the trade added, and its locked
balance as it is.
-/

namespace Clearing

/-! ## Wallets in a trace -/

namespace Exchange

/-- The row that an exchange has given for a lock of this wallet. -/
def lockedRow (id : Uuid) : Exchange → List Wallet
  | ⟨.ask (.lockWallet asked), .ok wallet⟩ => if asked = id then [wallet] else []
  | _ => []

end Exchange

/-- The rows that a trace has been given for locks of this wallet, in order. -/
def lockedRows (id : Uuid) (t : List Exchange) : List Wallet := t.flatMap (Exchange.lockedRow id)

section Lists

variable {t : List Exchange} {id : Uuid}

theorem lockedRows_concat (x : Exchange) : lockedRows id (t ++ [x]) = lockedRows id t ++ x.lockedRow id := by
  rw [lockedRows, List.flatMap_append, List.flatMap_singleton]
  rfl

/-- The only row that has been given for a lock of this wallet, if every lock has given the wallet asked for. -/
def LockedRow (t : List Exchange) (id : Uuid) (row : Wallet) : Prop :=
  (∀ x ∈ t, x.isTruthful) → row.id = id ∧ lockedRows id t = [row]

theorem LockedRow.lock {row : Wallet} (h : lockedRows id t = []) :
    LockedRow (t ++ [⟨.ask (.lockWallet id), .ok row⟩]) id row := by
  intro htruthful
  have hid : row.id = id :=
    of_decide_eq_true (htruthful _ (List.mem_append_right _ (List.mem_singleton_self _)))
  refine ⟨hid, ?_⟩
  rw [lockedRows_concat, h, Exchange.lockedRow, if_pos rfl, List.nil_append]

theorem LockedRow.concat {row : Wallet} (h : LockedRow t id row) {x : Exchange} (hx : x.lockedRow id = []) :
    LockedRow (t ++ [x]) id row := by
  intro htruthful
  rw [lockedRows_concat, hx, List.append_nil]
  exact h fun y hy => htruthful y (List.mem_append_left _ hy)

theorem LockedRow.lock_lock {low high : Uuid} (hne : low ≠ high) (ht : ∀ id, lockedRows id t = [])
    (first second : Wallet) :
    LockedRow (t ++ [⟨.ask (.lockWallet low), .ok first⟩] ++ [⟨.ask (.lockWallet high), .ok second⟩]) low first ∧
      LockedRow (t ++ [⟨.ask (.lockWallet low), .ok first⟩] ++ [⟨.ask (.lockWallet high), .ok second⟩]) high
        second := by
  refine ⟨(LockedRow.lock (ht low)).concat (if_neg hne.symm), .lock ?_⟩
  rw [lockedRows_concat, ht high, List.nil_append]
  exact if_neg hne

/-- The locked row that has the identifier of the buyer is the buyer's, if every lock has given the wallet
asked for. -/
theorem LockedRow.choose {low high buyerId sellerId : Uuid} {first second : Wallet} (hne : buyerId ≠ sellerId)
    (hids : low = buyerId ∧ high = sellerId ∨ low = sellerId ∧ high = buyerId) (hfirst : LockedRow t low first)
    (hsecond : LockedRow t high second) :
    LockedRow t buyerId (if first.id = buyerId then (first, second) else (second, first)).1 ∧
      LockedRow t sellerId (if first.id = buyerId then (first, second) else (second, first)).2 := by
  rcases hids with ⟨rfl, rfl⟩ | ⟨rfl, rfl⟩
  · split
    · exact ⟨hfirst, hsecond⟩
    · next hid => exact ⟨fun h => absurd (hfirst h).1 hid, fun h => absurd (hfirst h).1 hid⟩
  · split
    · next hid =>
        refine ⟨fun h => ?_, fun h => ?_⟩ <;> exact absurd (hid.symm.trans (hfirst h).1) hne
    · exact ⟨hsecond, hfirst⟩

end Lists

namespace Execution

/-- What a trade adds to the balance of a wallet, be it the buyer's, the seller's or that of both. -/
def change? (e : Execution) (buyerId sellerId id : Uuid) : Option Decimal := do
  let (paid, received) ← e.deltas?
  if buyerId = sellerId then paid.add? received
  else some (if id = buyerId then paid else received)

/-- The exchanges with which a settlement looks wallets up: those for the orders and the market, and for the user of
each order one for the wallet in the currency of prices. -/
def opening (e : Execution) (buy sell : Order) (market : Market) (buyer seller : Wallet) : List Exchange :=
  [⟨.ask (.getOrder e.buyOrderId), .ok buy⟩, ⟨.ask (.getOrder e.sellOrderId), .ok sell⟩,
   ⟨.ask (.getMarket e.marketId), .ok market⟩, ⟨.ask (.findWallet buy.userId market.quoteCurrency), .ok buyer⟩,
   ⟨.ask (.findWallet sell.userId market.quoteCurrency), .ok seller⟩]

/-- These wallets have been looked up for buyer and seller. -/
def LooksUp (e : Execution) (t : List Exchange) (buyer seller : Wallet) : Prop :=
  ∃ buy sell market, e.opening buy sell market buyer seller <+: t

/-- What is written to a wallet is what its locked row and its share of the trade make. -/
def Writes (e : Execution) (t : List Exchange) (id : Uuid) (balance lockedBalance : Decimal) : Prop :=
  ∃ buyer seller row change, e.LooksUp t buyer seller ∧ (id = buyer.id ∨ id = seller.id) ∧
    lockedRows id t = [row] ∧ e.change? buyer.id seller.id id = some change ∧
    row.balance.add? change = some balance ∧ lockedBalance = row.lockedBalance

/-- What a settlement may request after these exchanges. -/
def Allows (e : Execution) (t : List Exchange) : Request → Prop
  | .ask (.findWallet ..) => Untouched t
  | .ask (.updateWallet id balance lockedBalance) =>
    (∀ x ∈ t, x.isTruthful) → e.Writes t id balance lockedBalance
  | _ => True

/-! ## Every settlement obeys the rule -/

variable {e : Execution} {t : List Exchange} {id : Uuid} {balance lockedBalance paid received : Decimal}
  {buyer seller : Wallet}

theorem LooksUp.concat (h : e.LooksUp t buyer seller) (x : Exchange) : e.LooksUp (t ++ [x]) buyer seller := by
  obtain ⟨buy, sell, market, hprefix⟩ := h
  exact ⟨buy, sell, market, hprefix.trans (List.prefix_append ..)⟩

/-- What comes between a lock and the write that rests on it does not lock the wallet. -/
theorem Allows.write_concat (h : e.Allows t (.ask (.updateWallet id balance lockedBalance))) {x : Exchange}
    (hlocked : x.lockedRow id = []) : e.Allows (t ++ [x]) (.ask (.updateWallet id balance lockedBalance)) := by
  intro htruthful
  obtain ⟨buyer, seller, row, change, hlooksUp, hid, hrows, hmade⟩ :=
    h fun y hy => htruthful y (List.mem_append_left _ hy)
  refine ⟨buyer, seller, row, change, hlooksUp.concat x, hid, ?_, hmade⟩
  rw [lockedRows_concat, hlocked, List.append_nil, hrows]

/-- A balance that a locked row and its share of the trade make may be written. -/
theorem Allows.of_lockedRow {row : Wallet} {change : Decimal} (hrow : LockedRow t id row)
    (hlooksUp : e.LooksUp t buyer seller) (hid : id = buyer.id ∨ id = seller.id)
    (hchange : e.change? buyer.id seller.id id = some change) (hbalance : row.apply change = .ok balance) :
    e.Allows t (.ask (.updateWallet row.id balance row.lockedBalance)) := by
  intro htruthful
  obtain ⟨hrowId, hrows⟩ := hrow htruthful
  rw [hrowId]
  exact ⟨buyer, seller, row, change, hlooksUp, hid, hrows, hchange, (Wallet.apply_ok hbalance).1, rfl⟩

theorem change?_within (hdeltas : e.deltas? = some (paid, received)) (hsame : buyer.id = seller.id) :
    e.change? buyer.id seller.id id = paid.add? received := by
  rw [change?, hdeltas]
  exact if_pos hsame

theorem change?_buyer (hdeltas : e.deltas? = some (paid, received)) (hne : buyer.id ≠ seller.id) :
    e.change? buyer.id seller.id buyer.id = some paid := by
  simp only [change?, hdeltas, Option.bind_eq_bind, Option.bind_some, if_neg hne, if_pos]

theorem change?_seller (hdeltas : e.deltas? = some (paid, received)) (hne : buyer.id ≠ seller.id) :
    e.change? buyer.id seller.id seller.id = some received := by
  simp only [change?, hdeltas, Option.bind_eq_bind, Option.bind_some, if_neg hne, if_neg hne.symm]

theorem settleWithin_accesses (hdeltas : e.deltas? = some (paid, received)) (ht : e.LooksUp t buyer seller)
    (hsame : buyer.id = seller.id) (hunlocked : lockedRows buyer.id t = []) :
    (e.settleWithin buyer.id paid received).Obeys e.Allows anyEnd t := by
  refine .bind (.query trivial fun row => ?_)
  refine .bind (.ofOption fun net hnet => ?_)
  refine .bind (.ofExcept fun balance hbalance => ?_)
  refine .bind (.query trivial fun trade => ?_)
  have hallows := Allows.of_lockedRow (.lock hunlocked) (ht.concat _) (.inl rfl)
    ((change?_within hdeltas hsame).trans hnet) hbalance
  exact .bind (.query (hallows.write_concat rfl) fun updated => .pure trivial)

theorem exchange_accesses {buyerRow sellerRow : Wallet} (hdeltas : e.deltas? = some (paid, received))
    (ht : e.LooksUp t buyer seller) (hne : buyer.id ≠ seller.id) (hbuyer : LockedRow t buyer.id buyerRow)
    (hseller : LockedRow t seller.id sellerRow) :
    (e.exchange buyerRow sellerRow paid received).Obeys e.Allows anyEnd t := by
  refine .bind (.ofExcept fun buyerBalance hbuyerBalance => ?_)
  refine .bind (.ofExcept fun sellerBalance hsellerBalance => ?_)
  have hbuyerAllows := Allows.of_lockedRow hbuyer ht (.inl rfl) (change?_buyer hdeltas hne) hbuyerBalance
  have hsellerAllows := Allows.of_lockedRow hseller ht (.inr rfl) (change?_seller hdeltas hne) hsellerBalance
  refine .bind (.query trivial fun trade => ?_)
  refine .bind (.query (hbuyerAllows.write_concat rfl) fun buyerWallet => ?_)
  refine .bind (.query ((hsellerAllows.write_concat rfl).write_concat rfl) fun sellerWallet => ?_)
  exact .pure trivial

theorem settleBetween_accesses (hdeltas : e.deltas? = some (paid, received)) (ht : e.LooksUp t buyer seller)
    (hne : buyer.id ≠ seller.id) (hunlocked : ∀ id, lockedRows id t = []) :
    (e.settleBetween buyer.id seller.id paid received).Obeys e.Allows anyEnd t := by
  have hlocked : ∀ low high, (low = buyer.id ∧ high = seller.id ∨ low = seller.id ∧ high = buyer.id) →
      (do let first ← Work.query (.lockWallet low) "failed to lock wallet"
          let second ← Work.query (.lockWallet high) "failed to lock wallet"
          e.exchange (if first.id = buyer.id then (first, second) else (second, first)).1
            (if first.id = buyer.id then (first, second) else (second, first)).2 paid received).Obeys
        e.Allows anyEnd t := by
    intro low high hids
    have hdistinct : low ≠ high := by
      rcases hids with ⟨rfl, rfl⟩ | ⟨rfl, rfl⟩
      · exact hne
      · exact hne.symm
    refine .bind (.query trivial fun first => ?_)
    refine .bind (.query trivial fun second => ?_)
    obtain ⟨hfirst, hsecond⟩ := LockedRow.lock_lock hdistinct hunlocked first second
    obtain ⟨hbuyer, hseller⟩ := LockedRow.choose hne hids hfirst hsecond
    exact exchange_accesses hdeltas ((ht.concat _).concat _) hne hbuyer hseller
  rw [settleBetween]
  by_cases hlt : buyer.id < seller.id
  · rw [if_pos hlt]
    exact hlocked buyer.id seller.id (.inl ⟨rfl, rfl⟩)
  · rw [if_neg hlt]
    exact hlocked seller.id buyer.id (.inr ⟨rfl, rfl⟩)

theorem work_accesses (e : Execution) : e.work.Obeys e.Allows anyEnd [] := by
  refine .bind (.ofOption fun deltas hdeltas => ?_)
  refine .bind (.query trivial fun buy => ?_)
  refine .bind (.query trivial fun sell => ?_)
  refine .bind (.ofExcept fun _ _ => ?_)
  refine .bind (.query trivial fun market => ?_)
  have ht := ((Untouched.nil.read (q := .getOrder e.buyOrderId) rfl rfl buy).read (q := .getOrder e.sellOrderId)
    rfl rfl sell).read (q := .getMarket e.marketId) rfl rfl market
  refine .bind (.query ht fun buyer => ?_)
  refine .bind (.query (ht.read (q := .findWallet buy.userId market.quoteCurrency) rfl rfl buyer) fun seller => ?_)
  have hlooksUp : e.LooksUp (e.opening buy sell market buyer seller) buyer seller :=
    ⟨buy, sell, market, List.prefix_rfl⟩
  split
  · next hsame => exact settleWithin_accesses hdeltas hlooksUp hsame rfl
  · next hne => exact settleBetween_accesses hdeltas hlooksUp hne fun _ => rfl

end Execution

variable {σ κ : Type}

/-- Whatever store and courier answer, a settlement uses wallets as the rule allows. -/
theorem Execution.accesses_trace [Store σ] [Courier κ] (e : Execution) (w : World σ κ) :
    Follows (fun t x => e.Allows t x.request) (e.settle.trace w) :=
  Operation.follows_trace e.work_accesses w

end Clearing
