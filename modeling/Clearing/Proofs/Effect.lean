import Clearing.Service
import Clearing.Proofs.Lemmas.Table
import Clearing.Proofs.Lemmas.Transaction

/-!
# What commands do

For each command, everything that a successful one changes and reports, said of the rows before and after it.
The rows it reports are the rows it has written.
-/

namespace Clearing

variable {κ : Type} [Courier κ]

/-! ## Settling a trade -/

/-- The rows that take part in a trade. -/
structure Parties where
  buy : Order
  sell : Order
  market : Market
  buyer : Wallet
  seller : Wallet

namespace Execution

/-- Both orders stand where the trade says, and their owners hold wallets in the market's quote currency. -/
structure Found (e : Execution) (t : Tables) (p : Parties) : Prop where
  buy : t.order? e.buyOrderId = some p.buy
  sell : t.order? e.sellOrderId = some p.sell
  orders : e.checkOrders p.buy p.sell = .ok ()
  market : t.market? e.marketId = some p.market
  buyer : t.walletOf? p.buy.userId p.market.quoteCurrency = some p.buyer
  seller : t.walletOf? p.sell.userId p.market.quoteCurrency = some p.seller

/-- The wallets of buyer and seller after a trade. -/
inductive Moved (e : Execution) (p : Parties) : Wallet → Wallet → Prop where
  | within {paid received net balance : Decimal} (same : p.buyer.id = p.seller.id)
      (deltas : e.deltas? = some (paid, received)) (sum : paid.add? received = some net)
      (applied : p.buyer.apply net = .ok balance) :
      Moved e p { p.buyer with balance := balance } { p.buyer with balance := balance }
  | between {paid received buyerBalance sellerBalance : Decimal} (apart : p.buyer.id ≠ p.seller.id)
      (deltas : e.deltas? = some (paid, received)) (buyer : p.buyer.apply paid = .ok buyerBalance)
      (seller : p.seller.apply received = .ok sellerBalance) :
      Moved e p { p.buyer with balance := buyerBalance } { p.seller with balance := sellerBalance }

/-- What a settlement does. -/
structure Settled (e : Execution) (ids : IdSupply) (now : Instant) (before : Tables) (s : Settlement)
    (after : Tables) : Prop where
  moved : ∃ p, e.Found before p ∧ e.Moved p s.buyerWallet s.sellerWallet
  trade : s.trade = e.toTrade ids.next now
  rows : after = ((before.addTrade s.trade).putWallet s.buyerWallet).putWallet s.sellerWallet

variable {e : Execution} {w w' : World MemoryStore κ} {s : Settlement}

theorem Found.wallet?_buyer {t : Tables} {p : Parties} (h : e.Found t p) :
    t.wallet? p.buyer.id = some p.buyer :=
  Tables.wallet?_eq_some.mpr ⟨(Tables.walletOf?_eq_some h.buyer).1, rfl⟩

theorem Found.wallet?_seller {t : Tables} {p : Parties} (h : e.Found t p) :
    t.wallet? p.seller.id = some p.seller :=
  Tables.wallet?_eq_some.mpr ⟨(Tables.walletOf?_eq_some h.seller).1, rfl⟩

theorem Found.buyer_eq_seller {t : Tables} {p : Parties} (h : e.Found t p) (hid : p.buyer.id = p.seller.id) :
    p.buyer = p.seller :=
  Table.eq_of_key_eq (Tables.walletOf?_eq_some h.buyer).1 (Tables.walletOf?_eq_some h.seller).1
    (Uuid.value_cast_inj.mpr hid)

theorem Moved.ids {p : Parties} {b s : Wallet} (h : e.Moved p b s) : b.id = p.buyer.id ∧ s.id = p.seller.id := by
  cases h with
  | within same deltas sum applied => exact ⟨rfl, same⟩
  | between apart deltas buyer seller => exact ⟨rfl, rfl⟩

theorem Moved.eq_of_id {p : Parties} {b s : Wallet} (h : e.Moved p b s) (hid : s.id = b.id) : s = b := by
  cases h with
  | within same deltas sum applied => rfl
  | between apart deltas buyer seller => exact absurd hid.symm apart

theorem settleWithin_ok {wallet : Wallet} {paid received : Decimal}
    (hw : w.store.draft.wallet? wallet.id = some wallet)
    (h : (e.settleWithin wallet.id paid received).run w = (.ok s, w')) :
    ∃ net balance, paid.add? received = some net ∧ wallet.apply net = .ok balance ∧
      s.trade = e.toTrade w.store.ids.next w.store.now ∧
      s.buyerWallet = { wallet with balance := balance } ∧ s.sellerWallet = s.buyerWallet ∧
      w'.store.draft = (w.store.draft.addTrade s.trade).putWallet s.buyerWallet := by
  obtain ⟨x, t, ⟨hx, rfl⟩, h⟩ := Work.query_bind_ok h
  obtain rfl : wallet = x := Option.some.inj (hw.symm.trans hx)
  obtain ⟨net, w₁, hn, h⟩ := Work.bind_ok h
  obtain ⟨hnet, rfl⟩ := Work.ofOption_ok hn
  obtain ⟨balance, w₁, ha, h⟩ := Work.bind_ok h
  obtain ⟨happly, rfl⟩ := Work.ofExcept_ok ha
  obtain ⟨trade, t, ⟨htrade, rfl⟩, h⟩ := Work.query_bind_ok h
  obtain ⟨y, t, ⟨z, hz, hy, rfl⟩, h⟩ := Work.query_bind_ok h
  obtain rfl : wallet = z := Option.some.inj (hw.symm.trans hz)
  obtain ⟨rfl, rfl⟩ := Work.pure_ok h
  exact ⟨net, balance, hnet, happly, htrade, hy, rfl, rfl⟩

theorem exchange_ok {buyer seller : Wallet} {paid received : Decimal} (hne : buyer.id ≠ seller.id)
    (hb : w.store.draft.wallet? buyer.id = some buyer) (hs : w.store.draft.wallet? seller.id = some seller)
    (h : (e.exchange buyer seller paid received).run w = (.ok s, w')) :
    ∃ buyerBalance sellerBalance, buyer.apply paid = .ok buyerBalance ∧
      seller.apply received = .ok sellerBalance ∧ s.trade = e.toTrade w.store.ids.next w.store.now ∧
      s.buyerWallet = { buyer with balance := buyerBalance } ∧
      s.sellerWallet = { seller with balance := sellerBalance } ∧
      w'.store.draft
        = ((w.store.draft.addTrade s.trade).putWallet s.buyerWallet).putWallet s.sellerWallet := by
  obtain ⟨buyerBalance, w₁, hx, h⟩ := Work.bind_ok h
  obtain ⟨hbuyer, rfl⟩ := Work.ofExcept_ok hx
  obtain ⟨sellerBalance, w₁, hx, h⟩ := Work.bind_ok h
  obtain ⟨hseller, rfl⟩ := Work.ofExcept_ok hx
  obtain ⟨trade, t, ⟨htrade, rfl⟩, h⟩ := Work.query_bind_ok h
  obtain ⟨x, t, ⟨z, hz, hx, rfl⟩, h⟩ := Work.query_bind_ok h
  obtain rfl : buyer = z := Option.some.inj (hb.symm.trans hz)
  obtain ⟨y, t, ⟨z, hz, hy, rfl⟩, h⟩ := Work.query_bind_ok h
  simp only [World.answered_draft, Tables.wallet?_putWallet, hx, hne, ↓reduceIte] at hz
  obtain rfl : seller = z := Option.some.inj (hs.symm.trans hz)
  obtain ⟨rfl, rfl⟩ := Work.pure_ok h
  exact ⟨buyerBalance, sellerBalance, hbuyer, hseller, htrade, hx, hy, rfl⟩

/-- Whichever wallet is locked first, the locked rows are the buyer's and the seller's. -/
theorem settleBetween_ok {buyer seller : Wallet} {paid received : Decimal} (hne : buyer.id ≠ seller.id)
    (hb : w.store.draft.wallet? buyer.id = some buyer) (hs : w.store.draft.wallet? seller.id = some seller)
    (h : (e.settleBetween buyer.id seller.id paid received).run w = (.ok s, w')) :
    ∃ w₁, w.Unwritten w₁ ∧ (e.exchange buyer seller paid received).run w₁ = (.ok s, w') := by
  rw [settleBetween] at h
  by_cases hlt : buyer.id < seller.id
  · rw [if_pos hlt] at h
    obtain ⟨x, w₁, ⟨hx, -⟩, hu₁, h⟩ := Work.read_bind_ok rfl h
    obtain rfl : buyer = x := Option.some.inj (hb.symm.trans hx)
    obtain ⟨y, w₂, ⟨hy, -⟩, hu₂, h⟩ := Work.read_bind_ok rfl h
    rw [hu₁.draft] at hy
    obtain rfl : seller = y := Option.some.inj (hs.symm.trans hy)
    rw [if_pos rfl] at h
    exact ⟨w₂, hu₁.trans hu₂, h⟩
  · rw [if_neg hlt] at h
    obtain ⟨x, w₁, ⟨hx, -⟩, hu₁, h⟩ := Work.read_bind_ok rfl h
    obtain rfl : seller = x := Option.some.inj (hs.symm.trans hx)
    obtain ⟨y, w₂, ⟨hy, -⟩, hu₂, h⟩ := Work.read_bind_ok rfl h
    rw [hu₁.draft] at hy
    obtain rfl : buyer = y := Option.some.inj (hb.symm.trans hy)
    rw [if_neg hne.symm] at h
    exact ⟨w₂, hu₁.trans hu₂, h⟩

theorem settleBy_ok {p : Parties} {paid received : Decimal} (hfound : e.Found w.store.draft p)
    (hdeltas : e.deltas? = some (paid, received))
    (h : (if p.buyer.id = p.seller.id then e.settleWithin p.buyer.id paid received
      else e.settleBetween p.buyer.id p.seller.id paid received).run w = (.ok s, w')) :
    e.Settled w.store.ids w.store.now w.store.draft s w'.store.draft := by
  by_cases hid : p.buyer.id = p.seller.id
  · rw [if_pos hid] at h
    obtain ⟨net, balance, hsum, happlied, htrade, hb, hs, hrows⟩ := settleWithin_ok hfound.wallet?_buyer h
    refine ⟨⟨p, hfound, ?_⟩, htrade, ?_⟩
    · rw [hs, hb]
      exact .within hid hdeltas hsum happlied
    · rw [hrows, hs, Tables.putWallet_putWallet]
  · rw [if_neg hid] at h
    obtain ⟨w₁, hu, h⟩ := settleBetween_ok hid hfound.wallet?_buyer hfound.wallet?_seller h
    rw [← hu.draft] at hfound
    obtain ⟨buyerBalance, sellerBalance, hpaid, hreceived, htrade, hb, hs, hrows⟩ :=
      exchange_ok hid hfound.wallet?_buyer hfound.wallet?_seller h
    rw [hu.draft] at hfound hrows
    rw [hu.ids, hu.now] at htrade
    refine ⟨⟨p, hfound, ?_⟩, htrade, hrows⟩
    rw [hs, hb]
    exact .between hid hdeltas hpaid hreceived

theorem work_ok (h : e.work.run w = (.ok s, w')) :
    e.Settled w.store.ids w.store.now w.store.draft s w'.store.draft := by
  obtain ⟨⟨paid, received⟩, w₀, hx, h⟩ := Work.bind_ok h
  obtain ⟨hdeltas, rfl⟩ := Work.ofOption_ok hx
  obtain ⟨buy, w₁, ⟨hbuy, -⟩, hu₁, h⟩ := Work.read_bind_ok rfl h
  obtain ⟨sell, w₂, ⟨hsell, -⟩, hu₂, h⟩ := Work.read_bind_ok rfl h
  obtain ⟨u, w₂', hx, h⟩ := Work.bind_ok h
  obtain ⟨horders, rfl⟩ := Work.ofExcept_ok hx
  obtain ⟨market, w₃, ⟨hmarket, -⟩, hu₃, h⟩ := Work.read_bind_ok rfl h
  obtain ⟨buyer, w₄, ⟨hbuyer, -⟩, hu₄, h⟩ := Work.read_bind_ok rfl h
  obtain ⟨seller, w₅, ⟨hseller, -⟩, hu₅, h⟩ := Work.read_bind_ok rfl h
  have hu₂ := hu₁.trans hu₂
  have hu₃ := hu₂.trans hu₃
  have hu₄ := hu₃.trans hu₄
  have hu₅ := hu₄.trans hu₅
  rw [hu₁.draft] at hsell
  rw [hu₂.draft] at hmarket
  rw [hu₃.draft] at hbuyer
  rw [hu₄.draft] at hseller
  have hfound : e.Found w.store.draft ⟨buy, sell, market, buyer, seller⟩ :=
    ⟨hbuy, hsell, horders, hmarket, hbuyer, hseller⟩
  rw [← hu₅.draft] at hfound
  rw [← hu₅.draft, ← hu₅.ids, ← hu₅.now]
  exact settleBy_ok hfound hdeltas h

end Execution

/-! ## Filling an order -/

namespace FillReport

/-- The order of a report. -/
def order : FillReport → Order
  | .applied o _ | .remainderOverflow o => o

theorem order_ofOrder (o : Order) : (ofOrder o).order = o := by
  rw [ofOrder]
  split <;> rfl

end FillReport

namespace FillRequest

/-- An order after a request. -/
def updated (request : FillRequest) (now : Instant) (o : Order) : Order :=
  { o with status := request.status, filledAmount := request.filledAmount, updatedAt := now }

/-- What a fill update does. -/
structure Filled (request : FillRequest) (now : Instant) (before : Tables) (r : FillReport) (o : Order)
    (after : Tables) : Prop where
  order : before.order? request.orderId = some o
  allowed : request.check o = .ok ()
  report : r = FillReport.ofOrder (request.updated now o)
  rows : after = before.putOrder (request.updated now o)

variable {request : FillRequest} {w w' : World MemoryStore κ} {r : FillReport}

theorem work_ok (h : request.work.run w = (.ok r, w')) :
    ∃ o, request.Filled w.store.now w.store.draft r o w'.store.draft := by
  obtain ⟨o, w₁, ⟨ho, -⟩, hu, h⟩ := Work.read_bind_ok rfl h
  obtain ⟨u, w₂, hx, h⟩ := Work.bind_ok h
  obtain ⟨hcheck, rfl⟩ := Work.ofExcept_ok hx
  obtain ⟨o', t, ⟨x, hx, ho', rfl⟩, h⟩ := Work.query_bind_ok h
  rw [hu.draft, (Tables.order?_eq_some.mp ho).2] at hx
  obtain rfl : o = x := Option.some.inj (ho.symm.trans hx)
  obtain ⟨rfl, rfl⟩ := Work.pure_ok h
  rw [hu.now] at ho'
  refine ⟨o, ho, hcheck, by rw [ho', updated], ?_⟩
  rw [World.answered_draft, hu.draft, ho', updated]

end FillRequest

/-! ## Posting and moving transfers -/

namespace Transfer

/-- The amount that a transfer is posted with. -/
inductive Sized (t : Transfer) (before : Tables) : SizingPolicy → Decimal → Prop where
  | deposit {sizing : SizingPolicy} (kind : t.kind = .deposit) : Sized t before sizing t.amount
  | fromLargest {amount : Decimal} (kind : t.kind = .withdrawal)
      (rest : (((before.largestWallets 1).head?.map (·.balance)).getD Decimal.zero).sub? t.amount = some amount) :
      Sized t before .globalMaxBalance amount
  | fromAccount {wallet : Wallet} (kind : t.kind = .withdrawal)
      (found : before.walletOf? t.userId t.currency = some wallet) (covered : t.amount ≤ wallet.balance) :
      Sized t before .accountBalance t.amount

/-- What posting a transfer does. -/
structure Posted (t : Transfer) (sizing : SizingPolicy) (rates : FeeRates) (ids : IdSupply) (now : Instant)
    (before : Tables) (p : Posting) (after : Tables) : Prop where
  sized : t.Sized before sizing p.entry.amount
  nonneg : Decimal.zero ≤ p.entry.amount
  entry : p.entry = t.toEntry p.entry.amount ids.next now
  fee : p.fee = rates.toSchedule ids.advance.next now
  rows : after = (before.addEntry p.entry).addFee p.fee

variable {transfer : Transfer} {sizing : SizingPolicy} {rates : FeeRates} {w w' : World MemoryStore κ}

theorem posted_ok {amount : Decimal} (h : (transfer.posted sizing).run w = (.ok amount, w')) :
    transfer.Sized w.store.draft sizing amount ∧ w.Unwritten w' := by
  rw [posted] at h
  cases hk : transfer.kind with
  | deposit =>
      rw [hk] at h
      obtain ⟨rfl, rfl⟩ := Work.done_ok h
      exact ⟨.deposit hk, rfl, rfl, rfl, rfl⟩
  | withdrawal =>
      rw [hk] at h
      cases sizing with
      | globalMaxBalance =>
          obtain ⟨wallets, w₁, ⟨hwallets, -⟩, hu, h⟩ := Work.read_bind_ok rfl h
          obtain ⟨hrest, rfl⟩ := Work.ofOption_ok h
          rw [hwallets] at hrest
          exact ⟨.fromLargest hk hrest, hu⟩
      | accountBalance =>
          obtain ⟨found, w₁, ⟨hfound, -⟩, hu₁, h⟩ := Work.read_bind_ok rfl h
          obtain ⟨wallet, w₂, ⟨hwallet, -⟩, hu₂, h⟩ := Work.read_bind_ok rfl h
          have hmem := (Tables.walletOf?_eq_some hfound).1
          rw [hu₁.draft] at hwallet
          obtain rfl : found = wallet :=
            Option.some.inj ((Tables.wallet?_eq_some.mpr ⟨hmem, rfl⟩).symm.trans hwallet)
          obtain ⟨u, w₃, hx, h⟩ := Work.bind_ok h
          obtain ⟨hcovered, rfl⟩ := Work.require_ok hx
          obtain ⟨rfl, rfl⟩ := Work.pure_ok h
          exact ⟨.fromAccount hk hfound (of_decide_eq_true hcovered), hu₁.trans hu₂⟩

theorem work_ok {p : Posting} (h : (transfer.work sizing rates).run w = (.ok p, w')) :
    transfer.Posted sizing rates w.store.ids w.store.now w.store.draft p w'.store.draft := by
  obtain ⟨amount, w₁, hx, h⟩ := Work.bind_ok h
  obtain ⟨hsized, hu⟩ := posted_ok hx
  obtain ⟨u, w₂, hx, h⟩ := Work.bind_ok h
  obtain ⟨hnonneg, rfl⟩ := Work.require_ok hx
  obtain ⟨entry, t, ⟨hentry, rfl⟩, h⟩ := Work.query_bind_ok h
  obtain ⟨fee, t, ⟨hfee, rfl⟩, h⟩ := Work.query_bind_ok h
  obtain ⟨rfl, rfl⟩ := Work.pure_ok h
  have hamount : entry.amount = amount := by rw [hentry, toEntry]
  rw [hu.ids, hu.now] at hentry
  refine ⟨hamount ▸ hsized, hamount ▸ of_decide_eq_true hnonneg, hamount ▸ hentry, ?_, ?_⟩
  · rw [hfee, ← hu.ids, ← hu.now]
    rfl
  · rw [← hu.draft]
    rfl

end Transfer

namespace LedgerEntry

/-- What moving an entry does. -/
structure Moved (id : Uuid) (status : TransferStatus) (before : Tables) (r e : LedgerEntry) (after : Tables) :
    Prop where
  entry : before.entry? id = some e
  allowed : e.checkMove status = .ok ()
  moved : r = { e with status := status }
  rows : after = { before with ledger := Tables.moveEntry id status before.ledger }

theorem moveWork_ok {id : Uuid} {status : TransferStatus} {w w' : World MemoryStore κ} {r : LedgerEntry}
    (h : (moveWork id status).run w = (.ok r, w')) :
    ∃ e, Moved id status w.store.draft r e w'.store.draft := by
  obtain ⟨e, w₁, ⟨he, -⟩, hu, h⟩ := Work.read_bind_ok rfl h
  obtain ⟨u, w₂, hx, h⟩ := Work.bind_ok h
  obtain ⟨hcheck, rfl⟩ := Work.ofExcept_ok hx
  obtain ⟨t, ⟨x, hx, hr, rfl⟩, rfl⟩ := Work.query_ok h
  rw [hu.draft] at hx
  obtain rfl : e = x := Option.some.inj (he.symm.trans hx)
  refine ⟨e, he, hcheck, hr, ?_⟩
  rw [World.answered_draft, hu.draft]

theorem entry?_moveEntry {id : Uuid} {status : TransferStatus} {entries : List LedgerEntry} {e : LedgerEntry}
    (h : entries.find? (·.id = id) = some e) :
    (Tables.moveEntry id status entries).find? (·.id = id) = some { e with status := status } := by
  induction entries with
  | nil => cases h
  | cons x rest ih =>
      rw [Tables.moveEntry]
      by_cases hid : x.id = id
      · rw [List.find?_cons_of_pos (by simpa using hid)] at h
        obtain rfl := Option.some.inj h
        rw [if_pos hid, List.find?_cons_of_pos (by simpa using hid)]
      · rw [List.find?_cons_of_neg (by simpa using hid)] at h
        rw [if_neg hid, List.find?_cons_of_neg (by simpa using hid)]
        exact ih h

end LedgerEntry

/-! ## Users, and checks for currencies -/

namespace Registration

/-- What registering a user does. -/
structure Registered (r : Registration) (options : TaskOptions) (ids : IdSupply) (now : Instant)
    (before : Tables) (u : RegisteredUser) (after : Tables) : Prop where
  unique : before.duplicateOf? r = none
  user : u.user = r.toUser ids.next now
  outboxId : u.outboxId = before.nextOutboxId
  rows : after = ((before.putUser u.user).enqueue (r.task options) now).2

theorem work_ok {r : Registration} {options : TaskOptions} {w w' : World MemoryStore κ} {u : RegisteredUser}
    (h : (r.work options).run w = (.ok u, w')) :
    r.Registered options w.store.ids w.store.now w.store.draft u w'.store.draft := by
  obtain ⟨user, t, ⟨hunique, huser, rfl⟩, h⟩ := Work.query_bind_ok h
  obtain ⟨row, t, ⟨hrow, rfl⟩, h⟩ := Work.query_bind_ok h
  obtain ⟨rfl, rfl⟩ := Work.pure_ok h
  refine ⟨hunique, huser, ?_, rfl⟩
  rw [hrow]
  rfl

end Registration

namespace Verification

/-- What returning a code does. -/
structure Verified (id : Int) (secretCode : String) (now : Instant) (before : Tables) (r : VerifiedUser)
    (after : Tables) : Prop where
  code : ∃ v, before.verification? id = some v ∧ v.isUsableWith secretCode now = true ∧
    r.verification = { v with isUsed := true }
  user : ∃ u, before.userNamed? r.verification.username = some u ∧ r.user = { u with isVerified := true }
  rows : after = (before.putVerification r.verification).putUser r.user

theorem work_ok {id : Int} {secretCode : String} {w w' : World MemoryStore κ} {r : VerifiedUser}
    (h : (work id secretCode).run w = (.ok r, w')) :
    Verified id secretCode w.store.now w.store.draft r w'.store.draft := by
  obtain ⟨v, t, ⟨x, hx, husable, hv, rfl⟩, h⟩ := Work.query_bind_ok h
  obtain ⟨u, t, ⟨y, hy, hu, rfl⟩, h⟩ := Work.query_bind_ok h
  obtain ⟨rfl, rfl⟩ := Work.pure_ok h
  exact ⟨⟨x, hx, husable, hv⟩, ⟨y, hy, hu⟩, rfl⟩

end Verification

namespace Wallet

theorem currenciesWork_ok {userId : Uuid} {base quote : String} {w w' : World MemoryStore κ} {u : Unit}
    (h : (currenciesWork userId base quote).run w = (.ok u, w')) :
    checkCurrency (w.store.draft.walletsOf userId) userId base = .ok () ∧
      checkCurrency (w.store.draft.walletsOf userId) userId quote = .ok () ∧
      w'.store.draft = w.store.draft := by
  obtain ⟨wallets, w₁, ⟨hwallets, -⟩, hu, h⟩ := Work.read_bind_ok rfl h
  obtain ⟨u₁, w₂, hx, h⟩ := Work.bind_ok h
  obtain ⟨hbase, rfl⟩ := Work.ofExcept_ok hx
  obtain ⟨hquote, rfl⟩ := Work.ofExcept_ok h
  rw [hwallets] at hbase hquote
  exact ⟨hbase, hquote, hu.draft⟩

end Wallet

/-! ## Publishing a batch -/

namespace PublisherConfig

/-- A row after an attempt to hand it over. -/
def recorded (c : PublisherConfig) (now : Instant) (m : OutboxMessage) :
    Except QueueUnavailable String → OutboxMessage
  | .ok _ => m.published now
  | .error e => m.failing e.message (c.maxAttempts ≤ m.attempts + 1)

/-- A report after an attempt to hand a row over. -/
def counted (c : PublisherConfig) (m : OutboxMessage) (r : BatchReport) :
    Except QueueUnavailable String → BatchReport
  | .ok _ => { r with published := r.published + 1 }
  | .error _ =>
    if c.maxAttempts ≤ m.attempts + 1 then { r with gaveUp := r.gaveUp + 1 }
    else { r with failed := r.failed + 1 }

/-- The courier, the rows and the report after messages have been handed over one after the other. -/
def handRows (c : PublisherConfig) (now : Instant) :
    List OutboxMessage → κ → Tables → BatchReport → κ × Tables × BatchReport
  | [], k, t, r => (k, t, r)
  | m :: rest, k, t, r =>
    let s := Courier.hand m k
    c.handRows now rest s.state (t.putOutbox (c.recorded now m s.result)) (c.counted m r s.result)

variable {c : PublisherConfig} {w w' : World MemoryStore κ} {r r' : BatchReport} {m : OutboxMessage}

theorem publishRow_ok (hm : w.store.draft.outboxRow? m.id = some m)
    (h : (c.publishRow r m).run w = (.ok r', w')) :
    r' = c.counted m r (Courier.hand m w.courier).result ∧ w'.store.now = w.store.now ∧
      w'.courier = (Courier.hand m w.courier).state ∧
      w'.store.draft
        = w.store.draft.putOutbox (c.recorded w.store.now m (Courier.hand m w.courier).result) := by
  obtain ⟨x, w₁, hx, h⟩ := Work.bind_ok h
  obtain ⟨hanswer, hstore, hcourier⟩ := Work.deliver_ok hx
  rw [← hanswer, ← hcourier, ← hstore]
  rw [← hstore] at hm
  cases x with
  | ok taskId =>
      obtain ⟨u, t, ⟨y, hy, rfl⟩, h⟩ := Work.query_bind_ok h
      obtain rfl : m = y := Option.some.inj (hm.symm.trans hy)
      obtain ⟨u, w₂, hnote, h⟩ := Work.bind_ok h
      obtain rfl := Work.report_ok hnote
      obtain ⟨rfl, rfl⟩ := Work.pure_ok h
      exact ⟨rfl, rfl, rfl, rfl⟩
  | error e =>
      obtain ⟨u, t, ⟨y, hy, rfl⟩, h⟩ := Work.query_bind_ok h
      obtain rfl : m = y := Option.some.inj (hm.symm.trans hy)
      by_cases hlast : c.maxAttempts ≤ m.attempts + 1
      · rw [if_pos (decide_eq_true hlast)] at h
        obtain ⟨u, w₂, hnote, h⟩ := Work.bind_ok h
        obtain rfl := Work.report_ok hnote
        obtain ⟨rfl, rfl⟩ := Work.pure_ok h
        exact ⟨(if_pos hlast).symm, rfl, rfl, rfl⟩
      · rw [if_neg (by simpa using hlast)] at h
        obtain ⟨u, w₂, hnote, h⟩ := Work.bind_ok h
        obtain rfl := Work.report_ok hnote
        obtain ⟨rfl, rfl⟩ := Work.pure_ok h
        exact ⟨(if_neg hlast).symm, rfl, rfl, rfl⟩

theorem recorded_id (now : Instant) (x : Except QueueUnavailable String) : (c.recorded now m x).id = m.id := by
  cases x <;> rfl

/-- Recording one row leaves the others. -/
theorem outboxRow?_publishRow (hm : w.store.draft.outboxRow? m.id = some m)
    (h : (c.publishRow r m).run w = (.ok r', w')) {id : Int} (hne : m.id ≠ id) :
    w'.store.draft.outboxRow? id = w.store.draft.outboxRow? id := by
  obtain ⟨-, -, -, hdraft⟩ := publishRow_ok hm h
  rw [hdraft, Tables.outboxRow?_putOutbox, recorded_id, if_neg hne]

/-- The rows still to be handed over are found as they were claimed. -/
theorem publishRows_ok {rows : List OutboxMessage} (hrows : ∀ m ∈ rows, w.store.draft.outboxRow? m.id = some m)
    (hdistinct : rows.Pairwise fun a b => a.id < b.id)
    (h : (c.publishRows r rows).run w = (.ok r', w')) :
    (w'.courier, w'.store.draft, r') = c.handRows w.store.now rows w.courier w.store.draft r := by
  induction rows generalizing r w with
  | nil =>
      obtain ⟨rfl, rfl⟩ := Work.done_ok h
      rfl
  | cons m rest ih =>
      obtain ⟨hm, hrest⟩ := List.pairwise_cons.mp hdistinct
      obtain ⟨r₁, w₁, hrow, h⟩ := Work.bind_ok h
      have hfound := hrows m (List.mem_cons_self ..)
      obtain ⟨hr, hnow, hcourier, hdraft⟩ := publishRow_ok hfound hrow
      have hleft : ∀ x ∈ rest, w₁.store.draft.outboxRow? x.id = some x := fun x hx =>
        (outboxRow?_publishRow hfound hrow (hm x hx).ne).trans (hrows x (List.mem_cons_of_mem _ hx))
      rw [ih hleft hrest h, handRows, hr, hnow, hcourier, hdraft]

theorem batchWork_ok (h : c.batchWork.run w = (.ok r, w')) :
    (w'.courier, w'.store.draft, r) = c.handRows w.store.now (w.store.draft.pending c.batchSize) w.courier
      w.store.draft .empty := by
  obtain ⟨rows, w₁, ⟨hrows, -⟩, hu, h⟩ := Work.read_bind_ok rfl h
  obtain rfl := hrows
  have hsub : (w.store.draft.pending c.batchSize).Sublist w.store.draft.outbox.rows :=
    (List.take_sublist ..).trans List.filter_sublist
  rw [publishRows_ok _ (w.store.draft.outbox.sorted.sublist hsub) h, hu.now, hu.courier, hu.draft]
  intro m hm
  rw [hu.draft]
  exact Table.get?_of_mem (hsub.subset hm)

end PublisherConfig

/-! ## Every command -/

namespace Command

/-- Everything that a command changes, and what it gives. -/
def Effect (s : Service) (w w' : World MemoryStore κ) : (c : Command) → c.Result → Prop
  | .settleTrade e, r => e.Settled w.store.ids w.store.now w.store.committed r w'.store.committed
  | .updateFill request, r => ∃ o, request.Filled w.store.now w.store.committed r o w'.store.committed
  | .postTransfer t rates, r =>
    t.Posted s.sizing rates w.store.ids w.store.now w.store.committed r w'.store.committed
  | .moveEntry id status, r => ∃ e, LedgerEntry.Moved id status w.store.committed r e w'.store.committed
  | .registerUser registration, r =>
    registration.Registered s.task w.store.ids w.store.now w.store.committed r w'.store.committed
  | .verifyEmail id code, r => Verification.Verified id code w.store.now w.store.committed r w'.store.committed
  | .checkCurrencies userId base quote, _ =>
    Wallet.checkCurrency (w.store.committed.walletsOf userId) userId base = .ok () ∧
      Wallet.checkCurrency (w.store.committed.walletsOf userId) userId quote = .ok () ∧
      w'.store.committed = w.store.committed
  | .publishBatch c, r => (w'.courier, w'.store.committed, r)
      = c.handRows w.store.now (w.store.committed.pending c.batchSize) w.courier w.store.committed .empty

/-- The rows that a result shows are among the rows. -/
def Shows : (c : Command) → c.Result → Tables → Prop
  | .settleTrade _, r, t => r.trade ∈ t.trades ∧
      t.wallet? r.buyerWallet.id = some r.buyerWallet ∧ t.wallet? r.sellerWallet.id = some r.sellerWallet
  | .updateFill _, r, t => t.order? r.order.id = some r.order
  | .postTransfer .., r, t => r.entry ∈ t.ledger ∧ r.fee ∈ t.fees
  | .moveEntry id _, r, t => t.entry? id = some r
  | .registerUser _, r, t =>
    t.users.get? r.user.id.value = some r.user ∧ (t.outboxRow? r.outboxId).isSome
  | .verifyEmail id _, r, t =>
    t.users.get? r.user.id.value = some r.user ∧ t.verification? id = some r.verification
  | .checkCurrencies .., _, _ | .publishBatch _, _, _ => True

variable {s : Service} {c : Command} {w w' : World MemoryStore κ} {r : c.Result}

/-- A successful command has had its complete effect. -/
theorem effect_of_perform (h : s.perform c w = (.ok r, w')) : c.Effect s w w' r := by
  obtain ⟨-, w₁, hrun, hstore, hcourier⟩ := Operation.perform_ok h
  have hrows : w₁.store.draft = w'.store.committed := by rw [hstore]; rfl
  cases c with
  | settleTrade e =>
      have := Execution.work_ok hrun
      rwa [hrows] at this
  | updateFill request =>
      have := FillRequest.work_ok hrun
      rwa [hrows] at this
  | postTransfer t rates =>
      have := Transfer.work_ok hrun
      rwa [hrows] at this
  | moveEntry id status =>
      have := LedgerEntry.moveWork_ok hrun
      rwa [hrows] at this
  | registerUser registration =>
      have := Registration.work_ok hrun
      rwa [hrows] at this
  | verifyEmail id code =>
      have := Verification.work_ok hrun
      rwa [hrows] at this
  | checkCurrencies userId base quote =>
      have := Wallet.currenciesWork_ok hrun
      rwa [hrows] at this
  | publishBatch c =>
      have := PublisherConfig.batchWork_ok hrun
      rwa [hrows, ← hcourier] at this

theorem shows_of_effect (h : c.Effect s w w' r) : c.Shows r w'.store.committed := by
  cases c with
  | settleTrade e =>
      obtain ⟨⟨p, -, hmoved⟩, -, hrows⟩ := h
      rw [hrows]
      refine ⟨List.mem_append_right _ (List.mem_singleton_self _), ?_, ?_⟩
      · rw [Tables.wallet?_putWallet, Tables.wallet?_putWallet, if_pos rfl]
        by_cases hid : r.sellerWallet.id = r.buyerWallet.id
        · rw [if_pos hid, hmoved.eq_of_id hid]
        · rw [if_neg hid]
      · rw [Tables.wallet?_putWallet, if_pos rfl]
  | updateFill request =>
      obtain ⟨o, ho, -, hreport, hrows⟩ := h
      rw [hrows, hreport, Shows, FillReport.order_ofOrder, Tables.order?_putOrder, if_pos rfl]
  | postTransfer t rates =>
      rw [h.rows]
      exact ⟨List.mem_append_right _ (List.mem_singleton_self _), List.mem_append_right _ (List.mem_singleton_self _)⟩
  | moveEntry id status =>
      obtain ⟨e, he, -, hmoved, hrows⟩ := h
      rw [hrows, hmoved]
      exact LedgerEntry.entry?_moveEntry he
  | registerUser registration =>
      rw [h.rows]
      refine ⟨Table.get?_insert_self, ?_⟩
      rw [h.outboxId]
      exact Option.isSome_of_mem Table.get?_insert_self
  | verifyEmail id code =>
      obtain ⟨v, hv, -, hused⟩ := h.code
      have hid : r.verification.id = id := by rw [hused]; exact (Table.mem_of_get? hv).2
      rw [h.rows]
      refine ⟨Table.get?_insert_self, ?_⟩
      rw [← hid]
      exact Table.get?_insert_self
  | checkCurrencies userId base quote => trivial
  | publishBatch c => trivial

end Command
end Clearing
