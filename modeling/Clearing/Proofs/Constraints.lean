import Clearing.Proofs.ExactSettlement
import Clearing.Proofs.History
import Clearing.Proofs.Lemmas.Rows
import Clearing.Proofs.OrderLifecycle

/-!
# The constraints of the schema

What operations check before they write is enough for the constraints that the schema puts on the same rows: rows
that a database would refuse are never committed to a store in memory, and no two of its users share a name or an
email.
-/

namespace Clearing

open Sql

variable {κ : Type}

/-! ## What the checks say -/

/-- Whether a record passes every check of its table. -/
def Admitted {ρ : Type} [Tabled ρ] (r : ρ) : Prop :=
  ∀ check ∈ (Tabled.relation ρ).schema.checks, check.holds (Tabled.row r) = true

namespace Sql

theorem Numeric.signed_ofAmount (a : Decimal) : (ofAmount a).signed = a.signed := by
  rw [ofAmount]
  split
  · next h =>
      have hcoeff : a.coeff = 0 := by simpa [Decimal.isZero] using h
      simp [signed, Decimal.signed, hcoeff]
  · rfl

theorem Numeric.value_ofAmount (a : Decimal) :
    ((ofAmount a).signed : ℚ) = a.value * 10 ^ (ofAmount a).scale := by
  rw [ofAmount]
  split
  · next h => simp [signed, Decimal.value_of_isZero h]
  · show (a.signed : ℚ) = _
    rw [Decimal.value, div_mul_cancel₀ _ (by positivity)]

theorem Numeric.atMost_ofAmount (a b : Decimal) :
    (ofAmount a).atMost (ofAmount b) = true ↔ a.value ≤ b.value := by
  have hp : (0 : ℚ) < 10 ^ (ofAmount a).scale * 10 ^ (ofAmount b).scale := by positivity
  rw [atMost, decide_eq_true_iff, ← Int.cast_le (R := ℚ)]
  push_cast [Nat.pow_eq, value_ofAmount]
  rw [mul_assoc, mul_assoc, mul_comm (10 ^ (ofAmount b).scale : ℚ), mul_le_mul_iff_left₀ hp]

namespace Check

variable {row : Row} {column : String} {a b : Decimal}

theorem notNegative_iff (h : Row.cell? row column = some (cell a)) :
    (notNegative column).holds row = true ↔ 0 ≤ a.value := by
  have hp : (0 : ℚ) < 10 ^ a.scale := by positivity
  simp only [holds, h]
  show decide (0 ≤ (Numeric.ofAmount a).signed) = true ↔ _
  rw [decide_eq_true_iff, Numeric.signed_ofAmount, Decimal.value, le_div_iff₀ hp, zero_mul, Int.cast_nonneg_iff]

theorem positive_iff (h : Row.cell? row column = some (cell a)) :
    (positive column).holds row = true ↔ 0 < a.value := by
  have hp : (0 : ℚ) < 10 ^ a.scale := by positivity
  simp only [holds, h]
  show decide (0 < (Numeric.ofAmount a).signed) = true ↔ _
  rw [decide_eq_true_iff, Numeric.signed_ofAmount, Decimal.value, lt_div_iff₀ hp, zero_mul, Int.cast_pos]

theorem upTo_iff {greatest : String} (h : Row.cell? row column = some (cell a))
    (hgreatest : Row.cell? row greatest = some (cell b)) :
    (upTo column greatest).holds row = true ↔ 0 ≤ a.value ∧ a.value ≤ b.value := by
  have hnonneg := notNegative_iff h
  simp only [holds, h, hgreatest] at hnonneg ⊢
  exact Bool.and_eq_true_iff.trans (and_congr hnonneg (Numeric.atMost_ofAmount a b))

theorem named_holds {α : Type} [Named α] {x : α} (hall : x ∈ Named.all)
    (h : Row.cell? row column = some (cell (Named.name x))) : (named α column).holds row = true := by
  have hmem : Named.name x ∈ (Named.all : List α).map Named.name := List.mem_map_of_mem hall
  simp only [named, holds, h]
  exact List.contains_iff_mem.mpr hmem

end Check

end Sql

/-! ## Which records are admitted -/

theorem User.admitted (u : User) : Admitted u := by
  have hrole : (Check.named UserRole "role").holds (Tabled.row u) = true :=
    Check.named_holds (by cases u.role <;> decide) rfl
  show ∀ check ∈ [Check.named UserRole "role"], check.holds (Tabled.row u) = true
  simpa using hrole

theorem Verification.admitted (v : Verification) : Admitted v := by
  show ∀ check ∈ ([] : List Check), check.holds (Tabled.row v) = true
  simp

theorem OutboxMessage.admitted (m : OutboxMessage) : Admitted m := by
  have hstatus : (Check.named OutboxStatus "status").holds (Tabled.row m) = true :=
    Check.named_holds (by cases m.status <;> decide) rfl
  show ∀ check ∈ [Check.named OutboxStatus "status"], check.holds (Tabled.row m) = true
  simpa using hstatus

theorem Market.admitted_iff {m : Market} : Admitted m ↔ 0 ≤ m.minOrderAmount.value := by
  have hleast : (Check.notNegative "min_order_amount").holds (Tabled.row m) = true ↔ 0 ≤ m.minOrderAmount.value :=
    Check.notNegative_iff rfl
  show (∀ check ∈ [Check.notNegative "min_order_amount"], check.holds (Tabled.row m) = true) ↔ _
  simp [hleast]

theorem FeeSchedule.admitted_iff {f : FeeSchedule} : Admitted f ↔ 0 ≤ f.makerFee.value ∧ 0 ≤ f.takerFee.value := by
  have hmaker : (Check.notNegative "maker_fee").holds (Tabled.row f) = true ↔ 0 ≤ f.makerFee.value :=
    Check.notNegative_iff rfl
  have htaker : (Check.notNegative "taker_fee").holds (Tabled.row f) = true ↔ 0 ≤ f.takerFee.value :=
    Check.notNegative_iff rfl
  show (∀ check ∈ [Check.notNegative "maker_fee", .notNegative "taker_fee"],
    check.holds (Tabled.row f) = true) ↔ _
  simp [hmaker, htaker]

theorem Wallet.admitted_iff {w : Wallet} : Admitted w ↔ 0 ≤ w.balance.value ∧ 0 ≤ w.lockedBalance.value := by
  have hbalance : (Check.notNegative "balance").holds (Tabled.row w) = true ↔ 0 ≤ w.balance.value :=
    Check.notNegative_iff rfl
  have hlocked : (Check.notNegative "locked_balance").holds (Tabled.row w) = true ↔ 0 ≤ w.lockedBalance.value :=
    Check.notNegative_iff rfl
  show (∀ check ∈ [Check.notNegative "balance", .notNegative "locked_balance"],
    check.holds (Tabled.row w) = true) ↔ _
  simp [hbalance, hlocked]

theorem Order.admitted_iff {o : Order} : Admitted o ↔ 0 < o.price.value ∧ 0 < o.amount.value ∧
    0 ≤ o.filledAmount.value ∧ o.filledAmount.value ≤ o.amount.value := by
  have hside : (Check.named OrderSide "side").holds (Tabled.row o) = true :=
    Check.named_holds (by cases o.side <;> decide) rfl
  have hprice : (Check.positive "price").holds (Tabled.row o) = true ↔ 0 < o.price.value := Check.positive_iff rfl
  have hamount : (Check.positive "amount").holds (Tabled.row o) = true ↔ 0 < o.amount.value :=
    Check.positive_iff rfl
  have hfilled : (Check.upTo "filled_amount" "amount").holds (Tabled.row o) = true ↔
      0 ≤ o.filledAmount.value ∧ o.filledAmount.value ≤ o.amount.value := Check.upTo_iff rfl rfl
  have hstatus : (Check.named OrderStatus "status").holds (Tabled.row o) = true :=
    Check.named_holds (by cases o.status <;> decide) rfl
  show (∀ check ∈ [Check.named OrderSide "side", .positive "price", .positive "amount",
    .upTo "filled_amount" "amount", .named OrderStatus "status"], check.holds (Tabled.row o) = true) ↔ _
  simp [hside, hprice, hamount, hfilled, hstatus]

theorem Trade.admitted_iff {t : Trade} : Admitted t ↔
    0 < t.price.value ∧ 0 < t.amount.value ∧ 0 ≤ t.fee.value := by
  have hprice : (Check.positive "price").holds (Tabled.row t) = true ↔ 0 < t.price.value := Check.positive_iff rfl
  have hamount : (Check.positive "amount").holds (Tabled.row t) = true ↔ 0 < t.amount.value :=
    Check.positive_iff rfl
  have hfee : (Check.notNegative "fee").holds (Tabled.row t) = true ↔ 0 ≤ t.fee.value := Check.notNegative_iff rfl
  show (∀ check ∈ [Check.positive "price", .positive "amount", .notNegative "fee"],
    check.holds (Tabled.row t) = true) ↔ _
  simp [hprice, hamount, hfee]

theorem LedgerEntry.admitted_iff {e : LedgerEntry} : Admitted e ↔
    0 < e.requestedAmount.value ∧ 0 ≤ e.amount.value := by
  have hkind : (Check.named TransferKind "type").holds (Tabled.row e) = true :=
    Check.named_holds (by cases e.kind <;> decide) rfl
  have hrequested : (Check.positive "requested_amount").holds (Tabled.row e) = true ↔ 0 < e.requestedAmount.value :=
    Check.positive_iff rfl
  have hamount : (Check.notNegative "amount").holds (Tabled.row e) = true ↔ 0 ≤ e.amount.value :=
    Check.notNegative_iff rfl
  have hstatus : (Check.named TransferStatus "status").holds (Tabled.row e) = true :=
    Check.named_holds (by cases e.status <;> decide) rfl
  show (∀ check ∈ [Check.named TransferKind "type", .positive "requested_amount", .notNegative "amount",
    .named TransferStatus "status"], check.holds (Tabled.row e) = true) ↔ _
  simp [hkind, hrequested, hamount, hstatus]

/-! ## Sound tables -/

/-- No two users share a name or an email. -/
def Tables.UsersDistinct (t : Tables) : Prop :=
  ∀ u ∈ t.users.rows, ∀ v ∈ t.users.rows, u.username = v.username ∨ u.email = v.email → u = v

/-- Every row of every table passes the checks of its table, and users are told apart by name and by email. -/
structure Tables.Sound (t : Tables) : Prop where
  users : ∀ u ∈ t.users.rows, Admitted u
  verifications : ∀ v ∈ t.verifications.rows, Admitted v
  markets : ∀ m ∈ t.markets.rows, Admitted m
  fees : ∀ f ∈ t.fees, Admitted f
  wallets : ∀ w ∈ t.wallets.rows, Admitted w
  orders : ∀ o ∈ t.orders.rows, Admitted o
  trades : ∀ x ∈ t.trades, Admitted x
  ledger : ∀ e ∈ t.ledger, Admitted e
  outbox : ∀ m ∈ t.outbox.rows, Admitted m
  distinct : t.UsersDistinct

namespace Tables.Sound

variable {t : Tables}

theorem empty : Sound {} where
  users _ h := absurd h List.not_mem_nil
  verifications _ h := absurd h List.not_mem_nil
  markets _ h := absurd h List.not_mem_nil
  fees _ h := absurd h List.not_mem_nil
  wallets _ h := absurd h List.not_mem_nil
  orders _ h := absurd h List.not_mem_nil
  trades _ h := absurd h List.not_mem_nil
  ledger _ h := absurd h List.not_mem_nil
  outbox _ h := absurd h List.not_mem_nil
  distinct _ h := absurd h List.not_mem_nil

theorem forall_mem_concat {α : Type} {P : α → Prop} {l : List α} {a : α} (h : ∀ x ∈ l, P x) (ha : P a) :
    ∀ x ∈ l ++ [a], P x := by
  intro x hx
  rcases List.mem_append.mp hx with hx | hx
  · exact h x hx
  · exact List.mem_singleton.mp hx ▸ ha

theorem putOrder (h : t.Sound) {o : Order} (ho : Admitted o) : (t.putOrder o).Sound :=
  { h with orders := Table.forall_mem_insert ho h.orders }

theorem putWallet (h : t.Sound) {w : Wallet} (hw : Admitted w) : (t.putWallet w).Sound :=
  { h with wallets := Table.forall_mem_insert hw h.wallets }

theorem putMarket (h : t.Sound) {m : Market} (hm : Admitted m) : (t.putMarket m).Sound :=
  { h with markets := Table.forall_mem_insert hm h.markets }

theorem addTrade (h : t.Sound) {x : Trade} (hx : Admitted x) : (t.addTrade x).Sound :=
  { h with trades := forall_mem_concat h.trades hx }

theorem addFee (h : t.Sound) {f : FeeSchedule} (hf : Admitted f) : (t.addFee f).Sound :=
  { h with fees := forall_mem_concat h.fees hf }

theorem addEntry (h : t.Sound) {e : LedgerEntry} (he : Admitted e) : (t.addEntry e).Sound :=
  { h with ledger := forall_mem_concat h.ledger he }

/-- A user may be written whose name and email no other user has. -/
theorem putUser (h : t.Sound) {u : User}
    (hnew : ∀ v ∈ t.users.rows, Keyed.key v ≠ Keyed.key u → v.username ≠ u.username ∧ v.email ≠ u.email) :
    (t.putUser u).Sound := by
  have hother : ∀ v ∈ t.users.rows, Keyed.key v ≠ Keyed.key u → ¬ (v.username = u.username ∨ v.email = u.email) := by
    intro v hv hkey
    exact not_or.mpr (hnew v hv hkey)
  refine { h with users := Table.forall_mem_insert u.admitted h.users, distinct := ?_ }
  intro v hv x hx hsame
  rcases Table.mem_insert_iff.mp hv with rfl | ⟨hvmem, hvkey⟩
  · rcases Table.mem_insert_iff.mp hx with rfl | ⟨hxmem, hxkey⟩
    · rfl
    · exact absurd (hsame.imp Eq.symm Eq.symm) (hother x hxmem hxkey)
  · rcases Table.mem_insert_iff.mp hx with rfl | ⟨hxmem, hxkey⟩
    · exact absurd hsame (hother v hvmem hvkey)
    · exact h.distinct v hvmem x hxmem hsame

theorem moveEntry (h : t.Sound) (id : Uuid) (status : TransferStatus) :
    Sound { t with ledger := Tables.moveEntry id status t.ledger } := by
  refine { h with ledger := ?_ }
  have hledger := h.ledger
  generalize t.ledger = entries at hledger
  induction entries with
  | nil => exact hledger
  | cons e rest ih =>
      obtain ⟨he, hrest⟩ := List.forall_mem_cons.mp hledger
      rw [Tables.moveEntry]
      split
      · obtain ⟨hrequested, hamount⟩ := LedgerEntry.admitted_iff.mp he
        exact List.forall_mem_cons.mpr ⟨LedgerEntry.admitted_iff.mpr ⟨hrequested, hamount⟩, hrest⟩
      · exact List.forall_mem_cons.mpr ⟨he, ih hrest⟩

end Tables.Sound

/-! ## What an action keeps -/

theorem Wallet.admitted_apply {w : Wallet} (h : Admitted w) {delta balance : Decimal}
    (hbalance : w.apply delta = .ok balance) : Admitted { w with balance := balance } :=
  Wallet.admitted_iff.mpr ⟨(Wallet.apply_ok hbalance).2, (Wallet.admitted_iff.mp h).2⟩

theorem Execution.Settled.sound {e : Execution} {ids : IdSupply} {now : Instant} {t t' : Tables} {r : Settlement}
    (h : e.Settled ids now t r t') (hcheck : e.check = .ok ()) (ht : t.Sound) : t'.Sound := by
  obtain ⟨⟨p, hfound, hmoved⟩, htrade, rfl⟩ := h
  have hbuyer := ht.wallets p.buyer (Tables.walletOf?_eq_some hfound.buyer).1
  have hseller := ht.wallets p.seller (Tables.walletOf?_eq_some hfound.seller).1
  have hadmitted : Admitted r.trade := htrade ▸ Trade.admitted_iff.mpr (Execution.check_ok hcheck)
  have hwallets : Admitted r.buyerWallet ∧ Admitted r.sellerWallet := by
    generalize r.buyerWallet = b at hmoved
    generalize r.sellerWallet = s at hmoved
    cases hmoved with
    | within same deltas sum applied =>
        exact ⟨Wallet.admitted_apply hbuyer applied, Wallet.admitted_apply hbuyer applied⟩
    | between apart deltas buyer seller =>
        exact ⟨Wallet.admitted_apply hbuyer buyer, Wallet.admitted_apply hseller seller⟩
  exact ((ht.addTrade hadmitted).putWallet hwallets.1).putWallet hwallets.2

theorem FillRequest.Filled.sound {request : FillRequest} {now : Instant} {t t' : Tables} {r : FillReport} {o : Order}
    (h : request.Filled now t r o t') (ht : t.Sound) : t'.Sound := by
  obtain ⟨-, hleast, hmost, -⟩ := FillRequest.check_ok h.allowed
  obtain ⟨hprice, hamount, hnonneg, -⟩ := Order.admitted_iff.mp (ht.orders o (Tables.order?_eq_some.mp h.order).1)
  rw [h.rows]
  exact ht.putOrder (Order.admitted_iff.mpr ⟨hprice, hamount, hnonneg.trans hleast, hmost⟩)

theorem Transfer.check_ok {t : Transfer} {rates : FeeRates} (h : t.check rates = .ok ()) :
    0 < t.amount.value ∧ 0 ≤ rates.makerFee.value ∧ 0 ≤ rates.takerFee.value := by
  rw [check] at h
  split at h
  · cases h
  · next hamount =>
      split at h
      · cases h
      · next hrates =>
          rw [Decimal.le_iff_value, Decimal.value_zero, not_le] at hamount
          rw [not_or, Decimal.lt_iff_value, Decimal.lt_iff_value, Decimal.value_zero, not_lt, not_lt] at hrates
          exact ⟨hamount, hrates⟩

theorem Transfer.Posted.sound {transfer : Transfer} {sizing : SizingPolicy} {rates : FeeRates} {ids : IdSupply}
    {now : Instant} {t t' : Tables} {p : Posting} (h : transfer.Posted sizing rates ids now t p t')
    (hcheck : transfer.check rates = .ok ()) (ht : t.Sound) : t'.Sound := by
  obtain ⟨hrequested, hrates⟩ := Transfer.check_ok hcheck
  have hnonneg := h.nonneg
  rw [Decimal.le_iff_value, Decimal.value_zero] at hnonneg
  have hentry : Admitted p.entry := by
    rw [h.entry]
    exact LedgerEntry.admitted_iff.mpr ⟨hrequested, hnonneg⟩
  have hfee : Admitted p.fee := by
    rw [h.fee]
    exact FeeSchedule.admitted_iff.mpr hrates
  rw [h.rows]
  exact (ht.addEntry hentry).addFee hfee

theorem Tables.not_taken {t : Tables} {r : Registration} (h : t.duplicateOf? r = none) :
    ∀ u ∈ t.users.rows, u.username ≠ r.username ∧ u.email ≠ r.email := by
  rw [duplicateOf?] at h
  split at h
  · cases h
  · next hname =>
      split at h
      · cases h
      · next hemail =>
          simp only [Table.find?, List.find?_isSome, decide_eq_true_eq, not_exists, not_and] at hname hemail
          exact fun u hu => ⟨hname u hu, hemail u hu⟩

theorem Registration.Registered.sound {r : Registration} {options : TaskOptions} {ids : IdSupply} {now : Instant}
    {t t' : Tables} {u : RegisteredUser} (h : r.Registered options ids now t u t') (ht : t.Sound) : t'.Sound := by
  have hnew := Tables.not_taken h.unique
  have huser : (t.putUser u.user).Sound := by
    refine ht.putUser fun v hv _ => ?_
    rw [h.user]
    exact hnew v hv
  rw [h.rows]
  exact { huser with outbox := Table.forall_mem_insert (OutboxMessage.admitted _) huser.outbox }

theorem Verification.Verified.sound {id : Int} {secretCode : String} {now : Instant} {t t' : Tables}
    {r : VerifiedUser} (h : Verified id secretCode now t r t') (ht : t.Sound) : t'.Sound := by
  have hcode : (t.putVerification r.verification).Sound :=
    { ht with verifications := Table.forall_mem_insert r.verification.admitted ht.verifications }
  obtain ⟨u, hu, huser⟩ := h.user
  have hmem := (Table.mem_of_find? hu).1
  rw [h.rows]
  refine hcode.putUser fun v hv hkey => ?_
  rw [huser] at hkey ⊢
  -- Another user shares neither name nor email with the user who is verified.
  have hne : v ≠ u := fun heq => hkey (heq ▸ rfl)
  exact not_or.mp fun hsame => hne (ht.distinct v hv u hmem hsame)

theorem Command.Effect.sound [Courier κ] {s : Service} {c : Command} {w w' : World MemoryStore κ} {r : c.Result}
    (h : c.Effect s w w' r) (hcheck : (s.operation c).check = .ok ()) (ht : w.store.committed.Sound) :
    w'.store.committed.Sound := by
  cases c with
  | settleTrade e => exact Execution.Settled.sound h hcheck ht
  | updateFill request =>
      obtain ⟨o, hfilled⟩ := h
      exact hfilled.sound ht
  | postTransfer t rates => exact Transfer.Posted.sound h hcheck ht
  | moveEntry id status =>
      obtain ⟨e, hmoved⟩ := h
      rw [hmoved.rows]
      exact ht.moveEntry id status
  | registerUser registration => exact Registration.Registered.sound h ht
  | verifyEmail id code => exact Verification.Verified.sound h ht
  | checkCurrencies userId base quote =>
      rw [h.2.2]
      exact ht
  | publishBatch config =>
      obtain ⟨outbox, hrows⟩ := Effect.batch_rows h
      rw [hrows]
      exact { ht with outbox := fun m _ => m.admitted }

namespace Action

variable [Courier κ]

/-- A row that is seeded passes the checks of its table, and a user's name and email are new. -/
def SeedsAdmitted (w : World MemoryStore κ) : Action κ → Prop
  | .seedUser username email =>
    ∀ u ∈ w.store.committed.users.rows, u.username ≠ username ∧ u.email ≠ email
  | .seedWallet userId currency balance => Admitted (w.store.seedWallet userId currency balance).1
  | .seedMarket base quote => Admitted (w.store.seedMarket base quote).1
  | .seedOrder userId marketId side price amount =>
    Admitted (w.store.seedOrder userId marketId side price amount).1
  | .seedVerification username email secretCode seconds =>
    Admitted (w.store.seedVerification username email secretCode seconds).1
  | .injectFault .. | .setIds _ | .setClock _ | .setCourier _ | .perform .. => True

theorem sound {w : World MemoryStore κ} (a : Action κ) (hseed : a.SeedsAdmitted w) (h : w.store.committed.Sound) :
    (a.apply w).store.committed.Sound := by
  cases a with
  | seedUser username email => exact h.putUser fun v hv _ => hseed v hv
  | seedWallet userId currency balance => exact h.putWallet hseed
  | seedMarket base quote => exact h.putMarket hseed
  | seedOrder userId marketId side price amount => exact h.putOrder hseed
  | seedVerification username email secretCode seconds =>
      exact { h with verifications := Table.forall_mem_insert hseed h.verifications }
  | injectFault point e | setIds ids | setClock now | setCourier courier => exact h
  | perform s c =>
      rcases s.committed_perform c w with hsame | ⟨hcheck, r, heffect⟩
      · exact hsame ▸ h
      · exact heffect.sound hcheck h

end Action

/-- Over any run whose seeded rows pass the checks of their tables, every committed row passes them, and no two
users share a name or an email. -/
theorem World.constraints_kept [Courier κ] {w : World MemoryStore κ} {actions : List (Action κ)}
    (hsound : w.store.committed.Sound) (hseeds : w.Along Action.SeedsAdmitted actions) :
    (w.after actions).store.committed.Sound :=
  hseeds.invariant hsound fun _ a hseed h => a.sound hseed h

/-- A run in which a buyer spends the whole balance, an order is filled in part, a withdrawal empties the other
wallet and a second user asks for an email that is taken. -/
def boundaryRun : List (Action Mailbox) :=
  let market := IdSupply.numbered 4
  let withdrawal : Transfer := {
    userId := .ofNat 2, kind := .withdrawal, currency := "USDT", amount := .ofCoeff 10 0, status := .pending
    address := none, txHash := none }
  [.seedUser "ann" "ann@example.org",
   .seedWallet (.ofNat 1) "USDT" (.ofCoeff 10 0), .seedWallet (.ofNat 2) "USDT" .zero, .seedMarket "BTC" "USDT",
   .seedOrder (.ofNat 1) market .buy (.ofCoeff 5 0) (.ofCoeff 2 0),
   .seedOrder (.ofNat 2) market .sell (.ofCoeff 5 0) (.ofCoeff 2 0),
   .perform {} (.settleTrade {
      buyOrderId := IdSupply.numbered 5
      sellOrderId := IdSupply.numbered 6
      marketId := market
      price := .ofCoeff 5 0
      quantity := .ofCoeff 2 0
      fee := .zero }),
   .perform {} (.updateFill ⟨IdSupply.numbered 5, .partiallyFilled, .ofCoeff 1 0⟩),
   .perform { sizing := .accountBalance } (.postTransfer withdrawal ⟨market, .zero, .zero⟩),
   .perform {} (.registerUser { username := "bob", email := "ann@example.org", passwordHash := "", role := .user })]

theorem boundaryRun_seedsAdmitted : emptyWorld.Along Action.SeedsAdmitted boundaryRun := by
  have hpositive : 0 < (Decimal.ofCoeff 10 0).value ∧ 0 < (Decimal.ofCoeff 5 0).value ∧
      0 < (Decimal.ofCoeff 2 0).value := by
    simp (disch := decide) only [Decimal.value_ofCoeff]
    norm_num
  have hzero : 0 ≤ Decimal.zero.value := Decimal.value_zero.ge
  obtain ⟨hten, hfive, htwo⟩ := hpositive
  have horder : ∀ (w : World MemoryStore Mailbox) (userId marketId : Uuid) (side : OrderSide),
      (Action.seedOrder userId marketId side (.ofCoeff 5 0) (.ofCoeff 2 0)).SeedsAdmitted w :=
    fun _ _ _ _ => Order.admitted_iff.mpr ⟨hfive, htwo, hzero, Decimal.value_zero.trans_le htwo.le⟩
  refine .cons (fun u hu => absurd hu List.not_mem_nil) ?_
  refine .cons (Wallet.admitted_iff.mpr ⟨hten.le, hzero⟩) ?_
  refine .cons (Wallet.admitted_iff.mpr ⟨hzero, hzero⟩) ?_
  refine .cons (Market.admitted_iff.mpr hzero) ?_
  refine .cons (horder _ _ _ _) (.cons (horder _ _ _ _) ?_)
  exact .cons trivial (.cons trivial (.cons trivial (.cons trivial .nil)))

theorem World.boundaryRun_sound :
    (emptyWorld.after boundaryRun).store.committed.Sound ∧
      (emptyWorld.after boundaryRun).store.committed.trades.length = 1 ∧
      (emptyWorld.after boundaryRun).store.committed.ledger.length = 1 ∧
      (emptyWorld.after boundaryRun).store.committed.users.rows.length = 1 :=
  ⟨constraints_kept .empty boundaryRun_seedsAdmitted, by decide +kernel, by decide +kernel, by decide +kernel⟩

end Clearing
