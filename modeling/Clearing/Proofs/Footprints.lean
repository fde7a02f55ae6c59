import Clearing.Proofs.History
import Clearing.Proofs.Lemmas.RowByRow

/-!
# Footprints

Every command changes a few fields of a few named rows or adds rows, and leaves all other rows and fields as they
are. So no row is lost over a run, and of every row the greater part stays as it was written.
-/

namespace Clearing

/-! ## What of a row is fixed

Of each kind of row, all but the columns that commands may change: these are put to one and the same value.
-/

def User.fixed (u : User) : User := { u with isVerified := false }

def Wallet.fixed (v : Wallet) : Wallet := { v with balance := .zero }

def Order.fixed (o : Order) : Order := { o with status := .opened, filledAmount := .zero, updatedAt := .epoch }

def Verification.fixed (v : Verification) : Verification := { v with isUsed := false }

def OutboxMessage.fixed (m : OutboxMessage) : OutboxMessage :=
  { m with status := .pending, attempts := 0, lastError := none, publishedAt := none }

def LedgerEntry.fixed (e : LedgerEntry) : LedgerEntry := { e with status := .pending }

/-- A row is as it was, or it is one of those named and keeps what is fixed of it. -/
def Changes {ρ : Type} (fixed : ρ → ρ) (named : ρ → Prop) (r r' : ρ) : Prop :=
  r' = r ∨ named r ∧ fixed r' = fixed r

namespace Changes

variable {ρ : Type} {fixed : ρ → ρ} {named : ρ → Prop} {r r' : ρ}

theorem refl (r : ρ) : Changes fixed named r r := .inl rfl

theorem fixed_eq (h : Changes fixed named r r') : fixed r' = fixed r := by
  rcases h with rfl | ⟨-, h⟩
  · rfl
  · exact h

theorem sameKey [Keyed ρ] (hfixed : ∀ r, Keyed.key (fixed r) = Keyed.key r) :
    Table.SameKey (Changes fixed named) := by
  intro r r' h
  rw [← hfixed r', h.fixed_eq, hfixed]

end Changes

/-! ## What a command changes -/

namespace Command

/-- The only changes that a command makes to the rows when it succeeds. -/
def Frame (t t' : Tables) : Command → Prop
  | .settleTrade e => ∃ p trade wallets, e.Found t p ∧
      t.wallets.RowByRow (Changes Wallet.fixed fun v => v = p.buyer ∨ v = p.seller) wallets ∧
      t' = { t with trades := t.trades ++ [trade], wallets := wallets }
  | .updateFill request => ∃ orders,
      t.orders.RowByRow (Changes Order.fixed fun o => o.id = request.orderId) orders ∧
      t' = { t with orders := orders }
  | .postTransfer .. => ∃ entry fee, t' = { t with ledger := t.ledger ++ [entry], fees := t.fees ++ [fee] }
  | .moveEntry id _ => ∃ before e e' after, e.id = id ∧ e'.fixed = e.fixed ∧ t.ledger = before ++ e :: after ∧
      t' = { t with ledger := before ++ e' :: after }
  | .registerUser _ => ∃ u m users outbox, t.users.Gains u users ∧ t.outbox.Gains m outbox ∧ m.id = t.nextOutboxId ∧
      t' = { t with users := users, outbox := outbox, nextOutboxId := t.nextOutboxId + 1 }
  | .verifyEmail id _ => ∃ v u verifications users, t.verification? id = some v ∧ t.userNamed? v.username = some u ∧
      t.verifications.RowByRow (Changes Verification.fixed (· = v)) verifications ∧
      t.users.RowByRow (Changes User.fixed (· = u)) users ∧
      t' = { t with verifications := verifications, users := users }
  | .checkCurrencies .. => t' = t
  | .publishBatch _ => ∃ outbox,
      t.outbox.RowByRow (Changes OutboxMessage.fixed fun m => m.status = .pending) outbox ∧
      t' = { t with outbox := outbox }

/-- The identifier and the number under which a command adds rows belong to no row yet. -/
def AddsNew {κ : Type} (w : World MemoryStore κ) : Command → Prop
  | .registerUser _ => w.store.committed.users.get? w.store.ids.next.value = none ∧
      w.store.committed.outboxRow? w.store.committed.nextOutboxId = none
  | _ => True

end Command

theorem Execution.Moved.fixed {e : Execution} {t : Tables} {p : Parties} {b s : Wallet} (h : e.Moved p b s)
    (hfound : e.Found t p) : b.fixed = p.buyer.fixed ∧ s.fixed = p.seller.fixed := by
  cases h with
  | within same =>
      rw [← hfound.buyer_eq_seller same]
      exact ⟨rfl, rfl⟩
  | between => exact ⟨rfl, rfl⟩

theorem Execution.Settled.frame {e : Execution} {ids : IdSupply} {now : Instant} {t t' : Tables} {s : Settlement}
    (h : e.Settled ids now t s t') : (Command.settleTrade e).Frame t t' := by
  obtain ⟨⟨p, hfound, hmoved⟩, -, hrows⟩ := h
  obtain ⟨hbuyer, hseller⟩ := hmoved.fixed hfound
  have hkey : Table.SameKey (Changes Wallet.fixed fun v => v = p.buyer ∨ v = p.seller) := Changes.sameKey fun _ => rfl
  have hfirst := (Table.RowByRow.refl Changes.refl t.wallets).write hkey (Tables.walletOf?_eq_some hfound.buyer).1
    (.inr ⟨.inl rfl, hbuyer⟩)
  have hboth := hfirst.write hkey (Tables.walletOf?_eq_some hfound.seller).1 (.inr ⟨.inr rfl, hseller⟩)
  exact ⟨p, s.trade, _, hfound, hboth, hrows⟩

theorem FillRequest.Filled.frame {request : FillRequest} {now : Instant} {t t' : Tables} {r : FillReport} {o : Order}
    (h : request.Filled now t r o t') : (Command.updateFill request).Frame t t' := by
  obtain ⟨hmem, hid⟩ := Tables.order?_eq_some.mp h.order
  have hfilled : Changes Order.fixed (fun o => o.id = request.orderId) o (request.updated now o) := .inr ⟨hid, rfl⟩
  exact ⟨_, (Table.RowByRow.refl Changes.refl t.orders).write (Changes.sameKey fun _ => rfl) hmem hfilled, h.rows⟩

theorem Tables.moveEntry_eq {id : Uuid} (status : TransferStatus) {entries : List LedgerEntry} {e : LedgerEntry}
    (h : entries.find? (·.id = id) = some e) :
    ∃ before after, entries = before ++ e :: after ∧
      moveEntry id status entries = before ++ { e with status := status } :: after := by
  induction entries with
  | nil => cases h
  | cons first rest ih =>
      rw [moveEntry]
      by_cases hid : first.id = id
      · rw [List.find?_cons_of_pos (by simpa using hid)] at h
        obtain rfl := Option.some.inj h
        rw [if_pos hid]
        exact ⟨[], rest, rfl, rfl⟩
      · rw [List.find?_cons_of_neg (by simpa using hid)] at h
        obtain ⟨before, after, hrest, hmoved⟩ := ih h
        rw [if_neg hid, hmoved, hrest]
        exact ⟨first :: before, after, rfl, rfl⟩

theorem LedgerEntry.Moved.frame {id : Uuid} {status : TransferStatus} {t t' : Tables} {r e : LedgerEntry}
    (h : LedgerEntry.Moved id status t r e t') : (Command.moveEntry id status).Frame t t' := by
  have hid : e.id = id := by simpa using List.find?_some h.entry
  obtain ⟨before, after, hledger, hmoved⟩ := Tables.moveEntry_eq status h.entry
  exact ⟨before, e, { e with status := status }, after, hid, rfl, hledger, by rw [h.rows, hmoved]⟩

theorem Verification.Verified.frame {id : Int} {code : String} {now : Instant} {t t' : Tables} {r : VerifiedUser}
    (h : Verification.Verified id code now t r t') : (Command.verifyEmail id code).Frame t t' := by
  obtain ⟨v, hv, -, hused⟩ := h.code
  obtain ⟨u, hu, hverified⟩ := h.user
  rw [hused] at hu
  refine ⟨v, u, _, _, hv, hu, ?_, ?_, h.rows⟩
  · exact (Table.RowByRow.refl Changes.refl _).write (Changes.sameKey fun _ => rfl) (Table.mem_of_get? hv).1
      (.inr ⟨rfl, by rw [hused]; rfl⟩)
  · exact (Table.RowByRow.refl Changes.refl _).write (Changes.sameKey fun _ => rfl) (Table.mem_of_find? hu).1
      (.inr ⟨rfl, by rw [hverified]; rfl⟩)

/-- A batch changes only the rows that it hands over, which are pending when it begins. -/
theorem PublisherConfig.handRows_changes {κ : Type} [Courier κ] (c : PublisherConfig) (now : Instant) {t u : Tables}
    {rows : List OutboxMessage} (hrows : ∀ m ∈ rows, m ∈ t.outbox.rows ∧ m.status = .pending)
    (h : t.outbox.RowByRow (Changes OutboxMessage.fixed fun m => m.status = .pending) u.outbox) (k : κ)
    (r : BatchReport) :
    t.outbox.RowByRow (Changes OutboxMessage.fixed fun m => m.status = .pending)
      (c.handRows now rows k u r).2.1.outbox := by
  induction rows generalizing k u r with
  | nil => exact h
  | cons m rest ih =>
      obtain ⟨hmem, hpending⟩ := hrows m (List.mem_cons_self ..)
      have hfixed : (c.recorded now m (Courier.hand m k).result).fixed = m.fixed := by
        cases (Courier.hand m k).result <;> rfl
      exact ih (fun x hx => hrows x (List.mem_cons_of_mem _ hx))
        (h.write (Changes.sameKey fun _ => rfl) hmem (.inr ⟨hpending, hfixed⟩)) _ _

variable {κ : Type} [Courier κ]

theorem Command.Effect.frame {s : Service} {w w' : World MemoryStore κ} {c : Command} {r : c.Result}
    (h : c.Effect s w w' r) (hnew : c.AddsNew w) : c.Frame w.store.committed w'.store.committed := by
  cases c with
  | settleTrade e => exact Execution.Settled.frame h
  | updateFill request =>
      obtain ⟨o, hfilled⟩ := h
      exact hfilled.frame
  | postTransfer transfer rates => exact ⟨r.entry, r.fee, h.rows⟩
  | moveEntry id status =>
      obtain ⟨e, hmoved⟩ := h
      exact hmoved.frame
  | registerUser registration =>
      refine ⟨_, _, _, _, Table.gains_insert ?_, Table.gains_insert ?_, rfl, h.rows⟩
      · rw [h.user]
        exact hnew.1
      · exact hnew.2
  | verifyEmail id code => exact Verification.Verified.frame h
  | checkCurrencies userId base quote => exact h.2.2
  | publishBatch config =>
      obtain ⟨outbox, hrows⟩ := Effect.batch_rows h
      refine ⟨w'.store.committed.outbox, ?_, ?_⟩
      · rw [show w'.store.committed = _ from congrArg (fun x => x.2.1) h]
        refine config.handRows_changes _ (fun m hm => ?_) (Table.RowByRow.refl Changes.refl _) _ _
        have hmem := List.mem_of_mem_take hm
        simpa [Table.filter] using hmem
      · rw [hrows]

/-! ## What a run keeps -/

namespace Tables

/-- What is fixed of the rows is still there, in order; trades and fee rows are as they were, and new ones follow. -/
structure Kept (t t' : Tables) : Prop where
  users : (t.users.rows.map User.fixed).Sublist (t'.users.rows.map User.fixed)
  wallets : (t.wallets.rows.map Wallet.fixed).Sublist (t'.wallets.rows.map Wallet.fixed)
  markets : t.markets.rows.Sublist t'.markets.rows
  orders : (t.orders.rows.map Order.fixed).Sublist (t'.orders.rows.map Order.fixed)
  verifications :
    (t.verifications.rows.map Verification.fixed).Sublist (t'.verifications.rows.map Verification.fixed)
  outbox : (t.outbox.rows.map OutboxMessage.fixed).Sublist (t'.outbox.rows.map OutboxMessage.fixed)
  trades : t.trades <+: t'.trades
  fees : t.fees <+: t'.fees
  ledger : t.ledger.map LedgerEntry.fixed <+: t'.ledger.map LedgerEntry.fixed

/-- Verifications and outbox rows have been numbered in turn. -/
structure Numbered (t : Tables) : Prop where
  verifications : ∀ v ∈ t.verifications.rows, v.id < t.nextVerificationId
  outbox : ∀ m ∈ t.outbox.rows, m.id < t.nextOutboxId

variable {t t' t'' : Tables}

theorem Kept.refl (t : Tables) : t.Kept t :=
  ⟨.refl _, .refl _, .refl _, .refl _, .refl _, .refl _, List.prefix_rfl, List.prefix_rfl, List.prefix_rfl⟩

theorem Kept.trans (h : t.Kept t') (h' : t'.Kept t'') : t.Kept t'' :=
  ⟨h.users.trans h'.users, h.wallets.trans h'.wallets, h.markets.trans h'.markets, h.orders.trans h'.orders,
   h.verifications.trans h'.verifications, h.outbox.trans h'.outbox, h.trades.trans h'.trades,
   h.fees.trans h'.fees, h.ledger.trans h'.ledger⟩

end Tables

theorem Table.RowByRow.fixed_sublist {ρ : Type} [Keyed ρ] {fixed : ρ → ρ} {named : ρ → Prop} {t t' : Table ρ}
    (h : t.RowByRow (Changes fixed named) t') : (t.rows.map fixed).Sublist (t'.rows.map fixed) := by
  rw [h.map_eq fun _ _ hr => hr.fixed_eq]

namespace Command

variable {c : Command} {t t' : Tables}

theorem Frame.kept (h : c.Frame t t') : t.Kept t' := by
  cases c with
  | settleTrade e =>
      obtain ⟨p, trade, wallets, -, hwallets, rfl⟩ := h
      exact { Tables.Kept.refl t with wallets := hwallets.fixed_sublist, trades := List.prefix_append .. }
  | updateFill request =>
      obtain ⟨orders, horders, rfl⟩ := h
      exact { Tables.Kept.refl t with orders := horders.fixed_sublist }
  | postTransfer transfer rates =>
      obtain ⟨entry, fee, rfl⟩ := h
      exact { Tables.Kept.refl t with
        fees := List.prefix_append ..
        ledger := (List.prefix_append ..).map _ }
  | moveEntry id status =>
      obtain ⟨before, e, e', after, -, hfixed, hledger, rfl⟩ := h
      refine { Tables.Kept.refl t with ledger := ?_ }
      rw [hledger, List.map_append, List.map_append, List.map_cons, List.map_cons, hfixed]
  | registerUser registration =>
      obtain ⟨u, m, users, outbox, husers, houtbox, -, rfl⟩ := h
      exact { Tables.Kept.refl t with users := husers.sublist.map _, outbox := houtbox.sublist.map _ }
  | verifyEmail id code =>
      obtain ⟨v, u, verifications, users, -, -, hverifications, husers, rfl⟩ := h
      exact { Tables.Kept.refl t with
        users := husers.fixed_sublist
        verifications := hverifications.fixed_sublist }
  | checkCurrencies userId base quote =>
      rw [show t' = t from h]
      exact .refl t
  | publishBatch config =>
      obtain ⟨outbox, houtbox, rfl⟩ := h
      exact { Tables.Kept.refl t with outbox := houtbox.fixed_sublist }

theorem Frame.numbered (h : c.Frame t t') (ht : t.Numbered) : t'.Numbered := by
  cases c with
  | settleTrade e =>
      obtain ⟨p, trade, wallets, -, -, rfl⟩ := h
      exact ⟨ht.verifications, ht.outbox⟩
  | updateFill request =>
      obtain ⟨orders, -, rfl⟩ := h
      exact ⟨ht.verifications, ht.outbox⟩
  | postTransfer transfer rates =>
      obtain ⟨entry, fee, rfl⟩ := h
      exact ⟨ht.verifications, ht.outbox⟩
  | moveEntry id status =>
      obtain ⟨before, e, e', after, -, -, -, rfl⟩ := h
      exact ⟨ht.verifications, ht.outbox⟩
  | registerUser registration =>
      obtain ⟨u, m, users, outbox, -, houtbox, hnumber, rfl⟩ := h
      refine ⟨ht.verifications, fun x hx => ?_⟩
      rcases houtbox.mem hx with rfl | hold
      · exact hnumber ▸ Int.lt_succ _
      · exact (ht.outbox x hold).trans (Int.lt_succ _)
  | verifyEmail id code =>
      obtain ⟨v, u, verifications, users, -, -, hverifications, -, rfl⟩ := h
      refine ⟨?_, ht.outbox⟩
      exact hverifications.forall_key (P := (· < t.nextVerificationId)) (Changes.sameKey fun _ => rfl) ht.verifications
  | checkCurrencies userId base quote =>
      rw [show t' = t from h]
      exact ht
  | publishBatch config =>
      obtain ⟨outbox, houtbox, rfl⟩ := h
      exact ⟨ht.verifications,
        houtbox.forall_key (P := (· < t.nextOutboxId)) (Changes.sameKey fun _ => rfl) ht.outbox⟩

end Command

namespace Action

/-- The identifier of a row that an action adds belongs to no row of its kind yet. -/
def AddsNew (w : World MemoryStore κ) : Action κ → Prop
  | .seedUser .. | .perform _ (.registerUser _) => w.store.committed.users.get? w.store.ids.next.value = none
  | .seedWallet .. => w.store.committed.wallet? w.store.ids.next = none
  | .seedMarket .. => w.store.committed.market? w.store.ids.next = none
  | .seedOrder .. => w.store.committed.order? w.store.ids.next = none
  | _ => True

theorem keeps {w : World MemoryStore κ} {a : Action κ} (ha : a.AddsNew w) (hw : w.store.committed.Numbered) :
    (a.apply w).store.committed.Numbered ∧ w.store.committed.Kept (a.apply w).store.committed := by
  have hkept := Tables.Kept.refl w.store.committed
  have hframe : ∀ (s : Service) (c : Command), c.AddsNew w → (s.perform c w).2.store.committed.Numbered ∧
      w.store.committed.Kept (s.perform c w).2.store.committed := by
    intro s c hc
    rcases s.committed_perform c w with hsame | ⟨-, r, heffect⟩
    · rw [hsame]
      exact ⟨hw, hkept⟩
    · exact ⟨(heffect.frame hc).numbered hw, (heffect.frame hc).kept⟩
  cases a with
  | seedUser username email =>
      have hgains := Table.gains_insert (t := w.store.committed.users) (r := (w.store.seedUser username email).1) ha
      exact ⟨⟨hw.verifications, hw.outbox⟩, { hkept with users := hgains.sublist.map _ }⟩
  | seedWallet userId currency balance =>
      have hgains := Table.gains_insert (t := w.store.committed.wallets)
        (r := (w.store.seedWallet userId currency balance).1) ha
      exact ⟨⟨hw.verifications, hw.outbox⟩, { hkept with wallets := hgains.sublist.map _ }⟩
  | seedMarket base quote =>
      have hgains := Table.gains_insert (t := w.store.committed.markets) (r := (w.store.seedMarket base quote).1) ha
      exact ⟨⟨hw.verifications, hw.outbox⟩, { hkept with markets := hgains.sublist }⟩
  | seedOrder userId marketId side price amount =>
      have hgains := Table.gains_insert (t := w.store.committed.orders)
        (r := (w.store.seedOrder userId marketId side price amount).1) ha
      exact ⟨⟨hw.verifications, hw.outbox⟩, { hkept with orders := hgains.sublist.map _ }⟩
  | seedVerification username email code seconds =>
      have hrows := Table.rows_insert_of_lt (r := (w.store.seedVerification username email code seconds).1)
        hw.verifications
      refine ⟨⟨?_, hw.outbox⟩, { hkept with verifications := ?_ }⟩
      · exact Table.forall_mem_insert (Int.lt_succ _) fun v hv => (hw.verifications v hv).trans (Int.lt_succ _)
      · exact (hrows ▸ List.sublist_append_left ..).map _
  | injectFault point e | setIds ids | setClock now | setCourier courier => exact ⟨hw, hkept⟩
  | perform s c =>
      apply hframe
      cases c with
      | registerUser registration =>
          exact ⟨ha, Table.get?_eq_none fun m hm => (hw.outbox m hm).ne⟩
      | _ => trivial

end Action

/-- A command that fails changes no row, and one that succeeds changes no more than its frame; over a run whose new
rows take new identifiers, all rows are kept. -/
theorem World.footprints :
    (∀ (s : Service) (c : Command) (w : World MemoryStore κ), match s.perform c w with
      | (.error _, w') => w'.store.committed = w.store.committed
      | (.ok _, w') => c.AddsNew w → c.Frame w.store.committed w'.store.committed) ∧
    ∀ (w : World MemoryStore κ) (actions : List (Action κ)), w.store.committed.Numbered →
      w.Along (fun w a => a.AddsNew w) actions → ∀ m n, m ≤ n →
        (w.stateAt actions m).store.committed.Kept (w.stateAt actions n).store.committed := by
  constructor
  · intro s c w
    split
    -- A failure rolls everything back.
    · next h => exact (Service.counts_of_error h).1
    · next h => exact (Command.effect_of_perform h).frame
  -- Along a run, rows stay numbered in turn, so outbox rows and verifications are never overwritten.
  · intro w actions hnumbered hnew m n hmn
    exact hnew.between (I := fun w => w.store.committed.Numbered)
      (R := fun v w => v.store.committed.Kept w.store.committed) hnumbered (fun v a ha hv => Action.keeps ha hv)
      (fun v => .refl _) (fun u v x => .trans) hmn

/-- A run in which a trade is struck by a failure, then settled, and a user registers. -/
def footprintRun : List (Action Mailbox) :=
  let trade : Command := .settleTrade {
    buyOrderId := IdSupply.numbered 4
    sellOrderId := IdSupply.numbered 5
    marketId := IdSupply.numbered 3
    price := .ofCoeff 100 0
    quantity := .ofCoeff 5 0
    fee := .ofCoeff 10 0 }
  [.seedWallet (.ofNat 1) "USDT" (.ofCoeff 1000 0),
   .seedWallet (.ofNat 2) "USDT" (.ofCoeff 500 0),
   .seedMarket "BTC" "USDT",
   .seedOrder (.ofNat 1) (IdSupply.numbered 3) .buy .zero .zero,
   .seedOrder (.ofNat 2) (IdSupply.numbered 3) .sell .zero .zero,
   .injectFault .insertTrade (.conflict "40001"),
   .perform {} trade,
   .perform {} trade,
   .perform {} (.registerUser { username := "ann", email := "ann@example.org", passwordHash := "", role := .user })]

theorem footprintRun_addsNew : emptyWorld.Along (fun w a => a.AddsNew w) footprintRun := by
  refine .cons rfl (.cons rfl (.cons rfl (.cons rfl (.cons rfl ?_))))
  exact .cons trivial (.cons trivial (.cons trivial (.cons rfl .nil)))

theorem World.footprintRun_keeps :
    let registration : Command :=
      .registerUser { username := "ann", email := "ann@example.org", passwordHash := "", role := .user }
    let seeded := emptyWorld.stateAt footprintRun 5
    let settled := emptyWorld.stateAt footprintRun 8
    let after := emptyWorld.stateAt footprintRun 9
    seeded.store.committed.Kept after.store.committed ∧
      registration.Frame settled.store.committed (Service.perform {} registration settled).2.store.committed ∧
      seeded.store.committed.wallets.rows.map (·.balance) = [.ofCoeff 1000 0, .ofCoeff 500 0] ∧
      after.store.committed.wallets.rows.map (·.balance) = [.ofCoeff 490 0, .ofCoeff 990 0] ∧
      after.store.committed.trades.length = 1 := by
  intro registration seeded settled after
  obtain ⟨hframe, hkept⟩ := footprints (κ := Mailbox)
  have hnumbered : emptyWorld.store.committed.Numbered :=
    ⟨fun v hv => absurd hv List.not_mem_nil, fun m hm => absurd hm List.not_mem_nil⟩
  have hregistered := hframe {} registration settled
  have hok : (Service.perform {} registration settled).1.isOk = true := by decide +kernel
  refine ⟨hkept emptyWorld footprintRun hnumbered footprintRun_addsNew 5 9 (by decide), ?_, by decide +kernel,
    by decide +kernel, by decide +kernel⟩
  cases hperform : Service.perform {} registration settled with
  | mk result w' =>
      rw [hperform] at hregistered hok
      cases result with
      | error e => cases hok
      | ok r => exact hregistered ⟨rfl, rfl⟩

end Clearing
