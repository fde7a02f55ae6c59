import Clearing.Memory.Store
import Clearing.Operation

/-!
# Transactions of a store in memory

What a successful query tells about the draft, what a unit of work leaves alone until its transaction ends,
and how an operation ends its transaction.
-/

namespace Clearing

variable {α β σ κ : Type}

/-! ## Units of work that succeed -/

namespace Work

section Generic

variable [Store σ] [Courier κ] {w w' : World σ κ}

theorem bind_ok {x : Work α} {f : α → Work β} {b : β} (h : (x >>= f).run w = (.ok b, w')) :
    ∃ a w₁, x.run w = (.ok a, w₁) ∧ (f a).run w₁ = (.ok b, w') := by
  replace h : (x.bind f).run w = (.ok b, w') := h
  rw [run_bind] at h
  split at h
  · exact ⟨_, _, ‹_›, h⟩
  · cases h

theorem done_ok {a b : α} (h : (Work.done a).run w = (.ok b, w')) : a = b ∧ w = w' := by
  simpa only [run, Prod.mk.injEq, Except.ok.injEq] using h

theorem pure_ok {a b : α} (h : (pure a : Work α).run w = (.ok b, w')) : a = b ∧ w = w' := done_ok h

theorem ofExcept_ok {x : Except SettlementError α} {a : α} (h : (ofExcept x).run w = (.ok a, w')) :
    x = .ok a ∧ w = w' := by
  cases x with
  | ok b =>
      obtain ⟨rfl, hw⟩ := done_ok h
      exact ⟨rfl, hw⟩
  | error e => cases h

theorem ofOption_ok {e : SettlementError} {x : Option α} {a : α} (h : (ofOption e x).run w = (.ok a, w')) :
    x = some a ∧ w = w' := by
  cases x with
  | some b =>
      obtain ⟨rfl, hw⟩ := done_ok h
      exact ⟨rfl, hw⟩
  | none => cases h

theorem require_ok {condition : Bool} {e : SettlementError} {u : Unit}
    (h : (require condition e).run w = (.ok u, w')) : condition = true ∧ w = w' := by
  cases condition with
  | true => exact ⟨rfl, (done_ok h).2⟩
  | false => cases h

theorem report_ok {e : Event} {u : Unit} (h : (report e).run w = (.ok u, w')) : w' = w.note e :=
  (done_ok h).2.symm

theorem deliver_ok {m : OutboxMessage} {x : Except QueueUnavailable String}
    (h : (deliver m).run w = (.ok x, w')) :
    x = (Courier.hand m w.courier).result ∧ w'.store = w.store ∧
      w'.courier = (Courier.hand m w.courier).state := by
  obtain ⟨rfl, rfl⟩ := done_ok h
  exact ⟨rfl, rfl, rfl⟩

theorem ask_ok {q : Query} {context : String} {r : q.Reply}
    (h : (query q context).run w = (.ok r, w')) : w.ask q = (.ok r, w') := by
  simp only [query, run] at h
  split at h
  · next hq =>
      obtain ⟨rfl, rfl⟩ := done_ok h
      exact hq
  · cases h

end Generic
end Work

/-! ## Queries to the draft -/

/-- What a reply says of the rows it was given from, and which rows it leaves behind. -/
def Tables.Answers (t : Tables) (fresh : Uuid) (now : Instant) : (q : Query) → q.Reply → Tables → Prop
  | .getOrder id, o, t' | .lockOrder id, o, t' => t.order? id = some o ∧ t' = t
  | .updateOrder id status filled, o', t' => ∃ o, t.order? id = some o ∧
      o' = { o with status := status, filledAmount := filled, updatedAt := now } ∧ t' = t.putOrder o'
  | .getMarket id, m, t' => t.market? id = some m ∧ t' = t
  | .insertFee rates, fee, t' => fee = rates.toSchedule fresh now ∧ t' = t.addFee fee
  | .findWallet userId currency, w, t' => t.walletOf? userId currency = some w ∧ t' = t
  | .lockWallet id, w, t' => t.wallet? id = some w ∧ t' = t
  | .updateWallet id balance lockedBalance, w', t' => ∃ w, t.wallet? id = some w ∧
      w' = { w with balance := balance, lockedBalance := lockedBalance } ∧ t' = t.putWallet w'
  | .listUserWallets userId, ws, t' => ws = t.walletsOf userId ∧ t' = t
  | .listLargestWallets limit, ws, t' => ws = t.largestWallets limit ∧ t' = t
  | .insertTrade execution, trade, t' => trade = execution.toTrade fresh now ∧ t' = t.addTrade trade
  | .insertLedgerEntry transfer amount, e, t' => e = transfer.toEntry amount fresh now ∧ t' = t.addEntry e
  | .lockLedgerEntry id, e, t' => t.entry? id = some e ∧ t' = t
  | .updateLedgerStatus id status, e', t' => ∃ e, t.entry? id = some e ∧ e' = { e with status := status } ∧
      t' = { t with ledger := Tables.moveEntry id status t.ledger }
  | .insertUser registration, u, t' =>
      t.duplicateOf? registration = none ∧ u = registration.toUser fresh now ∧ t' = t.putUser u
  | .consumeVerification id secretCode, v', t' => ∃ v, t.verification? id = some v ∧
      v.isUsableWith secretCode now = true ∧ v' = { v with isUsed := true } ∧ t' = t.putVerification v'
  | .markUserVerified username, u', t' => ∃ u, t.userNamed? username = some u ∧
      u' = { u with isVerified := true } ∧ t' = t.putUser u'
  | .insertOutbox task, m, t' => m = task.toMessage t.nextOutboxId now ∧ t' = (t.enqueue task now).2
  | .claimOutbox limit, ms, t' => ms = t.pending limit ∧ t' = t
  | .markPublished id, _, t' => ∃ m, t.outboxRow? id = some m ∧ t' = t.putOutbox (m.published now)
  | .recordFailure id error giveUp, _, t' =>
      ∃ m, t.outboxRow? id = some m ∧ t' = t.putOutbox (m.failing error giveUp)

theorem Tables.found_bind_ok {q : Query} {x : Option α} {f : α → Except StoreError β} {b : β}
    (h : (Tables.found q x >>= f) = .ok b) : ∃ a, x = some a ∧ f a = .ok b := by
  cases x with
  | some a => exact ⟨a, rfl, h⟩
  | none => cases h

theorem Tables.answers_of_reply {fresh : Uuid} {now : Instant} {t t' : Tables} {q : Query} {r : q.Reply}
    (h : t.reply fresh now q = .ok (r, t')) : t.Answers fresh now q r t' := by
  cases q with
  | getOrder id | lockOrder id | getMarket id | findWallet userId currency | lockWallet id
  | lockLedgerEntry id =>
      obtain ⟨x, hx, he⟩ := found_bind_ok h
      cases he
      exact ⟨hx, rfl⟩
  | updateOrder id status filled | updateWallet id balance lockedBalance | updateLedgerStatus id status
  | markUserVerified username =>
      obtain ⟨x, hx, he⟩ := found_bind_ok h
      cases he
      exact ⟨x, hx, rfl, rfl⟩
  | markPublished id | recordFailure id error giveUp =>
      obtain ⟨x, hx, he⟩ := found_bind_ok h
      cases he
      exact ⟨x, hx, rfl⟩
  | consumeVerification id secretCode =>
      obtain ⟨v, hv, he⟩ := found_bind_ok h
      cases he
      rw [Option.filter_eq_some_iff] at hv
      exact ⟨v, hv.1, hv.2, rfl, rfl⟩
  | insertUser registration =>
      simp only [reply] at h
      split at h
      · cases h
      · next hd => cases h; exact ⟨hd, rfl, rfl⟩
  | insertFee rates | insertTrade execution | insertLedgerEntry transfer amount | insertOutbox task
  | listUserWallets userId | listLargestWallets limit | claimOutbox limit =>
      cases h
      exact ⟨rfl, rfl⟩

namespace World

/-- The world after a query has been answered. -/
def answered (w : World MemoryStore κ) (q : Query) (draft : Tables) : World MemoryStore κ :=
  { w with store := { w.store with
      draft := draft
      lockTrace := w.store.lockTrace ++ MemoryStore.lockedBy q
      ids := if q.drawsId then w.store.ids.advance else w.store.ids } }

variable {w w' : World MemoryStore κ} {q : Query} {draft : Tables}

@[simp] theorem answered_draft : (w.answered q draft).store.draft = draft := rfl

@[simp] theorem answered_ids :
    (w.answered q draft).store.ids = if q.drawsId then w.store.ids.advance else w.store.ids := rfl

theorem answered_of_ask {r : q.Reply} (h : w.ask q = (.ok r, w')) :
    ∃ t, w.store.draft.Answers w.store.ids.next w.store.now q r t ∧ w' = w.answered q t := by
  have hreply : ∀ s : MemoryStore, w.afterStore (s.answer q) = (.ok r, w') → s = w.store →
      ∃ t, w.store.draft.Answers w.store.ids.next w.store.now q r t ∧ w' = w.answered q t := by
    rintro s h rfl
    simp only [MemoryStore.answer] at h
    split at h
    · cases h
    · next r' t hr =>
        simp only [afterStore, Prod.mk.injEq, Except.ok.injEq, List.append_nil] at h
        obtain ⟨rfl, rfl⟩ := h
        exact ⟨t, Tables.answers_of_reply hr, rfl⟩
  simp only [World.ask, Store.ask, MemoryStore.ask] at h
  split at h
  · exact hreply _ h rfl
  · split at h
    · exact hreply _ h rfl
    · cases h

end World

theorem Work.query_ok [Courier κ] {q : Query} {context : String} {w w' : World MemoryStore κ} {r : q.Reply}
    (h : (query q context).run w = (.ok r, w')) :
    ∃ t, w.store.draft.Answers w.store.ids.next w.store.now q r t ∧ w' = w.answered q t :=
  World.answered_of_ask (ask_ok h)

theorem Work.query_bind_ok [Courier κ] {q : Query} {context : String} {f : q.Reply → Work β}
    {w w' : World MemoryStore κ} {b : β} (h : (query q context >>= f).run w = (.ok b, w')) :
    ∃ r t, w.store.draft.Answers w.store.ids.next w.store.now q r t ∧
      (f r).run (w.answered q t) = (.ok b, w') := by
  obtain ⟨r, w₁, hq, hf⟩ := bind_ok h
  obtain ⟨t, ht, rfl⟩ := query_ok hq
  exact ⟨r, t, ht, hf⟩

/-! ## Reading -/

/-- Two worlds within a transaction between which nothing has been written or handed over. -/
structure World.Unwritten (w w' : World MemoryStore κ) : Prop where
  draft : w'.store.draft = w.store.draft
  ids : w'.store.ids = w.store.ids
  now : w'.store.now = w.store.now
  courier : w'.courier = w.courier

theorem World.Unwritten.trans {w w' w'' : World MemoryStore κ} (h : Unwritten w w')
    (h' : Unwritten w' w'') : Unwritten w w'' :=
  ⟨h'.draft.trans h.draft, h'.ids.trans h.ids, h'.now.trans h.now, h'.courier.trans h.courier⟩

theorem Tables.Answers.eq_of_read {t t' : Tables} {fresh : Uuid} {now : Instant} {q : Query} {r : q.Reply}
    (hq : q.isWrite = false) (h : t.Answers fresh now q r t') : t' = t := by
  cases q with
  | getOrder id | lockOrder id | getMarket id | findWallet userId currency | lockWallet id
  | listUserWallets userId | listLargestWallets limit | lockLedgerEntry id | claimOutbox limit =>
      exact h.2
  | updateOrder id status filled | insertFee rates | updateWallet id balance lockedBalance
  | insertTrade execution | insertLedgerEntry transfer amount | updateLedgerStatus id status
  | insertUser registration | consumeVerification id secretCode | markUserVerified username
  | insertOutbox task | markPublished id | recordFailure id error giveUp => cases hq

theorem Query.drawsId_of_read {q : Query} (hq : q.isWrite = false) : q.drawsId = false := by
  cases q <;> first | rfl | cases hq

theorem Work.read_bind_ok [Courier κ] {q : Query} {context : String} {f : q.Reply → Work β}
    {w w' : World MemoryStore κ} {b : β} (hq : q.isWrite = false)
    (h : (query q context >>= f).run w = (.ok b, w')) :
    ∃ r w₁, w.store.draft.Answers w.store.ids.next w.store.now q r w.store.draft ∧ w.Unwritten w₁ ∧
      (f r).run w₁ = (.ok b, w') := by
  obtain ⟨r, t, ht, h⟩ := query_bind_ok h
  obtain rfl := ht.eq_of_read hq
  refine ⟨r, w.answered q w.store.draft, ht, ⟨rfl, ?_, rfl, rfl⟩, h⟩
  rw [World.answered_ids, Query.drawsId_of_read hq, if_neg Bool.false_ne_true]

/-! ## What a unit of work leaves alone -/

/-- Two states of a store within one transaction: it has not ended, and no time has passed. -/
structure MemoryStore.SameOutside (s s' : MemoryStore) : Prop where
  committed : s'.committed = s.committed
  commits : s'.commits = s.commits
  rollbacks : s'.rollbacks = s.rollbacks
  now : s'.now = s.now

namespace MemoryStore

theorem SameOutside.refl (s : MemoryStore) : SameOutside s s := ⟨rfl, rfl, rfl, rfl⟩

theorem SameOutside.trans {s s' s'' : MemoryStore} (h : SameOutside s s') (h' : SameOutside s' s'') :
    SameOutside s s'' :=
  ⟨h'.committed.trans h.committed, h'.commits.trans h.commits, h'.rollbacks.trans h.rollbacks,
   h'.now.trans h.now⟩

theorem SameOutside.answer (q : Query) (s : MemoryStore) : SameOutside s (s.answer q).state := by
  simp only [MemoryStore.answer]
  split <;> exact ⟨rfl, rfl, rfl, rfl⟩

theorem fault?_eq_some {s s' : MemoryStore} {point : FaultPoint} {e : StoreError}
    (h : s.fault? point = some (e, s')) : ∃ faults, s' = { s with faults := faults } := by
  simp only [fault?, Option.map_eq_some_iff, Prod.mk.injEq] at h
  obtain ⟨⟨e', left⟩, -, -, rfl⟩ := h
  exact ⟨left, rfl⟩

theorem SameOutside.ask (q : Query) (s : MemoryStore) : SameOutside s (s.ask q).state := by
  simp only [MemoryStore.ask]
  split
  · exact .answer q s
  · split
    · exact .answer q s
    · next hf =>
        obtain ⟨faults, rfl⟩ := fault?_eq_some hf
        exact ⟨rfl, rfl, rfl, rfl⟩

end MemoryStore

theorem Work.run_sameOutside [Courier κ] (x : Work α) (w : World MemoryStore κ) :
    w.store.SameOutside (x.run w).2.store := by
  induction x generalizing w with
  | done a => exact .refl _
  | fail e => exact .refl _
  | ask q context next ih =>
      have hask : w.store.SameOutside (w.ask q).2.store := .ask q w.store
      simp only [run]
      split
      · next hq =>
          rw [hq] at hask
          exact hask.trans (ih _ _)
      · next hq => rwa [hq] at hask
  | hand m next ih =>
      have hhand : (w.hand m).2.store = w.store := rfl
      have := ih (w.hand m).1 (w.hand m).2
      rwa [hhand] at this
  | note e next ih => exact ih (w.note e)

/-! ## How an operation ends its transaction -/

namespace World

/-- The world in which a transaction has been opened. -/
def opened (w : World MemoryStore κ) : World MemoryStore κ := { w with store := w.store.discard }

variable {w : World MemoryStore κ}

theorem begin_eq : w.begin =
    match w.store.fault? .begin with
    | none => (.ok (), w.opened)
    | some (e, s) => (.error e, { w with store := s, log := w.log ++ [.faultInjected .begin e] }) := by
  cases hf : w.store.fault? .begin <;> simp [World.begin, Store.begin, afterStore, opened, hf]

theorem begin_ok {u : Unit} {w' : World MemoryStore κ} (h : w.begin = (.ok u, w')) :
    (w.store.fault? .begin).isNone ∧ w' = w.opened := by
  rw [begin_eq] at h
  cases hf : w.store.fault? .begin with
  | none =>
      rw [hf] at h
      exact ⟨rfl, (Prod.mk.inj h).2.symm⟩
  | some es =>
      rw [hf] at h
      cases h

theorem begin_error {e : StoreError} {w' : World MemoryStore κ} (h : w.begin = (.error e, w')) :
    (w.store.fault? .begin).isSome ∧ ∃ faults, w'.store = { w.store with faults := faults } := by
  rw [begin_eq] at h
  cases hf : w.store.fault? .begin with
  | none =>
      rw [hf] at h
      cases h
  | some es =>
      simp only [hf, Prod.mk.injEq] at h
      obtain ⟨-, rfl⟩ := h
      exact ⟨rfl, MemoryStore.fault?_eq_some hf⟩

theorem commit_eq : w.commit =
    match w.store.fault? .commit with
    | none => (.ok (), { w with store := w.store.committing })
    | some (e, s) =>
      (.error e, { w with store := s.rolledBack, log := w.log ++ [.faultInjected .commit e] }) := by
  cases hf : w.store.fault? .commit <;> simp [World.commit, Store.commit, afterStore, hf]

theorem conclude_ok {name : String} {a b : α} {w' : World MemoryStore κ}
    (h : w.conclude name a = (.ok b, w')) :
    a = b ∧ w'.store = w.store.committing ∧ w'.courier = w.courier := by
  rw [conclude, commit_eq] at h
  cases hf : w.store.fault? .commit with
  | none =>
      simp only [hf, Prod.mk.injEq, Except.ok.injEq] at h
      obtain ⟨rfl, rfl⟩ := h
      exact ⟨rfl, rfl, rfl⟩
  | some es =>
      rw [hf] at h
      cases h

theorem conclude_error {name : String} {a : α} {e : SettlementError} {w' : World MemoryStore κ}
    (h : w.conclude name a = (.error e, w')) :
    ∃ faults, w'.store = { w.store with faults := faults }.rolledBack := by
  rw [conclude, commit_eq] at h
  cases hf : w.store.fault? .commit with
  | none =>
      rw [hf] at h
      cases h
  | some es =>
      obtain ⟨faults, hs⟩ := MemoryStore.fault?_eq_some hf
      simp only [hf, Prod.mk.injEq] at h
      obtain ⟨-, rfl⟩ := h
      exact ⟨faults, by rw [← hs]⟩

theorem abandon_eq (name : String) (e : SettlementError) :
    ∃ log, w.abandon (α := α) name e = (.error e, { w with store := w.store.rolledBack, log := log }) :=
  ⟨_, rfl⟩

variable [Courier κ] {name : String} {work : Work α} {w' : World MemoryStore κ}

theorem transact_ok {a : α} (h : w.transact name work = (.ok a, w')) :
    ∃ w₁, work.run w.opened = (.ok a, w₁) ∧ w'.store = w₁.store.committing ∧ w'.courier = w₁.courier := by
  rw [transact] at h
  split at h
  · cases h
  · next hbegin =>
      obtain ⟨-, rfl⟩ := begin_ok hbegin
      split at h
      · next b w₁ hrun =>
          obtain ⟨rfl, hstore, hcourier⟩ := conclude_ok h
          exact ⟨w₁, hrun, hstore, hcourier⟩
      · next e w₁ hrun =>
          obtain ⟨log, hlog⟩ := abandon_eq (w := w₁) (α := α) name e
          rw [hlog] at h
          cases h

/-- A transaction that fails has not been opened, or has been rolled back. -/
theorem transact_error {e : SettlementError} (h : w.transact name work = (.error e, w')) :
    ((w.store.fault? .begin).isSome ∧ ∃ faults, w'.store = { w.store with faults := faults }) ∨
    ((w.store.fault? .begin).isNone ∧ ∃ s, w.store.discard.SameOutside s ∧ w'.store = s.rolledBack) := by
  rw [transact] at h
  split at h
  · next hbegin =>
      cases h
      exact .inl (begin_error hbegin)
  · next hbegin =>
      obtain ⟨hnone, rfl⟩ := begin_ok hbegin
      have hout := work.run_sameOutside w.opened
      refine .inr ⟨hnone, ?_⟩
      split at h
      · next b w₁ hrun =>
          rw [hrun] at hout
          obtain ⟨faults, hs⟩ := conclude_error h
          exact ⟨{ w₁.store with faults := faults },
            ⟨hout.committed, hout.commits, hout.rollbacks, hout.now⟩, hs⟩
      · next e' w₁ hrun =>
          rw [hrun] at hout
          obtain ⟨log, hlog⟩ := abandon_eq (w := w₁) (α := α) name e'
          rw [hlog] at h
          cases h
          exact ⟨w₁.store, hout, rfl⟩

end World

namespace Operation

variable [Courier κ] {o : Operation α} {w w' : World MemoryStore κ}

/-- A successful operation has committed the draft that its work left. -/
theorem perform_ok {a : α} (h : o.perform w = (.ok a, w')) :
    o.check = .ok () ∧ ∃ w₁, o.work.run w.opened = (.ok a, w₁) ∧ w'.store = w₁.store.committing ∧
      w'.courier = w₁.courier := by
  rw [perform] at h
  split at h
  · cases h
  · next hcheck =>
      refine ⟨hcheck, ?_⟩
      split at h
      · next b w₂ ht =>
          obtain ⟨hb, rfl⟩ := Prod.mk.inj h
          obtain rfl := Except.ok.inj hb
          obtain ⟨w₁, hrun, hstore, hcourier⟩ := World.transact_ok ht
          exact ⟨w₁, hrun, hstore, hcourier⟩
      · cases h

/-- A failed operation has opened no transaction, or has rolled it back. -/
theorem perform_error {e : SettlementError} (h : o.perform w = (.error e, w')) :
    (o.check ≠ .ok () ∧ w'.store = w.store) ∨
    (o.check = .ok () ∧ (w.store.fault? .begin).isSome ∧ ∃ faults, w'.store = { w.store with faults := faults }) ∨
    (o.check = .ok () ∧ (w.store.fault? .begin).isNone ∧
      ∃ s, w.store.discard.SameOutside s ∧ w'.store = s.rolledBack) := by
  rw [perform] at h
  split at h
  · next hcheck =>
      cases h
      exact .inl ⟨by simp [hcheck], rfl⟩
  · next hcheck =>
      split at h
      · cases h
      · next ht =>
          cases h
          rcases World.transact_error ht with hfault | hnone
          · exact .inr (.inl ⟨hcheck, hfault⟩)
          · exact .inr (.inr ⟨hcheck, hnone⟩)

end Operation
end Clearing
