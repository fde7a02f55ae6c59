import Clearing.Memory.Seed
import Clearing.Proofs.Parts
import Mathlib.Data.List.Induction

/-!
# Runs of a store in memory

A run is any sequence of seeded rows, queued failures, changes of the courier, the clock and the supply of
identifiers, and commands. Orders change by fill updates only, wallets and trades by settlements only, and
nothing but seeding brings an order, a market or a wallet into being.
-/

namespace Clearing

/-- What can happen to a store between two of its states. -/
inductive Action (κ : Type) where
  | seedUser (username email : String)
  | seedWallet (userId : Uuid) (currency : String) (balance : Decimal)
  | seedMarket (base quote : String)
  | seedOrder (userId marketId : Uuid) (side : OrderSide) (price amount : Decimal)
  | seedVerification (username email secretCode : String) (seconds : Int)
  | injectFault (point : FaultPoint) (e : StoreError)
  | setIds (ids : IdSupply)
  | setClock (now : Instant)
  | setCourier (courier : κ)
  | perform (s : Service) (c : Command)

/-- A wallet as it was opened. -/
structure Opening where
  userId : Uuid
  currency : String
  balance : Decimal

variable {κ : Type}

namespace Action

/-- The identifier that an action gives to a seeded row. -/
def seeded (w : World MemoryStore κ) : Action κ → List Uuid
  | .seedUser .. | .seedWallet .. | .seedMarket .. | .seedOrder .. => [w.store.ids.next]
  | .seedVerification .. | .injectFault .. | .setIds _ | .setClock _ | .setCourier _ | .perform .. => []

/-- The wallet that an action opens. -/
def opening? : Action κ → Option Opening
  | .seedWallet userId currency balance => some ⟨userId, currency, balance⟩
  | .seedUser .. | .seedMarket .. | .seedOrder .. | .seedVerification .. | .injectFault .. | .setIds _
  | .setClock _ | .setCourier _ | .perform .. => none

/-- The world after an action. -/
def apply [Courier κ] (w : World MemoryStore κ) : Action κ → World MemoryStore κ
  | .seedUser username email => { w with store := (w.store.seedUser username email).2 }
  | .seedWallet userId currency balance => { w with store := (w.store.seedWallet userId currency balance).2 }
  | .seedMarket base quote => { w with store := (w.store.seedMarket base quote).2 }
  | .seedOrder userId marketId side price amount =>
    { w with store := (w.store.seedOrder userId marketId side price amount).2 }
  | .seedVerification username email secretCode seconds =>
    { w with store := (w.store.seedVerification username email secretCode seconds).2 }
  | .injectFault point e => { w with store := w.store.injectFault point e }
  | .setIds ids => { w with store := { w.store with ids := ids } }
  | .setClock now => { w with store := { w.store with now := now } }
  | .setCourier courier => { w with courier := courier }
  | .perform s c => (s.perform c w).2

end Action

/-- The wallets that a run opens, in order. -/
def openings (actions : List (Action κ)) : List Opening := actions.filterMap Action.opening?

theorem openings_append (actions more : List (Action κ)) :
    openings (actions ++ more) = openings actions ++ openings more := List.filterMap_append

variable [Courier κ]

namespace World

/-- The world after a run. -/
def after (w : World MemoryStore κ) (actions : List (Action κ)) : World MemoryStore κ :=
  actions.foldl Action.apply w

/-- The state of a run after so many of its actions. -/
def stateAt (w : World MemoryStore κ) (actions : List (Action κ)) (n : Nat) : World MemoryStore κ :=
  w.after (actions.take n)

/-- The identifiers that a run gives to seeded rows, in order. -/
def seededIds : World MemoryStore κ → List (Action κ) → List Uuid
  | _, [] => []
  | w, a :: rest => a.seeded w ++ seededIds (a.apply w) rest

theorem after_append (w : World MemoryStore κ) (actions more : List (Action κ)) :
    w.after (actions ++ more) = (w.after actions).after more := List.foldl_append

theorem after_concat (w : World MemoryStore κ) (actions : List (Action κ)) (a : Action κ) :
    w.after (actions ++ [a]) = a.apply (w.after actions) := after_append ..

/-- From one state of a run to the next there is one action, unless the run is over. -/
theorem stateAt_succ (w : World MemoryStore κ) (actions : List (Action κ)) (n : Nat) :
    (∃ a, actions.take (n + 1) = actions.take n ++ [a]) ∨ w.stateAt actions (n + 1) = w.stateAt actions n := by
  rcases Nat.lt_or_ge n actions.length with hlt | hge
  · exact .inl ⟨_, List.take_succ_eq_append_getElem hlt⟩
  · right
    rw [stateAt, stateAt, List.take_of_length_le hge, List.take_of_length_le (Nat.le_succ_of_le hge)]

theorem seededIds_append (w : World MemoryStore κ) (actions more : List (Action κ)) :
    w.seededIds (actions ++ more) = w.seededIds actions ++ (w.after actions).seededIds more := by
  induction actions generalizing w with
  | nil => rfl
  | cons a rest ih =>
      rw [List.cons_append, seededIds, seededIds, ih, List.append_assoc]
      rfl

theorem seededIds_concat (w : World MemoryStore κ) (actions : List (Action κ)) (a : Action κ) :
    w.seededIds (actions ++ [a]) = w.seededIds actions ++ a.seeded (w.after actions) := by
  rw [seededIds_append, seededIds, seededIds, List.append_nil]

end World

/-- A store without rows. -/
def emptyWorld : World MemoryStore Mailbox where
  store := { now := .epoch }
  courier := {}

/-! ## What an action does to the books -/

/-- The ways in which an action changes orders, markets, wallets and trades. -/
inductive Booked (w : World MemoryStore κ) : Action κ → Tables → Prop where
  | same {a : Action κ} {t : Tables} (hopens : a.opening? = none) (h : SameBooks w.store.committed t) :
      Booked w a t
  | wallet (userId : Uuid) (currency : String) (balance : Decimal) :
      Booked w (.seedWallet userId currency balance)
        (w.store.committed.putWallet (w.store.seedWallet userId currency balance).1)
  | market (base quote : String) :
      Booked w (.seedMarket base quote) (w.store.committed.putMarket (w.store.seedMarket base quote).1)
  | order (userId marketId : Uuid) (side : OrderSide) (price amount : Decimal) :
      Booked w (.seedOrder userId marketId side price amount)
        (w.store.committed.putOrder (w.store.seedOrder userId marketId side price amount).1)
  | fill {s : Service} {request : FillRequest} {r : FillReport} {o : Order} {t : Tables}
      (h : request.Filled w.store.now w.store.committed r o t) : Booked w (.perform s (.updateFill request)) t
  | trade {s : Service} {e : Execution} {r : Settlement} {t : Tables} (hcheck : e.check = .ok ())
      (h : e.Settled w.store.ids w.store.now w.store.committed r t) : Booked w (.perform s (.settleTrade e)) t

theorem Action.booked (w : World MemoryStore κ) (a : Action κ) : Booked w a (a.apply w).store.committed := by
  cases a with
  | seedWallet userId currency balance => exact .wallet userId currency balance
  | seedMarket base quote => exact .market base quote
  | seedOrder userId marketId side price amount => exact .order userId marketId side price amount
  | seedUser username email | seedVerification username email secretCode seconds | injectFault point e
  | setIds ids | setClock now | setCourier courier => exact .same rfl ⟨rfl, rfl, rfl, rfl⟩
  | perform s c =>
      cases c with
      | settleTrade e =>
          rcases s.committed_perform (.settleTrade e) w with hsame | ⟨hcheck, r, hsettled⟩
          · exact .same rfl (Part.books.same_of_eq hsame)
          · exact .trade hcheck hsettled
      | updateFill request =>
          rcases s.committed_perform (.updateFill request) w with hsame | ⟨-, r, o, hfilled⟩
          · exact .same rfl (Part.books.same_of_eq hsame)
          · exact .fill hfilled
      | postTransfer | moveEntry | registerUser | verifyEmail | checkCurrencies | publishBatch =>
          exact .same rfl (s.same_perform .books rfl w)

/-! ## Which rows there are -/

/-- Every order, market and wallet has one of these identifiers. -/
structure Tables.Within (t : Tables) (ids : List Uuid) : Prop where
  orders : ∀ o ∈ t.orders.rows, o.id ∈ ids
  markets : ∀ m ∈ t.markets.rows, m.id ∈ ids
  wallets : ∀ v ∈ t.wallets.rows, v.id ∈ ids

namespace Tables.Within

variable {t : Tables} {ids more : List Uuid} {id : Uuid}

theorem mono (h : t.Within ids) : t.Within (ids ++ more) :=
  ⟨fun o ho => List.mem_append_left _ (h.orders o ho), fun m hm => List.mem_append_left _ (h.markets m hm),
   fun v hv => List.mem_append_left _ (h.wallets v hv)⟩

theorem sameBooks {t' : Tables} (h : t.Within ids) (hsame : SameBooks t t') : t'.Within ids := by
  refine ⟨?_, ?_, ?_⟩
  · rw [hsame.orders]
    exact h.orders
  · rw [hsame.markets]
    exact h.markets
  · rw [hsame.wallets]
    exact h.wallets

theorem empty : Within {} ids := by
  refine ⟨?_, ?_, ?_⟩
  · exact fun o ho => absurd ho List.not_mem_nil
  · exact fun m hm => absurd hm List.not_mem_nil
  · exact fun v hv => absurd hv List.not_mem_nil

theorem putOrder (h : t.Within ids) {o : Order} (ho : o.id ∈ ids) : (t.putOrder o).Within ids :=
  ⟨Table.forall_mem_insert ho h.orders, h.markets, h.wallets⟩

theorem putMarket (h : t.Within ids) {m : Market} (hm : m.id ∈ ids) : (t.putMarket m).Within ids :=
  ⟨h.orders, Table.forall_mem_insert hm h.markets, h.wallets⟩

theorem putWallet (h : t.Within ids) {v : Wallet} (hv : v.id ∈ ids) : (t.putWallet v).Within ids :=
  ⟨h.orders, h.markets, Table.forall_mem_insert hv h.wallets⟩

theorem order?_eq_none (h : t.Within ids) (hid : id ∉ ids) : t.order? id = none := by
  apply Table.get?_eq_none
  intro o ho heq
  exact hid (Uuid.value_cast_inj.mp heq ▸ h.orders o ho)

theorem market?_eq_none (h : t.Within ids) (hid : id ∉ ids) : t.market? id = none := by
  apply Table.get?_eq_none
  intro m hm heq
  exact hid (Uuid.value_cast_inj.mp heq ▸ h.markets m hm)

theorem wallet?_eq_none (h : t.Within ids) (hid : id ∉ ids) : t.wallet? id = none := by
  apply Table.get?_eq_none
  intro v hv heq
  exact hid (Uuid.value_cast_inj.mp heq ▸ h.wallets v hv)

end Tables.Within

theorem Execution.Settled.within {e : Execution} {ids : IdSupply} {now : Instant} {t t' : Tables}
    {r : Settlement} {known : List Uuid} (h : e.Settled ids now t r t') (hw : t.Within known) :
    t'.Within known := by
  obtain ⟨⟨p, hfound, hmoved⟩, -, rfl⟩ := h
  obtain ⟨hbuyer, hseller⟩ := hmoved.ids
  have hb := hw.wallets p.buyer (Tables.walletOf?_eq_some hfound.buyer).1
  have hs := hw.wallets p.seller (Tables.walletOf?_eq_some hfound.seller).1
  have hadd : (t.addTrade r.trade).Within known := ⟨hw.orders, hw.markets, hw.wallets⟩
  exact (hadd.putWallet (by rwa [hbuyer])).putWallet (by rwa [hseller])

theorem FillRequest.Filled.within {request : FillRequest} {now : Instant} {t t' : Tables} {r : FillReport}
    {o : Order} {known : List Uuid} (h : request.Filled now t r o t') (hw : t.Within known) :
    t'.Within known := by
  rw [h.rows]
  exact hw.putOrder (hw.orders o (Tables.order?_eq_some.mp h.order).1)

/-- Nothing but seeding brings an order, a market or a wallet into being. -/
theorem World.within_seededIds {w : World MemoryStore κ} (hempty : w.store.committed = {})
    (actions : List (Action κ)) : (w.after actions).store.committed.Within (w.seededIds actions) := by
  induction actions using List.reverseRecOn with
  | nil =>
      rw [after, List.foldl_nil, hempty]
      exact .empty
  | append_singleton actions a ih =>
      rw [after_concat, seededIds_concat]
      have hstep := a.booked (w.after actions)
      generalize (a.apply (w.after actions)).store.committed = t at hstep
      cases hstep with
      | same hopens h => exact ih.mono.sameBooks h
      | wallet userId currency balance =>
          exact ih.mono.putWallet (List.mem_append_right _ (List.mem_singleton_self _))
      | market base quote => exact ih.mono.putMarket (List.mem_append_right _ (List.mem_singleton_self _))
      | order userId marketId side price amount =>
          exact ih.mono.putOrder (List.mem_append_right _ (List.mem_singleton_self _))
      | fill h => exact h.within ih.mono
      | trade hcheck h => exact h.within ih.mono

end Clearing
