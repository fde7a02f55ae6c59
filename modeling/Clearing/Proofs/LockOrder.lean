import Clearing.Proofs.History
import Clearing.Proofs.Requests

/-!
# The order of locks

Within one transaction wallets are locked in ascending order of their identifiers, each at most once and all
before anything is written, whatever the store answers. So no two operations ever lock two wallets in opposite
orders. A store in memory remembers the locks it has given, those of failed operations included.
-/

namespace Clearing

variable {α σ κ σ' κ' : Type}

/-! ## Locks of a trace that follows the rule -/

section Rule

variable {c : Command} {t : List Exchange}

theorem Command.Allows.requests {r : Request} (h : c.Allows t r) :
    (r.locks ≠ [] → ∀ x ∈ t, x.request.writes = false) ∧
      ((∀ x ∈ t, x.isTruthful) → ∀ id ∈ r.balances, id ∈ locksAsked t) := by
  constructor
  · intro hlocks
    rcases r.locks_eq with hnone | ⟨id, rfl⟩
    · exact absurd hnone hlocks
    · exact h.2
  · intro htruthful id hid
    rcases r.balances_eq with hnone | ⟨wallet, balance, locked, rfl⟩
    · rw [hnone] at hid
      cases hid
    · obtain rfl := List.mem_singleton.mp hid
      exact h htruthful

theorem Command.Permits.locks_ascending (h : c.Permits t) : (locksAsked t).Pairwise (· < ·) := by
  induction t using List.reverseRecOn with
  | nil => exact .nil
  | append_singleton t x ih =>
      obtain ⟨ht, hx⟩ := concat_iff.mp h
      have hlast : locksAsked [x] = x.request.locks := List.append_nil _
      rw [locksAsked_append, hlast]
      rcases x.request.locks_eq with hnone | ⟨id, hid⟩
      · rw [hnone, List.append_nil]
        exact ih ht
      · rw [hid] at hx ⊢
        refine List.pairwise_append.mpr ⟨ih ht, List.pairwise_singleton _ id, ?_⟩
        intro a ha b hb
        obtain rfl := List.mem_singleton.mp hb
        exact hx.1 a ha

end Rule

/-- Of two elements of ascending lists, the smaller one comes first in each. -/
theorem sublist_pair_iff {l : List Uuid} (h : l.Pairwise (· < ·)) {a b : Uuid} (ha : a ∈ l) (hb : b ∈ l) :
    [a, b].Sublist l ↔ a < b := by
  constructor
  · intro hsub
    exact List.rel_of_pairwise_cons (h.sublist hsub) (List.mem_singleton_self b)
  · intro hlt
    induction l with
    | nil => cases ha
    | cons c rest ih =>
        obtain ⟨hc, hrest⟩ := List.pairwise_cons.mp h
        rcases List.mem_cons.mp ha with rfl | har
        · rcases List.mem_cons.mp hb with rfl | hbr
          · exact absurd hlt (Nat.lt_irrefl _)
          · exact (List.singleton_sublist.mpr hbr).cons_cons a
        · rcases List.mem_cons.mp hb with rfl | hbr
          · exact absurd hlt (Nat.lt_asymm (hc a har))
          · exact (ih hrest har hbr).cons c

/-! ## Locks asked for and locks given -/

/-- The wallets that a trace has locked, in order. -/
def locksGiven (t : List Exchange) : List Uuid := t.flatMap Exchange.locked

/-- All locks that a trace asks for are given, or the last thing it asks for is a lock that is not. -/
def LocksUntilRefused (t : List Exchange) : Prop :=
  locksAsked t = locksGiven t ∨
    ∃ before id e, t = before ++ [⟨.ask (.lockWallet id), .error e⟩] ∧ locksAsked t = locksGiven t ++ [id]

theorem LocksUntilRefused.cons {x : Exchange} {t : List Exchange} (hx : x.request.locks = x.locked)
    (h : LocksUntilRefused t) : LocksUntilRefused (x :: t) := by
  have hasked : locksAsked (x :: t) = x.locked ++ locksAsked t := by rw [locksAsked, List.flatMap_cons, hx]; rfl
  have hgiven : locksGiven (x :: t) = x.locked ++ locksGiven t := List.flatMap_cons
  rcases h with h | ⟨before, id, e, ht, h⟩
  · exact .inl (by rw [hasked, hgiven, h])
  · refine .inr ⟨x :: before, id, e, by rw [ht]; rfl, ?_⟩
    rw [hasked, hgiven, h, List.append_assoc]

theorem LocksUntilRefused.refused (q : Query) (e : StoreError) : LocksUntilRefused [⟨.ask q, .error e⟩] := by
  rcases (Request.ask q).locks_eq with hnone | ⟨id, hid⟩
  · exact .inl ((List.append_nil _).trans hnone)
  · cases hid
    exact .inr ⟨[], id, e, rfl, rfl⟩

section Generic

variable [Store σ] [Courier κ]

theorem Work.locks_until_refused (x : Work α) (w : World σ κ) : LocksUntilRefused (x.trace w) := by
  induction x generalizing w with
  | done a => exact .inl rfl
  | fail e => exact .inl rfl
  | ask q context next ih =>
      cases hw : w.ask q with
      | mk result w' =>
          cases result with
          | ok r =>
              rw [trace_ask_ok hw]
              exact .cons rfl (ih r w')
          | error e =>
              rw [trace_ask_error hw]
              exact .refused q e
  | hand m next ih => exact .cons rfl (ih _ _)
  | note e next ih => exact ih _

theorem Service.locks_until_refused (s : Service) (c : Command) (w : World σ κ) :
    LocksUntilRefused (s.trace c w) := by
  rw [Service.trace, Operation.trace]
  split
  · exact .inl rfl
  · split
    · exact .inl rfl
    · exact Work.locks_until_refused _ _

end Generic

/-! ## What a store in memory remembers -/

namespace MemoryStore

variable {κ : Type}

theorem lockTrace_answer (q : Query) (s : MemoryStore) :
    (s.answer q).state.lockTrace = s.lockTrace ++ Exchange.locked ⟨.ask q, (s.answer q).result⟩ := by
  simp only [answer]
  split <;> simp [Exchange.locked]

theorem lockTrace_ask (q : Query) (s : MemoryStore) :
    (s.ask q).state.lockTrace = s.lockTrace ++ Exchange.locked ⟨.ask q, (s.ask q).result⟩ := by
  simp only [ask]
  split
  · exact lockTrace_answer q s
  · split
    · exact lockTrace_answer q s
    · next hf =>
        obtain ⟨faults, rfl⟩ := fault?_eq_some hf
        exact (List.append_nil _).symm

end MemoryStore

section Memory

variable [Courier κ]

/-- A store in memory records the locks it gives, and forgets none when a transaction is rolled back. -/
theorem World.records_locks : Records (fun w : World MemoryStore κ => w.store.lockTrace) Exchange.locked where
  ask w q := MemoryStore.lockTrace_ask q w.store
  hand w m := (List.append_nil _).symm
  begin w := by
    rw [begin_eq]
    split
    · rfl
    · next hf =>
        obtain ⟨faults, rfl⟩ := MemoryStore.fault?_eq_some hf
        rfl
  commit w := by
    rw [commit_eq]
    split
    · rfl
    · next hf =>
        obtain ⟨faults, rfl⟩ := MemoryStore.fault?_eq_some hf
        rfl
  rollback w := rfl
  log w log := rfl

theorem Action.lockTrace_apply (a : Action κ) (w : World MemoryStore κ) :
    (a.apply w).store.lockTrace = w.store.lockTrace ++ locksGiven (a.trace w) := by
  cases a with
  | perform s c => exact World.records_locks.perform (s.operation c) w
  | seedUser username email | seedWallet userId currency balance | seedMarket base quote
  | seedOrder userId marketId side price amount | seedVerification username email secretCode seconds
  | injectFault point e | setIds ids | setClock now | setCourier courier => exact (List.append_nil _).symm

theorem World.lockTrace_after (w : World MemoryStore κ) (actions : List (Action κ)) :
    (w.after actions).store.lockTrace = w.store.lockTrace ++ w.gather (fun v a => locksGiven (a.trace v)) actions := by
  induction actions using List.reverseRecOn with
  | nil => exact (List.append_nil _).symm
  | append_singleton actions a ih =>
      rw [after_concat, gather_concat, a.lockTrace_apply, ih, List.append_assoc]

end Memory

/-- Every command locks wallets in ascending order before it writes anything, and writes a wallet's balance once it
has locked the wallet; any two commands lock the wallets they share in the same order; and what a store in memory
remembers of a run is what its commands have locked, one after the other. -/
theorem Service.wallets_locked_in_order [Store σ] [Courier κ] [Store σ'] [Courier κ'] (s s' : Service)
    (c c' : Command) (w : World σ κ) (w' : World σ' κ') (v : World MemoryStore κ) (actions : List (Action κ)) :
    (locksAsked (s.trace c w)).Pairwise (· < ·) ∧
    (∀ a b, a ∈ locksAsked (s.trace c w) → b ∈ locksAsked (s.trace c w) →
      a ∈ locksAsked (s'.trace c' w') → b ∈ locksAsked (s'.trace c' w') →
      ([a, b].Sublist (locksAsked (s.trace c w)) ↔ [a, b].Sublist (locksAsked (s'.trace c' w')))) ∧
    (∀ before y rest, s.trace c w = before ++ y :: rest →
      (y.request.locks ≠ [] → ∀ x ∈ before, x.request.writes = false) ∧
      ((∀ x ∈ before, x.isTruthful) → ∀ id ∈ y.request.balances, id ∈ locksAsked before)) ∧
    (v.after actions).store.lockTrace
      = v.store.lockTrace ++ v.gather (fun v a => locksGiven (a.trace v)) actions ∧
    LocksUntilRefused (s.trace c w) := by
  have hrule := s.permits_trace c w
  have hascending := hrule.locks_ascending
  refine ⟨hascending, ?_, ?_, v.lockTrace_after actions, s.locks_until_refused c w⟩
  · intro a b ha hb ha' hb'
    rw [sublist_pair_iff hascending ha hb, sublist_pair_iff (s'.permits_trace c' w').locks_ascending ha' hb']
  · intro before y rest heq
    rw [heq] at hrule
    exact hrule.allows.requests

/-- Two users with a wallet each, numbered 1 and 2, and an order of each on both sides of market 3. -/
def crossedWorld : World MemoryStore Mailbox :=
  let market := IdSupply.numbered 3
  emptyWorld.after
    [.seedWallet (.ofNat 1) "USDT" (.ofCoeff 100 0), .seedWallet (.ofNat 2) "USDT" (.ofCoeff 100 0),
     .seedMarket "BTC" "USDT",
     .seedOrder (.ofNat 1) market .buy .zero .zero, .seedOrder (.ofNat 2) market .sell .zero .zero,
     .seedOrder (.ofNat 2) market .buy .zero .zero, .seedOrder (.ofNat 1) market .sell .zero .zero]

/-- A trade between two orders of the crossed world. -/
def crossedTrade (buy sell : Nat) : Command :=
  .settleTrade {
    buyOrderId := IdSupply.numbered buy
    sellOrderId := IdSupply.numbered sell
    marketId := IdSupply.numbered 3
    price := .ofCoeff 5 0
    quantity := .ofCoeff 2 0
    fee := .zero }

theorem Service.crossed_trades_lock_alike :
    let first := Service.trace {} (crossedTrade 4 5) crossedWorld
    let second := Service.trace {} (crossedTrade 6 7) crossedWorld
    let low := IdSupply.numbered 1
    let high := IdSupply.numbered 2
    [low, high].Sublist (locksAsked first) ∧ [low, high].Sublist (locksAsked second) ∧
      ∃ before y rest, first = before ++ y :: rest ∧ (∀ x ∈ before, x.isTruthful) ∧
        low ∈ y.request.balances ∧ low ∈ locksAsked before := by
  intro first second low high
  obtain ⟨-, hsame, hrule, -⟩ :=
    wallets_locked_in_order {} {} (crossedTrade 4 5) (crossedTrade 6 7) crossedWorld crossedWorld crossedWorld []
  have hfirst : locksAsked first = [low, high] := by decide +kernel
  have hsecond : locksAsked second = [low, high] := by decide +kernel
  have hboth : ∀ id ∈ [low, high], id ∈ locksAsked first ∧ id ∈ locksAsked second := by
    intro id hid
    rw [hfirst, hsecond]
    exact ⟨hid, hid⟩
  obtain ⟨hlow, hlow'⟩ := hboth low (by simp)
  obtain ⟨hhigh, hhigh'⟩ := hboth high (by simp)
  have hsub : [low, high].Sublist (locksAsked first) := by rw [hfirst]
  have hwrites : (first[8]?).map (·.request.balances) = some [low] := by decide +kernel
  obtain ⟨y, hy, hbalances⟩ := Option.map_eq_some_iff.mp hwrites
  have hsplit : first = first.take 8 ++ y :: first.drop 9 := by
    obtain ⟨hlt, hy⟩ := List.getElem?_eq_some_iff.mp hy
    rw [← hy, List.getElem_cons_drop, List.take_append_drop]
  have htruthful : ∀ x ∈ first.take 8, x.isTruthful := by decide +kernel
  have hmem : low ∈ y.request.balances := by rw [hbalances]; exact List.mem_singleton_self low
  exact ⟨hsub, (hsame low high hlow hhigh hlow' hhigh').mp hsub, first.take 8, y, first.drop 9, hsplit, htruthful,
    hmem, (hrule _ _ _ hsplit).2 htruthful low hmem⟩

end Clearing
