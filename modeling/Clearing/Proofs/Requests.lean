import Clearing.Memory.Store
import Clearing.Proofs.Lemmas.Trace
import Mathlib.Data.List.Induction

/-!
# What commands request

Which requests a command may make after which exchanges, whatever the store and the courier answer. Wallets are
locked in ascending order and before anything is written, and their balances are written once they are locked.
Only a batch claims rows of the outbox; it does so first of all, and hands them over in the order in which they
were claimed.
-/

namespace Clearing

variable {α σ κ : Type}

/-! ## What a trace has requested -/

namespace Request

/-- The wallets that a request asks to lock. -/
def locks : Request → List Uuid
  | .ask q => MemoryStore.lockedBy q
  | .hand _ => []

/-- The wallets whose balances a request writes. -/
def balances : Request → List Uuid
  | .ask (.updateWallet id ..) => [id]
  | _ => []

/-- Whether a request writes rows. -/
def writes : Request → Bool
  | .ask q => q.isWrite
  | .hand _ => false

/-- The messages that a request hands over. -/
def messages : Request → List OutboxMessage
  | .ask _ => []
  | .hand m => [m]

theorem locks_eq (r : Request) : r.locks = [] ∨ ∃ id, r = .ask (.lockWallet id) := by
  cases r with
  | ask q => cases q with
    | lockWallet id => exact .inr ⟨id, rfl⟩
    | _ => exact .inl rfl
  | hand m => exact .inl rfl

theorem balances_eq (r : Request) :
    r.balances = [] ∨ ∃ id balance locked, r = .ask (.updateWallet id balance locked) := by
  cases r with
  | ask q => cases q with
    | updateWallet id balance locked => exact .inr ⟨id, balance, locked, rfl⟩
    | _ => exact .inl rfl
  | hand m => exact .inl rfl

end Request

namespace Exchange

/-- The wallets that an exchange has locked. -/
def locked : Exchange → List Uuid
  | ⟨.ask q, .ok _⟩ => MemoryStore.lockedBy q
  | ⟨.ask _, .error _⟩ | ⟨.hand _, _⟩ => []

/-- Whether a wallet that is locked is the wallet asked for. -/
def isTruthful : Exchange → Bool
  | ⟨.ask (.lockWallet id), .ok wallet⟩ => wallet.id = id
  | _ => true

/-- The rows of the outbox that an exchange has claimed. -/
def claimed : Exchange → List OutboxMessage
  | ⟨.ask (.claimOutbox _), .ok rows⟩ => rows
  | _ => []

end Exchange

/-- The wallets that a trace asks to lock, in order. -/
def locksAsked (t : List Exchange) : List Uuid := t.flatMap fun x => x.request.locks

/-- The messages that a trace hands over, in order. -/
def handed (t : List Exchange) : List OutboxMessage := t.flatMap fun x => x.request.messages

/-- The rows of the outbox that a trace has claimed. -/
def claimed (t : List Exchange) : List OutboxMessage := t.flatMap Exchange.claimed

theorem locksAsked_append (t more : List Exchange) : locksAsked (t ++ more) = locksAsked t ++ locksAsked more :=
  List.flatMap_append

theorem handed_append (t more : List Exchange) : handed (t ++ more) = handed t ++ handed more :=
  List.flatMap_append

theorem claimed_append (t more : List Exchange) : claimed (t ++ more) = claimed t ++ claimed more :=
  List.flatMap_append

/-! ## The rule -/

/-- A wallet has been locked, if every lock has given the wallet asked for. -/
def Locked (t : List Exchange) (id : Uuid) : Prop := (∀ x ∈ t, x.isTruthful) → id ∈ locksAsked t

/-- What a command may request after these exchanges. -/
def Command.Allows (c : Command) (t : List Exchange) : Request → Prop
  | .ask (.lockWallet id) => (∀ a ∈ locksAsked t, a < id) ∧ ∀ x ∈ t, x.request.writes = false
  | .ask (.updateWallet id ..) => Locked t id
  | .ask (.claimOutbox _) => t = [] ∧ ∃ config, c = .publishBatch config
  | .ask _ => True
  | .hand m => handed t ++ [m] <+: claimed t

/-- Every request of a trace is one that the command may make. -/
def Command.Permits (c : Command) (t : List Exchange) : Prop := Follows (fun t x => c.Allows t x.request) t

namespace Command.Permits

variable {c : Command} {t before rest : List Exchange} {x : Exchange}

theorem allows (h : c.Permits (before ++ x :: rest)) : c.Allows before x.request := h before x rest rfl

theorem concat_iff : c.Permits (t ++ [x]) ↔ c.Permits t ∧ c.Allows t x.request := Follows.concat_iff

end Command.Permits

theorem Locked.append {t : List Exchange} {id : Uuid} (h : Locked t id) (more : List Exchange) :
    Locked (t ++ more) id := by
  intro htruthful
  rw [locksAsked_append]
  exact List.mem_append_left _ (h fun x hx => htruthful x (List.mem_append_left _ hx))

theorem Locked.lock (t : List Exchange) (id : Uuid) (wallet : Wallet) :
    Locked (t ++ [⟨.ask (.lockWallet id), .ok wallet⟩]) wallet.id := by
  intro htruthful
  have hid : wallet.id = id :=
    of_decide_eq_true (htruthful _ (List.mem_append_right _ (List.mem_singleton_self _)))
  rw [locksAsked_append, hid]
  exact List.mem_append_right _ (List.mem_singleton_self _)

/-- Nothing has been locked or written. -/
structure Untouched (t : List Exchange) : Prop where
  unlocked : locksAsked t = []
  unwritten : ∀ x ∈ t, x.request.writes = false

namespace Untouched

variable {c : Command} {t : List Exchange} {q : Query}

theorem nil : Untouched [] := ⟨rfl, fun _ hx => absurd hx List.not_mem_nil⟩

theorem concat (h : Untouched t) {x : Exchange} (hlock : x.request.locks = []) (hread : x.request.writes = false) :
    Untouched (t ++ [x]) := by
  constructor
  · rw [locksAsked_append, h.unlocked]
    exact (List.append_nil _).trans hlock
  · intro y hy
    rcases List.mem_append.mp hy with hy | hy
    · exact h.unwritten y hy
    · obtain rfl := List.mem_singleton.mp hy
      exact hread

theorem read (h : Untouched t) (hlock : MemoryStore.lockedBy q = []) (hread : q.isWrite = false)
    (r : q.Reply) : Untouched (t ++ [⟨.ask q, .ok r⟩]) := h.concat hlock hread

theorem lock (h : Untouched t) (id : Uuid) : c.Allows t (.ask (.lockWallet id)) := by
  refine ⟨?_, h.unwritten⟩
  rw [h.unlocked]
  exact fun a ha => absurd ha List.not_mem_nil

theorem lock_lock (h : Untouched t) {low high : Uuid} (hlt : low < high) (wallet : Wallet) :
    c.Allows (t ++ [⟨.ask (.lockWallet low), .ok wallet⟩]) (.ask (.lockWallet high)) := by
  constructor
  · intro a ha
    rw [locksAsked_append, h.unlocked] at ha
    obtain rfl := List.mem_singleton.mp ha
    exact hlt
  · intro x hx
    rcases List.mem_append.mp hx with hx | hx
    · exact h.unwritten x hx
    · obtain rfl := List.mem_singleton.mp hx
      rfl

end Untouched

/-! ## Handing over -/

section HandingOver

variable {c : Command} {t : List Exchange} {x : Exchange}

theorem Exchange.claimed_eq (x : Exchange) : x.claimed = [] ∨ ∃ limit, x.request = .ask (.claimOutbox limit) := by
  obtain ⟨request, answer⟩ := x
  cases request with
  | ask q => cases q with
    | claimOutbox limit => exact .inr ⟨limit, rfl⟩
    | _ => exact .inl rfl
  | hand m => exact .inl rfl

namespace Command.Permits

theorem handed_isPrefix (h : c.Permits t) : handed t <+: claimed t := by
  induction t using List.reverseRecOn with
  | nil => exact List.prefix_rfl
  | append_singleton t x ih =>
      obtain ⟨ht, hx⟩ := concat_iff.mp h
      obtain ⟨request, answer⟩ := x
      rw [handed_append, claimed_append]
      cases request with
      | ask q => exact (List.append_nil (handed t)).symm ▸ (ih ht).trans (List.prefix_append ..)
      | hand m => exact List.IsPrefix.trans hx (List.prefix_append ..)

/-- Only the first request claims rows, if it does. -/
theorem claimed_cons (h : c.Permits (x :: t)) : claimed (x :: t) = x.claimed := by
  have hrest : t.flatMap Exchange.claimed = [] := by
    rw [List.flatMap_eq_nil_iff]
    intro y hy
    obtain ⟨before, rest, rfl⟩ := List.append_of_mem hy
    rcases y.claimed_eq with hnone | ⟨limit, hlimit⟩
    · exact hnone
    · have hallows : c.Allows (x :: before) y.request := allows h
      rw [hlimit] at hallows
      cases hallows.1
  rw [claimed, List.flatMap_cons, hrest, List.append_nil]

theorem claimed_eq_nil (h : c.Permits t) (hc : ∀ config, c ≠ .publishBatch config) : claimed t = [] := by
  rw [claimed, List.flatMap_eq_nil_iff]
  intro y hy
  obtain ⟨before, rest, rfl⟩ := List.append_of_mem hy
  rcases y.claimed_eq with hnone | ⟨limit, hlimit⟩
  · exact hnone
  · have hallows := h.allows
    rw [hlimit] at hallows
    obtain ⟨config, hconfig⟩ := hallows.2
    exact absurd hconfig (hc config)

theorem handed_eq_nil (h : c.Permits t) (hc : ∀ config, c ≠ .publishBatch config) : handed t = [] := by
  have hhanded := h.handed_isPrefix
  rwa [h.claimed_eq_nil hc, List.prefix_nil] at hhanded

end Command.Permits

end HandingOver

/-! ## Every command obeys the rule -/

variable {c : Command}

theorem Uuid.lt_of_not_lt {a b : Uuid} (hne : a ≠ b) (h : ¬ a < b) : b < a := by
  have hvalue : a.value ≠ b.value := fun heq => hne (by cases a; cases b; cases heq; rfl)
  exact Nat.lt_of_le_of_ne (Nat.le_of_not_lt h) hvalue.symm

/-- Any way of ending. -/
def anyEnd (_ : List Exchange) (_ : α) : Prop := True

namespace Execution

variable {e : Execution} {t : List Exchange} {paid received : Decimal}

theorem exchange_obeys {buyer seller : Wallet} (hbuyer : Locked t buyer.id) (hseller : Locked t seller.id) :
    (e.exchange buyer seller paid received).Obeys c.Allows anyEnd t := by
  refine .bind (.ofExcept fun buyerBalance _ => ?_)
  refine .bind (.ofExcept fun sellerBalance _ => ?_)
  refine .bind (.query trivial fun trade => ?_)
  refine .bind (.query (hbuyer.append _) fun buyerWallet => ?_)
  refine .bind (.query ((hseller.append _).append _) fun sellerWallet => ?_)
  exact .pure trivial

theorem settleWithin_obeys (ht : Untouched t) (walletId : Uuid) :
    (e.settleWithin walletId paid received).Obeys c.Allows anyEnd t := by
  refine .bind (.query (ht.lock walletId) fun wallet => ?_)
  refine .bind (.ofOption fun net _ => ?_)
  refine .bind (.ofExcept fun balance _ => ?_)
  refine .bind (.query trivial fun trade => ?_)
  refine .bind (.query ((Locked.lock t walletId wallet).append _) fun updated => ?_)
  exact .pure trivial

theorem settleBetween_obeys (ht : Untouched t) {buyerId sellerId : Uuid} (hne : buyerId ≠ sellerId) :
    (e.settleBetween buyerId sellerId paid received).Obeys c.Allows anyEnd t := by
  -- Whatever the locked rows are, buyer and seller are one of them each.
  have hlocked : ∀ low high, low < high →
      (do let first ← Work.query (.lockWallet low) "failed to lock wallet"
          let second ← Work.query (.lockWallet high) "failed to lock wallet"
          e.exchange (if first.id = buyerId then (first, second) else (second, first)).1
            (if first.id = buyerId then (first, second) else (second, first)).2 paid received).Obeys
        c.Allows anyEnd t := by
    intro low high hlt
    refine .bind (.query (ht.lock low) fun first => ?_)
    refine .bind (.query (ht.lock_lock hlt first) fun second => ?_)
    have hfirst := (Locked.lock t low first).append [⟨.ask (.lockWallet high), .ok second⟩]
    have hsecond := Locked.lock (t ++ [⟨.ask (.lockWallet low), .ok first⟩]) high second
    by_cases hid : first.id = buyerId
    · rw [if_pos hid]
      exact exchange_obeys hfirst hsecond
    · rw [if_neg hid]
      exact exchange_obeys hsecond hfirst
  rw [settleBetween]
  by_cases hlt : buyerId < sellerId
  · rw [if_pos hlt]
    exact hlocked buyerId sellerId hlt
  · rw [if_neg hlt]
    exact hlocked sellerId buyerId (Uuid.lt_of_not_lt hne hlt)

theorem work_obeys (e : Execution) : e.work.Obeys c.Allows anyEnd [] := by
  refine .bind (.ofOption fun deltas _ => ?_)
  refine .bind (.query trivial fun buy => ?_)
  refine .bind (.query trivial fun sell => ?_)
  refine .bind (.ofExcept fun _ _ => ?_)
  refine .bind (.query trivial fun market => ?_)
  refine .bind (.query trivial fun buyer => ?_)
  refine .bind (.query trivial fun seller => ?_)
  have ht := ((((Untouched.nil.read (q := .getOrder e.buyOrderId) rfl rfl buy).read rfl rfl sell).read
    rfl rfl market).read rfl rfl buyer).read rfl rfl seller
  split
  · exact settleWithin_obeys ht _
  · next hne => exact settleBetween_obeys ht hne

end Execution

theorem FillRequest.work_obeys (r : FillRequest) : r.work.Obeys c.Allows anyEnd [] := by
  refine .bind (.query trivial fun order => ?_)
  refine .bind (.ofExcept fun _ _ => ?_)
  refine .bind (.query trivial fun updated => ?_)
  exact .pure trivial

namespace Transfer

/-- Before a transfer is written only the wallet that has to cover it may have been locked. -/
theorem posted_obeys (t : Transfer) (sizing : SizingPolicy) : (t.posted sizing).Obeys c.Allows anyEnd [] := by
  rw [posted]
  split
  · trivial
  · cases sizing with
    | globalMaxBalance =>
        refine .bind (.query trivial fun wallets => ?_)
        exact .ofOption fun _ _ => trivial
    | accountBalance =>
        refine .bind (.query trivial fun found => ?_)
        refine .bind (.query ((Untouched.nil.read rfl rfl found).lock found.id) fun wallet => ?_)
        refine .bind (.require fun _ => ?_)
        exact .pure trivial

theorem work_obeys (t : Transfer) (sizing : SizingPolicy) (rates : FeeRates) :
    (t.work sizing rates).Obeys c.Allows anyEnd [] := by
  refine .bind ((t.posted_obeys sizing).mono fun _ amount _ => ?_)
  refine .bind (.require fun _ => ?_)
  refine .bind (.query trivial fun entry => ?_)
  refine .bind (.query trivial fun fee => ?_)
  exact .pure trivial

end Transfer

theorem LedgerEntry.moveWork_obeys (id : Uuid) (status : TransferStatus) :
    (moveWork id status).Obeys c.Allows anyEnd [] := by
  refine .bind (.query trivial fun entry => ?_)
  refine .bind (.ofExcept fun _ _ => ?_)
  exact .query trivial fun _ => trivial

theorem Registration.work_obeys (r : Registration) (options : TaskOptions) :
    (r.work options).Obeys c.Allows anyEnd [] := by
  refine .bind (.query trivial fun user => ?_)
  refine .bind (.query trivial fun row => ?_)
  exact .pure trivial

theorem Verification.work_obeys (id : Int) (secretCode : String) :
    (work id secretCode).Obeys c.Allows anyEnd [] := by
  refine .bind (.query trivial fun verification => ?_)
  refine .bind (.query trivial fun user => ?_)
  exact .pure trivial

theorem Wallet.currenciesWork_obeys (userId : Uuid) (base quote : String) :
    (currenciesWork userId base quote).Obeys c.Allows anyEnd [] := by
  refine .bind (.query trivial fun wallets => ?_)
  refine .bind (.ofExcept fun _ _ => ?_)
  exact .ofExcept fun _ _ => trivial

namespace PublisherConfig

variable {config : PublisherConfig} {t : List Exchange} {r : BatchReport} {rest : List OutboxMessage}

/-- Handing over the next of the claimed rows leaves the rest to be handed over. -/
theorem publishRow_obeys {m : OutboxMessage} (h : claimed t = handed t ++ m :: rest) :
    (config.publishRow r m).Obeys c.Allows (fun t _ => claimed t = handed t ++ rest) t := by
  have hnext : handed t ++ [m] <+: claimed t := ⟨rest, by rw [h, List.append_assoc]; rfl⟩
  have hrest : ∀ x q (u : q.Reply), Exchange.claimed ⟨.ask q, .ok u⟩ = [] →
      claimed (t ++ [⟨.hand m, x⟩] ++ [⟨.ask q, .ok u⟩])
        = handed (t ++ [⟨.hand m, x⟩] ++ [⟨.ask q, .ok u⟩]) ++ rest := by
    intro x q u hq
    have hclaimed : claimed [⟨.ask q, .ok u⟩] = [] := (List.append_nil _).trans hq
    rw [claimed_append, claimed_append, handed_append, handed_append, hclaimed, h]
    simp [handed, claimed, Exchange.claimed, Request.messages]
  refine .bind (.deliver hnext fun x => ?_)
  cases x with
  | ok taskId =>
      refine .bind (.query trivial fun u => ?_)
      refine .bind (.report ?_)
      exact .pure (hrest _ _ u rfl)
  | error e =>
      refine .bind (.query trivial fun u => ?_)
      split <;> exact .bind (.report (.pure (hrest _ _ u rfl)))

/-- In the end everything that has been claimed has been handed over. -/
theorem publishRows_obeys (h : claimed t = handed t ++ rest) :
    (config.publishRows r rest).Obeys c.Allows (fun t _ => claimed t = handed t) t := by
  induction rest generalizing r t with
  | nil => exact h.trans (List.append_nil _)
  | cons m rest ih => exact .bind ((publishRow_obeys h).mono fun _ _ => ih)

theorem batchWork_obeys (config : PublisherConfig) :
    config.batchWork.Obeys (Command.publishBatch config).Allows (fun t _ => claimed t = handed t) [] := by
  refine .bind (.query ⟨rfl, config, rfl⟩ fun rows => ?_)
  exact publishRows_obeys (List.append_nil rows)

end PublisherConfig

theorem Service.work_obeys (s : Service) (c : Command) : (s.operation c).work.Obeys c.Allows anyEnd [] := by
  cases c with
  | settleTrade e => exact e.work_obeys
  | updateFill request => exact request.work_obeys
  | postTransfer t rates => exact t.work_obeys s.sizing rates
  | moveEntry id status => exact LedgerEntry.moveWork_obeys id status
  | registerUser registration => exact registration.work_obeys s.task
  | verifyEmail id code => exact Verification.work_obeys id code
  | checkCurrencies userId base quote => exact Wallet.currenciesWork_obeys userId base quote
  | publishBatch c => exact c.batchWork_obeys.mono fun _ _ _ => trivial

/-- Whatever store and courier answer, a command makes the requests only that it may make. -/
theorem Service.permits_trace [Store σ] [Courier κ] (s : Service) (c : Command) (w : World σ κ) :
    c.Permits (s.trace c w) :=
  Operation.follows_trace (s.work_obeys c) w

end Clearing
