import Clearing.Proofs.History
import Clearing.Proofs.WalletAccess

/-!
# Checks come before writes

Every command makes all of its checks before it writes anything, whatever the store answers. So a command that fails
with a reason of its own has written nothing; input that is refused opens no transaction; and a settlement that finds
a wallet missing has asked for no lock.
-/

namespace Clearing

variable {α β σ κ : Type}

/-- Whether an operation has failed with a reason of its own and not with a store's failure. -/
def SettlementError.isOwn : SettlementError → Bool
  | .store .. => false
  | .insufficientBalance .. | .fillDecrease .. | .fillExceedsAmount .. | .illegalTransition .. | .invalidAmount _
  | .marketMismatch _ | .sideMismatch _ | .currencyUnavailable .. | .internal _ => true

/-! ## Units of work -/

namespace Work

/-- Whether a unit of work fails of its own accord only while nothing is written, whatever it is answered, and ends
in one of the ways that are expected if it ends with a value. -/
def ChecksFirst (expected : Bool → α → Prop) : Work α → (written : Bool) → Prop
  | .done a, written => expected written a
  | .fail _, written => written = false
  | .ask q _ next, written => ∀ r, (next r).ChecksFirst expected (written || q.isWrite)
  | .hand _ next, written => ∀ x, (next x).ChecksFirst expected written
  | .note _ next, written => next.ChecksFirst expected written

namespace ChecksFirst

variable {expected : Bool → α → Prop} {written : Bool}

theorem pure {a : α} (h : expected written a) : (pure a : Work α).ChecksFirst expected written := h

theorem mono {x : Work α} {weaker : Bool → α → Prop} (h : x.ChecksFirst expected written)
    (hweaker : ∀ written a, expected written a → weaker written a) : x.ChecksFirst weaker written := by
  induction x generalizing written with
  | done a => exact hweaker written a h
  | fail e => exact h
  | ask q context next ih => exact fun r => ih r (h r)
  | hand m next ih => exact fun r => ih r (h r)
  | note e next ih => exact ih h

theorem bind {x : Work β} {f : β → Work α}
    (h : x.ChecksFirst (fun written b => (f b).ChecksFirst expected written) written) :
    (x >>= f).ChecksFirst expected written := by
  show (x.bind f).ChecksFirst expected written
  induction x generalizing written with
  | done b => exact h
  | fail e => exact h
  | ask q context next ih => exact fun r => ih r (h r)
  | hand m next ih => exact fun r => ih r (h r)
  | note e next ih => exact ih h

theorem query {q : Query} {context : String} {expected : Bool → q.Reply → Prop}
    (h : ∀ r, expected (written || q.isWrite) r) : (query q context).ChecksFirst expected written := h

theorem deliver {m : OutboxMessage} {expected : Bool → Except QueueUnavailable String → Prop}
    (h : ∀ x, expected written x) : (deliver m).ChecksFirst expected written := h

theorem report {e : Event} {expected : Bool → Unit → Prop} (h : expected written ()) :
    (report e).ChecksFirst expected written := h

theorem ofExcept {x : Except SettlementError α} (h : ∀ a, x = .ok a → expected false a) :
    (ofExcept x).ChecksFirst expected false := by
  cases x with
  | ok a => exact h a rfl
  | error e => rfl

theorem ofOption {e : SettlementError} {x : Option α} (h : ∀ a, x = some a → expected false a) :
    (ofOption e x).ChecksFirst expected false := by
  cases x with
  | some a => exact h a rfl
  | none => rfl

theorem require {condition : Bool} {e : SettlementError} {expected : Bool → Unit → Prop}
    (h : condition = true → expected false ()) : (require condition e).ChecksFirst expected false := by
  cases condition with
  | true => exact h rfl
  | false => rfl

variable [Store σ] [Courier κ]

/-- A unit of work that makes its checks first and fails with a reason of its own has written nothing. -/
theorem unwritten {x : Work α} (h : x.ChecksFirst expected written) {w : World σ κ} {e : SettlementError}
    (herr : (x.run w).1 = .error e) (hown : e.isOwn = true) :
    written = false ∧ ∀ y ∈ x.trace w, y.request.writes = false := by
  induction x generalizing written w with
  | done a => cases herr
  | fail e => exact ⟨h, fun y hy => absurd hy List.not_mem_nil⟩
  | ask q context next ih =>
      cases hask : w.ask q with
      | mk result w' =>
          simp only [run, hask] at herr
          cases result with
          | ok r =>
              obtain ⟨hwritten, hrest⟩ := ih r (h r) herr
              rw [Bool.or_eq_false_iff] at hwritten
              rw [trace_ask_ok hask]
              exact ⟨hwritten.1, List.forall_mem_cons.mpr ⟨hwritten.2, hrest⟩⟩
          | error source =>
              cases herr
              cases hown
  | hand m next ih =>
      obtain ⟨hwritten, hrest⟩ := ih _ (h _) herr
      exact ⟨hwritten, List.forall_mem_cons.mpr ⟨rfl, hrest⟩⟩
  | note e next ih => exact ih h herr

end ChecksFirst
end Work

/-! ## Every command checks first -/

/-- Any value at the end, whether or not something is written. -/
def anyValue (_ : Bool) (_ : α) : Prop := True

namespace Execution

variable {e : Execution} {paid received : Decimal}

theorem exchange_checksFirst {buyer seller : Wallet} :
    (e.exchange buyer seller paid received).ChecksFirst anyValue false := by
  refine .bind (.ofExcept fun buyerBalance _ => ?_)
  refine .bind (.ofExcept fun sellerBalance _ => ?_)
  refine .bind (.query fun trade => ?_)
  refine .bind (.query fun buyerWallet => ?_)
  refine .bind (.query fun sellerWallet => ?_)
  exact .pure trivial

theorem settleWithin_checksFirst (walletId : Uuid) :
    (e.settleWithin walletId paid received).ChecksFirst anyValue false := by
  refine .bind (.query fun wallet => ?_)
  refine .bind (.ofOption fun net _ => ?_)
  refine .bind (.ofExcept fun balance _ => ?_)
  refine .bind (.query fun trade => ?_)
  refine .bind (.query fun updated => ?_)
  exact .pure trivial

theorem settleBetween_checksFirst (buyerId sellerId : Uuid) :
    (e.settleBetween buyerId sellerId paid received).ChecksFirst anyValue false := by
  refine .bind (.query fun first => ?_)
  refine .bind (.query fun second => ?_)
  exact exchange_checksFirst

theorem work_checksFirst (e : Execution) : e.work.ChecksFirst anyValue false := by
  refine .bind (.ofOption fun deltas _ => ?_)
  refine .bind (.query fun buy => ?_)
  refine .bind (.query fun sell => ?_)
  refine .bind (.ofExcept fun _ _ => ?_)
  refine .bind (.query fun market => ?_)
  refine .bind (.query fun buyer => ?_)
  refine .bind (.query fun seller => ?_)
  split
  · exact settleWithin_checksFirst _
  · exact settleBetween_checksFirst _ _

end Execution

theorem FillRequest.work_checksFirst (r : FillRequest) : r.work.ChecksFirst anyValue false := by
  refine .bind (.query fun order => ?_)
  refine .bind (.ofExcept fun _ _ => ?_)
  refine .bind (.query fun updated => ?_)
  exact .pure trivial

namespace Transfer

/-- Nothing is written while the amount of a transfer is found. -/
theorem posted_checksFirst (t : Transfer) (sizing : SizingPolicy) :
    (t.posted sizing).ChecksFirst (fun written _ => written = false) false := by
  rw [posted]
  split
  · exact .pure rfl
  · cases sizing with
    | globalMaxBalance =>
        refine .bind (.query fun wallets => ?_)
        exact .ofOption fun _ _ => rfl
    | accountBalance =>
        refine .bind (.query fun found => ?_)
        refine .bind (.query fun wallet => ?_)
        refine .bind (.require fun _ => ?_)
        exact .pure rfl

theorem work_checksFirst (t : Transfer) (sizing : SizingPolicy) (rates : FeeRates) :
    (t.work sizing rates).ChecksFirst anyValue false := by
  refine .bind ((t.posted_checksFirst sizing).mono ?_)
  rintro _ amount rfl
  refine .bind (.require fun _ => ?_)
  refine .bind (.query fun entry => ?_)
  refine .bind (.query fun fee => ?_)
  exact .pure trivial

end Transfer

theorem LedgerEntry.moveWork_checksFirst (id : Uuid) (status : TransferStatus) :
    (moveWork id status).ChecksFirst anyValue false := by
  refine .bind (.query fun entry => ?_)
  refine .bind (.ofExcept fun _ _ => ?_)
  exact .query fun _ => trivial

theorem Registration.work_checksFirst (r : Registration) (options : TaskOptions) :
    (r.work options).ChecksFirst anyValue false := by
  refine .bind (.query fun user => ?_)
  refine .bind (.query fun row => ?_)
  exact .pure trivial

theorem Verification.work_checksFirst (id : Int) (secretCode : String) :
    (work id secretCode).ChecksFirst anyValue false := by
  refine .bind (.query fun verification => ?_)
  refine .bind (.query fun user => ?_)
  exact .pure trivial

theorem Wallet.currenciesWork_checksFirst (userId : Uuid) (base quote : String) :
    (currenciesWork userId base quote).ChecksFirst anyValue false := by
  refine .bind (.query fun wallets => ?_)
  refine .bind (.ofExcept fun _ _ => ?_)
  exact .ofExcept fun _ _ => trivial

namespace PublisherConfig

variable {config : PublisherConfig} {r : BatchReport} {written : Bool}

/-- A batch has no checks: a row that cannot be handed over is recorded as such. -/
theorem publishRow_checksFirst {m : OutboxMessage} : (config.publishRow r m).ChecksFirst anyValue written := by
  refine .bind (.deliver fun x => ?_)
  cases x with
  | ok taskId =>
      refine .bind (.query fun _ => ?_)
      exact .bind (.report (.pure trivial))
  | error e =>
      refine .bind (.query fun _ => ?_)
      split <;> exact .bind (.report (.pure trivial))

theorem publishRows_checksFirst (rows : List OutboxMessage) :
    (config.publishRows r rows).ChecksFirst anyValue written := by
  induction rows generalizing r written with
  | nil => exact .pure trivial
  | cons m rest ih => exact .bind (publishRow_checksFirst.mono fun _ _ _ => ih)

end PublisherConfig

theorem Service.work_checksFirst (s : Service) (c : Command) :
    (s.operation c).work.ChecksFirst anyValue false := by
  cases c with
  | settleTrade e => exact e.work_checksFirst
  | updateFill request => exact request.work_checksFirst
  | postTransfer t rates => exact t.work_checksFirst s.sizing rates
  | moveEntry id status => exact LedgerEntry.moveWork_checksFirst id status
  | registerUser registration => exact registration.work_checksFirst s.task
  | verifyEmail id code => exact Verification.work_checksFirst id code
  | checkCurrencies userId base quote => exact Wallet.currenciesWork_checksFirst userId base quote
  | publishBatch config => exact .bind (.query fun rows => PublisherConfig.publishRows_checksFirst rows)

/-! ## Failures -/

section Generic

variable [Store σ] [Courier κ] {w : World σ κ}

theorem Operation.unwritten {o : Operation α} {expected : Bool → α → Prop} (h : o.work.ChecksFirst expected false)
    {e : SettlementError} (herr : (o.perform w).1 = .error e) (hown : e.isOwn = true) :
    ∀ x ∈ o.trace w, x.request.writes = false := by
  intro x hx
  obtain ⟨hcheck, w₁, hbegin⟩ := opened_of_mem_trace hx
  rw [trace_opened hcheck hbegin] at hx
  rw [perform_opened hcheck hbegin] at herr
  cases hrun : o.work.run w₁ with
  | mk result w₂ =>
      rw [hrun] at herr
      cases result with
      | error _ =>
          cases herr
          exact (h.unwritten (congrArg Prod.fst hrun) hown).2 x hx
      | ok a =>
          -- A commit that is refused is a store's failure.
          simp only [World.conclude] at herr
          split at herr <;> cases herr
          cases hown

/-- A query that fails is the last exchange, and its failure is what the unit of work ends with. -/
theorem Work.ends_with_failure {x : Work α} {q : Query} {failure : StoreError}
    (h : ⟨.ask q, .error failure⟩ ∈ x.trace w) :
    (∃ before, x.trace w = before ++ [⟨.ask q, .error failure⟩]) ∧
      ∃ context, (x.run w).1 = .error (.store context failure) := by
  induction x generalizing w with
  | done a => cases h
  | fail e => cases h
  | ask asked context next ih =>
      cases hask : w.ask asked with
      | mk result w' =>
          cases result with
          | ok r =>
              rw [trace_ask_ok hask] at h ⊢
              simp only [run, hask]
              rcases List.mem_cons.mp h with heq | hrest
              · cases heq
              · obtain ⟨⟨before, hbefore⟩, hresult⟩ := ih r hrest
                exact ⟨⟨_ :: before, congrArg _ hbefore⟩, hresult⟩
          | error e =>
              rw [trace_ask_error hask] at h ⊢
              simp only [run, hask]
              cases List.mem_singleton.mp h
              exact ⟨⟨[], rfl⟩, context, rfl⟩
  | hand m next ih =>
      rcases List.mem_cons.mp h with heq | hrest
      · cases heq
      · obtain ⟨⟨before, hbefore⟩, hresult⟩ := ih _ hrest
        exact ⟨⟨_ :: before, congrArg _ hbefore⟩, hresult⟩
  | note e next ih => exact ih h

theorem Operation.ends_with_failure {o : Operation α} {q : Query} {failure : StoreError}
    (h : ⟨.ask q, .error failure⟩ ∈ o.trace w) :
    (∃ before, o.trace w = before ++ [⟨.ask q, .error failure⟩]) ∧
      ∃ context, (o.perform w).1 = .error (.store context failure) := by
  obtain ⟨hcheck, w₁, hbegin⟩ := opened_of_mem_trace h
  rw [trace_opened hcheck hbegin] at h ⊢
  obtain ⟨hlast, context, hresult⟩ := Work.ends_with_failure h
  refine ⟨hlast, context, ?_⟩
  rw [perform_opened hcheck hbegin]
  cases hrun : o.work.run w₁ with
  | mk result w₂ =>
      rw [hrun] at hresult
      cases hresult
      rfl

/-- A settlement that is refused a wallet it looks up has asked for no lock and has written nothing. -/
theorem Execution.untouched_of_unfound {e : Execution} {userId : Uuid} {currency : String} {failure : StoreError}
    (h : ⟨.ask (.findWallet userId currency), .error failure⟩ ∈ e.settle.trace w) : Untouched (e.settle.trace w) := by
  obtain ⟨⟨before, hlast⟩, -⟩ := Operation.ends_with_failure h
  have hbefore : Untouched before := e.accesses_trace w before _ [] hlast
  rw [hlast]
  exact hbefore.concat rfl rfl

end Generic

/-- A command that fails with a reason of its own has written nothing, and if that is its input it has not even opened
a transaction. A settlement that fails as it finds a wallet missing has neither locked nor written anything. -/
theorem Service.checks_precede_writes [Store σ] [Courier κ] (s : Service) (c : Command) (w : World σ κ) :
    (∀ e, (s.perform c w).1 = .error e → e.isOwn = true → ∀ x ∈ s.trace c w, x.request.writes = false) ∧
    (∀ e, (s.operation c).check = .error e → s.perform c w = (.error e, w) ∧ s.trace c w = []) ∧
    (∀ execution userId currency failure, c = .settleTrade execution →
      ⟨.ask (.findWallet userId currency), .error failure⟩ ∈ s.trace c w →
      (∃ context, (s.perform c w).1 = .error (.store context failure)) ∧
        locksAsked (s.trace c w) = [] ∧ ∀ x ∈ s.trace c w, x.request.writes = false) := by
  refine ⟨?_, ?_, ?_⟩
  · exact fun e herr hown => Operation.unwritten (s.work_checksFirst c) herr hown
  · intro e hcheck
    refine ⟨?_, ?_⟩
    · simp only [perform, Operation.perform, hcheck]
    · simp only [Service.trace, Operation.trace, hcheck]
  · rintro execution userId currency failure rfl h
    have huntouched := Execution.untouched_of_unfound h
    exact ⟨(Operation.ends_with_failure h).2, huntouched.unlocked, huntouched.unwritten⟩

/-- A user with a wallet and one without, and an order of each on both sides of market 2. -/
def unpairedWorld : World MemoryStore Mailbox :=
  let market := IdSupply.numbered 2
  emptyWorld.after
    [.seedWallet (.ofNat 1) "USDT" (.ofCoeff 100 0), .seedMarket "BTC" "USDT",
     .seedOrder (.ofNat 1) market .buy .zero .zero, .seedOrder (.ofNat 2) market .sell .zero .zero,
     .seedOrder (.ofNat 1) market .sell .zero .zero]

/-- A trade of this price between two orders of the unpaired world. -/
def unpairedTrade (sell : Nat) (price : Decimal) : Command :=
  .settleTrade {
    buyOrderId := IdSupply.numbered 3
    sellOrderId := IdSupply.numbered sell
    marketId := IdSupply.numbered 2
    price := price
    quantity := .ofCoeff 2 0
    fee := .ofCoeff 60 0 }

/-- A trade with oneself that costs more than one has, a trade without a price, and a trade with a user who has no
wallet. -/
theorem Service.unpaired_trades_write_nothing :
    (∃ e, (Service.perform {} (unpairedTrade 5 (.ofCoeff 1 0)) unpairedWorld).1 = .error e ∧ e.isOwn = true ∧
      locksAsked (Service.trace {} (unpairedTrade 5 (.ofCoeff 1 0)) unpairedWorld) = [IdSupply.numbered 1] ∧
      ∀ x ∈ Service.trace {} (unpairedTrade 5 (.ofCoeff 1 0)) unpairedWorld, x.request.writes = false) ∧
    Service.trace {} (unpairedTrade 4 .zero) unpairedWorld = [] ∧
    locksAsked (Service.trace {} (unpairedTrade 4 (.ofCoeff 1 0)) unpairedWorld) = [] := by
  obtain ⟨hown, -⟩ := checks_precede_writes {} (unpairedTrade 5 (.ofCoeff 1 0)) unpairedWorld
  obtain ⟨-, hinput, -⟩ := checks_precede_writes {} (unpairedTrade 4 .zero) unpairedWorld
  obtain ⟨-, -, hunfound⟩ := checks_precede_writes {} (unpairedTrade 4 (.ofCoeff 1 0)) unpairedWorld
  refine ⟨?_, ?_, ?_⟩
  · exact ⟨_, rfl, rfl, by decide +kernel, hown _ rfl rfl⟩
  · exact (hinput _ rfl).2
  · exact (hunfound _ (.ofNat 2) "USDT" _ rfl (List.mem_of_getElem? (i := 4) rfl)).2.1

end Clearing
