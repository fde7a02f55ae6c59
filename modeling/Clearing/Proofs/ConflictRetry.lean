import Clearing.Proofs.Atomicity
import Clearing.Proofs.Lemmas.Alike
import Clearing.Proofs.Lemmas.Attempts
import Clearing.Proofs.Lemmas.Faults
import Clearing.Proofs.LockOrder

/-!
# Repeating a command that meets conflicts

A command whose store has conflicts queued is repeated until it is struck by none of them. It then ends as it would
have ended at once without them, and has its effect once.
-/

namespace Clearing

variable {κ : Type}

/-! ## Checks -/

theorem Execution.check_quiet (e : Execution) : Quiet e.check := by
  rw [check]
  split_ifs
  · exact .error rfl
  · exact .error rfl
  · exact .error rfl
  · exact .ok

theorem Execution.checkOrders_quiet (e : Execution) (buy sell : Order) : Quiet (e.checkOrders buy sell) := by
  rw [checkOrders]
  split_ifs
  · exact .error rfl
  · exact .error rfl
  · exact .error rfl
  · exact .ok

theorem Wallet.apply_quiet (w : Wallet) (delta : Decimal) : Quiet (w.apply delta) := by
  rw [apply]
  split
  · exact .error rfl
  · split
    · exact .error rfl
    · exact .ok

theorem FillRequest.checkAmount_quiet (r : FillRequest) (o : Order) : Quiet (r.checkAmount o) := by
  rw [checkAmount]
  cases r.status with
  | opened =>
      dsimp only
      split
      · exact .ok
      · exact .error rfl
  | partiallyFilled =>
      dsimp only
      split
      · exact .error rfl
      · exact .ok
  | filled =>
      dsimp only
      split
      · exact .ok
      · exact .error rfl
  | cancelled => exact .ok

theorem FillRequest.check_quiet (r : FillRequest) (o : Order) : Quiet (r.check o) := by
  rw [check]
  split_ifs
  · exact .error rfl
  · exact .error rfl
  · exact .error rfl
  · exact r.checkAmount_quiet o

theorem Transfer.check_quiet (t : Transfer) (rates : FeeRates) : Quiet (t.check rates) := by
  rw [check]
  split_ifs
  · exact .error rfl
  · exact .error rfl
  · exact .ok

theorem LedgerEntry.checkMove_quiet (e : LedgerEntry) (status : TransferStatus) : Quiet (e.checkMove status) := by
  rw [checkMove]
  split
  · exact .ok
  · exact .error rfl

theorem Wallet.checkCurrency_quiet (wallets : List Wallet) (userId : Uuid) (currency : String) :
    Quiet (checkCurrency wallets userId currency) := by
  rw [checkCurrency]
  split
  · exact .ok
  · exact .error rfl

theorem Service.check_quiet (s : Service) (c : Command) : Quiet (s.operation c).check := by
  cases c with
  | settleTrade e => exact e.check_quiet
  | postTransfer t rates => exact t.check_quiet rates
  | updateFill request | moveEntry id status | registerUser registration | verifyEmail id code
  | checkCurrencies userId base quote | publishBatch config => exact .ok

/-! ## Every command ends alike -/

/-- Results that differ in the identifiers of new rows at most. -/
def Command.SameButIds : (c : Command) → c.Result → c.Result → Prop
  | .settleTrade _, r, r' => r' = { r with trade := { r.trade with id := r'.trade.id } }
  | .postTransfer .., r, r' =>
    r' = { entry := { r.entry with id := r'.entry.id }, fee := { r.fee with id := r'.fee.id } }
  | .registerUser _, r, r' => r' = { r with user := { r.user with id := r'.user.id } }
  | .updateFill _, r, r' | .moveEntry .., r, r' | .verifyEmail .., r, r' | .checkCurrencies .., r, r'
  | .publishBatch _, r, r' => r' = r

namespace Execution

variable {e : Execution} {paid received : Decimal}

theorem exchange_alike {buyer seller : Wallet} : (e.exchange buyer seller paid received).Alike
    (fun _ => (Command.settleTrade e).SameButIds) false (e.exchange buyer seller paid received) := by
  refine .bind (.ofExcept (buyer.apply_quiet paid) fun buyerBalance _ => ?_)
  refine .bind (.ofExcept (seller.apply_quiet received) fun sellerBalance _ => ?_)
  refine .bind (.create rfl rfl fun trade trade' htrade => ?_)
  refine .bind (.query rfl rfl fun buyerWallet => ?_)
  refine .bind (.query rfl rfl fun sellerWallet => ?_)
  exact .pure (congrArg (fun trade => ({ trade, buyerWallet, sellerWallet } : Settlement)) htrade)

theorem settleWithin_alike (walletId : Uuid) : (e.settleWithin walletId paid received).Alike
    (fun _ => (Command.settleTrade e).SameButIds) false (e.settleWithin walletId paid received) := by
  refine .bind (.query rfl rfl fun wallet => ?_)
  refine .bind (.ofOption rfl fun net _ => ?_)
  refine .bind (.ofExcept (wallet.apply_quiet net) fun balance _ => ?_)
  refine .bind (.create rfl rfl fun trade trade' htrade => ?_)
  refine .bind (.query rfl rfl fun updated => ?_)
  exact .pure (congrArg (fun trade => (⟨trade, updated, updated⟩ : Settlement)) htrade)

theorem settleBetween_alike (buyerId sellerId : Uuid) : (e.settleBetween buyerId sellerId paid received).Alike
    (fun _ => (Command.settleTrade e).SameButIds) false (e.settleBetween buyerId sellerId paid received) := by
  refine .bind (.query rfl rfl fun first => ?_)
  refine .bind (.query rfl rfl fun second => ?_)
  exact exchange_alike

theorem work_alike (e : Execution) :
    e.work.Alike (fun _ => (Command.settleTrade e).SameButIds) false e.work := by
  refine .bind (.ofOption rfl fun deltas _ => ?_)
  refine .bind (.query rfl rfl fun buy => ?_)
  refine .bind (.query rfl rfl fun sell => ?_)
  refine .bind (.ofExcept (e.checkOrders_quiet buy sell) fun _ _ => ?_)
  refine .bind (.query rfl rfl fun market => ?_)
  refine .bind (.query rfl rfl fun buyer => ?_)
  refine .bind (.query rfl rfl fun seller => ?_)
  split
  · exact settleWithin_alike _
  · exact settleBetween_alike _ _

end Execution

theorem FillRequest.work_alike (r : FillRequest) :
    r.work.Alike (fun _ => (Command.updateFill r).SameButIds) false r.work := by
  refine .bind (.query rfl rfl fun order => ?_)
  refine .bind (.ofExcept (r.check_quiet order) fun _ _ => ?_)
  refine .bind (.query rfl rfl fun updated => ?_)
  exact .pure rfl

namespace Transfer

/-- No row is created while the amount of a transfer is found. -/
theorem posted_alike (t : Transfer) (sizing : SizingPolicy) :
    (t.posted sizing).Alike (fun new amount amount' => new = false ∧ amount' = amount) false (t.posted sizing) := by
  rw [posted]
  split
  · exact .done ⟨rfl, rfl⟩
  · cases sizing with
    | globalMaxBalance =>
        refine .bind (.query rfl rfl fun wallets => ?_)
        exact .ofOption rfl fun _ _ => ⟨rfl, rfl⟩
    | accountBalance =>
        refine .bind (.query rfl rfl fun found => ?_)
        refine .bind (.query rfl rfl fun wallet => ?_)
        refine .bind (.require rfl fun _ => ?_)
        exact .pure ⟨rfl, rfl⟩

theorem work_alike (t : Transfer) (sizing : SizingPolicy) (rates : FeeRates) : (t.work sizing rates).Alike
    (fun _ => (Command.postTransfer t rates).SameButIds) false (t.work sizing rates) := by
  refine .bind ((t.posted_alike sizing).mono ?_)
  rintro _ amount _ ⟨rfl, rfl⟩
  refine .bind (.require rfl fun _ => ?_)
  refine .bind (.create rfl rfl fun entry entry' hentry => ?_)
  refine .bind (.create rfl rfl fun fee fee' hfee => ?_)
  exact .pure (congrArg₂ Posting.mk hentry hfee)

end Transfer

theorem LedgerEntry.moveWork_alike (id : Uuid) (status : TransferStatus) :
    (moveWork id status).Alike (fun _ => (Command.moveEntry id status).SameButIds) false (moveWork id status) := by
  refine .bind (.query rfl rfl fun entry => ?_)
  refine .bind (.ofExcept (entry.checkMove_quiet status) fun _ _ => ?_)
  exact .query (q := .updateLedgerStatus id status) rfl rfl fun _ => rfl

theorem Registration.work_alike (r : Registration) (options : TaskOptions) :
    (r.work options).Alike (fun _ => (Command.registerUser r).SameButIds) false (r.work options) := by
  refine .bind (.create rfl rfl fun user user' huser => ?_)
  refine .bind (.query rfl rfl fun row => ?_)
  exact .pure (congrArg (fun user => (⟨user, row.id⟩ : RegisteredUser)) huser)

theorem Verification.work_alike (id : Int) (code : String) :
    (work id code).Alike (fun _ => (Command.verifyEmail id code).SameButIds) false (work id code) := by
  refine .bind (.query rfl rfl fun verification => ?_)
  refine .bind (.query rfl rfl fun user => ?_)
  exact .pure rfl

theorem Wallet.currenciesWork_alike (userId : Uuid) (base quote : String) : (currenciesWork userId base quote).Alike
    (fun _ => (Command.checkCurrencies userId base quote).SameButIds) false (currenciesWork userId base quote) := by
  refine .bind (.query rfl rfl fun wallets => ?_)
  refine .bind (.ofExcept (checkCurrency_quiet wallets userId base) fun _ _ => ?_)
  exact .ofExcept (checkCurrency_quiet wallets userId quote) fun _ _ => rfl

/-- Every command but the batches of the outbox, whose messages stay with the courier if the batch is repeated. -/
theorem Service.work_alike (s : Service) {c : Command} (hc : ∀ config, c ≠ .publishBatch config) :
    (s.operation c).work.Alike (fun _ => c.SameButIds) false (s.operation c).work := by
  cases c with
  | settleTrade e => exact e.work_alike
  | updateFill request => exact request.work_alike
  | postTransfer t rates => exact t.work_alike s.sizing rates
  | moveEntry id status => exact LedgerEntry.moveWork_alike id status
  | registerUser registration => exact registration.work_alike s.task
  | verifyEmail id code => exact Verification.work_alike id code
  | checkCurrencies userId base quote => exact Wallet.currenciesWork_alike userId base quote
  | publishBatch config => exact absurd rfl (hc config)

/-! ## The rows that a command leaves -/

namespace Service

/-- The rows after a command, by its result. -/
def rowsAfter (s : Service) (now : Instant) (before : Tables) : (c : Command) → c.Result → Tables
  | .settleTrade _, r => ((before.addTrade r.trade).putWallet r.buyerWallet).putWallet r.sellerWallet
  | .updateFill _, r => before.putOrder r.order
  | .postTransfer .., r => (before.addEntry r.entry).addFee r.fee
  | .moveEntry id status, _ => { before with ledger := Tables.moveEntry id status before.ledger }
  | .registerUser registration, r => ((before.putUser r.user).enqueue (registration.task s.task) now).2
  | .verifyEmail .., r => (before.putVerification r.verification).putUser r.user
  | .checkCurrencies .., _ | .publishBatch _, _ => before

/-- The rows after a command, by its outcome. -/
def rowsLeft (s : Service) (c : Command) (now : Instant) (before : Tables) :
    Except SettlementError c.Result → Tables
  | .ok r => s.rowsAfter now before c r
  | .error _ => before

variable [Courier κ] {s : Service} {c : Command} {w : World MemoryStore κ}

theorem committed_of_effect {w' : World MemoryStore κ} {r : c.Result} (hc : ∀ config, c ≠ .publishBatch config)
    (h : c.Effect s w w' r) : w'.store.committed = s.rowsAfter w.store.now w.store.committed c r := by
  cases c with
  | settleTrade e | postTransfer t rates | registerUser registration | verifyEmail id code => exact h.rows
  | updateFill request =>
      obtain ⟨o, -, -, hreport, hrows⟩ := h
      rw [hrows, hreport, rowsAfter, FillReport.order_ofOrder]
  | moveEntry id status =>
      obtain ⟨entry, -, -, -, hrows⟩ := h
      exact hrows
  | checkCurrencies userId base quote => exact h.2.2
  | publishBatch config => exact absurd rfl (hc config)

theorem committed_of_perform (hc : ∀ config, c ≠ .publishBatch config) (w : World MemoryStore κ) :
    (s.perform c w).2.store.committed = s.rowsLeft c w.store.now w.store.committed (s.perform c w).1 := by
  cases hperform : s.perform c w with
  | mk outcome w' =>
      cases outcome with
      | ok r => exact committed_of_effect hc (Command.effect_of_perform hperform)
      | error e => exact (counts_of_error hperform).1

theorem commits_of_perform (w : World MemoryStore κ) :
    (s.perform c w).2.store.commits = w.store.commits + (s.perform c w).1.isOk.toNat := by
  cases hperform : s.perform c w with
  | mk outcome w' =>
      cases outcome with
      | ok r => exact (counts_of_ok hperform).1
      | error e => exact (counts_of_error hperform).2.1

theorem now_of_perform {e : SettlementError} {w' : World MemoryStore κ}
    (h : s.perform c w = (.error e, w')) : w'.store.now = w.store.now := by
  rcases Operation.perform_error h with ⟨-, hstore⟩ | ⟨-, -, faults, hstore⟩ | ⟨-, -, s', hsame, hstore⟩
  · rw [hstore]
  · rw [hstore]
  · rw [hstore]
    exact hsame.now

end Service

/-! ## Repeated commands -/

namespace Service

variable {s : Service} {c : Command}

/-- The pacing of repeated commands: noting an event appends it to the log, and waiting changes nothing. -/
def pacing {σ : Type} (draw : Nat → Nat) : Pacing (World σ κ) where
  draw := draw
  note e w := w.note e
  sleep _ w := w

variable [Courier κ] {v w w' w₁ : World MemoryStore κ} {outcome : Except SettlementError c.Result}

/-- Performs a command, repeats it under a policy while it ends in conflicts, and keeps a record of the calls. -/
def performRecorded (s : Service) (policy : RetryPolicy) (draw : Nat → Nat) (c : Command) (w : World MemoryStore κ) :
    Retried c.Result × World MemoryStore κ × List (Call (World MemoryStore κ) c.Result) :=
  policy.retry ((pacing draw).besides _) (recorded (s.perform c)) (w, [])

/-- What becomes of a command that is called in one world until it meets no conflict, compared with a bare call in
another world. One call more is made than conflicts are used up. -/
structure Repeats (s : Service) (c : Command) (v w : World MemoryStore κ) (outcome : Except SettlementError c.Result)
    (w' : World MemoryStore κ) (calls : List (Call (World MemoryStore κ) c.Result)) : Prop where
  asBare : SameOutcome c.SameButIds (s.perform c v).1 outcome
  rows : w'.store.committed = s.rowsLeft c v.store.now v.store.committed outcome
  commits : w'.store.commits = w.store.commits + outcome.isOk.toNat
  count : calls.length + w'.store.faults.length = w.store.faults.length + 1
  performed : ∀ call ∈ calls, s.perform c call.before = (call.outcome, call.after)
  conflicts : ∀ call ∈ calls, ∀ e, call.outcome = .error e → e.isConflict = true →
    ∃ failure, Struck failure call.before.store.faults call.after.store.faults

/-- A command in a store that has conflicts queued ends as it does without them and leaves them queued, or it meets
one of them and uses it up. -/
theorem perform_among_conflicts (hc : ∀ config, c ≠ .publishBatch config) (hfree : v.store.faults = [])
    (hrows : w.store.committed = v.store.committed) (hnow : w.store.now = v.store.now)
    (hconflicts : ∀ fault ∈ w.store.faults, fault.2.kind = .conflict) :
    (∃ outcome w', s.perform c w = (outcome, w') ∧ SameOutcome c.SameButIds (s.perform c v).1 outcome ∧
      w'.store.faults = w.store.faults) ∨
    ∃ e failure w', s.perform c w = (.error e, w') ∧ e.isConflict = true ∧
      Struck failure w.store.faults w'.store.faults := by
  rcases ((s.operation c).perform_ends w).of_nil w.store.faults with
    heq | ⟨failure, e, w', heq, ⟨context, rfl⟩, hstruck⟩
  · have hsame : SameOutcome c.SameButIds (s.perform c v).1 ((s.operation c).perform (w.withFaults [])).1 :=
      Operation.perform_alike (s.check_quiet c) (s.work_alike hc) hrows hnow hfree rfl
    exact .inl ⟨_, _, heq, hsame, rfl⟩
  · obtain ⟨point, hmem⟩ := hstruck.exists_mem
    exact .inr ⟨_, failure, w', heq, beq_iff_eq.mpr (hconflicts _ hmem), hstruck⟩

/-- A call that meets no conflict is the only one. -/
theorem Repeats.once (hc : ∀ config, c ≠ .publishBatch config) (hrows : w.store.committed = v.store.committed)
    (hnow : w.store.now = v.store.now) (hperform : s.perform c w = (outcome, w'))
    (hsame : SameOutcome c.SameButIds (s.perform c v).1 outcome) (hfaults : w'.store.faults = w.store.faults) :
    s.Repeats c v w outcome w' [⟨w, outcome, w'⟩] where
  asBare := hsame
  rows := by
    have hcommitted := committed_of_perform (s := s) hc w
    rwa [hperform, hrows, hnow] at hcommitted
  commits := by
    have hcommits := commits_of_perform (s := s) (c := c) w
    rwa [hperform] at hcommits
  count := by rw [hfaults, List.length_singleton, Nat.add_comm]
  performed := List.forall_mem_singleton.mpr hperform
  conflicts := by
    refine List.forall_mem_singleton.mpr fun e herr hconflict => ?_
    rw [hsame.quiet e herr] at hconflict
    cases hconflict

/-- A call that meets a conflict comes before the others. -/
theorem Repeats.again {e : SettlementError} {failure : StoreError} {event : Event}
    {calls : List (Call (World MemoryStore κ) c.Result)} (hperform : s.perform c w = (.error e, w₁))
    (hstruck : Struck failure w.store.faults w₁.store.faults)
    (h : s.Repeats c v (w₁.note event) outcome w' calls) :
    s.Repeats c v w outcome w' (⟨w, .error e, w₁⟩ :: calls) where
  asBare := h.asBare
  rows := h.rows
  commits := by
    rw [h.commits]
    exact congrArg (· + outcome.isOk.toNat) (counts_of_error hperform).2.1
  count := by
    have hrest : calls.length + w'.store.faults.length = w₁.store.faults.length + 1 := h.count
    rw [List.length_cons, hstruck.length]
    omega
  performed := List.forall_mem_cons.mpr ⟨hperform, h.performed⟩
  conflicts := List.forall_mem_cons.mpr ⟨fun _ _ _ => ⟨failure, hstruck⟩, h.conflicts⟩

/-- As many attempts as conflicts are queued, and one more, are enough. -/
theorem attempts_repeats (policy : RetryPolicy) (hc : ∀ config, c ≠ .publishBatch config)
    {backoff : Nat → Nat → Option Duration} {draw : Nat → Nat} {left attempt : Nat}
    (hfree : v.store.faults = []) (hrows : w.store.committed = v.store.committed)
    (hnow : w.store.now = v.store.now) (hconflicts : ∀ fault ∈ w.store.faults, fault.2.kind = .conflict)
    (hleft : w.store.faults.length ≤ left)
    (hdelays : ∀ n, attempt ≤ n → n < attempt + w.store.faults.length → (backoff n (draw n)).isSome)
    (calls : List (Call (World MemoryStore κ) c.Result)) :
    ∃ outcome w' more,
      policy.attemptsBy backoff ((pacing draw).besides _) (recorded (s.perform c)) left attempt (w, calls)
        = (.finished outcome, w', calls ++ more) ∧ s.Repeats c v w outcome w' more := by
  induction left generalizing attempt w calls with
  | zero =>
      rcases perform_among_conflicts (s := s) hc hfree hrows hnow hconflicts with
        ⟨outcome, w', hperform, hsame, hfaults⟩ | ⟨e, failure, w₁, -, -, hstruck⟩
      · exact ⟨_, _, _, RetryPolicy.attemptsBy_of_quiet (recorded_eq hperform calls) hsame.quiet,
          .once hc hrows hnow hperform hsame hfaults⟩
      · have hlength := hstruck.length
        omega
  | succ left ih =>
      rcases perform_among_conflicts (s := s) hc hfree hrows hnow hconflicts with
        ⟨outcome, w', hperform, hsame, hfaults⟩ | ⟨e, failure, w₁, hperform, hconflict, hstruck⟩
      · exact ⟨_, _, _, RetryPolicy.attemptsBy_of_quiet (recorded_eq hperform calls) hsame.quiet,
          .once hc hrows hnow hperform hsame hfaults⟩
      · have hlength := hstruck.length
        obtain ⟨d, hdelay⟩ := Option.isSome_iff_exists.mp (hdelays attempt (Nat.le_refl _) (by omega))
        have hrows₁ := (counts_of_error hperform).1.trans hrows
        have hnow₁ := (now_of_perform hperform).trans hnow
        have hleft₁ : w₁.store.faults.length ≤ left := by omega
        have hdelays₁ : ∀ n, attempt + 1 ≤ n → n < attempt + 1 + w₁.store.faults.length →
            (backoff n (draw n)).isSome := fun n hn hlt => hdelays n (by omega) (by omega)
        obtain ⟨outcome, w', more, hrest, hrepeats⟩ := ih
          (w := w₁.note (.retrying attempt policy.maxAttempts (d.millis % UInt64.size) e)) hrows₁ hnow₁
          (fun fault hfault => hconflicts fault (hstruck.sublist.subset hfault)) hleft₁ hdelays₁
          (calls ++ [⟨w, .error e, w₁⟩])
        refine ⟨outcome, w', _ :: more, ?_, .again hperform hstruck hrepeats⟩
        rw [List.append_cons, ← hrest]
        exact RetryPolicy.attemptsBy_of_conflict (recorded_eq hperform calls) hconflict hdelay

/-- A command that is repeated while it meets conflicts, of which fewer are queued than attempts are allowed, ends as
a bare call does in a store that has none queued: with the same error, or with the same result and the same rows, the
identifiers of new rows apart. Every call that ends in a conflict uses up one of those that are queued, so one call
more is made than are queued at most, and the effect is committed once. -/
theorem retry_transparent (s : Service) {c : Command} (hc : ∀ config, c ≠ .publishBatch config) {policy : RetryPolicy}
    {draw : Nat → Nat} {w : World MemoryStore κ} (hconflicts : ∀ fault ∈ w.store.faults, fault.2.kind = .conflict)
    (hattempts : w.store.faults.length < policy.maxAttempts)
    (hdelays : ∀ n, 1 ≤ n → n ≤ w.store.faults.length → (policy.backoff? n (draw n)).isSome) :
    let bare := s.perform c (w.withFaults [])
    bare.2.store.committed = s.rowsLeft c w.store.now w.store.committed bare.1 ∧
    ∃ outcome w' calls, s.performRetrying policy draw c w = (.finished outcome, w') ∧
      s.performRecorded policy draw c w = (.finished outcome, w', calls) ∧
      s.Repeats c (w.withFaults []) w outcome w' calls := by
  refine ⟨committed_of_perform hc (w.withFaults []), ?_⟩
  have hleft : w.store.faults.length ≤ policy.maxAttempts - 1 := by omega
  have hdelays₁ : ∀ n, 1 ≤ n → n < 1 + w.store.faults.length → (policy.backoff? n (draw n)).isSome :=
    fun n hn hlt => hdelays n hn (by omega)
  obtain ⟨outcome, w', calls, hrecorded, hrepeats⟩ :=
    attempts_repeats (s := s) (v := w.withFaults []) (w := w) policy hc rfl rfl rfl hconflicts hleft hdelays₁ []
  refine ⟨outcome, w', calls, ?_, ?_, hrepeats⟩
  · exact RetryPolicy.attempts_eq.trans (RetryPolicy.attemptsBy_of_recorded hrecorded)
  · exact RetryPolicy.attempts_eq.trans hrecorded

end Service

/-- The crossed world, with a conflict queued at the first wallet that is written and another one at the commit. -/
def contendedWorld : World MemoryStore Mailbox :=
  crossedWorld.withFaults [(.updateWallet, .conflict "deadlock detected"), (.commit, .conflict "could not serialize")]

/-- A trade that meets both conflicts is settled by the third call. -/
theorem Service.contended_trade_settles :
    ∃ outcome w calls, Service.performRetrying {} {} (fun _ => 0) (crossedTrade 4 5) contendedWorld
        = (.finished outcome, w) ∧
      Service.Repeats {} (crossedTrade 4 5) (contendedWorld.withFaults []) contendedWorld outcome w calls ∧
      w.store.commits = 1 ∧ outcome.isOk = true ∧ calls.length = 3 := by
  have hconflicts : ∀ fault ∈ contendedWorld.store.faults, fault.2.kind = .conflict := by decide +kernel
  have hdelays : ∀ n, 1 ≤ n → n ≤ contendedWorld.store.faults.length →
      (({} : RetryPolicy).backoff? n 0).isSome := by
    intro n hone htwo
    replace htwo : n ≤ 2 := htwo
    obtain rfl | rfl : n = 1 ∨ n = 2 := by omega
    · decide +kernel
    · decide +kernel
  have hattempts : contendedWorld.store.faults.length < ({} : RetryPolicy).maxAttempts := by decide +kernel
  obtain ⟨-, outcome, w, calls, hretried, -, hrepeats⟩ :=
    retry_transparent {} (c := crossedTrade 4 5) (fun config h => nomatch h) hconflicts hattempts hdelays
  have hends : (Service.performRetrying {} {} (fun _ => 0) (crossedTrade 4 5) contendedWorld).2.store.commits = 1 ∧
      (Service.performRetrying {} {} (fun _ => 0) (crossedTrade 4 5) contendedWorld).2.store.faults = [] := by
    decide +kernel
  rw [hretried] at hends
  obtain ⟨hcommits, hfaults⟩ := hends
  refine ⟨outcome, w, calls, hretried, hrepeats, hcommits, ?_, ?_⟩
  · have hcounted := hrepeats.commits
    rw [hcommits] at hcounted
    cases outcome with
    | ok r => rfl
    | error e => cases hcounted
  · have hcounted := hrepeats.count
    rw [hfaults] at hcounted
    exact hcounted

end Clearing
