import Clearing.Courier.Mailbox
import Clearing.Courier.Stream
import Clearing.Proofs.Lemmas.Faults
import Clearing.Service

/-!
# Transactions in the log

A store counts how its transactions end, and an operation logs it. The two accounts agree on commits. They agree on
rollbacks unless a transaction ends because it cannot be committed: the store counts that as a rollback, and nobody
logs it.
-/

namespace Clearing

variable {α β κ : Type}

/-! ## Events -/

namespace Event

/-- Whether an event says that a transaction was committed. -/
def isCommitted (e : Event) : Bool := e.level == .debug && e.message == "Transaction committed"

/-- Whether an event says that a transaction was rolled back. -/
def isRolledBack (e : Event) : Bool := e.level == .warn && e.message == "Transaction rolled back"

/-- Whether an event says nothing of how a transaction ended. -/
def IsAside (e : Event) : Prop := e.isCommitted = false ∧ e.isRolledBack = false

end Event

/-- Whatever a courier logs when a message is handed over, it is not how a transaction ended. -/
def Courier.Discreet (κ : Type) [Courier κ] : Prop :=
  ∀ (m : OutboxMessage) (k : κ), ∀ e ∈ (Courier.hand m k).events, e.IsAside

theorem Mailbox.discreet : Courier.Discreet Mailbox := by
  intro m k e he
  simp only [Courier.hand, Mailbox.hand] at he
  split at he <;> cases he

theorem StreamCourier.discreet : Courier.Discreet StreamCourier := by
  intro m k e he
  simp only [Courier.hand, StreamCourier.hand] at he
  split at he
  · obtain rfl := List.mem_singleton.mp he
    exact ⟨rfl, rfl⟩
  · cases he

theorem Courier.Discreet.either {κ₁ κ₂ : Type} [Courier κ₁] [Courier κ₂] (h₁ : Discreet κ₁) (h₂ : Discreet κ₂) :
    Discreet (κ₁ ⊕ κ₂) := by
  intro m k
  cases k with
  | inl k => exact h₁ m k
  | inr k => exact h₂ m k

/-! ## What units of work note -/

namespace Work

/-- A unit of work notes only events of which something holds, whatever it is answered. -/
def Notes (P : Event → Prop) : Work α → Prop
  | .done _ | .fail _ => True
  | .ask _ _ next => ∀ r, (next r).Notes P
  | .hand _ next => ∀ x, (next x).Notes P
  | .note e next => P e ∧ next.Notes P

namespace Notes

variable {P : Event → Prop}

theorem bind {x : Work β} {f : β → Work α} (h : x.Notes P) (hf : ∀ b, (f b).Notes P) : (x >>= f).Notes P := by
  show (x.bind f).Notes P
  induction x with
  | done b => exact hf b
  | fail e => trivial
  | ask q context next ih => exact fun r => ih r (h r)
  | hand m next ih => exact fun r => ih r (h r)
  | note e next ih => exact ⟨h.1, ih h.2⟩

theorem query {q : Query} {context : String} : (query q context).Notes P := fun _ => trivial

theorem deliver {m : OutboxMessage} : (deliver m).Notes P := fun _ => trivial

theorem report {e : Event} (h : P e) : (report e).Notes P := ⟨h, trivial⟩

theorem ofExcept {x : Except SettlementError α} : (ofExcept x).Notes P := by cases x <;> trivial

theorem ofOption {e : SettlementError} {x : Option α} : (ofOption e x).Notes P := by cases x <;> trivial

theorem require {condition : Bool} {e : SettlementError} : (require condition e).Notes P := by
  cases condition <;> trivial

end Notes
end Work

namespace Execution

variable {e : Execution} {paid received : Decimal} {P : Event → Prop}

theorem exchange_notes {buyer seller : Wallet} : (e.exchange buyer seller paid received).Notes P := by
  refine .bind .ofExcept fun buyerBalance => ?_
  refine .bind .ofExcept fun sellerBalance => ?_
  refine .bind .query fun trade => ?_
  refine .bind .query fun buyerWallet => ?_
  exact .bind .query fun sellerWallet => trivial

theorem settleWithin_notes (walletId : Uuid) : (e.settleWithin walletId paid received).Notes P := by
  refine .bind .query fun wallet => ?_
  refine .bind .ofOption fun net => ?_
  refine .bind .ofExcept fun balance => ?_
  refine .bind .query fun trade => ?_
  exact .bind .query fun updated => trivial

theorem settleBetween_notes (buyerId sellerId : Uuid) : (e.settleBetween buyerId sellerId paid received).Notes P := by
  refine .bind .query fun first => ?_
  refine .bind .query fun second => ?_
  exact exchange_notes

theorem work_notes (e : Execution) : e.work.Notes P := by
  refine .bind .ofOption fun deltas => ?_
  refine .bind .query fun buy => ?_
  refine .bind .query fun sell => ?_
  refine .bind .ofExcept fun _ => ?_
  refine .bind .query fun market => ?_
  refine .bind .query fun buyer => ?_
  refine .bind .query fun seller => ?_
  split
  · exact settleWithin_notes _
  · exact settleBetween_notes _ _

end Execution

theorem Transfer.posted_notes {P : Event → Prop} (t : Transfer) (sizing : SizingPolicy) :
    (t.posted sizing).Notes P := by
  rw [posted]
  split
  · trivial
  · cases sizing with
    | globalMaxBalance => exact .bind .query fun wallets => .ofOption
    | accountBalance =>
        refine .bind .query fun found => ?_
        refine .bind .query fun wallet => ?_
        exact .bind .require fun _ => trivial

namespace PublisherConfig

variable {config : PublisherConfig} {r : BatchReport}

theorem publishRow_notes (m : OutboxMessage) : (config.publishRow r m).Notes Event.IsAside := by
  refine .bind .deliver fun x => ?_
  cases x with
  | ok taskId =>
      refine .bind .query fun _ => ?_
      exact .bind (.report ⟨rfl, rfl⟩) fun _ => trivial
  | error e =>
      refine .bind .query fun _ => ?_
      split <;> exact .bind (.report ⟨rfl, rfl⟩) fun _ => trivial

theorem publishRows_notes (rows : List OutboxMessage) : (config.publishRows r rows).Notes Event.IsAside := by
  induction rows generalizing r with
  | nil => trivial
  | cons m rest ih => exact .bind (publishRow_notes m) fun _ => ih

end PublisherConfig

/-- How its transaction ends is not for a unit of work to say. -/
theorem Service.work_notes (s : Service) (c : Command) : (s.operation c).work.Notes Event.IsAside := by
  cases c with
  | settleTrade e => exact e.work_notes
  | updateFill request =>
      refine .bind .query fun order => ?_
      refine .bind .ofExcept fun _ => ?_
      exact .bind .query fun updated => trivial
  | postTransfer t rates =>
      refine .bind (t.posted_notes s.sizing) fun amount => ?_
      refine .bind .require fun _ => ?_
      refine .bind .query fun entry => ?_
      exact .bind .query fun fee => trivial
  | moveEntry id status =>
      refine .bind .query fun entry => ?_
      exact .bind .ofExcept fun _ => .query
  | registerUser registration =>
      refine .bind .query fun user => ?_
      exact .bind .query fun row => trivial
  | verifyEmail id code =>
      refine .bind .query fun verification => ?_
      exact .bind .query fun user => trivial
  | checkCurrencies userId base quote =>
      refine .bind .query fun wallets => ?_
      exact .bind .ofExcept fun _ => .ofExcept
  | publishBatch config => exact .bind .query fun rows => PublisherConfig.publishRows_notes rows

theorem Service.report_aside (s : Service) (c : Command) (r : c.Result) :
    ∀ e ∈ (s.operation c).report r, e.IsAside := by
  intro e he
  cases c with
  | settleTrade | postTransfer | moveEntry | registerUser | verifyEmail | checkCurrencies =>
      obtain rfl := List.mem_singleton.mp he
      exact ⟨rfl, rfl⟩
  | updateFill request =>
      cases r with
      | applied o remaining =>
          obtain rfl := List.mem_singleton.mp he
          exact ⟨rfl, rfl⟩
      | remainderOverflow o => cases he
  | publishBatch config =>
      simp only [operation, PublisherConfig.batch] at he
      split at he
      · cases he
      · obtain rfl := List.mem_singleton.mp he
        exact ⟨rfl, rfl⟩

/-! ## What is logged and what is counted -/

/-- What is logged between two worlds, and the failures to commit that are used up between them. Every commit that is
counted is logged, and every rollback but one for each of these failures. -/
structure World.Accounts (w w' : World MemoryStore κ) (events : List Event) (failed : List StoreError) : Prop where
  log : w'.log = w.log ++ events
  commits : w'.store.commits = w.store.commits + events.countP Event.isCommitted
  rollbacks : w'.store.rollbacks = w.store.rollbacks + events.countP Event.isRolledBack + failed.length
  queue : queuedAt .commit w.store.faults = failed ++ queuedAt .commit w'.store.faults

namespace World.Accounts

variable {w w' w'' : World MemoryStore κ} {events events' : List Event} {failed failed' : List StoreError}

theorem refl (w : World MemoryStore κ) : w.Accounts w [] [] := ⟨(List.append_nil _).symm, rfl, rfl, rfl⟩

theorem trans (h : w.Accounts w' events failed) (h' : w'.Accounts w'' events' failed') :
    w.Accounts w'' (events ++ events') (failed ++ failed') where
  log := by rw [h'.log, h.log, List.append_assoc]
  commits := by rw [h'.commits, h.commits, List.countP_append, Nat.add_assoc]
  rollbacks := by
    rw [h'.rollbacks, h.rollbacks, List.countP_append, List.length_append]
    omega
  queue := by rw [h.queue, h'.queue, List.append_assoc]

/-- While a transaction goes on, nothing is said of its end. -/
theorem of_aside (hout : w.store.SameOutside w'.store) (hlog : w'.log = w.log ++ events)
    (hevents : ∀ e ∈ events, e.IsAside) (hqueue : queuedAt .commit w.store.faults = queuedAt .commit w'.store.faults) :
    w.Accounts w' events [] := by
  have hcommitted : events.countP Event.isCommitted = 0 :=
    List.countP_eq_zero.mpr fun e he => by simp [(hevents e he).1]
  have hrolledBack : events.countP Event.isRolledBack = 0 :=
    List.countP_eq_zero.mpr fun e he => by simp [(hevents e he).2]
  refine ⟨hlog, ?_, ?_, hqueue⟩
  · rw [hout.commits, hcommitted, Nat.add_zero]
  · rw [hout.rollbacks, hrolledBack]
    rfl

theorem note {e : Event} (he : e.IsAside) : w.Accounts (w.note e) [e] [] :=
  .of_aside (.refl _) rfl (List.forall_mem_singleton.mpr he) rfl

theorem noteAll (hevents : ∀ e ∈ events, e.IsAside) : w.Accounts (w.noteAll events) events [] :=
  .of_aside (.refl _) rfl hevents rfl

end World.Accounts

theorem Query.faultPoint?_ne_commit (q : Query) : q.faultPoint? ≠ some .commit := by
  cases q <;> exact fun h => by cases h

namespace World

variable {w : World MemoryStore κ}

/-- A failure that strikes while a transaction goes on is logged, and is none to commit. -/
theorem struck_accounts {s : MemoryStore} {point : FaultPoint} {e : StoreError}
    (hf : w.store.fault? point = some (e, s)) (hne : point ≠ .commit) :
    w.Accounts { w with store := s, log := w.log ++ [.faultInjected point e] } [.faultInjected point e] [] := by
  have hqueue := (MemoryStore.struckAt_of_fault? hf).queuedAt_of_ne hne
  obtain ⟨faults, rfl⟩ := MemoryStore.fault?_eq_some hf
  exact .of_aside ⟨rfl, rfl, rfl, rfl⟩ rfl (List.forall_mem_singleton.mpr ⟨rfl, rfl⟩) hqueue

theorem begin_accounts : ∃ events, w.Accounts w.begin.2 events [] := by
  rw [begin_eq]
  cases hf : w.store.fault? .begin with
  | none => exact ⟨[], ⟨(List.append_nil _).symm, rfl, rfl, rfl⟩⟩
  | some es => exact ⟨_, struck_accounts hf FaultPoint.noConfusion⟩

theorem ask_accounts (q : Query) : ∃ events, w.Accounts (w.ask q).2 events [] := by
  have hanswer : w.Accounts (w.afterStore (w.store.answer q)).2 [] [] := by
    rw [afterStore, MemoryStore.answer]
    cases w.store.draft.reply w.store.ids.next w.store.now q <;> exact ⟨rfl, rfl, rfl, rfl⟩
  simp only [ask, Store.ask, MemoryStore.ask]
  cases hpoint : q.faultPoint? with
  | none => exact ⟨[], hanswer⟩
  | some point =>
      cases hf : w.store.fault? point with
      | none =>
          simp only [hf]
          exact ⟨[], hanswer⟩
      | some es =>
          simp only [hf]
          have hne : point ≠ .commit := by
            rintro rfl
            exact q.faultPoint?_ne_commit hpoint
          exact ⟨_, struck_accounts hf hne⟩

theorem hand_accounts [Courier κ] (hcourier : Courier.Discreet κ) (m : OutboxMessage) :
    w.Accounts (w.hand m).2 (Courier.hand m w.courier).events [] :=
  .of_aside ⟨rfl, rfl, rfl, rfl⟩ rfl (hcourier m w.courier) rfl

/-- A transaction that cannot be committed is counted as rolled back, and not logged. -/
theorem conclude_accounts (name : String) (a : α) : ∃ events failed,
    w.Accounts (w.conclude name a).2 events failed ∧
      (failed = [] ∨ ∃ e, failed = [e] ∧ (w.conclude name a).1 = .error (.store Operation.commitContext e)) := by
  rw [conclude, commit_eq]
  cases hf : w.store.fault? .commit with
  | none => exact ⟨[.committed name (Store.name MemoryStore)], [], ⟨rfl, rfl, rfl, rfl⟩, .inl rfl⟩
  | some es =>
      obtain ⟨e, s⟩ := es
      have hqueue := (MemoryStore.struckAt_of_fault? hf).queuedAt_self
      obtain ⟨faults, rfl⟩ := MemoryStore.fault?_eq_some hf
      exact ⟨[.faultInjected .commit e], [e], ⟨rfl, rfl, rfl, hqueue⟩, .inr ⟨e, rfl, rfl⟩⟩

theorem abandon_accounts (name : String) (e : SettlementError) :
    w.Accounts (w.abandon (α := α) name e).2 [.rolledBack name e] [] :=
  ⟨by rw [abandon]; exact congrArg (· ++ _) (List.append_nil _), rfl, rfl, rfl⟩

end World

section

variable [Courier κ] {w : World MemoryStore κ}

theorem Work.run_accounts (hcourier : Courier.Discreet κ) {x : Work α} (h : x.Notes Event.IsAside) :
    ∃ events, w.Accounts (x.run w).2 events [] := by
  induction x generalizing w with
  | done a => exact ⟨[], .refl w⟩
  | fail e => exact ⟨[], .refl w⟩
  | ask q context next ih =>
      obtain ⟨events, hask⟩ := World.ask_accounts (w := w) q
      rw [run]
      cases hq : w.ask q with
      | mk result w₁ =>
          rw [hq] at hask
          cases result with
          | ok r =>
              obtain ⟨more, hrest⟩ := ih r (h r) (w := w₁)
              exact ⟨events ++ more, hask.trans hrest⟩
          | error e => exact ⟨events, hask⟩
  | hand m next ih =>
      obtain ⟨more, hrest⟩ := ih _ (h _) (w := (w.hand m).2)
      exact ⟨_, (World.hand_accounts hcourier m).trans hrest⟩
  | note e next ih =>
      obtain ⟨more, hrest⟩ := ih h.2 (w := w.note e)
      exact ⟨_, (World.Accounts.note h.1).trans hrest⟩

theorem World.transact_accounts (hcourier : Courier.Discreet κ) {work : Work α} (h : work.Notes Event.IsAside)
    (name : String) : ∃ events failed, w.Accounts (w.transact name work).2 events failed ∧
      (failed = [] ∨ ∃ e, failed = [e] ∧ (w.transact name work).1 = .error (.store Operation.commitContext e)) := by
  obtain ⟨events, hbegin⟩ := begin_accounts (w := w)
  rw [transact]
  cases hw : w.begin with
  | mk opened w₁ =>
      rw [hw] at hbegin
      cases opened with
      | error e => exact ⟨events, [], hbegin, .inl rfl⟩
      | ok u =>
          obtain ⟨more, hrun⟩ := Work.run_accounts (w := w₁) hcourier h
          cases hwork : work.run w₁ with
          | mk result w₂ =>
              rw [hwork] at hrun
              simp only [hwork]
              cases result with
              | ok a =>
                  obtain ⟨last, failed, hend, hresult⟩ := conclude_accounts (w := w₂) name a
                  exact ⟨_, failed, (hbegin.trans hrun).trans hend, hresult⟩
              | error e => exact ⟨_, [], (hbegin.trans hrun).trans (abandon_accounts name e), .inl rfl⟩

theorem Operation.perform_accounts (hcourier : Courier.Discreet κ) {o : Operation α}
    (hwork : o.work.Notes Event.IsAside) (hreport : ∀ a, ∀ e ∈ o.report a, e.IsAside) :
    ∃ events failed, w.Accounts (o.perform w).2 events failed ∧
      (failed = [] ∨ ∃ e, failed = [e] ∧ (o.perform w).1 = .error (.store commitContext e)) := by
  rw [perform]
  cases o.check with
  | error e => exact ⟨[], [], .refl w, .inl rfl⟩
  | ok u =>
      obtain ⟨events, failed, haccounts, hresult⟩ := World.transact_accounts (w := w) hcourier hwork o.name
      cases htransact : w.transact o.name o.work with
      | mk result w₁ =>
          rw [htransact] at haccounts hresult
          cases result with
          | error e => exact ⟨events, failed, haccounts, hresult⟩
          | ok a =>
              obtain rfl : failed = [] := by
                rcases hresult with hnone | ⟨e, -, herror⟩
                · exact hnone
                · cases herror
              exact ⟨_, [], haccounts.trans (.noteAll (hreport a)), .inl rfl⟩

end

/-- A command logs every commit that the store counts. It logs every rollback that the store counts if and only if it
uses up no failure to commit; it uses up one such failure at most, fails with it, and leaves one rollback unlogged. -/
theorem Service.ends_logged_iff [Courier κ] (hcourier : Courier.Discreet κ) (s : Service) (c : Command)
    (w : World MemoryStore κ) :
    ∃ events, (s.perform c w).2.log = w.log ++ events ∧
      (s.perform c w).2.store.commits = w.store.commits + events.countP Event.isCommitted ∧
      ((s.perform c w).2.store.rollbacks = w.store.rollbacks + events.countP Event.isRolledBack ↔
        queuedAt .commit (s.perform c w).2.store.faults = queuedAt .commit w.store.faults) ∧
      (queuedAt .commit (s.perform c w).2.store.faults = queuedAt .commit w.store.faults ∨
        ∃ e, queuedAt .commit w.store.faults = e :: queuedAt .commit (s.perform c w).2.store.faults ∧
          (s.perform c w).1 = .error (.store Operation.commitContext e) ∧
          (s.perform c w).2.store.rollbacks = w.store.rollbacks + events.countP Event.isRolledBack + 1) := by
  obtain ⟨events, failed, h, hresult⟩ :=
    Operation.perform_accounts (w := w) hcourier (s.work_notes c) (s.report_aside c)
  refine ⟨events, h.log, h.commits, ?_⟩
  rcases hresult with rfl | ⟨e, rfl, herror⟩
  · exact ⟨iff_of_true h.rollbacks h.queue.symm, .inl h.queue.symm⟩
  · refine ⟨iff_of_false ?_ ?_, .inr ⟨e, h.queue, herror, h.rollbacks⟩⟩
    · intro heq
      exact Nat.succ_ne_self _ (h.rollbacks.symm.trans heq)
    · intro heq
      exact List.cons_ne_self _ _ (heq.trans h.queue).symm

/-- A store without rows whose next transaction cannot be committed. -/
def fullDisk : World MemoryStore (Mailbox ⊕ StreamCourier) where
  store := { now := .epoch, faults := [(.commit, .internal "disk full")] }
  courier := .inl {}

/-- A user who registers. -/
def newcomer : Registration where
  username := "ann"
  email := "ann@example.org"
  passwordHash := ""
  role := .user

/-- The registration is counted as rolled back, and the log is silent on it. -/
theorem Service.unlogged_rollback : ∃ events e, (Service.perform {} (.registerUser newcomer) fullDisk).2.log = events ∧
    (Service.perform {} (.registerUser newcomer) fullDisk).1 = .error (.store Operation.commitContext e) ∧
    (Service.perform {} (.registerUser newcomer) fullDisk).2.store.rollbacks = 1 ∧
    events.countP Event.isRolledBack = 0 ∧ events.countP Event.isCommitted = 0 := by
  obtain ⟨events, hlog, hcommits, -, hends⟩ :=
    ends_logged_iff (Mailbox.discreet.either StreamCourier.discreet) {} (.registerUser newcomer) fullDisk
  have hrollbacks : (Service.perform {} (.registerUser newcomer) fullDisk).2.store.rollbacks = 1 := by decide +kernel
  have hnone : (Service.perform {} (.registerUser newcomer) fullDisk).2.store.commits = 0 := by decide +kernel
  rcases hends with hsame | ⟨e, -, herror, hone⟩
  · exact absurd hsame (by decide +kernel)
  · rw [hrollbacks] at hone
    rw [hnone] at hcommits
    exact ⟨events, e, hlog, herror, hrollbacks, by omega, by omega⟩

/-- Not every rollback is logged: the registration that cannot be committed leaves one out. -/
theorem Service.rollbacks_not_all_logged :
    ¬ ∀ (s : Service) (c : Command) (w : World MemoryStore (Mailbox ⊕ StreamCourier)) (events : List Event),
      (s.perform c w).2.log = w.log ++ events →
      (s.perform c w).2.store.rollbacks = w.store.rollbacks + events.countP Event.isRolledBack ∧
        (s.perform c w).2.store.commits = w.store.commits + events.countP Event.isCommitted := by
  intro h
  have hlogged := (h {} (.registerUser newcomer) fullDisk _ rfl).1
  exact absurd hlogged (by decide +kernel)

end Clearing
