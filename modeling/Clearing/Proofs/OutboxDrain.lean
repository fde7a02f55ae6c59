import Clearing.Settings
import Clearing.Proofs.OutboxRows
import Clearing.Proofs.Lemmas.FirstFailure

/-!
# Draining the outbox

A pending row can fail only so often before it is given up. The attempts that are left to all pending rows go down
with every batch that finds one, whatever the courier answers, so after that many batches no row is pending. This
needs counters that have not reached the top of their range: there one more failure starts the counter over, and the
row is not given up.
-/

namespace Clearing

variable {κ : Type} [Courier κ]

/-- A publisher that is set up from a file claims rows and gives them up. -/
theorem Settings.publisher_of_ofYaml {text : String} {settings : Settings} (h : Settings.ofYaml text = .ok settings) :
    1 ≤ settings.outbox.publisher.batchSize ∧ 1 ≤ settings.outbox.publisher.maxAttempts.toInt := by
  rw [ofYaml] at h
  split at h
  · cases h
  · split at h
    · cases h
    · next hbatch =>
        split at h
        · cases h
        · next hattempts =>
            cases h
            exact ⟨not_le.mp hbatch, not_le.mp (mt Int32.le_iff_toInt_le.mpr hattempts)⟩

/-! ## Attempts that are left -/

/-- How often a row may still be handed over: at least once while it is pending. -/
def OutboxMessage.left (limit : Int) (m : OutboxMessage) : Nat :=
  if m.status = .pending then (max 1 (limit - m.attempts.toInt)).toNat else 0

/-- The attempts that are left to all rows of the outbox together. -/
def Tables.left (limit : Int) (t : Tables) : Nat := (t.outbox.rows.map (OutboxMessage.left limit)).sum

/-- One more failure of a pending row can be counted: no counter of such a row is at the top of its range. -/
def Tables.Countable (t : Tables) : Prop :=
  ∀ row ∈ t.outbox.rows, row.status = .pending → row.attempts.toInt < 2 ^ 31 - 1

namespace Tables

variable {t : Tables} {limit : Int} {m row : OutboxMessage}

theorem left_putOutbox (limit : Int) (hm : m ∈ t.outbox.rows) (hid : row.id = m.id) :
    (t.putOutbox row).left limit + m.left limit = t.left limit + row.left limit := by
  have hfound : t.outbox.get? (Keyed.key row) = some m := Table.get?_eq_some_iff.mpr ⟨hm, hid.symm⟩
  have hsum := Table.sum_insert (t := t.outbox) (r := row) (OutboxMessage.left limit)
  rw [hfound] at hsum
  exact hsum

/-- Attempts are left as long as a row is pending. -/
theorem left_pos_iff : 0 < t.left limit ↔ ∃ row ∈ t.outbox.rows, row.status = .pending := by
  constructor
  · intro h
    by_contra hnone
    push Not at hnone
    have hzero : t.left limit = 0 := by
      refine List.sum_eq_zero fun n hn => ?_
      obtain ⟨row, hrow, rfl⟩ := List.mem_map.mp hn
      exact if_neg (hnone row hrow)
    omega
  · rintro ⟨row, hrow, hpending⟩
    have hone : 0 < row.left limit := by
      rw [OutboxMessage.left, if_pos hpending]
      omega
    exact hone.trans_le (List.single_le_sum (fun _ _ => Nat.zero_le _) _ (List.mem_map_of_mem hrow))

end Tables

theorem SameOutbox.left {t t' : Tables} (h : SameOutbox t t') (limit : Int) : t'.left limit = t.left limit := by
  rw [Tables.left, h.outbox, Tables.left]

namespace PublisherConfig

variable {config : PublisherConfig} {now : Instant} {m : OutboxMessage} {t : Tables}

/-- Whatever the courier answers, one attempt is spent. -/
theorem left_recorded (config : PublisherConfig) (now : Instant) (hpending : m.status = .pending)
    (hbelow : m.attempts.toInt < 2 ^ 31 - 1) (x : Except QueueUnavailable String) :
    (config.recorded now m x).left config.maxAttempts.toInt + 1 ≤ m.left config.maxAttempts.toInt := by
  have hm : m.left config.maxAttempts.toInt = (max 1 (config.maxAttempts.toInt - m.attempts.toInt)).toNat := by
    rw [OutboxMessage.left, if_pos hpending]
  cases x with
  | ok taskId =>
      have hpublished : (config.recorded now m (.ok taskId)).left config.maxAttempts.toInt = 0 := rfl
      omega
  | error e =>
      have hcounted := Counter.toInt_add_one hbelow
      have hiff := Counter.le_add_one_iff (m := config.maxAttempts) hbelow
      by_cases hlast : config.maxAttempts ≤ m.attempts + 1
      · have hfailed : (config.recorded now m (.error e)).left config.maxAttempts.toInt = 0 := by
          rw [recorded, OutboxMessage.failing, decide_eq_true hlast]
          rfl
        omega
      · have hkept : (config.recorded now m (.error e)).left config.maxAttempts.toInt
            = (max 1 (config.maxAttempts.toInt - (m.attempts + 1).toInt)).toNat := by
          rw [recorded, OutboxMessage.failing, decide_eq_false hlast]
          exact if_pos hpending
        have hshort : ¬ (config.maxAttempts.toInt ≤ m.attempts.toInt + 1) := fun h => hlast (hiff.mpr h)
        omega

/-- A row that is still pending after a failure has a counter below the limit, and so below the top of the range. -/
theorem below_recorded (config : PublisherConfig) (now : Instant) (hbelow : m.attempts.toInt < 2 ^ 31 - 1)
    (x : Except QueueUnavailable String) (hpending : (config.recorded now m x).status = .pending) :
    (config.recorded now m x).attempts.toInt < 2 ^ 31 - 1 := by
  cases x with
  | ok taskId => exact OutboxStatus.noConfusion hpending
  | error e =>
      by_cases hlast : config.maxAttempts ≤ m.attempts + 1
      · rw [recorded, OutboxMessage.failing, decide_eq_true hlast] at hpending
        exact OutboxStatus.noConfusion hpending
      · have hcounted : (config.recorded now m (.error e)).attempts.toInt = m.attempts.toInt + 1 :=
          Counter.toInt_add_one hbelow
        have hshort : ¬ (config.maxAttempts.toInt ≤ m.attempts.toInt + 1) :=
          fun h => hlast ((Counter.le_add_one_iff hbelow).mpr h)
        have htop := Counter.toInt_le config.maxAttempts
        omega

theorem countable_putOutbox (config : PublisherConfig) (now : Instant) (h : t.Countable) (hm : m ∈ t.outbox.rows)
    (hpending : m.status = .pending) (x : Except QueueUnavailable String) :
    (t.putOutbox (config.recorded now m x)).Countable :=
  Table.forall_mem_insert (config.below_recorded now (h m hm hpending) x) h

theorem left_handRows (config : PublisherConfig) (now : Instant) (limit : Int) (h : t.Countable) (k : κ)
    (r : BatchReport) :
    (config.handRows now (t.pending limit) k t r).2.1.left config.maxAttempts.toInt + (t.pending limit).length
      ≤ t.left config.maxAttempts.toInt := by
  have hrows : ∀ m ∈ t.pending limit, m ∈ t.outbox.rows ∧ m.status = .pending := fun m hm =>
    ⟨(t.pending_sublist limit).subset hm, Tables.status_of_pending hm⟩
  refine (handRows_countdown (P := fun n _ t' => t'.Countable ∧ t'.left config.maxAttempts.toInt
    + (t.pending limit).length ≤ t.left config.maxAttempts.toInt + n) ?_ hrows
    (t.outbox.sorted.sublist (t.pending_sublist limit)) ⟨h, le_rfl⟩).2
  intro n k t' m hm hpending ⟨hcountable, hleft⟩
  have hspent := config.left_recorded now hpending (hcountable m hm hpending) (Courier.hand m k).result
  have hsum := Tables.left_putOutbox config.maxAttempts.toInt hm (config.recorded_id now (Courier.hand m k).result)
  exact ⟨config.countable_putOutbox now hcountable hm hpending _, by omega⟩

theorem countable_handRows (config : PublisherConfig) (now : Instant) (limit : Int) (h : t.Countable) (k : κ)
    (r : BatchReport) : (config.handRows now (t.pending limit) k t r).2.1.Countable :=
  handPending_induction (P := fun _ t => t.Countable)
    (fun _ _ _ hm hpending h => config.countable_putOutbox now h hm hpending _) h

section Success

variable {χ : Type} {fails : χ → SettlementError → Prop} {w : World MemoryStore κ} (hfaults : w.store.faults = [])
  (r : BatchReport)
include hfaults

theorem publishRow_screened (hm : w.store.draft.outboxRow? m.id = some m) :
    (config.publishRow r m).Screened fails [] (fun _ _ => True) w := by
  have hfound : ∀ e : StoreError, ¬ (w.store.draft.outboxRow? m.id = none ∧ e = .notFound s!"outbox message {m.id}") :=
    fun e h => nomatch h.1.symm.trans hm
  show Work.Screened _ ([] ++ ([] ++ ([] ++ []))) _ _ _
  refine .bind (.deliver .nil ?_)
  cases (w.hand m).1 with
  | ok taskId =>
      refine .bind (.query hfaults (fun e h => absurd h (hfound e)) fun _ _ _ => ⟨.nil, ?_⟩)
      exact .bind (.report .nil (.pure .nil trivial))
  | error e =>
      refine .bind (.query hfaults (fun e h => absurd h (hfound e)) fun _ _ _ => ⟨.nil, ?_⟩)
      split
      · exact .bind (.report .nil (.pure .nil trivial))
      · exact .bind (.report .nil (.pure .nil trivial))

theorem publishRows_screened {rows : List OutboxMessage}
    (hrows : ∀ m ∈ rows, w.store.draft.outboxRow? m.id = some m) (hdistinct : rows.Pairwise fun a b => a.id < b.id) :
    (config.publishRows r rows).Screened fails [] (fun _ _ => True) w := by
  induction rows generalizing r w with
  | nil => exact .pure .nil trivial
  | cons m rest ih =>
      obtain ⟨hm, hrest⟩ := List.pairwise_cons.mp hdistinct
      have hfound := hrows m (List.mem_cons_self ..)
      show Work.Screened _ ([] ++ []) _ _ _
      refine .bind ⟨(publishRow_screened hfaults r hfound).1, fun r₁ w₁ hrow => ?_⟩
      have hleft := (config.publishRow r m).run_no_faults hfaults
      rw [hrow] at hleft
      exact ih hleft r₁ (fun x hx => (outboxRow?_publishRow hfound hrow (hm x hx).ne).trans
        (hrows x (List.mem_cons_of_mem _ hx))) hrest

end Success

end PublisherConfig

/-- While no failures are queued, a batch succeeds. -/
theorem Service.batch_succeeds (s : Service) (config : PublisherConfig) {w : World MemoryStore κ}
    (hfaults : w.store.faults = []) : ∃ r, (s.perform (.publishBatch config) w).1 = .ok r := by
  have hwork : config.batchWork.Screened (fun (_ : Empty) _ => False) ([] ++ []) (fun _ _ => True) w.opened := by
    refine .bind (.query hfaults (fun _ h => h.elim) fun rows t h => ⟨.nil, ?_⟩)
    obtain ⟨rfl, rfl⟩ := h
    have hsub := w.opened.store.draft.pending_sublist config.batchSize
    have hclaimed : (w.opened.answered (.claimOutbox config.batchSize) w.opened.store.draft).store.faults = [] :=
      hfaults
    refine PublisherConfig.publishRows_screened hclaimed _ ?_ (w.opened.store.draft.outbox.sorted.sublist hsub)
    exact fun m hm => Table.get?_of_mem (hsub.subset hm)
  exact (Operation.explains_work hfaults rfl hwork).ok_iff.mpr .nil

/-! ## What an action does to the attempts that are left -/

namespace Action

/-- Nothing fails, no row is added, and batches claim rows and give them up after `m` failures. The courier may be
told anything. -/
def Drains (m : Int32) : Action κ → Prop
  | .injectFault .. | .perform _ (.registerUser _) => False
  | .perform _ (.publishBatch config) => config.maxAttempts = m ∧ 1 ≤ config.batchSize
  | _ => True

/-- Whether an action is a batch. -/
def isBatch : Action κ → Bool
  | .perform _ (.publishBatch _) => true
  | _ => false

end Action

/-- The ways in which an action without failures and new rows changes the outbox. -/
inductive Drained (w : World MemoryStore κ) (m : Int32) (t : Tables) : Bool → Prop where
  | idle (rows : SameOutbox w.store.committed t) : Drained w m t false
  | batch {config : PublisherConfig} (limit : config.maxAttempts = m) (size : 1 ≤ config.batchSize)
      (rows : t = (config.handRows w.store.now (w.store.committed.pending config.batchSize) w.courier
        w.store.committed .empty).2.1) : Drained w m t true

theorem Service.rows_of_batch (s : Service) (config : PublisherConfig) {w : World MemoryStore κ}
    (hfaults : w.store.faults = []) : (s.perform (.publishBatch config) w).2.store.committed
      = (config.handRows w.store.now (w.store.committed.pending config.batchSize) w.courier
        w.store.committed .empty).2.1 := by
  obtain ⟨r, hr⟩ := s.batch_succeeds config hfaults
  have heffect := Command.effect_of_perform (Prod.ext hr rfl)
  exact congrArg (fun x => x.2.1) heffect

namespace Action

variable {a : Action κ} {w : World MemoryStore κ} {m : Int32} (hfaults : w.store.faults = []) (ha : a.Drains m)
include hfaults ha

theorem faults_of_drains : (a.apply w).store.faults = [] := by
  cases a with
  | seedUser username email | seedWallet userId currency balance | seedMarket base quote
  | seedOrder userId marketId side price amount | seedVerification username email secretCode seconds
  | setIds ids | setClock now | setCourier courier => exact hfaults
  | injectFault point e => exact ha.elim
  | perform s c => exact Operation.perform_no_faults hfaults

theorem drained : Drained w m (a.apply w).store.committed a.isBatch := by
  cases a with
  | seedUser username email | seedWallet userId currency balance | seedMarket base quote
  | seedOrder userId marketId side price amount | seedVerification username email secretCode seconds
  | setIds ids | setClock now | setCourier courier => exact .idle ⟨rfl, rfl⟩
  | injectFault point e => exact ha.elim
  | perform s c =>
      cases c with
      | registerUser registration => exact ha.elim
      | publishBatch config => exact .batch ha.1 ha.2 (s.rows_of_batch config hfaults)
      | settleTrade | updateFill | postTransfer | moveEntry | verifyEmail | checkCurrencies =>
          exact .idle (s.same_perform .outbox rfl w)

end Action

namespace Drained

variable {w : World MemoryStore κ} {m : Int32} {t : Tables} {isBatch : Bool}

theorem letters (h : Drained w m t isBatch) : t.letters = w.store.committed.letters := by
  cases h with
  | idle rows => exact rows.letters
  | batch limit size rows => rw [rows, Tables.letters_handRows]

theorem countable (h : Drained w m t isBatch) (hcountable : w.store.committed.Countable) : t.Countable := by
  cases h with
  | idle rows =>
      rw [Tables.Countable, rows.outbox]
      exact hcountable
  | batch limit size rows =>
      rw [rows]
      exact PublisherConfig.countable_handRows _ _ _ hcountable w.courier _

theorem left_le (h : Drained w m t isBatch) (hcountable : w.store.committed.Countable) :
    t.left m.toInt ≤ w.store.committed.left m.toInt := by
  cases h with
  | idle rows => exact (rows.left m.toInt).le
  | batch limit size rows =>
      rw [rows, ← limit]
      exact (Nat.le_add_right ..).trans (PublisherConfig.left_handRows _ _ _ hcountable ..)

/-- A batch that finds a pending row spends an attempt. -/
theorem left_lt (h : Drained w m t true) (hcountable : w.store.committed.Countable)
    (hpending : ∃ row ∈ w.store.committed.outbox.rows, row.status = .pending) :
    t.left m.toInt < w.store.committed.left m.toInt := by
  cases h with
  | @batch config limit size rows =>
      have hspent := config.left_handRows w.store.now config.batchSize hcountable w.courier .empty
      rw [← rows, limit] at hspent
      have hcount : 0 < w.store.committed.outbox.rows.countP (·.status = .pending) := by
        obtain ⟨row, hrow, hpending⟩ := hpending
        exact List.countP_pos_iff.mpr ⟨row, hrow, by simpa using hpending⟩
      have hclaimed : ((w.store.committed.pending config.batchSize).length : Int) = _ := Tables.length_pending
      omega

end Drained

/-! ## Whole runs -/

namespace World

variable {w : World MemoryStore κ} {actions : List (Action κ)} {m : Int32}

theorem faults_after (hfaults : w.store.faults = []) (h : w.Along (fun _ a => a.Drains m) actions) :
    (w.after actions).store.faults = [] :=
  h.invariant (I := fun v => v.store.faults = []) hfaults fun _ _ ha hv => Action.faults_of_drains hv ha

/-- What an action without failures and new rows keeps of the rows, a run of them keeps. -/
theorem drained_invariant {I : Tables → Prop} (hfaults : w.store.faults = [])
    (h : w.Along (fun _ a => a.Drains m) actions) (start : I w.store.committed)
    (step : ∀ (v : World MemoryStore κ) t isBatch, Drained v m t isBatch → I v.store.committed → I t) :
    I (w.after actions).store.committed :=
  (h.invariant (I := fun v => v.store.faults = [] ∧ I v.store.committed) ⟨hfaults, start⟩ fun v _ ha hv =>
    ⟨Action.faults_of_drains hv.1 ha, step v _ _ (Action.drained hv.1 ha) hv.2⟩).2

theorem countable_after (hfaults : w.store.faults = []) (hcountable : w.store.committed.Countable)
    (h : w.Along (fun _ a => a.Drains m) actions) : (w.after actions).store.committed.Countable :=
  drained_invariant hfaults h hcountable fun _ _ _ => Drained.countable

/-- Every batch of a run spends an attempt until none are left. -/
theorem left_after (hfaults : w.store.faults = []) (hcountable : w.store.committed.Countable)
    (h : w.Along (fun _ a => a.Drains m) actions) :
    (w.after actions).store.committed.left m.toInt = 0 ∨
      (w.after actions).store.committed.left m.toInt + actions.countP Action.isBatch
        ≤ w.store.committed.left m.toInt := by
  induction actions using List.reverseRecOn with
  | nil => exact .inr le_rfl
  | append_singleton actions a ih =>
      obtain ⟨hactions, ha⟩ := along_concat_iff.mp h
      have hstep := Action.drained (faults_after hfaults hactions) ha
      have hbefore := countable_after hfaults hcountable hactions
      have hle := hstep.left_le hbefore
      rw [after_concat, List.countP_append, List.countP_singleton]
      rcases Nat.eq_zero_or_pos ((w.after actions).store.committed.left m.toInt) with hzero | hpos
      · exact .inl (by omega)
      · have hspent := (ih hactions).resolve_left hpos.ne'
        right
        cases hbatch : a.isBatch with
        | false =>
            rw [if_neg (by decide)]
            omega
        | true =>
            rw [hbatch] at hstep
            have hlt := hstep.left_lt hbefore (Tables.left_pos_iff.mp hpos)
            rw [if_pos rfl]
            omega

end World

/-- Two pending rows before a courier that refuses twice. -/
def queuedWorld : World MemoryStore Mailbox := emptyWorld.after (givingUpRun.take 3)

def batchOfOne : PublisherConfig := { batchSize := 1, maxAttempts := 2 }

def fourBatches : List (Action Mailbox) := List.replicate 4 (.perform {} (.publishBatch batchOfOne))

/-- A pending row that has failed as often as can be counted. -/
def wornRow : OutboxMessage :=
  { (({} : TaskOptions).message verifyEmailTaskType .null).toMessage 1 .epoch with
    attempts := Int32.maxValue
    lastError := some Mailbox.injectedFailure.message }

/-- Such a row before a courier that refuses once. -/
def wornWorld : World MemoryStore Mailbox where
  store := { committed := ({} : Tables).putOutbox wornRow, now := .epoch }
  courier := { failNext := 1 }

end Clearing
