import Clearing.Proofs.Lemmas.Counter
import Clearing.Proofs.OutboxDelivery

/-!
# Rows of the outbox

A row of the outbox is pending until it has been handed over or has failed as often as allowed, which is once at
least; then it never changes again. The publisher decides to give a row up by the number of attempts in the row that
it has claimed, and the store counts attempts in the row that it keeps: the two are always the same. A batch that
succeeds handles the oldest pending rows and reports what has become of each.
-/

namespace Clearing

variable {κ : Type}

/-! ## Rows -/

namespace OutboxMessage

/-- How a row stands that is given up after so many failures. -/
structure Kept (limit : Int) (m : OutboxMessage) : Prop where
  attempts : 0 ≤ m.attempts.toInt
  pending : m.status = .pending →
    m.attempts.toInt < limit ∧ m.publishedAt = none ∧ (m.lastError.isSome ↔ 0 < m.attempts.toInt)
  published : m.status = .published → m.attempts.toInt < limit ∧ m.publishedAt.isSome ∧ m.lastError = none
  failed : m.status = .failed → m.attempts.toInt = limit ∧ m.lastError.isSome ∧ m.publishedAt = none

namespace Kept

variable {limit : Int} {m : OutboxMessage}

theorem fresh (hlimit : 0 < limit) (task : OutboxTask) (id : Int) (now : Instant) :
    (task.toMessage id now).Kept limit := by
  refine ⟨Int.le_refl 0, ?_, ?_, ?_⟩
  · exact fun _ => ⟨hlimit, rfl, ⟨nofun, fun h => absurd h (Int.lt_irrefl 0)⟩⟩
  · exact fun h => OutboxStatus.noConfusion h
  · exact fun h => OutboxStatus.noConfusion h

theorem accepted (h : m.Kept limit) (hpending : m.status = .pending) (now : Instant) :
    (m.published now).Kept limit := by
  refine ⟨h.attempts, ?_, ?_, ?_⟩
  · exact fun h => OutboxStatus.noConfusion h
  · exact fun _ => ⟨(h.pending hpending).1, rfl, rfl⟩
  · exact fun h => OutboxStatus.noConfusion h

theorem below_top {maxAttempts : Int32} (h : m.Kept (max 1 maxAttempts.toInt)) (hpending : m.status = .pending) :
    m.attempts.toInt < 0x7fffffff := by
  have hlt := (h.pending hpending).1
  have hle := Counter.toInt_le maxAttempts
  omega

/-- A failure is the last one allowed if it brings the attempts up to the limit. -/
theorem refused {maxAttempts : Int32} (h : m.Kept (max 1 maxAttempts.toInt)) (hpending : m.status = .pending)
    (error : String) : (m.failing error (maxAttempts ≤ m.attempts + 1)).Kept (max 1 maxAttempts.toInt) := by
  obtain ⟨hlt, hpublishedAt, -⟩ := h.pending hpending
  have hattempts := h.attempts
  have hbelow := h.below_top hpending
  have hcounted : (m.failing error (maxAttempts ≤ m.attempts + 1)).attempts.toInt = m.attempts.toInt + 1 :=
    Counter.toInt_add_one hbelow
  have hiff := Counter.le_add_one_iff (m := maxAttempts) hbelow
  by_cases hlast : maxAttempts ≤ m.attempts + 1
  · have hstatus : (m.failing error (maxAttempts ≤ m.attempts + 1)).status = .failed := by
      rw [failing, decide_eq_true hlast]
      rfl
    have hreached := hiff.mp hlast
    refine ⟨by omega, ?_, ?_, ?_⟩
    · exact fun h => OutboxStatus.noConfusion (hstatus.symm.trans h)
    · exact fun h => OutboxStatus.noConfusion (hstatus.symm.trans h)
    · exact fun _ => ⟨by omega, rfl, hpublishedAt⟩
  · have hstatus : (m.failing error (maxAttempts ≤ m.attempts + 1)).status = .pending := by
      rw [failing, decide_eq_false hlast]
      exact hpending
    have hshort : ¬ (maxAttempts.toInt ≤ m.attempts.toInt + 1) := fun h => hlast (hiff.mpr h)
    refine ⟨by omega, ?_, ?_, ?_⟩
    · refine fun _ => ⟨by omega, hpublishedAt, ?_⟩
      rw [hcounted]
      exact ⟨fun _ => by omega, fun _ => rfl⟩
    · exact fun h => OutboxStatus.noConfusion (hstatus.symm.trans h)
    · exact fun h => OutboxStatus.noConfusion (hstatus.symm.trans h)

theorem recorded {config : PublisherConfig} (h : m.Kept (max 1 config.maxAttempts.toInt))
    (hpending : m.status = .pending) (now : Instant) (x : Except QueueUnavailable String) :
    (config.recorded now m x).Kept (max 1 config.maxAttempts.toInt) := by
  cases x with
  | ok taskId => exact h.accepted hpending now
  | error e => exact h.refused hpending e.message

end Kept
end OutboxMessage

/-! ## What an action does to the rows -/

/-- The ways in which an action changes the outbox. -/
inductive Queued [Courier κ] (w : World MemoryStore κ) (a : Action κ) (t : Tables) : Prop where
  | same (rows : SameOutbox w.store.committed t)
  | enqueued {before : Tables} {task : OutboxTask} {now : Instant} (rows : SameOutbox w.store.committed before)
      (enqueued : t = (before.enqueue task now).2)
  | batch {s : Service} {config : PublisherConfig} (batch : a = .perform s (.publishBatch config))
      (rows : t = (config.handRows w.store.now (w.store.committed.pending config.batchSize) w.courier
        w.store.committed .empty).2.1)

section Runs

variable [Courier κ] {w : World MemoryStore κ} {actions : List (Action κ)} {m : Int32}

theorem Action.queued (a : Action κ) (w : World MemoryStore κ) : Queued w a (a.apply w).store.committed := by
  cases a with
  | seedUser username email | seedWallet userId currency balance | seedMarket base quote
  | seedOrder userId marketId side price amount | seedVerification username email secretCode seconds
  | injectFault point e | setIds ids | setClock now | setCourier courier => exact .same ⟨rfl, rfl⟩
  | perform s c =>
      cases c with
      | registerUser registration =>
          rcases s.committed_perform (.registerUser registration) w with hsame | ⟨-, r, hregistered⟩
          · exact .same (Part.outbox.same_of_eq hsame)
          · have huser : SameOutbox w.store.committed (w.store.committed.putUser r.user) := ⟨rfl, rfl⟩
            exact .enqueued huser hregistered.rows
      | publishBatch config =>
          rcases s.committed_perform (.publishBatch config) w with hsame | ⟨-, r, heffect⟩
          · exact .same (Part.outbox.same_of_eq hsame)
          · exact .batch rfl (congrArg (fun x => x.2.1) heffect)
      | settleTrade | updateFill | postTransfer | moveEntry | verifyEmail | checkCurrencies =>
          exact .same (s.same_perform .outbox rfl w)

/-- Batches give a row up after so many failures. -/
def Action.GivesUpAt (m : Int32) : Action κ → Prop
  | .perform _ (.publishBatch config) => config.maxAttempts = m
  | _ => True

/-- All rows stand as they should, and the next row takes a larger number than all of them. -/
structure Tables.OutboxKept (limit : Int) (t : Tables) : Prop where
  rows : ∀ row ∈ t.outbox.rows, row.Kept limit
  ids : ∀ row ∈ t.outbox.rows, row.id < t.nextOutboxId

theorem Tables.OutboxKept.of_nil {limit : Int} {t : Tables} (h : t.outbox.rows = []) : t.OutboxKept limit := by
  constructor <;> rw [h] <;> exact fun row hrow => absurd hrow List.not_mem_nil

theorem Tables.OutboxKept.of_same {limit : Int} {t t' : Tables} (h : t.OutboxKept limit) (hsame : SameOutbox t t') :
    t'.OutboxKept limit := by
  refine ⟨?_, ?_⟩
  · rw [hsame.outbox]
    exact h.rows
  · rw [hsame.outbox, hsame.next]
    exact h.ids

theorem Tables.OutboxKept.enqueue {limit : Int} {t : Tables} (h : t.OutboxKept limit) (hlimit : 0 < limit)
    (task : OutboxTask) (now : Instant) : (t.enqueue task now).2.OutboxKept limit := by
  have hrows := rows_enqueue task now h.ids
  have hnext : (t.enqueue task now).2.nextOutboxId = t.nextOutboxId + 1 := rfl
  constructor
  · rw [hrows]
    intro row hrow
    rcases List.mem_append.mp hrow with hrow | hrow
    · exact h.rows row hrow
    · obtain rfl := List.mem_singleton.mp hrow
      exact .fresh hlimit ..
  · rw [hrows, hnext]
    intro row hrow
    rcases List.mem_append.mp hrow with hrow | hrow
    · exact (h.ids row hrow).trans (Int.lt_succ _)
    · obtain rfl := List.mem_singleton.mp hrow
      exact Int.lt_succ _

/-- A batch keeps the rows as they should be, for it gives a row up when its attempts reach the limit. -/
theorem Tables.OutboxKept.handRows {config : PublisherConfig} {t : Tables}
    (h : t.OutboxKept (max 1 config.maxAttempts.toInt)) (now : Instant) (limit : Int) (k : κ) (r : BatchReport) :
    (config.handRows now (t.pending limit) k t r).2.1.OutboxKept (max 1 config.maxAttempts.toInt) := by
  refine PublisherConfig.handPending_induction (P := fun _ t => t.OutboxKept (max 1 config.maxAttempts.toInt)) ?_ h
  intro k t m hm hpending h
  constructor
  · exact Table.forall_mem_insert ((h.rows m hm).recorded hpending now _) h.rows
  · refine Table.forall_mem_insert ?_ h.ids
    rw [PublisherConfig.recorded_id]
    exact h.ids m hm

theorem Queued.outboxKept {a : Action κ} {t : Tables} (h : Queued w a t) (ha : a.GivesUpAt m)
    (hkept : w.store.committed.OutboxKept (max 1 m.toInt)) : t.OutboxKept (max 1 m.toInt) := by
  cases h with
  | same rows => exact hkept.of_same rows
  | @enqueued before task now rows enqueued =>
      rw [enqueued]
      exact (hkept.of_same rows).enqueue (by omega) task now
  | batch batch rows =>
      subst batch
      obtain rfl : _ = m := ha
      rw [rows]
      exact hkept.handRows ..

theorem World.outboxKept (hrows : w.store.committed.outbox.rows = []) (h : w.Along (fun _ a => a.GivesUpAt m) actions) :
    (w.after actions).store.committed.OutboxKept (max 1 m.toInt) := by
  exact h.invariant (I := fun v => v.store.committed.OutboxKept (max 1 m.toInt)) (.of_nil hrows)
    fun v a ha hkept => (a.queued v).outboxKept ha hkept

/-! ## Rows that are done with -/

/-- A row that is no longer pending outlives every action as it is. -/
theorem Queued.mem_of_done {a : Action κ} {t : Tables} (h : Queued w a t)
    (hids : ∀ row ∈ w.store.committed.outbox.rows, row.id < w.store.committed.nextOutboxId) {row : OutboxMessage}
    (hrow : row ∈ w.store.committed.outbox.rows) (hdone : row.status ≠ .pending) : row ∈ t.outbox.rows := by
  cases h with
  | same rows => rwa [rows.outbox]
  | @enqueued before task now rows enqueued =>
      rw [← rows.outbox, ← rows.next] at hids
      rw [enqueued, Tables.rows_enqueue task now hids, rows.outbox]
      exact List.mem_append_left _ hrow
  | @batch s config batch rows =>
      rw [rows]
      refine PublisherConfig.handPending_induction (P := fun _ t => row ∈ t.outbox.rows) ?_ hrow
      intro k t m hm hpending hmem
      rcases Table.eq_or_mem_insert _ hmem hm (config.recorded_id ..) with rfl | hkept
      · exact absurd hpending hdone
      · exact hkept

theorem World.done_forever (hrows : w.store.committed.outbox.rows = [])
    (h : w.Along (fun _ a => a.GivesUpAt m) actions) {i k : Nat} (hik : i ≤ k) {row : OutboxMessage}
    (hrow : row ∈ (w.stateAt actions i).store.committed.outbox.rows) (hdone : row.status ≠ .pending) :
    row ∈ (w.stateAt actions k).store.committed.outbox.rows := by
  refine h.between (I := fun v => v.store.committed.OutboxKept (max 1 m.toInt)) (R := fun v x =>
    row ∈ v.store.committed.outbox.rows → row ∈ x.store.committed.outbox.rows) (.of_nil hrows) ?_ ?_ ?_ hik hrow
  · intro v a ha hkept
    have hqueued := a.queued v
    exact ⟨hqueued.outboxKept ha hkept, fun hmem => hqueued.mem_of_done hkept.ids hmem hdone⟩
  · exact fun v hmem => hmem
  · exact fun u v x huv hvx hmem => hvx (huv hmem)

end Runs

/-! ## What a batch reports -/

namespace Tables

/-- Whether these rows have the message as published. -/
def hasPublished (t : Tables) (m : OutboxMessage) : Bool :=
  (t.outboxRow? m.id).any fun row => row.status = .published

/-- Whether these rows have the message as pending, with one attempt more. -/
def hasRetried (t : Tables) (m : OutboxMessage) : Bool :=
  (t.outboxRow? m.id).any fun row => row.status = .pending ∧ row.attempts = m.attempts + 1

/-- Whether these rows have the message as failed. -/
def hasGivenUp (t : Tables) (m : OutboxMessage) : Bool :=
  (t.outboxRow? m.id).any fun row => row.status = .failed

end Tables

/-- How many rows a report is about. -/
def BatchReport.total (r : BatchReport) : Nat := r.published + r.failed + r.gaveUp

/-- The report of a batch counts what has become of the messages it has handled. -/
structure BatchReport.Counts (r : BatchReport) (before : BatchReport) (t : Tables) (handled : List OutboxMessage) :
    Prop where
  published : r.published = before.published + handled.countP t.hasPublished
  failed : r.failed = before.failed + handled.countP t.hasRetried
  gaveUp : r.gaveUp = before.gaveUp + handled.countP t.hasGivenUp

theorem BatchReport.Counts.cons {r₀ r₁ r₂ : BatchReport} {t : Tables} {m : OutboxMessage} {rest : List OutboxMessage}
    (h : r₁.Counts r₀ t [m]) (hrest : r₂.Counts r₁ t rest) : r₂.Counts r₀ t (m :: rest) := by
  rw [← List.singleton_append]
  refine ⟨?_, ?_, ?_⟩
  · rw [List.countP_append, ← Nat.add_assoc, ← h.published, hrest.published]
  · rw [List.countP_append, ← Nat.add_assoc, ← h.failed, hrest.failed]
  · rw [List.countP_append, ← Nat.add_assoc, ← h.gaveUp, hrest.gaveUp]

namespace PublisherConfig

variable [Courier κ] {config : PublisherConfig} {now : Instant}

/-- Handing rows over leaves all others as they are. -/
theorem outboxRow?_handRows {id : Int} (rows : List OutboxMessage) (h : ∀ m ∈ rows, m.id ≠ id) (k : κ) (t : Tables)
    (r : BatchReport) : (config.handRows now rows k t r).2.1.outboxRow? id = t.outboxRow? id := by
  induction rows generalizing k t r with
  | nil => rfl
  | cons m rest ih =>
      obtain ⟨hm, hrest⟩ := List.forall_mem_cons.mp h
      rw [handRows]
      refine (ih hrest _ _ _).trans ?_
      rw [Tables.outboxRow?_putOutbox, recorded_id, if_neg hm]

/-- What is counted of a pending row is what has become of it. -/
theorem counted_counts {m : OutboxMessage} (hpending : m.status = .pending) (x : Except QueueUnavailable String)
    (r : BatchReport) {t : Tables} (ht : t.outboxRow? m.id = some (config.recorded now m x)) :
    (config.counted m r x).Counts r t [m] := by
  have hpublished : t.hasPublished m = decide ((config.recorded now m x).status = .published) := by
    rw [Tables.hasPublished, ht, Option.any_some]
  have hretried : t.hasRetried m = decide ((config.recorded now m x).status = .pending ∧
      (config.recorded now m x).attempts = m.attempts + 1) := by rw [Tables.hasRetried, ht, Option.any_some]
  have hgivenUp : t.hasGivenUp m = decide ((config.recorded now m x).status = .failed) := by
    rw [Tables.hasGivenUp, ht, Option.any_some]
  cases x with
  | ok taskId =>
      have hstatus : (config.recorded now m (.ok taskId)).status = .published := rfl
      rw [hstatus] at hpublished hretried hgivenUp
      refine ⟨?_, ?_, ?_⟩ <;> simp [counted, hpublished, hretried, hgivenUp]
  | error e =>
      have hattempts : (config.recorded now m (.error e)).attempts = m.attempts + 1 := rfl
      by_cases hlast : config.maxAttempts ≤ m.attempts + 1
      · have hstatus : (config.recorded now m (.error e)).status = .failed := by
          simp only [recorded, OutboxMessage.failing, hlast, decide_true, if_true]
        rw [hstatus] at hpublished hretried hgivenUp
        refine ⟨?_, ?_, ?_⟩ <;> simp [counted, hlast, hpublished, hretried, hgivenUp]
      · have hstatus : (config.recorded now m (.error e)).status = .pending := by
          simp only [recorded, OutboxMessage.failing, hlast, decide_false, Bool.false_eq_true, if_false, hpending]
        rw [hstatus] at hpublished hretried hgivenUp
        refine ⟨?_, ?_, ?_⟩ <;> simp [counted, hlast, hattempts, hpublished, hretried, hgivenUp]

theorem handRows_counts (config : PublisherConfig) (now : Instant) {rows : List OutboxMessage}
    (hpending : ∀ m ∈ rows, m.status = .pending) (hdistinct : rows.Pairwise fun a b => a.id < b.id) (k : κ)
    (t : Tables) (r : BatchReport) :
    (config.handRows now rows k t r).2.2.Counts r (config.handRows now rows k t r).2.1 rows := by
  induction rows generalizing k t r with
  | nil => exact ⟨rfl, rfl, rfl⟩
  | cons m rest ih =>
      obtain ⟨hm, hrest⟩ := List.pairwise_cons.mp hdistinct
      obtain ⟨hmpending, hrestpending⟩ := List.forall_mem_cons.mp hpending
      rw [handRows]
      have htail := ih hrestpending hrest (Courier.hand m k).state
        (t.putOutbox (config.recorded now m (Courier.hand m k).result))
        (config.counted m r (Courier.hand m k).result)
      have hrow : (config.handRows now rest (Courier.hand m k).state
          (t.putOutbox (config.recorded now m (Courier.hand m k).result))
          (config.counted m r (Courier.hand m k).result)).2.1.outboxRow? m.id
          = some (config.recorded now m (Courier.hand m k).result) := by
        rw [outboxRow?_handRows rest fun x hx => (hm x hx).ne']
        rw [Tables.outboxRow?_putOutbox, recorded_id, if_pos rfl]
      exact (counted_counts hmpending _ r hrow).cons htail

theorem total_counted (config : PublisherConfig) (m : OutboxMessage) (r : BatchReport)
    (x : Except QueueUnavailable String) : (config.counted m r x).total = r.total + 1 := by
  cases x with
  | ok taskId =>
      simp only [counted, BatchReport.total]
      omega
  | error e =>
      rw [counted]
      split <;> simp only [BatchReport.total] <;> omega

theorem handRows_total (rows : List OutboxMessage) (k : κ) (t : Tables) (r : BatchReport) :
    (config.handRows now rows k t r).2.2.total = r.total + rows.length := by
  induction rows generalizing k t r with
  | nil => rfl
  | cons m rest ih => rw [handRows, ih, total_counted, List.length_cons, Nat.add_assoc, Nat.add_comm 1]

end PublisherConfig

/-- What a batch with this limit does and reports: it handles the oldest pending rows, counts what becomes of them,
and leaves all other rows as they are. -/
structure BatchReport.Accounts (r : BatchReport) (limit : Int) (before after : Tables)
    (handled : List OutboxMessage) : Prop where
  pending : ∀ m ∈ handled, m ∈ before.outbox.rows ∧ m.status = .pending
  ascending : handled.Pairwise fun a b => a.id < b.id
  length : (handled.length : Int) = min (max limit 0) (before.outbox.rows.countP (·.status = .pending))
  oldest : ∀ m ∈ handled, ∀ row ∈ before.outbox.rows, row.status = .pending → row ∉ handled → m.id < row.id
  published : r.published = handled.countP after.hasPublished
  failed : r.failed = handled.countP after.hasRetried
  gaveUp : r.gaveUp = handled.countP after.hasGivenUp
  total : r.total = handled.length
  others : ∀ row ∈ before.outbox.rows, row ∉ handled → row ∈ after.outbox.rows
  ids : after.outbox.rows.map (·.id) = before.outbox.rows.map (·.id)

namespace Tables

variable {t : Tables} {limit : Int}

theorem length_pending :
    ((t.pending limit).length : Int) = min (max limit 0) (t.outbox.rows.countP (·.status = .pending)) := by
  rw [pending, Table.filter, List.length_take, List.countP_eq_length_filter]
  omega

/-- Pending rows that are left for later are younger than those that are claimed. -/
theorem lt_of_not_mem_pending {m row : OutboxMessage} (hm : m ∈ t.pending limit) (hrow : row ∈ t.outbox.rows)
    (hpending : row.status = .pending) (hleft : row ∉ t.pending limit) : m.id < row.id := by
  have hsorted : (t.outbox.filter (·.status = .pending)).Pairwise fun a b => a.id < b.id :=
    t.outbox.sorted.sublist List.filter_sublist
  have hmem : row ∈ t.outbox.filter (·.status = .pending) := List.mem_filter.mpr ⟨hrow, by simpa using hpending⟩
  rw [← List.take_append_drop limit.toNat (t.outbox.filter _)] at hsorted hmem
  rcases List.mem_append.mp hmem with htaken | hdropped
  · exact absurd htaken hleft
  · exact (List.pairwise_append.mp hsorted).2.2 m hm row hdropped

end Tables

namespace Service

variable [Courier κ] {s : Service} {config : PublisherConfig} {w w' : World MemoryStore κ} {r : BatchReport}

/-- A batch that succeeds has handed over all that it has claimed. -/
theorem handed_of_batch_ok (h : s.perform (.publishBatch config) w = (.ok r, w')) :
    handed (s.trace (.publishBatch config) w) = w.store.committed.pending config.batchSize := by
  obtain ⟨w₁, w₂, hbegin, htrace, hrun⟩ := Operation.run_of_ok (congrArg Prod.fst h)
  obtain ⟨-, rfl⟩ := World.begin_ok hbegin
  have hclaimed : claimed (s.trace (.publishBatch config) w) = handed (s.trace (.publishBatch config) w) := by
    have hends := config.batchWork_obeys.ends hrun
    rw [trace, htrace]
    exact hends
  obtain ⟨rows, w₃, hask, hrest⟩ := Work.bind_ok hrun
  obtain ⟨t, ⟨hrows, -⟩, -⟩ := Work.query_ok hask
  have hfirst : s.trace (.publishBatch config) w = ⟨.ask _, .ok rows⟩ :: _ :=
    htrace.trans (Work.trace_ask_ok (Work.ask_ok hask))
  rw [← hclaimed]
  have hpermits := s.permits_trace (.publishBatch config) w
  rw [hfirst] at hpermits ⊢
  rw [hpermits.claimed_cons]
  exact hrows

theorem batch_accounts (h : s.perform (.publishBatch config) w = (.ok r, w')) :
    r.Accounts config.batchSize w.store.committed w'.store.committed (handed (s.trace (.publishBatch config) w)) := by
  have heffect : (w'.courier, w'.store.committed, r) = config.handRows w.store.now
      (w.store.committed.pending config.batchSize) w.courier w.store.committed .empty := Command.effect_of_perform h
  have hrows : w'.store.committed = _ := congrArg (fun x => x.2.1) heffect
  have hreport : r = _ := congrArg (fun x => x.2.2) heffect
  have hsub := w.store.committed.pending_sublist config.batchSize
  have hascending : (w.store.committed.pending config.batchSize).Pairwise fun a b => a.id < b.id :=
    w.store.committed.outbox.sorted.sublist hsub
  have hcounts := config.handRows_counts w.store.now (fun m hm => Tables.status_of_pending hm) hascending w.courier
    w.store.committed .empty
  rw [← hrows, ← hreport] at hcounts
  rw [handed_of_batch_ok h]
  refine ⟨?_, hascending, Tables.length_pending, ?_, ?_, ?_, ?_, ?_, ?_, ?_⟩
  · exact fun m hm => ⟨hsub.subset hm, Tables.status_of_pending hm⟩
  · exact fun m hm row hrow hpending hleft => Tables.lt_of_not_mem_pending hm hrow hpending hleft
  · exact hcounts.published.trans (Nat.zero_add _)
  · exact hcounts.failed.trans (Nat.zero_add _)
  · exact hcounts.gaveUp.trans (Nat.zero_add _)
  · rw [hreport, PublisherConfig.handRows_total]
    exact Nat.zero_add _
  · intro row hrow hleft
    have hdistinct : ∀ m ∈ w.store.committed.pending config.batchSize, m.id ≠ row.id := by
      intro m hm hid
      obtain rfl : m = row := Table.eq_of_key_eq (hsub.subset hm) hrow hid
      exact hleft hm
    have hsame : w'.store.committed.outboxRow? row.id = some row := by
      rw [hrows, PublisherConfig.outboxRow?_handRows _ hdistinct]
      exact Table.get?_of_mem hrow
    exact (Table.mem_of_get? hsame).1
  · have hletters : w'.store.committed.letters = w.store.committed.letters := by
      rw [hrows, Tables.letters_handRows]
    have hids := congrArg (List.map Letter.id) hletters
    rwa [Tables.letters, Tables.letters, List.map_map, List.map_map] at hids

end Service

/-- In every state of a run whose batches give rows up after `m` failures, every row stands as it should; a row that
is published or failed never changes again, and the counter of a row that is pending is below the top of its range, so
no attempt is ever counted beyond 32 bits; and a batch that succeeds does what its report says. -/
theorem World.outbox_rows_kept [Courier κ] {w : World MemoryStore κ} {actions : List (Action κ)} {m : Int32}
    (hrows : w.store.committed.outbox.rows = []) (h : w.Along (fun _ a => a.GivesUpAt m) actions) :
    (∀ n, ∀ row ∈ (w.stateAt actions n).store.committed.outbox.rows, row.Kept (max 1 m.toInt)) ∧
    (∀ i k, i ≤ k → ∀ row ∈ (w.stateAt actions i).store.committed.outbox.rows, row.status ≠ .pending →
      row ∈ (w.stateAt actions k).store.committed.outbox.rows) ∧
    (∀ n, ∀ row ∈ (w.stateAt actions n).store.committed.outbox.rows, row.status = .pending →
      row.attempts.toInt < 2 ^ 31 - 1 ∧ (row.attempts + 1).toInt = row.attempts.toInt + 1) ∧
    ∀ (v : World MemoryStore κ) (s : Service) (config : PublisherConfig) (r : BatchReport) (v' : World MemoryStore κ),
      s.perform (.publishBatch config) v = (.ok r, v') →
      r.Accounts config.batchSize v.store.committed v'.store.committed (handed (s.trace (.publishBatch config) v)) := by
  have hkept : ∀ n, ∀ row ∈ (w.stateAt actions n).store.committed.outbox.rows, row.Kept (max 1 m.toInt) :=
    fun n => (World.outboxKept hrows (h.take n)).rows
  refine ⟨hkept, fun i k hik row hrow hdone => done_forever hrows h hik hrow hdone, ?_, ?_⟩
  · intro n row hrow hpending
    have hbelow := (hkept n row hrow).below_top hpending
    exact ⟨hbelow, Counter.toInt_add_one hbelow⟩
  · exact fun v s config r v' hperform => Service.batch_accounts hperform

/-- A run in which a row is given up after two failures, and the next one is published by a batch of one row. -/
def givingUpRun : List (Action Mailbox) :=
  [.setCourier { failNext := 2 },
   .perform {} (.registerUser { username := "ann", email := "ann@example.org", passwordHash := "", role := .user }),
   .perform {} (.registerUser { username := "bob", email := "bob@example.org", passwordHash := "", role := .user }),
   .perform {} (.publishBatch { batchSize := 1, maxAttempts := 2 }),
   .perform {} (.publishBatch { batchSize := 1, maxAttempts := 2 })]

theorem givingUpRun_givesUp : emptyWorld.Along (fun _ a => a.GivesUpAt 2) givingUpRun :=
  .cons trivial (.cons trivial (.cons trivial (.cons rfl (.cons rfl .nil))))

theorem World.givingUpRun_keeps :
    (emptyWorld.after givingUpRun).store.committed.outbox.rows.map (·.status) = [.failed, .pending] ∧
    (∀ row ∈ (emptyWorld.after givingUpRun).store.committed.outbox.rows, row.Kept 2) ∧
    ∃ r w, Service.perform {} (.publishBatch { batchSize := 1, maxAttempts := 2 }) (emptyWorld.after givingUpRun)
        = (.ok r, w) ∧ r = { published := 1 } ∧
      r.Accounts 1 (emptyWorld.after givingUpRun).store.committed w.store.committed
        (handed (Service.trace {} (.publishBatch { batchSize := 1, maxAttempts := 2 })
          (emptyWorld.after givingUpRun))) := by
  obtain ⟨hkept, -, -, hbatch⟩ := outbox_rows_kept rfl givingUpRun_givesUp
  refine ⟨by decide +kernel, ?_, ?_⟩
  · intro row hrow
    exact hkept 5 row hrow
  · have hreport : (Service.perform {} (.publishBatch { batchSize := 1, maxAttempts := 2 })
        (emptyWorld.after givingUpRun)).1 = .ok { published := 1 } := rfl
    exact ⟨_, _, Prod.ext hreport rfl, rfl, hbatch _ _ _ _ _ (Prod.ext hreport rfl)⟩

end Clearing
