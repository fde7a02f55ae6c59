import Clearing.Proofs.History
import Clearing.Proofs.Requests

/-!
# Delivery of the outbox

A registration that succeeds leaves one row in the outbox, one that fails leaves none, and what a row says never
changes. Whatever a mailbox has accepted is such a row. A batch that fails takes its rows back but not its mail,
so a row may be accepted once more for every batch that has failed, and no more often.
-/

namespace Clearing

variable {σ κ : Type}

/-! ## Letters -/

/-- What a row of the outbox says, whatever has become of it. -/
structure Letter where
  id : Int
  task : OutboxTask

/-- The letter of a row. -/
def OutboxMessage.letter (m : OutboxMessage) : Letter where
  id := m.id
  task := {
    taskType := m.taskType
    payload := m.payload
    queue := m.queue
    maxRetry := m.maxRetry
    delaySecs := m.delaySecs }

/-- The letters of the outbox, in the order of its rows. -/
def Tables.letters (t : Tables) : List Letter := t.outbox.rows.map OutboxMessage.letter

/-- A registration that has succeeded, with the options that were in force. -/
structure Enrolment where
  options : TaskOptions
  user : RegisteredUser

/-- The letter that is due for a registration. -/
def Enrolment.letter (e : Enrolment) : Letter where
  id := e.user.outboxId
  task := {
    taskType := "task:send_verify_email"
    payload := .object [("email", .string e.user.user.email)]
    queue := e.options.queue
    maxRetry := e.options.maxRetry
    delaySecs := min e.options.delay.seconds 0x7fffffffffffffff }

/-- How often a row has been accepted. -/
def deliveries (delivered : List OutboxMessage) (id : Int) : Nat := delivered.countP (·.id = id)

namespace Action

/-- The registrations that an action brings about. -/
def enrolments [Courier κ] (w : World MemoryStore κ) : Action κ → List Enrolment
  | .perform s (.registerUser r) =>
    match (s.perform (.registerUser r) w).1 with
    | .ok user => [⟨s.task, user⟩]
    | .error _ => []
  | _ => []

/-- The batches of an action that fail. -/
def failedBatches [Courier κ] (w : World MemoryStore κ) : Action κ → List PublisherConfig
  | .perform s (.publishBatch config) =>
    match (s.perform (.publishBatch config) w).1 with
    | .ok _ => []
    | .error _ => [config]
  | _ => []

/-- A mailbox that is told to fail keeps what it has accepted. -/
def LeavesMail (w : World MemoryStore Mailbox) : Action Mailbox → Prop
  | .setCourier box => box.delivered = w.courier.delivered
  | _ => True

end Action

/-! ## What commands deliver -/

/-- The message that an exchange has had accepted. -/
def Exchange.accepted : Exchange → List OutboxMessage
  | ⟨.hand m, .ok _⟩ => [m]
  | ⟨.hand _, .error _⟩ | ⟨.ask _, _⟩ => []

theorem accepted_sublist_handed (t : List Exchange) : (t.flatMap Exchange.accepted).Sublist (handed t) := by
  induction t with
  | nil => exact .slnil
  | cons x t ih =>
      rw [List.flatMap_cons, handed, List.flatMap_cons]
      refine List.Sublist.append ?_ ih
      obtain ⟨request, answer⟩ := x
      cases request with
      | ask q => exact .slnil
      | hand m =>
          cases answer with
          | ok taskId => exact .refl _
          | error e => exact List.nil_sublist _

/-- A mailbox keeps the message it accepts, or refuses it and keeps what it has. -/
theorem Mailbox.hand_eq (m : OutboxMessage) (box : Mailbox) :
    (∃ taskId, (Courier.hand m box).result = .ok taskId ∧
      (Courier.hand m box).state.delivered = box.delivered ++ [m]) ∨
    ∃ e, (Courier.hand m box).result = .error e ∧ (Courier.hand m box).state.delivered = box.delivered := by
  cases hfail : box.failNext with
  | zero => exact .inl (by simp [Courier.hand, hand, hfail])
  | succ left => exact .inr (by simp [Courier.hand, hand, hfail])

theorem World.records_mail [Store σ] :
    Records (fun w : World σ Mailbox => w.courier.delivered) Exchange.accepted where
  ask w q := (List.append_nil _).symm
  hand w m := by
    rcases Mailbox.hand_eq m w.courier with ⟨taskId, hresult, hmail⟩ | ⟨e, hresult, hmail⟩
    · simp [World.hand, afterCourier, hresult, hmail, Exchange.accepted]
    · simp [World.hand, afterCourier, hresult, hmail, Exchange.accepted]
  begin w := rfl
  commit w := rfl
  rollback w := rfl
  log w log := rfl

theorem Tables.pending_sublist (t : Tables) (limit : Int) : (t.pending limit).Sublist t.outbox.rows :=
  (List.take_sublist ..).trans List.filter_sublist

theorem Tables.status_of_pending {t : Tables} {limit : Int} {m : OutboxMessage} (h : m ∈ t.pending limit) :
    m.status = .pending := by
  have hfilter := (List.take_sublist ..).subset h
  simpa using (List.mem_filter.mp hfilter).2

namespace Service

/-- What a batch hands over are pending rows, from the oldest on. -/
theorem handed_batch [Courier κ] (s : Service) (config : PublisherConfig) (w : World MemoryStore κ) :
    handed (s.trace (.publishBatch config) w) <+: w.store.committed.pending config.batchSize := by
  have hpermits := s.permits_trace (.publishBatch config) w
  refine hpermits.handed_isPrefix.trans ?_
  cases hbegin : w.begin with
  | mk result w₁ =>
      cases result with
      | error e =>
          have htrace : s.trace (.publishBatch config) w = [] := by
            simp [trace, operation, Operation.trace, PublisherConfig.batch, hbegin]
          rw [htrace]
          exact List.nil_prefix
      | ok u =>
          obtain ⟨-, rfl⟩ := World.begin_ok hbegin
          have htrace : s.trace (.publishBatch config) w = config.batchWork.trace w.opened := by
            simp [trace, operation, Operation.trace, PublisherConfig.batch, hbegin]
          rw [htrace] at hpermits ⊢
          cases hask : w.opened.ask (.claimOutbox config.batchSize) with
          | mk result w₂ =>
              cases result with
              | error e =>
                  have hfirst : config.batchWork.trace w.opened = [⟨.ask _, .error e⟩] :=
                    Work.trace_ask_error hask
                  rw [hfirst]
                  exact List.nil_prefix
              | ok rows =>
                  have hfirst : config.batchWork.trace w.opened = ⟨.ask _, .ok rows⟩ :: _ :=
                    Work.trace_ask_ok hask
                  obtain ⟨t, ⟨hrows, -⟩, -⟩ := World.answered_of_ask hask
                  rw [hfirst] at hpermits ⊢
                  rw [hpermits.claimed_cons]
                  exact hrows ▸ List.prefix_rfl

theorem handed_sublist [Courier κ] (s : Service) (c : Command) (w : World MemoryStore κ) :
    (handed (s.trace c w)).Sublist w.store.committed.outbox.rows := by
  by_cases hbatch : ∃ config, c = .publishBatch config
  · obtain ⟨config, rfl⟩ := hbatch
    exact (s.handed_batch config w).sublist.trans (Tables.pending_sublist ..)
  · rw [(s.permits_trace c w).handed_eq_nil (not_exists.mp hbatch)]
    exact List.nil_sublist _

/-- Every command adds to the mail what has been accepted of the messages it has handed over. -/
theorem mail_perform [Store σ] (s : Service) (c : Command) (w : World σ Mailbox) :
    ∃ accepted, accepted.Sublist (handed (s.trace c w)) ∧
      (s.perform c w).2.courier.delivered = w.courier.delivered ++ accepted :=
  ⟨_, accepted_sublist_handed _, World.records_mail.perform (s.operation c) w⟩

theorem mail_perform_of_not_batch [Store σ] (s : Service) {c : Command} (hc : ∀ config, c ≠ .publishBatch config)
    (w : World σ Mailbox) : (s.perform c w).2.courier.delivered = w.courier.delivered := by
  obtain ⟨accepted, hsub, hmail⟩ := s.mail_perform c w
  rw [(s.permits_trace c w).handed_eq_nil hc, List.sublist_nil] at hsub
  rw [hmail, hsub, List.append_nil]

end Service

/-! ## Handing rows over -/

/-- Whatever has been accepted is a row; a published row has been accepted; and rows have been accepted once at most
for every batch that has failed, published rows once more. -/
structure Tables.Delivers (t : Tables) (delivered : List OutboxMessage) (failures : Nat) : Prop where
  known : ∀ m ∈ delivered, m.letter ∈ t.letters
  published : ∀ row ∈ t.outbox.rows, row.status = .published → 1 ≤ deliveries delivered row.id
  bounded : ∀ row ∈ t.outbox.rows,
    deliveries delivered row.id ≤ failures + if row.status = .published then 1 else 0

theorem deliveries_append (delivered more : List OutboxMessage) (id : Int) :
    deliveries (delivered ++ more) id = deliveries delivered id + deliveries more id := List.countP_append

/-- Of messages with different numbers, one at most has a given number. -/
theorem deliveries_le_one {delivered : List OutboxMessage} (h : delivered.Pairwise fun a b => a.id < b.id)
    (id : Int) : deliveries delivered id ≤ 1 := by
  have hnodup : (delivered.map (·.id)).Nodup := List.pairwise_map.mpr (h.imp fun hlt => hlt.ne)
  have hcount := List.nodup_iff_count_le_one.mp hnodup id
  rwa [List.count, List.countP_map] at hcount

namespace Tables

variable {t : Tables} {m row : OutboxMessage}

theorem letters_putOutbox (hm : m ∈ t.outbox.rows) (h : row.letter = m.letter) :
    (t.putOutbox row).letters = t.letters :=
  Table.map_rows_insert hm (congrArg Letter.id h) h

section Delivers

variable {delivered : List OutboxMessage} {failures : Nat}

theorem Delivers.accept (h : t.Delivers delivered failures) (hm : m ∈ t.outbox.rows) (hpending : m.status = .pending)
    (now : Instant) : (t.putOutbox (m.published now)).Delivers (delivered ++ [m]) failures := by
  have hself : deliveries (delivered ++ [m]) m.id = deliveries delivered m.id + 1 := by
    rw [deliveries_append]
    simp [deliveries]
  have hother : ∀ x : OutboxMessage, x.id ≠ m.id →
      deliveries (delivered ++ [m]) x.id = deliveries delivered x.id := by
    intro x hx
    rw [deliveries_append]
    simp [deliveries, hx.symm]
  have hletters : (t.putOutbox (m.published now)).letters = t.letters := letters_putOutbox hm rfl
  constructor
  · intro x hx
    rw [hletters]
    rcases List.mem_append.mp hx with hx | hx
    · exact h.known x hx
    · obtain rfl := List.mem_singleton.mp hx
      exact List.mem_map_of_mem hm
  · intro x hx hpublished
    rcases Table.mem_insert_iff.mp hx with rfl | ⟨hx, hne⟩
    · exact hself ▸ Nat.le_add_left ..
    · rw [hother x hne]
      exact h.published x hx hpublished
  · intro x hx
    rcases Table.mem_insert_iff.mp hx with rfl | ⟨hx, hne⟩
    · have hbound := h.bounded m hm
      rw [hpending] at hbound
      exact hself ▸ Nat.succ_le_succ hbound
    · rw [hother x hne]
      exact h.bounded x hx

theorem Delivers.refuse (h : t.Delivers delivered failures) (hm : m ∈ t.outbox.rows) (hpending : m.status = .pending)
    (error : String) (giveUp : Bool) : (t.putOutbox (m.failing error giveUp)).Delivers delivered failures := by
  have hstatus : (m.failing error giveUp).status ≠ .published := by
    cases giveUp <;> simp [OutboxMessage.failing, hpending]
  have hletters : (t.putOutbox (m.failing error giveUp)).letters = t.letters := letters_putOutbox hm rfl
  constructor
  · intro x hx
    rw [hletters]
    exact h.known x hx
  · intro x hx hpublished
    rcases Table.mem_insert_iff.mp hx with rfl | ⟨hx, -⟩
    · exact absurd hpublished hstatus
    · exact h.published x hx hpublished
  · intro x hx
    rcases Table.mem_insert_iff.mp hx with rfl | ⟨hx, -⟩
    · have hbound := h.bounded m hm
      rw [hpending] at hbound
      rw [if_neg hstatus]
      exact hbound
    · exact h.bounded x hx

theorem Delivers.hand {box : Mailbox} (h : t.Delivers box.delivered failures) (hm : m ∈ t.outbox.rows)
    (hpending : m.status = .pending) (config : PublisherConfig) (now : Instant) :
    (t.putOutbox (config.recorded now m (Courier.hand m box).result)).Delivers
      (Courier.hand m box).state.delivered failures := by
  rcases Mailbox.hand_eq m box with ⟨taskId, hresult, hmail⟩ | ⟨e, hresult, hmail⟩
  · rw [hresult, hmail]
    exact h.accept hm hpending now
  · rw [hresult, hmail]
    exact h.refuse hm hpending ..

/-- The mail of a batch that has failed is kept, though the rows are not marked. -/
theorem Delivers.fail (h : t.Delivers delivered failures) {accepted : List OutboxMessage}
    (hrows : accepted.Sublist t.outbox.rows) : t.Delivers (delivered ++ accepted) (failures + 1) := by
  have hascending : accepted.Pairwise fun a b => a.id < b.id := t.outbox.sorted.sublist hrows
  constructor
  · intro x hx
    rcases List.mem_append.mp hx with hx | hx
    · exact h.known x hx
    · exact List.mem_map_of_mem (hrows.subset hx)
  · intro x hx hpublished
    rw [deliveries_append]
    exact Nat.le_add_right_of_le (h.published x hx hpublished)
  · intro x hx
    have hbound := h.bounded x hx
    have hmore := deliveries_le_one hascending x.id
    rw [deliveries_append]
    omega

end Delivers

end Tables

/-! ## What an action does to the outbox -/

namespace PublisherConfig

variable [Courier κ] {P : κ → Tables → Prop} {config : PublisherConfig} {now : Instant}

/-- What handing over one pending row carries from `n + 1` rows to `n`, handing rows over carries down to none. -/
theorem handRows_countdown {P : Nat → κ → Tables → Prop} {rows : List OutboxMessage} {k : κ} {t : Tables}
    {r : BatchReport}
    (hstep : ∀ n k t m, m ∈ t.outbox.rows → m.status = .pending → P (n + 1) k t →
      P n (Courier.hand m k).state (t.putOutbox (config.recorded now m (Courier.hand m k).result)))
    (hrows : ∀ m ∈ rows, m ∈ t.outbox.rows ∧ m.status = .pending)
    (hdistinct : rows.Pairwise fun a b => a.id < b.id) (start : P rows.length k t) :
    P 0 (config.handRows now rows k t r).1 (config.handRows now rows k t r).2.1 := by
  induction rows generalizing k t r with
  | nil => exact start
  | cons m rest ih =>
      obtain ⟨hm, hrest⟩ := List.pairwise_cons.mp hdistinct
      obtain ⟨hmem, hpending⟩ := hrows m (List.mem_cons_self ..)
      refine ih ?_ hrest (hstep _ k t m hmem hpending start)
      intro x hx
      obtain ⟨hxmem, hxpending⟩ := hrows x (List.mem_cons_of_mem _ hx)
      have hne : x.id ≠ (config.recorded now m (Courier.hand m k).result).id := by
        rw [recorded_id]
        exact (hm x hx).ne'
      exact ⟨Table.mem_insert_iff.mpr (.inr ⟨hxmem, hne⟩), hxpending⟩

/-- What handing over one pending row keeps, handing pending rows over keeps. -/
theorem handRows_induction {rows : List OutboxMessage} {k : κ} {t : Tables} {r : BatchReport}
    (hstep : ∀ k t m, m ∈ t.outbox.rows → m.status = .pending → P k t →
      P (Courier.hand m k).state (t.putOutbox (config.recorded now m (Courier.hand m k).result)))
    (hrows : ∀ m ∈ rows, m ∈ t.outbox.rows ∧ m.status = .pending)
    (hdistinct : rows.Pairwise fun a b => a.id < b.id) (start : P k t) :
    P (config.handRows now rows k t r).1 (config.handRows now rows k t r).2.1 :=
  handRows_countdown (P := fun _ => P) (fun _ => hstep) hrows hdistinct start

theorem handPending_induction {limit : Int} {k : κ} {t : Tables} {r : BatchReport}
    (hstep : ∀ k t m, m ∈ t.outbox.rows → m.status = .pending → P k t →
      P (Courier.hand m k).state (t.putOutbox (config.recorded now m (Courier.hand m k).result)))
    (start : P k t) :
    P (config.handRows now (t.pending limit) k t r).1 (config.handRows now (t.pending limit) k t r).2.1 := by
  refine handRows_induction hstep ?_ (t.outbox.sorted.sublist (t.pending_sublist limit)) start
  intro m hm
  exact ⟨(t.pending_sublist limit).subset hm, Tables.status_of_pending hm⟩

theorem letter_recorded (m : OutboxMessage) (x : Except QueueUnavailable String) :
    (config.recorded now m x).letter = m.letter := by
  cases x <;> rfl

end PublisherConfig

theorem SameOutbox.letters {t t' : Tables} (h : SameOutbox t t') : t'.letters = t.letters := by
  rw [Tables.letters, h.outbox, Tables.letters]

/-- The ways in which an action changes outbox and mail. -/
inductive Mailed (w : World MemoryStore Mailbox) (a : Action Mailbox) (t : Tables) (delivered : List OutboxMessage) :
    Prop where
  | idle (rows : SameOutbox w.store.committed t) (mail : delivered = w.courier.delivered)
      (enrolments : a.enrolments w = []) (failures : a.failedBatches w = [])
  | enrolled {before : Tables} {e : Enrolment} {task : OutboxTask} {now : Instant}
      (rows : SameOutbox w.store.committed before) (enqueued : t = (before.enqueue task now).2)
      (letter : e.letter = ⟨before.nextOutboxId, task⟩) (mail : delivered = w.courier.delivered)
      (enrolments : a.enrolments w = [e]) (failures : a.failedBatches w = [])
  | batch {box : Mailbox} {r : BatchReport} {config : PublisherConfig}
      (rows : (box, t, r) = config.handRows w.store.now (w.store.committed.pending config.batchSize) w.courier
        w.store.committed .empty)
      (mail : delivered = box.delivered) (enrolments : a.enrolments w = []) (failures : a.failedBatches w = [])
  | failedBatch {accepted : List OutboxMessage} {config : PublisherConfig}
      (rows : SameOutbox w.store.committed t) (accepts : accepted.Sublist w.store.committed.outbox.rows)
      (mail : delivered = w.courier.delivered ++ accepted) (enrolments : a.enrolments w = [])
      (failures : a.failedBatches w = [config])

namespace Action

variable {w : World MemoryStore Mailbox}

theorem mailed_register (s : Service) (registration : Registration) :
    Mailed w (.perform s (.registerUser registration)) (s.perform (.registerUser registration) w).2.store.committed
      (s.perform (.registerUser registration) w).2.courier.delivered := by
  have hmail := s.mail_perform_of_not_batch (c := .registerUser registration) (by simp) w
  cases hperform : s.perform (.registerUser registration) w with
  | mk result w' =>
      cases result with
      | error e =>
          have hnone : (Action.perform s (.registerUser registration)).enrolments w = [] := by
            simp only [enrolments, hperform]
          rw [hperform] at hmail
          exact .idle (Part.outbox.same_of_eq (Service.counts_of_error hperform).1) hmail hnone rfl
      | ok user =>
          have hregistered := Command.effect_of_perform hperform
          have hsame : SameOutbox w.store.committed (w.store.committed.putUser user.user) := ⟨rfl, rfl⟩
          have hemail : user.user.email = registration.email := by rw [hregistered.user]; rfl
          have hletter : (Enrolment.mk s.task user).letter
              = ⟨w.store.committed.nextOutboxId, registration.task s.task⟩ := by
            rw [Enrolment.letter, hregistered.outboxId, hemail]
            rfl
          have henrolled : (Action.perform s (.registerUser registration)).enrolments w = [⟨s.task, user⟩] := by
            simp only [enrolments, hperform]
          rw [hperform] at hmail
          exact .enrolled hsame hregistered.rows hletter hmail henrolled rfl

theorem mailed_batch (s : Service) (config : PublisherConfig) :
    Mailed w (.perform s (.publishBatch config)) (s.perform (.publishBatch config) w).2.store.committed
      (s.perform (.publishBatch config) w).2.courier.delivered := by
  obtain ⟨accepted, hsub, hmail⟩ := s.mail_perform (.publishBatch config) w
  cases hperform : s.perform (.publishBatch config) w with
  | mk result w' =>
      cases result with
      | error e =>
          rw [hperform] at hmail
          have hfailed : (Action.perform s (.publishBatch config)).failedBatches w = [config] := by
            simp only [failedBatches, hperform]
          have hsame := Part.outbox.same_of_eq (Service.counts_of_error hperform).1
          exact .failedBatch hsame (hsub.trans (s.handed_sublist ..)) hmail rfl hfailed
      | ok r =>
          have hnone : (Action.perform s (.publishBatch config)).failedBatches w = [] := by
            simp only [failedBatches, hperform]
          exact .batch (Command.effect_of_perform hperform) rfl rfl hnone

theorem mailed (a : Action Mailbox) (h : a.LeavesMail w) :
    Mailed w a (a.apply w).store.committed (a.apply w).courier.delivered := by
  cases a with
  | perform s c =>
      cases c with
      | registerUser registration => exact mailed_register s registration
      | publishBatch config => exact mailed_batch s config
      | settleTrade e | updateFill request | postTransfer t rates | moveEntry id status
      | verifyEmail id code | checkCurrencies userId base quote =>
          exact .idle (s.same_perform .outbox rfl w) (s.mail_perform_of_not_batch (by simp) w) rfl rfl
  | setCourier box => exact .idle ⟨rfl, rfl⟩ h rfl rfl
  | seedUser username email | seedWallet userId currency balance | seedMarket base quote
  | seedOrder userId marketId side price amount | seedVerification username email secretCode seconds
  | injectFault point e | setIds ids | setClock now => exact .idle ⟨rfl, rfl⟩ rfl rfl rfl

/-- What an action has accepted is in ascending order, each row once. -/
theorem accepts (a : Action Mailbox) (h : a.LeavesMail w) :
    ∃ accepted, (a.apply w).courier.delivered = w.courier.delivered ++ accepted ∧
      accepted.Pairwise fun x y => x.id < y.id := by
  cases a with
  | perform s c =>
      obtain ⟨accepted, hsub, hmail⟩ := s.mail_perform c w
      exact ⟨accepted, hmail, w.store.committed.outbox.sorted.sublist (hsub.trans (s.handed_sublist c w))⟩
  | setCourier box => exact ⟨[], h.trans (List.append_nil _).symm, .nil⟩
  | seedUser username email | seedWallet userId currency balance | seedMarket base quote
  | seedOrder userId marketId side price amount | seedVerification username email secretCode seconds
  | injectFault point e | setIds ids | setClock now => exact ⟨[], (List.append_nil _).symm, .nil⟩

end Action

/-! ## Whole runs -/

/-- The letters of the outbox are those that are due for these registrations, numbered from 1 on. -/
structure Tables.Lettered (t : Tables) (es : List Enrolment) : Prop where
  letters : t.letters = es.map Enrolment.letter
  ids : t.letters.map Letter.id = (List.range es.length).map fun i : Nat => (i : Int) + 1
  next : t.nextOutboxId = es.length + 1

namespace Tables

variable {t t' : Tables} {es : List Enrolment} {delivered : List OutboxMessage} {failures : Nat}

theorem Lettered.keep (h : t.Lettered es) (hletters : t'.letters = t.letters)
    (hnext : t'.nextOutboxId = t.nextOutboxId) : t'.Lettered es :=
  ⟨hletters.trans h.letters, hletters ▸ h.ids, hnext.trans h.next⟩

theorem Lettered.id_lt (h : t.Lettered es) : ∀ x ∈ t.outbox.rows, x.id < t.nextOutboxId := by
  intro x hx
  have hid : x.id ∈ t.letters.map Letter.id := List.mem_map_of_mem (List.mem_map_of_mem hx)
  rw [h.ids] at hid
  obtain ⟨i, hi, heq⟩ := List.mem_map.mp hid
  rw [List.mem_range] at hi
  rw [h.next, ← heq]
  omega

theorem rows_enqueue (task : OutboxTask) (now : Instant) (h : ∀ x ∈ t.outbox.rows, x.id < t.nextOutboxId) :
    (t.enqueue task now).2.outbox.rows = t.outbox.rows ++ [task.toMessage t.nextOutboxId now] :=
  Table.rows_insert_of_lt h

theorem Lettered.enqueue (h : t.Lettered es) {e : Enrolment} {task : OutboxTask} (now : Instant)
    (hletter : e.letter = ⟨t.nextOutboxId, task⟩) : (t.enqueue task now).2.Lettered (es ++ [e]) := by
  have hletters : (t.enqueue task now).2.letters = t.letters ++ [e.letter] := by
    rw [Tables.letters, rows_enqueue task now h.id_lt, List.map_append, hletter]
    rfl
  refine ⟨?_, ?_, ?_⟩
  · rw [hletters, h.letters, List.map_append]
    rfl
  · rw [hletters, List.map_append, h.ids, List.length_append, List.length_singleton, List.range_succ,
      List.map_append, List.map_singleton, List.map_singleton, hletter, h.next]
  · have hnext : (t.enqueue task now).2.nextOutboxId = t.nextOutboxId + 1 := rfl
    rw [hnext, h.next, List.length_append]
    rfl

theorem Delivers.keep (h : t.Delivers delivered failures) (hsame : t'.outbox = t.outbox) :
    t'.Delivers delivered failures := by
  obtain ⟨hknown, hpublished, hbounded⟩ := h
  rw [letters, ← hsame] at hknown
  rw [← hsame] at hpublished hbounded
  exact ⟨hknown, hpublished, hbounded⟩

/-- A row that has never been written has never been accepted. -/
theorem Delivers.deliveries_eq_zero (h : t.Delivers delivered failures) {id : Int}
    (hid : ∀ x ∈ t.outbox.rows, x.id ≠ id) : deliveries delivered id = 0 := by
  rw [deliveries, List.countP_eq_zero]
  intro m hm
  obtain ⟨x, hx, hletter⟩ := List.mem_map.mp (h.known m hm)
  have heq : x.id = m.id := congrArg Letter.id hletter
  simpa [← heq] using hid x hx

theorem Delivers.deliveries_le (h : t.Delivers delivered failures) (id : Int) :
    deliveries delivered id ≤ 1 + failures := by
  by_cases hrow : ∃ row ∈ t.outbox.rows, row.id = id
  · obtain ⟨row, hmem, rfl⟩ := hrow
    have hbound := h.bounded row hmem
    split at hbound <;> omega
  · push Not at hrow
    rw [h.deliveries_eq_zero hrow]
    exact Nat.zero_le _

theorem Delivers.exists_accepted (h : t.Delivers delivered failures) {row : OutboxMessage}
    (hrow : row ∈ t.outbox.rows) (hpublished : row.status = .published) :
    ∃ m ∈ delivered, m.letter = row.letter := by
  obtain ⟨m, hm, hid⟩ := List.countP_pos_iff.mp (h.published row hrow hpublished)
  obtain ⟨x, hx, hletter⟩ := List.mem_map.mp (h.known m hm)
  have hsame : x.id = row.id := (congrArg Letter.id hletter).trans (of_decide_eq_true hid)
  obtain rfl : x = row := Table.eq_of_key_eq hx hrow hsame
  exact ⟨m, hm, hletter.symm⟩

theorem Delivers.enqueue (h : t.Delivers delivered failures) (task : OutboxTask) (now : Instant)
    (hfresh : ∀ x ∈ t.outbox.rows, x.id < t.nextOutboxId) :
    (t.enqueue task now).2.Delivers delivered failures := by
  have hrows := rows_enqueue task now hfresh
  refine ⟨?_, ?_, ?_⟩
  · intro m hm
    rw [letters, hrows, List.map_append]
    exact List.mem_append_left _ (h.known m hm)
  · rw [hrows]
    intro x hx hpublished
    rcases List.mem_append.mp hx with hx | hx
    · exact h.published x hx hpublished
    · obtain rfl := List.mem_singleton.mp hx
      cases hpublished
  · rw [hrows]
    intro x hx
    rcases List.mem_append.mp hx with hx | hx
    · exact h.bounded x hx
    · obtain rfl := List.mem_singleton.mp hx
      have hnone : deliveries delivered t.nextOutboxId = 0 :=
        h.deliveries_eq_zero fun x hx => (hfresh x hx).ne
      exact hnone.trans_le (Nat.zero_le _)

theorem Delivers.handRows {box : Mailbox} (h : t.Delivers box.delivered failures) (config : PublisherConfig)
    (now : Instant) (limit : Int) (r : BatchReport) :
    (config.handRows now (t.pending limit) box t r).2.1.Delivers
      (config.handRows now (t.pending limit) box t r).1.delivered failures := by
  refine PublisherConfig.handPending_induction (P := fun (box : Mailbox) t => t.Delivers box.delivered failures) ?_ h
  intro box t m hm hpending h
  exact h.hand hm hpending config now

theorem letters_handRows [Courier κ] (config : PublisherConfig) (now : Instant) (limit : Int) (k : κ)
    (r : BatchReport) : (config.handRows now (t.pending limit) k t r).2.1.letters = t.letters := by
  refine PublisherConfig.handPending_induction (P := fun _ t' => t'.letters = t.letters) ?_ rfl
  intro k t' m hm hpending h
  exact (letters_putOutbox hm (config.letter_recorded m _)).trans h

end Tables

namespace Mailed

variable {w : World MemoryStore Mailbox} {a : Action Mailbox} {t : Tables} {delivered : List OutboxMessage}
  {es : List Enrolment} {failures : Nat}

theorem lettered (h : Mailed w a t delivered) (hl : w.store.committed.Lettered es) :
    t.Lettered (es ++ a.enrolments w) := by
  cases h with
  | idle rows mail enrolments failures =>
      rw [enrolments, List.append_nil]
      exact hl.keep rows.letters rows.next
  | @enrolled before e task now rows enqueued letter mail enrolments failures =>
      rw [enrolments, enqueued]
      exact (hl.keep rows.letters rows.next).enqueue now letter
  | @batch box r config rows mail enrolments failures =>
      obtain ⟨outbox, hrows⟩ := config.handRows_rows w.store.now (w.store.committed.pending config.batchSize)
        w.courier w.store.committed .empty
      have ht : t = _ := congrArg (fun x => x.2.1) rows
      rw [enrolments, List.append_nil]
      refine hl.keep ?_ ?_
      · rw [ht, Tables.letters_handRows]
      · rw [ht, hrows]
  | failedBatch rows accepts mail enrolments failures =>
      rw [enrolments, List.append_nil]
      exact hl.keep rows.letters rows.next

theorem delivers (h : Mailed w a t delivered) (hl : w.store.committed.Lettered es)
    (hd : w.store.committed.Delivers w.courier.delivered failures) :
    t.Delivers delivered (failures + (a.failedBatches w).length) := by
  cases h with
  | idle rows mail enrolments hnone =>
      rw [hnone, mail]
      exact hd.keep rows.outbox
  | @enrolled before e task now rows enqueued letter mail enrolments hnone =>
      rw [hnone, mail, enqueued]
      exact (hd.keep rows.outbox).enqueue task now (hl.keep rows.letters rows.next).id_lt
  | @batch box r config rows mail enrolments hnone =>
      have hbox : box = _ := congrArg (fun x => x.1) rows
      have ht : t = _ := congrArg (fun x => x.2.1) rows
      rw [hnone, mail, hbox, ht]
      exact hd.handRows ..
  | failedBatch rows accepts mail enrolments hone =>
      rw [hone, mail]
      exact (hd.fail accepts).keep rows.outbox

end Mailed

namespace World

variable {w : World MemoryStore Mailbox} {actions : List (Action Mailbox)}

theorem lettered_and_delivers (hrows : w.store.committed = {}) (hmail : w.courier.delivered = [])
    (h : w.Along Action.LeavesMail actions) :
    (w.after actions).store.committed.Lettered (w.gather Action.enrolments actions) ∧
      (w.after actions).store.committed.Delivers (w.after actions).courier.delivered
        (w.gather Action.failedBatches actions).length := by
  induction actions using List.reverseRecOn with
  | nil =>
      rw [after, List.foldl_nil, hrows, hmail]
      refine ⟨⟨rfl, rfl, rfl⟩, ?_, ?_, ?_⟩
      · exact fun m hm => absurd hm List.not_mem_nil
      · exact fun row hrow => absurd hrow List.not_mem_nil
      · exact fun row hrow => absurd hrow List.not_mem_nil
  | append_singleton actions a ih =>
      obtain ⟨hactions, ha⟩ := along_concat_iff.mp h
      obtain ⟨hl, hd⟩ := ih hactions
      have hmailed := a.mailed ha
      rw [after_concat, gather_concat, gather_concat, List.length_append]
      exact ⟨hmailed.lettered hl, hmailed.delivers hl hd⟩

theorem accepts_stateAt (h : w.Along Action.LeavesMail actions) (n : Nat) :
    ∃ accepted, (w.stateAt actions (n + 1)).courier.delivered
        = (w.stateAt actions n).courier.delivered ++ accepted ∧
      accepted.Pairwise fun x y => x.id < y.id := by
  refine h.next (R := fun v x => ∃ accepted, x.courier.delivered = v.courier.delivered ++ accepted ∧
    accepted.Pairwise fun x y => x.id < y.id) ?_ fun a ha => a.accepts ha
  exact ⟨[], (List.append_nil _).symm, .nil⟩

/-- The outbox holds the letters of the registrations that have succeeded, in their order and for good; only such
letters are ever accepted, published ones have been, and none is accepted more often than once and once again for
every batch that has failed. -/
theorem outbox_delivery (hrows : w.store.committed = {}) (hmail : w.courier.delivered = [])
    (h : w.Along Action.LeavesMail actions) :
    ((w.after actions).store.committed.letters = (w.gather Action.enrolments actions).map Enrolment.letter ∧
      (w.after actions).store.committed.letters.map Letter.id
        = (List.range (w.gather Action.enrolments actions).length).map (fun i : Nat => (i : Int) + 1) ∧
      ∀ n, (w.stateAt actions n).store.committed.letters <+: (w.after actions).store.committed.letters) ∧
    (∀ m ∈ (w.after actions).courier.delivered, m.letter ∈ (w.after actions).store.committed.letters) ∧
    (∀ row ∈ (w.after actions).store.committed.outbox.rows, row.status = .published →
      ∃ m ∈ (w.after actions).courier.delivered, m.letter = row.letter) ∧
    (∀ id, deliveries (w.after actions).courier.delivered id ≤ 1 + (w.gather Action.failedBatches actions).length) ∧
    ∀ n, ∃ accepted, (w.stateAt actions (n + 1)).courier.delivered
        = (w.stateAt actions n).courier.delivered ++ accepted ∧
      accepted.Pairwise fun x y => x.id < y.id := by
  obtain ⟨hl, hd⟩ := lettered_and_delivers hrows hmail h
  refine ⟨⟨hl.letters, hl.ids, ?_⟩, hd.known, ?_, ?_, accepts_stateAt h⟩
  · intro n
    rw [hl.letters, stateAt, (lettered_and_delivers hrows hmail (h.take n)).1.letters]
    exact (gather_isPrefix_take n).map _
  · intro row hrow hpublished
    exact hd.exists_accepted hrow hpublished
  · intro id
    exact hd.deliveries_le id

end World

/-- A run in which one user registers, a batch finds the queue down, the next one fails at its commit, the user
registers again in vain, and a last batch succeeds. -/
def deliveryRun : List (Action Mailbox) :=
  let ann : Registration := { username := "ann", email := "ann@example.org", passwordHash := "", role := .user }
  [.setCourier { failNext := 1 },
   .perform {} (.registerUser ann),
   .perform {} (.publishBatch {}),
   .injectFault .commit (.internal "disk full"),
   .perform {} (.publishBatch {}),
   .perform {} (.registerUser ann),
   .perform {} (.publishBatch {})]

theorem deliveryRun_leavesMail : emptyWorld.Along Action.LeavesMail deliveryRun :=
  .cons rfl (.cons trivial (.cons trivial (.cons trivial (.cons trivial (.cons trivial (.cons trivial .nil))))))

theorem World.deliveryRun_delivers :
    (∃ row ∈ (emptyWorld.after deliveryRun).store.committed.outbox.rows, row.status = .published ∧
      ∃ m ∈ (emptyWorld.after deliveryRun).courier.delivered, m.letter = row.letter) ∧
    (emptyWorld.after deliveryRun).store.committed.letters.map Letter.id = [1] ∧
    deliveries (emptyWorld.after deliveryRun).courier.delivered 1 = 2 ∧
    deliveries (emptyWorld.after deliveryRun).courier.delivered 1 ≤ 1 + 1 := by
  obtain ⟨⟨-, hids, -⟩, -, hpublished, hbound, -⟩ := outbox_delivery rfl rfl deliveryRun_leavesMail
  have henrolled : (emptyWorld.gather Action.enrolments deliveryRun).length = 1 := by decide +kernel
  have hfailed : (emptyWorld.gather Action.failedBatches deliveryRun).length = 1 := by decide +kernel
  have hrow : ((emptyWorld.after deliveryRun).store.committed.outboxRow? 1).map (·.status) = some .published := by
    decide +kernel
  obtain ⟨row, hrow, hstatus⟩ := Option.map_eq_some_iff.mp hrow
  have hmem := (Table.mem_of_get? hrow).1
  rw [henrolled] at hids
  have hbound := hbound 1
  rw [hfailed] at hbound
  exact ⟨⟨row, hmem, hstatus, hpublished row hmem hstatus⟩, hids, by decide +kernel, hbound⟩

end Clearing
