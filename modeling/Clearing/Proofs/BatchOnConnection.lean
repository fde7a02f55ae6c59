import Clearing.Proofs.OutboxRows
import Clearing.Proofs.TransactionBracket

/-!
# A batch on the connection

A batch hands the rows that it has claimed over in their order. Between two of them it sends one update, which records
the outcome for the row just handed over. The first update that is refused or changes no row ends the batch: nothing
more is handed over, and the transaction is rolled back.
-/

namespace Clearing

open Sql

variable {α σ κ : Type}

/-! ## Answers -/

/-- The answers of a courier to messages that are handed over one after the other, and the courier after them. -/
def Courier.handAll [Courier κ] : List OutboxMessage → κ → List (Except QueueUnavailable String) × κ
  | [], k => ([], k)
  | m :: rest, k =>
    let s := Courier.hand m k
    let later := handAll rest s.state
    (s.result :: later.1, later.2)

theorem World.ask_eq_reading (w : World Session κ) (q : Query) :
    (w.ask q).1 = (Session.reading q (Session.scriptAnswer w.store.script)).1 :=
  congrArg Step.result (Session.ask_eq_reading q w.store)

/-! ## The courier after an operation -/

namespace World

variable [Store σ] (w : World σ κ)

theorem courier_of_ask {w w' : World σ κ} {q : Query} {result : Except StoreError q.Reply}
    (h : w.ask q = (result, w')) : w'.courier = w.courier :=
  (congrArg (fun x => x.2.courier) h).symm

theorem courier_conclude (name : String) (a : α) : (w.conclude name a).2.courier = w.courier := by
  have hcommit : w.commit.2.courier = w.courier := rfl
  rw [conclude, ← hcommit]
  cases w.commit with
  | mk result w' => cases result <;> rfl

theorem courier_abandon (name : String) (e : SettlementError) :
    (w.abandon (α := α) name e).2.courier = w.courier := by
  have hrollback : w.rollback.2.courier = w.courier := rfl
  rw [abandon, ← hrollback]
  cases w.rollback with
  | mk result w' => cases result <;> rfl

end World

/-- Only the unit of work of an operation hands messages over. -/
theorem Operation.courier_perform [Store σ] [Courier κ] {o : Operation α} {w w₁ : World σ κ} {u v : Unit}
    (hcheck : o.check = .ok u) (hbegin : w.begin = (.ok v, w₁)) :
    (o.perform w).2.courier = (o.work.run w₁).2.courier := by
  have hperform : (o.perform w).2.courier = (w.transact o.name o.work).2.courier := by
    simp only [perform, hcheck]
    cases w.transact o.name o.work with
    | mk result w' => cases result <;> rfl
  rw [hperform]
  simp only [World.transact, hbegin]
  cases o.work.run w₁ with
  | mk result w₂ =>
      cases result with
      | ok a => exact w₂.courier_conclude o.name a
      | error e => exact w₂.courier_abandon o.name e

theorem World.conclude_eq (w : World Session κ) (name : String) (a : α) :
    (w.conclude name a).1 = match w.store.onCommit with
      | none => .ok a
      | some refusal => .error (.store Operation.commitContext ((Failure.refused refusal).classify "commit")) := by
  have hcommit : w.commit.1 =
      ((Session.plainAnswer w.store.onCommit).map fun _ => ()).mapError (·.classify "commit") :=
    (w.store.control_eq .commit "commit").1
  rw [conclude]
  cases hw : w.commit with
  | mk result w' =>
      rw [hw] at hcommit
      obtain rfl : result = _ := hcommit
      cases w.store.onCommit <;> rfl

/-- An operation whose unit of work succeeds gives its value if the commit does. -/
theorem Operation.perform_of_run_ok [Courier κ] {o : Operation α} {w : World Session κ} {a : α}
    (hcheck : o.check = .ok ()) (hbegin : w.store.onBegin = none) (h : (o.work.run w.begin.2).1 = .ok a) :
    (o.perform w).1 = match w.store.onCommit with
      | none => .ok a
      | some refusal => .error (.store commitContext ((Failure.refused refusal).classify "commit")) := by
  have hopened : w.begin = (.ok (), w.begin.2) := Prod.ext (World.begin_opened hbegin) rfl
  have hcommit := (o.work.recorded w.begin.2).onCommit
  have hresult := perform_opened hcheck hopened
  cases hrun : o.work.run w.begin.2 with
  | mk result w₁ =>
      rw [hrun] at h hcommit hresult
      obtain rfl : result = .ok a := h
      have hsame : w₁.store.onCommit = w.store.onCommit := by
        rw [World.store_begin] at hcommit
        exact hcommit
      rw [← hsame]
      exact hresult.trans (w₁.conclude_eq o.name a)

namespace Operation.Bracketed

variable [Courier κ] {o : Operation α} {w : World Session κ} {last : Statement}

theorem of_run_error {e : SettlementError} (h : o.Bracketed w last) (hrun : (o.work.run w.begin.2).1 = .error e) :
    last = .rollback ∧ (o.perform w).1 = .error e := by
  have hlast : last ≠ .commit := by
    intro hlast
    have hok := Work.isOk_run_iff.mpr (h.commit.mp hlast)
    rw [hrun] at hok
    cases hok
  obtain ⟨hrolledBack, e', hfailed, hperform⟩ := h.rollback hlast
  cases hfailed.symm.trans hrun
  exact ⟨hrolledBack, hperform⟩

theorem of_run_ok {a : α} (h : o.Bracketed w last) (hrun : (o.work.run w.begin.2).1 = .ok a) : last = .commit := by
  by_contra hlast
  obtain ⟨-, e, hfailed, -⟩ := h.rollback hlast
  cases hfailed.symm.trans hrun

end Operation.Bracketed

/-! ## Recording an outcome -/

namespace PublisherConfig

variable (c : PublisherConfig) (m : OutboxMessage)

/-- The query that records the outcome of handing a message over. -/
def recordQuery : Except QueueUnavailable String → Query
  | .ok _ => .markPublished m.id
  | .error e => .recordFailure m.id e.message (c.maxAttempts ≤ m.attempts + 1)

/-- What is said of an outcome that could not be recorded. -/
def recordContext : Except QueueUnavailable String → String
  | .ok _ => "failed to mark outbox row published"
  | .error _ => "failed to record outbox failure"

/-- What is logged of an outcome that has been recorded. -/
def recordEvent : Except QueueUnavailable String → Event
  | .ok taskId => .rowPublished m.id taskId
  | .error e =>
    if c.maxAttempts ≤ m.attempts + 1 then .rowGivenUp m.id m.taskType (m.attempts + 1) e
    else .rowFailed m.id (m.attempts + 1) e

/-- The text of the update that records an outcome. -/
def recordSql : Except QueueUnavailable String → String
  | .ok _ =>
    "UPDATE outbox_messages SET status = 'published', published_at = NOW(), last_error = NULL WHERE id = $1"
  | .error _ =>
    "UPDATE outbox_messages SET attempts = attempts + 1, last_error = $2, " ++
      "status = CASE WHEN $3 THEN 'failed' ELSE status END WHERE id = $1"

/-- What is bound to the update that records an outcome: a row is given up by its number of failures with this one. -/
def recordParameters : Except QueueUnavailable String → List Cell
  | .ok _ => [.integer m.id]
  | .error e => [.integer m.id, .text e.message, .boolean (c.maxAttempts.toInt ≤ m.attempts.toInt + 1)]

theorem publishRow_eq (r : BatchReport) : c.publishRow r m =
    .hand m fun x => .ask (c.recordQuery m x) (recordContext x) fun _ =>
      .note (c.recordEvent m x) (.done (c.counted m r x)) := by
  refine congrArg (Work.hand m) (funext fun x => ?_)
  cases x with
  | ok taskId => rfl
  | error e =>
      refine congrArg (Work.ask _ _) (funext fun _ => ?_)
      by_cases hlast : c.maxAttempts ≤ m.attempts + 1
      · simp only [recordEvent, counted, hlast, decide_true, if_true]
        rfl
      · simp only [recordEvent, counted, hlast, decide_false, Bool.false_eq_true, if_false]
        rfl

theorem publishRows_cons (r : BatchReport) (rest : List OutboxMessage) : c.publishRows r (m :: rest) =
    .hand m fun x => .ask (c.recordQuery m x) (recordContext x) fun _ =>
      .note (c.recordEvent m x) (c.publishRows (c.counted m r x) rest) := by
  show (c.publishRow r m).bind _ = _
  rw [publishRow_eq]
  rfl

theorem statement_recordQuery (fresh : Uuid) (x : Except QueueUnavailable String) :
    statement fresh (c.recordQuery m x) = statement (.ofNat 0) (c.recordQuery m x) := by
  cases x <;> rfl

theorem sql_recordQuery (fresh : Uuid) (x : Except QueueUnavailable String) :
    (statement fresh (c.recordQuery m x)).sql = recordSql x := by
  cases x with
  | ok taskId =>
      have hclosed : (statement (.ofNat 0) (.markPublished 0)).sql = recordSql (.ok "") := by decide +kernel
      exact hclosed
  | error e =>
      have hclosed : (statement (.ofNat 0) (.recordFailure 0 "" false)).sql = recordSql (.error ⟨""⟩) := by
        decide +kernel
      exact hclosed

theorem parameters_recordQuery (hbelow : m.attempts.toInt < 0x7fffffff) (fresh : Uuid)
    (x : Except QueueUnavailable String) :
    (statement fresh (c.recordQuery m x)).parameters = c.recordParameters m x := by
  cases x with
  | ok taskId => rfl
  | error e =>
      have hgiveUp : decide (c.maxAttempts ≤ m.attempts + 1) = decide (c.maxAttempts.toInt ≤ m.attempts.toInt + 1) :=
        decide_eq_decide.mpr (Counter.le_add_one_iff hbelow)
      rw [recordParameters, ← hgiveUp]
      rfl

end PublisherConfig

/-! ## Messages with their updates -/

/-- A message that has been handed over, with the courier's answer and the database's to the update after it. -/
structure Handling where
  message : OutboxMessage
  outcome : Except QueueUnavailable String
  answer : Except Failure Answer

namespace Handling

/-- Whether the update has changed a row. -/
def isRecorded (h : Handling) : Bool :=
  match h.answer with
  | .ok a => a.affected != 0
  | .error _ => false

variable (c : PublisherConfig) (h : Handling)

/-- The update that records the outcome. -/
def update : Statement := statement (.ofNat 0) (c.recordQuery h.message h.outcome)

/-- The update with its answer. -/
def turn : Turn where
  query := c.recordQuery h.message h.outcome
  statement := h.update c
  answer := h.answer

/-- What the update comes to. -/
def reply : Except StoreError (c.recordQuery h.message h.outcome).Reply := (Session.reading _ h.answer).1

/-- The message is handed over, and then its outcome is recorded. -/
def exchanges : List Exchange :=
  [⟨.hand h.message, h.outcome⟩, ⟨.ask (c.recordQuery h.message h.outcome), h.reply c⟩]

/-- The error of a batch that ends with this update. -/
def failure : SettlementError :=
  let missing := s!"outbox message {h.message.id}"
  .store (PublisherConfig.recordContext h.outcome)
    (match h.answer with
    | .ok _ => .notFound missing
    | .error f => f.classify missing)

/-- The update is answered with an error exactly if it has changed no row, and that error ends the batch. -/
theorem reply_cases :
    (∃ u, h.reply c = .ok u ∧ h.isRecorded = true) ∨
      ∃ e, h.reply c = .error e ∧ h.isRecorded = false ∧
        h.failure = .store (PublisherConfig.recordContext h.outcome) e := by
  obtain ⟨m, x, answer⟩ := h
  cases answer with
  | error f => cases x <;> exact .inr ⟨_, rfl, rfl, rfl⟩
  | ok a =>
      by_cases hnone : a.affected = 0
      · have hread : readReply (c.recordQuery m x) a = .error .noRow := by cases x <;> exact if_pos hnone
        refine .inr ⟨_, Session.reading_of_error hread, bne_eq_false_iff_eq.mpr hnone, ?_⟩
        cases x <;> rfl
      · have hread : ∃ u, readReply (c.recordQuery m x) a = .ok u := by cases x <;> exact ⟨(), if_neg hnone⟩
        obtain ⟨u, hread⟩ := hread
        exact .inl ⟨u, Session.reading_of_ok hread, bne_iff_ne.mpr hnone⟩

theorem isGood_turn : (h.turn c).isGood = h.isRecorded := by
  obtain ⟨m, x, answer⟩ := h
  cases answer <;> cases x <;> rfl

end Handling

/-! ## Rows one after the other -/

/-- What comes of handing rows over: each is followed by its update, and the first update without effect ends it. -/
structure PublisherConfig.Handles [Courier κ] (c : PublisherConfig) (r : BatchReport) (rows : List OutboxMessage)
    (w : World Session κ) (handled : List Handling) : Prop where
  trace : (c.publishRows r rows).trace w = handled.flatMap (Handling.exchanges c)
  turns : (c.publishRows r rows).turns w = handled.map (Handling.turn c)
  order : handled.map Handling.message <+: rows
  outcomes : Courier.handAll (handled.map Handling.message) w.courier
    = (handled.map Handling.outcome, ((c.publishRows r rows).run w).2.courier)
  failed : ∀ h ∈ handled, h.isRecorded = false → ((c.publishRows r rows).run w).1 = .error h.failure
  done : (∀ h ∈ handled, h.isRecorded = true) → handled.map Handling.message = rows ∧
    ∃ report, ((c.publishRows r rows).run w).1 = .ok report ∧ report.total = r.total + rows.length

namespace PublisherConfig

variable [Courier κ] {c : PublisherConfig} {r : BatchReport} {m : OutboxMessage} {rest : List OutboxMessage}
  {w : World Session κ}

/-- The first row with the answers that are next. -/
def nextHandling (w : World Session κ) (m : OutboxMessage) : Handling where
  message := m
  outcome := (w.hand m).1
  answer := Session.scriptAnswer w.store.script

theorem turn_nextHandling (c : PublisherConfig) (w : World Session κ) (m : OutboxMessage) :
    (w.hand m).2.store.turn (c.recordQuery m (w.hand m).1) = (nextHandling w m).turn c :=
  congrArg₂ (Turn.mk (c.recordQuery m (w.hand m).1)) (c.statement_recordQuery m _ _) (Session.answer_turn _ _)

theorem Handles.refused {e : StoreError} {w₁ : World Session κ}
    (hask : (w.hand m).2.ask (c.recordQuery m (w.hand m).1) = (.error e, w₁)) :
    c.Handles r (m :: rest) w [nextHandling w m] := by
  have hreply : (nextHandling w m).reply c = .error e :=
    (World.ask_eq_reading ..).symm.trans (congrArg Prod.fst hask)
  have hrun : (c.publishRows r (m :: rest)).run w = (.error (.store (recordContext (w.hand m).1) e), w₁) := by
    simp only [publishRows_cons, Work.run, hask]
  obtain ⟨u, hok, -⟩ | ⟨e', herror, hbad, hfailure⟩ := (nextHandling w m).reply_cases c
  · rw [hreply] at hok
    cases hok
  · obtain rfl : e = e' := Except.error.inj (hreply.symm.trans herror)
    refine ⟨?_, ?_, ?_, ?_, ?_, ?_⟩
    · rw [publishRows_cons, Work.trace, Work.trace_ask_error hask, List.flatMap_singleton, Handling.exchanges, hreply]
      rfl
    · simp only [publishRows_cons, Work.turns, hask]
      rw [turn_nextHandling]
      rfl
    · exact List.prefix_append [m] rest
    · rw [hrun, World.courier_of_ask hask]
      rfl
    · intro h hh _
      obtain rfl := List.mem_singleton.mp hh
      rw [hrun, hfailure]
      rfl
    · intro hall
      rw [hall _ (List.mem_singleton_self _)] at hbad
      cases hbad

theorem Handles.cons {u : (c.recordQuery m (w.hand m).1).Reply} {w₁ : World Session κ} {handled : List Handling}
    (hask : (w.hand m).2.ask (c.recordQuery m (w.hand m).1) = (.ok u, w₁))
    (h : c.Handles (c.counted m r (w.hand m).1) rest (w₁.note (c.recordEvent m (w.hand m).1)) handled) :
    c.Handles r (m :: rest) w (nextHandling w m :: handled) := by
  have hreply : (nextHandling w m).reply c = .ok u :=
    (World.ask_eq_reading ..).symm.trans (congrArg Prod.fst hask)
  have hrun : (c.publishRows r (m :: rest)).run w = (c.publishRows (c.counted m r (w.hand m).1) rest).run
      (w₁.note (c.recordEvent m (w.hand m).1)) := by
    simp only [publishRows_cons, Work.run, hask]
  obtain ⟨-, -, hrecorded⟩ | ⟨e, herror, -⟩ := (nextHandling w m).reply_cases c
  · refine ⟨?_, ?_, ?_, ?_, ?_, ?_⟩
    · rw [publishRows_cons, Work.trace, Work.trace_ask_ok hask, List.flatMap_cons, ← h.trace, Handling.exchanges,
        hreply]
      rfl
    · simp only [publishRows_cons, Work.turns, hask]
      rw [turn_nextHandling, h.turns]
      rfl
    · exact List.prefix_cons_inj m |>.mpr h.order
    · have hcourier : (w₁.note (c.recordEvent m (w.hand m).1)).courier = (w.hand m).2.courier := by
        show w₁.courier = _
        exact World.courier_of_ask hask
      have hrest := h.outcomes
      rw [hcourier] at hrest
      rw [hrun]
      exact congrArg (fun x => ((w.hand m).1 :: x.1, x.2)) hrest
    · intro x hx hbad
      rcases List.mem_cons.mp hx with rfl | hx
      · rw [hrecorded] at hbad
        cases hbad
      · rw [hrun]
        exact h.failed x hx hbad
    · intro hall
      obtain ⟨horder, report, hok, htotal⟩ := h.done fun x hx => hall x (List.mem_cons_of_mem _ hx)
      refine ⟨congrArg (m :: ·) horder, report, hrun ▸ hok, ?_⟩
      rw [htotal, total_counted, List.length_cons, Nat.add_assoc, Nat.add_comm 1]
  · rw [hreply] at herror
    cases herror

theorem exists_handles (c : PublisherConfig) (rows : List OutboxMessage) (r : BatchReport) (w : World Session κ) :
    ∃ handled, c.Handles r rows w handled := by
  induction rows generalizing r w with
  | nil =>
      refine ⟨[], rfl, rfl, List.prefix_rfl, rfl, ?_, fun _ => ⟨rfl, r, rfl, rfl⟩⟩
      exact fun h hh => absurd hh List.not_mem_nil
  | cons m rest ih =>
      cases hask : (w.hand m).2.ask (c.recordQuery m (w.hand m).1) with
      | mk result w₁ =>
          cases result with
          | error e => exact ⟨_, .refused hask⟩
          | ok u =>
              obtain ⟨handled, h⟩ := ih (c.counted m r (w.hand m).1) (w₁.note (c.recordEvent m (w.hand m).1))
              exact ⟨_, .cons hask h⟩

end PublisherConfig

/-! ## A whole batch -/

namespace PublisherConfig

variable [Courier κ]

/-- The statement that claims the rows of a batch. -/
def claim (c : PublisherConfig) (s : Session) : Statement := statement s.ids.next (.claimOutbox c.batchSize)

/-- What a batch does over a connection that answers its claim with these rows, and the updates after it with these
replies. -/
structure Publishes (c : PublisherConfig) (rows : List OutboxMessage) (replies : List (Except Refusal Answer))
    (w : World Session κ) (handled : List Handling) : Prop where
  /-- After each message, and before the next one, its outcome is recorded. -/
  trace : c.batch.trace w = ⟨.ask (.claimOutbox c.batchSize), .ok rows⟩ :: handled.flatMap (Handling.exchanges c)
  order : handled.map Handling.message <+: rows
  outcomes : Courier.handAll (handled.map Handling.message) w.courier
    = (handled.map Handling.outcome, (c.batch.perform w).2.courier)
  updates : ∀ h ∈ handled, (h.update c).sql = recordSql h.outcome ∧
    (h.update c).parameters = c.recordParameters h.message h.outcome
  /-- The attempts that decide whether a row is given up fit in 32 bits. -/
  attempts : ∀ h ∈ handled, h.message.attempts.toInt + 1 < 2 ^ 31
  answers : handled.map Handling.answer
    = (List.range handled.length).map fun i => Session.scriptAnswer (replies.drop i)
  /-- Nothing more is handed over after an update without effect. -/
  recorded : ∀ h ∈ handled.dropLast, h.isRecorded = true
  failed : ∀ h ∈ handled, h.isRecorded = false →
    (c.batch.perform w).2.store.sent =
      w.store.sent ++ .begin :: c.claim w.store :: (handled.map (Handling.update c) ++ [.rollback]) ∧
    (c.batch.perform w).1 = .error h.failure
  done : (∀ h ∈ handled, h.isRecorded = true) →
    handled.map Handling.message = rows ∧
    (c.batch.perform w).2.store.sent =
      w.store.sent ++ .begin :: c.claim w.store :: (handled.map (Handling.update c) ++ [.commit]) ∧
    match w.store.onCommit with
    | none => ∃ r, (c.batch.perform w).1 = .ok r ∧ r.published + r.failed + r.gaveUp = rows.length
    | some refusal => (c.batch.perform w).1 =
      .error (.store Operation.commitContext ((Failure.refused refusal).classify "commit"))

variable {c : PublisherConfig} {w : World Session κ} {claimed : Answer} {replies : List (Except Refusal Answer)}
  {rows : List OutboxMessage}

omit [Courier κ] in
theorem ask_claim (c : PublisherConfig) (hscript : w.store.script = .ok claimed :: replies)
    (hrows : readAll readOutboxMessage claimed = .ok rows) :
    ∃ w₁, w.ask (.claimOutbox c.batchSize) = (.ok rows, w₁) ∧ w₁.store.script = replies ∧
      w₁.courier = w.courier := by
  have hreply : (w.ask (.claimOutbox c.batchSize)).1 = .ok rows := by
    rw [World.ask_eq_reading, hscript]
    exact Session.reading_of_ok hrows
  have hask : w.ask (.claimOutbox c.batchSize) = (.ok rows, (w.ask (.claimOutbox c.batchSize)).2) :=
    Prod.ext hreply rfl
  refine ⟨_, hask, ?_, rfl⟩
  rw [World.store_of_ask hask, Session.script_sending, hscript, List.drop_one, List.tail_cons]

theorem batchWork_of_claimed {w₁ : World Session κ} (h : w.ask (.claimOutbox c.batchSize) = (.ok rows, w₁)) :
    c.batchWork.run w = (c.publishRows .empty rows).run w₁ ∧
    c.batchWork.trace w = ⟨.ask (.claimOutbox c.batchSize), .ok rows⟩ :: (c.publishRows .empty rows).trace w₁ ∧
    c.batchWork.turns w = w.store.turn (.claimOutbox c.batchSize) :: (c.publishRows .empty rows).turns w₁ := by
  have hwork : c.batchWork = .ask (.claimOutbox c.batchSize) "failed to claim outbox rows" fun rows =>
    c.publishRows .empty rows := rfl
  rw [hwork]
  refine ⟨?_, Work.trace_ask_ok h, ?_⟩
  · simp only [Work.run, h]
  · simp only [Work.turns, h]

/-- However the courier and the database answer, a batch records the outcome of every row that it hands over before it
hands over the next one, and ends with the first outcome that cannot be recorded. -/
theorem publishes_claimed_rows (hbegin : w.store.onBegin = none) (hscript : w.store.script = .ok claimed :: replies)
    (hrows : readAll readOutboxMessage claimed = .ok rows) (hattempts : ∀ m ∈ rows, m.attempts.toInt < 2 ^ 31 - 1) :
    ∃ handled, c.Publishes rows replies w handled := by
  have hopened : w.begin = (.ok (), w.begin.2) := Prod.ext (World.begin_opened hbegin) rfl
  have hopenedScript : w.begin.2.store.script = .ok claimed :: replies := by
    rw [World.store_begin]
    exact hscript
  obtain ⟨w₁, hask, hreplies, hcourier⟩ := ask_claim c hopenedScript hrows
  obtain ⟨handled, h⟩ := c.exists_handles rows .empty w₁
  obtain ⟨hrun, htrace, hturns⟩ := batchWork_of_claimed hask
  have hafter := (c.publishRows .empty rows).recorded w₁
  rw [h.turns, World.store_begin] at hturns
  obtain ⟨last, hbracket⟩ := Operation.perform_bracketed (o := c.batch) rfl hbegin
  have hsent := hbracket.sent
  rw [show c.batch.turns w = _ from hturns, List.map_cons, List.map_map, List.cons_append] at hsent
  have hbelow : ∀ x ∈ handled, x.message.attempts.toInt < 2 ^ 31 - 1 := fun x hx =>
    hattempts x.message (h.order.subset (List.mem_map_of_mem hx))
  refine ⟨handled, ?_, h.order, ?_, ?_, ?_, ?_, ?_, ?_, ?_⟩
  · rw [Operation.trace_opened rfl hopened, ← h.trace]
    exact htrace
  · have houtcomes := h.outcomes
    rw [hcourier, ← hrun] at houtcomes
    rw [Operation.courier_perform rfl hopened]
    exact houtcomes
  · exact fun x hx => ⟨c.sql_recordQuery x.message _ x.outcome,
      c.parameters_recordQuery x.message (hbelow x hx) _ x.outcome⟩
  · intro x hx
    have := hbelow x hx
    omega
  · have hanswers := hafter.replies
    rw [h.turns, List.map_map, List.length_map, Session.replies, hreplies] at hanswers
    exact hanswers
  · intro x hx
    have hgood := hafter.good
    rw [h.turns, ← List.map_dropLast] at hgood
    rw [← x.isGood_turn c]
    exact hgood _ (List.mem_map_of_mem hx)
  · intro x hx hbad
    have herror := h.failed x hx hbad
    rw [← hrun] at herror
    obtain ⟨rfl, hperform⟩ := hbracket.of_run_error herror
    exact ⟨hsent, hperform⟩
  · intro hall
    obtain ⟨horder, r, hok, htotal⟩ := h.done hall
    rw [← hrun] at hok
    obtain rfl := hbracket.of_run_ok hok
    refine ⟨horder, hsent, ?_⟩
    have hresult := Operation.perform_of_run_ok (o := c.batch) rfl hbegin hok
    rw [hresult]
    cases w.store.onCommit with
    | some refusal => rfl
    | none => exact ⟨r, rfl, htotal.trans (Nat.zero_add _)⟩

end PublisherConfig

/-- The pending row with this number of a task that mails a code. -/
def mailRow (id : Int) : OutboxMessage :=
  (({} : TaskOptions).message verifyEmailTaskType (.object [])).toMessage id .epoch

/-- A database that gives a batch three rows, and then changes the first of them only, and a courier that fails once. -/
def forgetfulWorld : World Session Mailbox where
  store := {
    script := [
      .ok { rows := [1, 2, 3].map fun id => Tabled.row (mailRow id) },
      .ok { affected := 1 }, .ok {}] }
  courier := { failNext := 1 }

theorem PublisherConfig.forgotten_row_rolled_back :
    ∃ handled, ({} : PublisherConfig).Publishes ([1, 2, 3].map mailRow)
        [.ok { affected := 1 }, .ok {}] forgetfulWorld handled ∧ handled.length = 2 ∧
      (({} : PublisherConfig).batch.perform forgetfulWorld).1 =
        .error (.store "failed to mark outbox row published" (.notFound "outbox message 2")) := by
  obtain ⟨handled, h⟩ := publishes_claimed_rows (c := {}) (w := forgetfulWorld) rfl rfl rfl (by decide)
  refine ⟨handled, h, ?_, rfl⟩
  have hlength : 5 = _ := congrArg List.length h.trace
  rw [List.length_cons, List.length_flatMap] at hlength
  simp only [Handling.exchanges, List.length_cons, List.length_nil, List.map_const',
    List.sum_replicate_nat] at hlength
  omega

end Clearing
