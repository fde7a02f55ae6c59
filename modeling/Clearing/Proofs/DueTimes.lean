import Clearing.Courier.Stream
import Clearing.Proofs.BatchOnConnection
import Clearing.Proofs.Lemmas.Backoff

/-!
# When tasks are due

A delay passes two bounds on its way to the stream: one when its row is written, and one when the row is handed over.
Together they are a single bound on the due time. No delay is cut short before that, and no task is due before it is
handed over, whatever its row says.
-/

namespace Clearing

variable {α σ : Type}

/-! ## What a stream receives -/

namespace StreamCourier

theorem state_hand (m : OutboxMessage) (c : StreamCourier) : (Courier.hand m c).state = c.sending (c.command m) := by
  simp only [Courier.hand, hand]
  split <;> rfl

/-- The clock and the name of the stream are the same from the first message to the last. -/
theorem sent_handAll (ms : List OutboxMessage) (c : StreamCourier) :
    (Courier.handAll ms c).2.sent = c.sent ++ ms.map c.command := by
  induction ms generalizing c with
  | nil => exact (List.append_nil _).symm
  | cons m rest ih =>
      have hsame : (c.sending (c.command m)).command = c.command := rfl
      have hsent : (c.sending (c.command m)).sent = c.sent ++ [c.command m] := rfl
      rw [Courier.handAll, state_hand]
      dsimp only
      rw [ih, hsame, hsent, List.map_cons, List.append_assoc, List.singleton_append]

end StreamCourier

section Generic

variable {κ : Type} [Store σ] [Courier κ]

theorem Work.courier_run (x : Work α) (w : World σ κ) :
    (x.run w).2.courier = (Courier.handAll (handed (x.trace w)) w.courier).2 := by
  induction x generalizing w with
  | done a => rfl
  | fail e => rfl
  | ask q context next ih =>
      cases hw : w.ask q with
      | mk result w' =>
          have hcourier := World.courier_of_ask hw
          cases result with
          | ok r =>
              rw [trace_ask_ok hw, run, hw]
              dsimp only
              rw [ih r w', hcourier]
              rfl
          | error e =>
              rw [trace_ask_error hw, run, hw]
              exact hcourier
  | hand m next ih =>
      rw [run, trace]
      dsimp only
      rw [ih]
      rfl
  | note e next ih => exact ih (w.note e)

/-- However an operation ends, the courier has received what was handed over, and nothing else. -/
theorem Operation.courier_handed (o : Operation α) (w : World σ κ) :
    (o.perform w).2.courier = (Courier.handAll (handed (o.trace w)) w.courier).2 := by
  cases hcheck : o.check with
  | error e => simp only [perform, trace, hcheck, handed, List.flatMap_nil, Courier.handAll]
  | ok u =>
      cases hbegin : w.begin with
      | mk result w₁ =>
          have hcourier : w₁.courier = w.courier := (congrArg (fun x => x.2.courier) hbegin).symm
          cases result with
          | error e =>
              simp only [perform, World.transact, trace, hcheck, hbegin, handed, List.flatMap_nil, Courier.handAll]
              exact hcourier
          | ok v =>
              rw [courier_perform hcheck hbegin, trace_opened hcheck hbegin, Work.courier_run, hcourier]

end Generic

/-! ## Due times -/

section DueTime

variable {now delaySecs later : Int}

theorem le_dueTime (h : now ≤ latestDue) (delaySecs : Int) : now ≤ dueTime now delaySecs := by
  unfold dueTime
  omega

theorem dueTime_le (now delaySecs : Int) : dueTime now delaySecs ≤ latestDue := Int.min_le_right ..

theorem dueTime_mono (now : Int) (h : delaySecs ≤ later) : dueTime now delaySecs ≤ dueTime now later := by
  unfold dueTime
  omega

/-- From a time that is not negative on, the longest delay leads past the latest time, so that the bound on delays is
no bound on due times. -/
theorem dueTime_message (hnow : 0 ≤ now) (o : TaskOptions) (taskType : String) (payload : Json) :
    dueTime now (o.message taskType payload).delaySecs = min (now + o.delay.seconds) latestDue := by
  have hdelay : (o.message taskType payload).delaySecs = min (o.delay.seconds : Int) latestDue := rfl
  rw [hdelay]
  unfold dueTime latestDue
  omega

end DueTime

/-- Whatever a command hands over goes to the stream with its due time as the last word, also when the command fails
in the end. For a row written with some options this is the clock plus their delay, or the latest time there is if
that comes first; every number of seconds below `2 ^ 64` is such a delay. For any row, it is not before the clock, and
not earlier than for a row with a shorter delay. -/
theorem StreamCourier.due_times [Store σ] (s : Service) (command : Command) (w : World σ StreamCourier)
    (hnow : 0 ≤ w.courier.now) (hlatest : w.courier.now ≤ latestDue) :
    ((s.perform command w).2.courier.sent
        = w.courier.sent ++ (handed (s.trace command w)).map w.courier.command ∧
      ∀ m, (w.courier.command m).words.drop 11 = ["process_at", toString (w.courier.command m).dueAt]) ∧
    (∀ (o : TaskOptions) (taskType : String) (payload : Json) (m : OutboxMessage),
      m.delaySecs = (o.message taskType payload).delaySecs →
        (w.courier.command m).dueAt = min (w.courier.now + o.delay.seconds) latestDue) ∧
    (∀ n < UInt64.size, (Duration.ofSeconds n).seconds = n) ∧
    (∀ m, w.courier.now ≤ (w.courier.command m).dueAt ∧ (w.courier.command m).dueAt ≤ latestDue) ∧
    ∀ m m', m.delaySecs ≤ m'.delaySecs → (w.courier.command m).dueAt ≤ (w.courier.command m').dueAt := by
  refine ⟨⟨?_, fun m => rfl⟩, ?_, ?_, ?_, ?_⟩
  · rw [Service.perform, Operation.courier_handed, sent_handAll]
    rfl
  · intro o taskType payload m hm
    calc
      (w.courier.command m).dueAt = dueTime w.courier.now m.delaySecs := rfl
      _ = min (w.courier.now + o.delay.seconds) latestDue := by rw [hm, dueTime_message hnow]
  · exact fun n hn => Duration.seconds_ofSeconds hn
  · exact fun m => ⟨le_dueTime hlatest m.delaySecs, dueTime_le ..⟩
  · exact fun m m' h => dueTime_mono w.courier.now h

/-- A service whose tasks wait as long as a delay can be. -/
def patientService : Service where
  task := { delay := .ofSeconds (UInt64.size - 1) }

/-- A world with one row to be handed over, written by this service. -/
def awaitingWorld : World MemoryStore StreamCourier :=
  (patientService.perform
    (.registerUser { username := "ann", email := "ann@example.org", passwordHash := "", role := .user })
    { store := { now := .epoch }, courier := { streamPrefix := "tasks", now := 1700000000 } }).2

theorem StreamCourier.awaiting_task_due :
    0 ≤ awaitingWorld.courier.now ∧ awaitingWorld.courier.now ≤ latestDue ∧
      (patientService.perform (.publishBatch {}) awaitingWorld).2.courier.sent.map (·.dueAt) = [latestDue] := by
  have hnow : awaitingWorld.courier.now = 1700000000 := by decide +kernel
  have hsent : awaitingWorld.courier.sent = [] := by decide +kernel
  have hhanded : (handed (patientService.trace (.publishBatch {}) awaitingWorld)).map (·.delaySecs)
      = [(patientService.task.message "" .null).delaySecs] := by decide +kernel
  have hstart : 0 ≤ awaitingWorld.courier.now := by omega
  have hlatest : awaitingWorld.courier.now ≤ latestDue := by
    rw [hnow]
    decide
  obtain ⟨⟨hreceived, -⟩, hdue, hseconds, -⟩ := due_times patientService (.publishBatch {}) awaitingWorld hstart hlatest
  obtain ⟨m, hm, hdelay⟩ := List.map_eq_singleton_iff.mp hhanded
  have hlongest : patientService.task.delay.seconds = UInt64.size - 1 := hseconds _ (by decide)
  refine ⟨hstart, hlatest, ?_⟩
  rw [hreceived, hsent, hm, List.nil_append, List.map_singleton, List.map_singleton, hdue _ _ _ m hdelay, hlongest,
    hnow]
  decide

end Clearing
