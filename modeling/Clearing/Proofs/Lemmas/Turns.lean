import Clearing.Proofs.Lemmas.Decoding
import Clearing.Operation

/-!
# Turns

What a unit of work sends over a connection to a database, and what is answered, whatever the script is. Each
query is one turn: its statement and the next answer. A turn is good if the statement succeeded and the answer
has what the query needs; the first turn that is not is the last one.
-/

namespace Clearing

variable {α β κ : Type}

/-! ## Turns -/

namespace Sql

/-- A query with the statement that is sent for it and the answer. -/
structure Turn where
  query : Query
  statement : Statement
  answer : Except Failure Answer

namespace Turn

/-- Whether the statement succeeds and its answer has what the query needs. -/
def isGood (x : Turn) : Bool :=
  match x.answer with
  | .ok a => a.meets (need x.query)
  | .error _ => false

end Turn

/-- Whether a statement begins or ends a transaction. -/
def Statement.isControl : Statement → Bool
  | .begin | .commit | .rollback => true
  | .probe | .create _ | .select _ | .insert .. | .update .. => false

namespace Session

/-- The turn of a query. -/
def turn (s : Session) (q : Query) : Turn where
  query := q
  statement := statement s.ids.next q
  answer := s.answer (statement s.ids.next q)

/-- The first answers of the script. -/
def replies (s : Session) (n : Nat) : List (Except Failure Answer) :=
  (List.range n).map fun i => scriptAnswer (s.script.drop i)

theorem control_eq (s : Session) (q : Statement) (what : String) :
    (control q what s).result = ((s.answer q).map fun _ => ()).mapError (·.classify what) ∧
      (control q what s).state = s.sending q := by
  rw [control, send]
  cases s.answer q <;> exact ⟨rfl, rfl⟩

theorem isControl_statement (fresh : Uuid) (q : Query) : (statement fresh q).isControl = false := by
  cases q <;> rfl

theorem answer_turn (s : Session) (q : Query) : (s.turn q).answer = scriptAnswer s.script := by
  cases q <;> rfl

theorem replies_succ {s s' : Session} (h : s'.script = s.script.drop 1) (n : Nat) :
    s.replies (n + 1) = scriptAnswer s.script :: s'.replies n := by
  rw [replies, replies, List.range_succ_eq_map, List.map_cons, List.map_map, h]
  simp only [List.drop_zero, Function.comp_def, List.drop_drop, Nat.succ_eq_add_one, Nat.add_comm]

theorem answer_drawing (s : Session) (q : Query) : (s.drawing q).answer (s.turn q).statement = (s.turn q).answer := by
  rw [drawing]
  split <;> rfl

/-- A query reads the answer of its turn, and its statement is sent. -/
theorem ask_eq (s : Session) (q : Query) :
    (ask q s).result = (match (s.turn q).answer with
      | .ok a => (readReply q a).mapError (·.classify q.missing)
      | .error f => .error (f.classify q.missing)) ∧
    (ask q s).state = (s.drawing q).sending (s.turn q).statement := by
  rw [← answer_drawing, turn, ask, send]
  cases (s.drawing q).answer (statement s.ids.next q) with
  | error f => exact ⟨rfl, rfl⟩
  | ok a =>
      dsimp only
      cases readReply q a with
      | error f => exact ⟨rfl, rfl⟩
      | ok r => exact ⟨rfl, rfl⟩

/-- What a query gives on an answer, and what is logged of it. -/
def reading (q : Query) : Except Failure Answer → Except StoreError q.Reply × List Event
  | .ok a => match readReply q a with
    | .ok r => (.ok r, [])
    | .error f => (.error (f.classify q.missing), f.events)
  | .error f => (.error (f.classify q.missing), f.events)

theorem ask_eq_reading (q : Query) (s : Session) :
    ask q s = {
      result := (reading q (scriptAnswer s.script)).1
      state := (s.drawing q).sending (s.turn q).statement
      events := (reading q (scriptAnswer s.script)).2 } := by
  rw [← answer_turn, ← answer_drawing, turn, ask, send]
  cases (s.drawing q).answer (statement s.ids.next q) with
  | error f => rfl
  | ok a =>
      simp only [reading]
      cases readReply q a <;> rfl

theorem reading_of_ok {q : Query} {a : Answer} {r : q.Reply} (h : readReply q a = .ok r) :
    (reading q (.ok a)).1 = .ok r := by
  simp only [reading, h]

theorem reading_of_error {q : Query} {a : Answer} {f : RowFault} (h : readReply q a = .error f) :
    (reading q (.ok a)).1 = .error (f.classify q.missing) := by
  simp only [reading, h]

theorem reading_eq_ok_iff {q : Query} {x : Except Failure Answer} {r : q.Reply} :
    (reading q x).1 = .ok r ↔ ∃ a, x = .ok a ∧ readReply q a = .ok r := by
  constructor
  · intro h
    cases x with
    | error f => cases h
    | ok a =>
        refine ⟨a, rfl, ?_⟩
        cases hread : readReply q a with
        | error f =>
            rw [reading_of_error hread] at h
            cases h
        | ok r' =>
            rw [reading_of_ok hread] at h
            cases h
            rfl
  · rintro ⟨a, rfl, hread⟩
    exact reading_of_ok hread

theorem script_sending (s : Session) (q : Query) :
    ((s.drawing q).sending (s.turn q).statement).script = s.script.drop 1 := by
  cases q <;> rfl

theorem sent_sending (s : Session) (q : Query) :
    ((s.drawing q).sending (s.turn q).statement).sent = s.sent ++ [(s.turn q).statement] := by
  rw [drawing]
  split <;> rfl

theorem onCommit_sending (s : Session) (q : Query) :
    ((s.drawing q).sending (s.turn q).statement).onCommit = s.onCommit := by
  rw [drawing]
  split <;> rfl

end Session
end Sql

open Sql

namespace World

variable {w w' : World Session κ} {q : Query}

theorem store_of_ask {result : Except StoreError q.Reply} (h : w.ask q = (result, w')) :
    w'.store = (w.store.drawing q).sending (w.store.turn q).statement := by
  rw [← (w.store.ask_eq q).2]
  exact (congrArg (fun x => x.2.store) h).symm

theorem isGood_of_ask {result : Except StoreError q.Reply} (h : w.ask q = (result, w')) :
    (w.store.turn q).isGood = result.isOk := by
  have hresult : (Session.ask q w.store).result = result := congrArg Prod.fst h
  rw [← hresult, (w.store.ask_eq q).1, Turn.isGood]
  cases (w.store.turn q).answer with
  | error f => rfl
  | ok a =>
      show a.meets (need q) = ((readReply q a).mapError _).isOk
      rw [meets_need]
      cases readReply q a <;> rfl

theorem answer_of_ask_ok {r : q.Reply} (h : w.ask q = (.ok r, w')) :
    ∃ a, (w.store.turn q).answer = .ok a ∧ readReply q a = .ok r := by
  have hresult : (Session.ask q w.store).result = .ok r := congrArg Prod.fst h
  rw [(w.store.ask_eq q).1] at hresult
  cases ha : (w.store.turn q).answer with
  | error f =>
      rw [ha] at hresult
      cases hresult
  | ok a =>
      simp only [ha] at hresult
      cases hr : readReply q a with
      | error f =>
          rw [hr] at hresult
          cases hresult
      | ok r' =>
          rw [hr] at hresult
          cases hresult
          exact ⟨a, rfl, hr⟩

end World

/-! ## Units of work -/

namespace Work

variable [Courier κ]

/-- The turns of a unit of work. A query that fails is the last of them. -/
def turns : Work α → World Session κ → List Turn
  | .done _, _ | .fail _, _ => []
  | .ask q _ next, w =>
    w.store.turn q ::
      match w.ask q with
      | (.ok r, w) => (next r).turns w
      | (.error _, _) => []
  | .hand m next, w => (next (w.hand m).1).turns (w.hand m).2
  | .note e next, w => next.turns (w.note e)

/-- The error with which a unit of work ends of its own accord, if it does. -/
def refusal? : Work α → World Session κ → Option SettlementError
  | .done _, _ => none
  | .fail e, _ => some e
  | .ask q _ next, w =>
    match w.ask q with
    | (.ok r, w) => (next r).refusal? w
    | (.error _, _) => none
  | .hand m next, w => (next (w.hand m).1).refusal? (w.hand m).2
  | .note e next, w => next.refusal? (w.note e)

/-- What the turns of a unit of work tell of its run. -/
structure Recorded (x : Work α) (w : World Session κ) : Prop where
  sent : (x.run w).2.store.sent = w.store.sent ++ (x.turns w).map Turn.statement
  onCommit : (x.run w).2.store.onCommit = w.store.onCommit
  queries : ∀ y ∈ x.turns w, y.statement.isControl = false
  replies : (x.turns w).map Turn.answer = w.store.replies (x.turns w).length
  good : ∀ y ∈ (x.turns w).dropLast, y.isGood = true
  ends : (x.run w).1.isOk = ((x.turns w).all Turn.isGood && (x.refusal? w).isNone)

section Query

variable {q : Query} {context : String} {next : q.Reply → Work α} {w w' : World Session κ}

theorem recorded_of_ask_error {e : StoreError} (h : w.ask q = (.error e, w')) :
    (ask q context next).Recorded w := by
  have hturns : (ask q context next).turns w = [w.store.turn q] := by simp only [turns, h]
  have hrun : (ask q context next).run w = (.error (.store context e), w') := by simp only [run, h]
  have hstore := World.store_of_ask h
  refine ⟨?_, ?_, ?_, ?_, ?_, ?_⟩
  · rw [hrun, hturns, hstore, Session.sent_sending, List.map_singleton]
  · rw [hrun, hstore, Session.onCommit_sending]
  · rw [hturns]
    exact List.forall_mem_singleton.mpr (Session.isControl_statement ..)
  · rw [hturns, List.map_singleton, Session.answer_turn]
    rfl
  · rw [hturns]
    exact fun y hy => absurd hy List.not_mem_nil
  · rw [hrun, hturns, List.all_cons, World.isGood_of_ask h]
    rfl

theorem recorded_of_ask_ok {r : q.Reply} (h : w.ask q = (.ok r, w')) (hnext : (next r).Recorded w') :
    (ask q context next).Recorded w := by
  have hturns : (ask q context next).turns w = w.store.turn q :: (next r).turns w' := by simp only [turns, h]
  have hrun : (ask q context next).run w = (next r).run w' := by simp only [run, h]
  have hrefusal : (ask q context next).refusal? w = (next r).refusal? w' := by simp only [refusal?, h]
  have hgood : (w.store.turn q).isGood = true := World.isGood_of_ask h
  have hstore := World.store_of_ask h
  refine ⟨?_, ?_, ?_, ?_, ?_, ?_⟩
  · rw [hrun, hturns, hnext.sent, hstore, Session.sent_sending, List.append_assoc]
    rfl
  · rw [hrun, hnext.onCommit, hstore, Session.onCommit_sending]
  · rw [hturns]
    exact List.forall_mem_cons.mpr ⟨Session.isControl_statement .., hnext.queries⟩
  · rw [hturns, List.map_cons, List.length_cons, Session.answer_turn, hnext.replies]
    have hscript : w'.store.script = w.store.script.drop 1 := by rw [hstore, Session.script_sending]
    exact (Session.replies_succ hscript _).symm
  · rw [hturns]
    intro y hy
    cases hrest : (next r).turns w' with
    | nil =>
        rw [hrest] at hy
        exact absurd hy List.not_mem_nil
    | cons z rest =>
        rw [hrest, List.dropLast_cons_cons, ← hrest] at hy
        rcases List.mem_cons.mp hy with rfl | hy
        · exact hgood
        · exact hnext.good y hy
  · rw [hrun, hnext.ends, hturns, hrefusal, List.all_cons, hgood, Bool.true_and]

end Query

/-- In every run the turns tell what is sent, what is answered and whether the unit of work succeeds. -/
theorem recorded (x : Work α) (w : World Session κ) : x.Recorded w := by
  induction x generalizing w with
  | done a | fail e =>
      refine ⟨(List.append_nil _).symm, rfl, ?_, rfl, ?_, rfl⟩
      · exact fun y hy => absurd hy List.not_mem_nil
      · exact fun y hy => absurd hy List.not_mem_nil
  | ask q context next ih =>
      cases h : w.ask q with
      | mk result w' =>
          cases result with
          | error e => exact recorded_of_ask_error h
          | ok r => exact recorded_of_ask_ok h (ih r w')
  | hand m next ih =>
      have h := ih (w.hand m).1 (w.hand m).2
      exact ⟨h.sent, h.onCommit, h.queries, h.replies, h.good, h.ends⟩
  | note e next ih =>
      have h := ih (w.note e)
      exact ⟨h.sent, h.onCommit, h.queries, h.replies, h.good, h.ends⟩

theorem isOk_run_iff {x : Work α} {w : World Session κ} :
    (x.run w).1.isOk = true ↔ (∀ y ∈ x.turns w, y.isGood = true) ∧ x.refusal? w = none := by
  rw [(x.recorded w).ends, Bool.and_eq_true, List.all_eq_true, Option.isNone_iff_eq_none]

/-- What comes after a unit of work that succeeds adds its turns. -/
theorem turns_bind {x : Work β} {f : β → Work α} {w w' : World Session κ} {b : β} (h : x.run w = (.ok b, w')) :
    (x >>= f).turns w = x.turns w ++ (f b).turns w' := by
  show (x.bind f).turns w = _
  induction x generalizing w with
  | done a =>
      cases h
      rfl
  | fail e => cases h
  | ask q context next ih =>
      cases hask : w.ask q with
      | mk result w₁ =>
          simp only [run, hask] at h
          cases result with
          | error e => cases h
          | ok r =>
              simp only [Work.bind, turns, hask, List.cons_append]
              exact congrArg _ (ih r h)
  | hand m next ih => exact ih _ h
  | note e next ih => exact ih h

theorem turns_query {q : Query} {context : String} {w : World Session κ} :
    (query q context).turns w = [w.store.turn q] := by
  simp only [query, turns]
  split <;> rfl

theorem turns_ofExcept {x : Except SettlementError α} {w : World Session κ} : (ofExcept x).turns w = [] := by
  cases x <;> rfl

end Work

/-- The turns of an operation whose transaction is opened. -/
def Operation.turns [Courier κ] (o : Operation α) (w : World Session κ) : List Turn := o.work.turns w.begin.2

/-! ## Beginning and ending -/

namespace World

variable {w : World Session κ}

theorem begin_refused {refusal : Refusal} (h : w.store.onBegin = some refusal) :
    w.begin.1 = .error ((Failure.refused refusal).classify "transaction") := by
  show (Session.control .begin "transaction" w.store).result = _
  rw [(Session.control_eq ..).1, Session.answer, h]
  rfl

theorem begin_opened (h : w.store.onBegin = none) : w.begin.1 = .ok () := by
  show (Session.control .begin "transaction" w.store).result = _
  rw [(Session.control_eq ..).1, Session.answer, h]
  rfl

theorem store_begin : w.begin.2.store = w.store.sending .begin := (Session.control_eq ..).2

theorem store_conclude (name : String) (a : α) : (w.conclude name a).2.store = w.store.sending .commit := by
  have hstore : w.commit.2.store = w.store.sending .commit := (Session.control_eq ..).2
  rw [← hstore, conclude]
  cases w.commit with
  | mk result w' => cases result <;> rfl

theorem isOk_conclude (name : String) (a : α) : (w.conclude name a).1.isOk = w.store.onCommit.isNone := by
  have hresult : w.commit.1.isOk = w.store.onCommit.isNone := by
    show (Session.control .commit "commit" w.store).result.isOk = _
    rw [(Session.control_eq ..).1, Session.answer]
    cases w.store.onCommit <;> rfl
  rw [← hresult, conclude]
  cases w.commit with
  | mk result w' => cases result <;> rfl

theorem store_abandon (name : String) (e : SettlementError) :
    (w.abandon (α := α) name e).2.store = w.store.sending .rollback := by
  have hstore : w.rollback.2.store = w.store.sending .rollback := (Session.control_eq ..).2
  rw [← hstore, abandon]
  cases w.rollback with
  | mk result w' => cases result <;> rfl

end World

end Clearing
