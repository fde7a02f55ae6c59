import Clearing.Proofs.Lemmas.Turns
import Mathlib.Data.List.Forall2

/-!
# Databases that differ in lookups

A wallet that is looked up may have changed by the time it is locked. A unit of work that uses only the identifier of
such a wallet sends the same statements to two databases that differ in nothing but the rest of what lookups show, and
ends in the same way.
-/

namespace Clearing

open Sql

variable {α β κ : Type}

/-! ## Lookups that differ -/

/-- Replies that cannot be told apart by the identifier of a wallet that is looked up. -/
def Query.Resembles : (q : Query) → q.Reply → q.Reply → Prop
  | .findWallet .., r, r' => r.id = r'.id
  | _, r, r' => r = r'

theorem Query.Resembles.refl (q : Query) (r : q.Reply) : q.Resembles r r := by
  cases q <;> rfl

namespace Sql

/-- The columns of a wallet that may have changed before it is locked. -/
def unlockedColumns : List String := ["user_id", "currency", "balance", "locked_balance", "created_at"]

/-- Two rows are wallets and differ in columns only that may have changed before a lock. -/
structure SameWallet (row row' : Row) : Prop where
  isRead : (readWallet row).isOk = true
  isRead' : (readWallet row').isOk = true
  same : ∀ column, column ∉ unlockedColumns → Row.cell? row column = Row.cell? row' column

/-- Two answers to a query are the same, or they are answers to a lookup and differ in columns only that may have
changed before a lock. -/
def SameAnswer (q : Query) (x y : Except Failure Answer) : Prop :=
  match q with
  | .findWallet .. => x = y ∨ ∃ a b, x = .ok a ∧ y = .ok b ∧ a.affected = b.affected ∧
      List.Forall₂ SameWallet a.rows b.rows
  | _ => x = y

theorem SameAnswer.of_eq {q : Query} {x y : Except Failure Answer} (h : x = y) : SameAnswer q x y := by
  cases q with
  | findWallet userId currency => exact .inl h
  | _ => exact h

/-- To every turn two scripts have the same answer, lookups excepted. -/
def DifferInLookups (turns : List Turn) (script script' : List (Except Refusal Answer)) : Prop :=
  ∀ i x, turns[i]? = some x →
    SameAnswer x.query (Session.scriptAnswer (script.drop i)) (Session.scriptAnswer (script'.drop i))

theorem DifferInLookups.head {turns : List Turn} {x : Turn} {script script' : List (Except Refusal Answer)}
    (h : DifferInLookups (x :: turns) script script') :
    SameAnswer x.query (Session.scriptAnswer script) (Session.scriptAnswer script') := h 0 x rfl

theorem DifferInLookups.tail {turns : List Turn} {x : Turn} {script script' : List (Except Refusal Answer)}
    (h : DifferInLookups (x :: turns) script script') :
    DifferInLookups turns (script.drop 1) (script'.drop 1) := by
  intro i y hy
  rw [List.drop_drop, List.drop_drop, Nat.add_comm]
  exact h (i + 1) y hy

theorem read_id_of_readWallet {row : Row} {v : Wallet} (h : readWallet row = .ok v) :
    (Row.read row "id" : Except RowFault Uuid) = .ok v.id := by
  rw [readWallet] at h
  cases hid : (Row.read row "id" : Except RowFault Uuid) with
  | error f =>
      rw [hid] at h
      cases h
  | ok id =>
      rw [hid] at h
      simp only [bind, Except.bind, pure, Except.pure] at h
      repeat' split at h
      all_goals cases h
      rfl

theorem SameWallet.ids {row row' : Row} (h : SameWallet row row') :
    ∃ v v', readWallet row = .ok v ∧ readWallet row' = .ok v' ∧ v.id = v'.id := by
  cases hv : readWallet row with
  | error f =>
      have hread := h.isRead
      rw [hv] at hread
      cases hread
  | ok v =>
      cases hv' : readWallet row' with
      | error f =>
          have hread := h.isRead'
          rw [hv'] at hread
          cases hread
      | ok v' =>
          have hid : Row.cell? row "id" = Row.cell? row' "id" := h.same "id" (by decide)
          have hread := read_id_of_readWallet hv
          rw [Row.read, Row.value, hid] at hread
          exact ⟨v, v', rfl, rfl, Except.ok.inj (hread.symm.trans (read_id_of_readWallet hv'))⟩

/-- Results of a query that cannot be told apart by the identifier of a wallet that is looked up. -/
def SameResult (q : Query) : Except StoreError q.Reply → Except StoreError q.Reply → Prop
  | .ok r, .ok r' => q.Resembles r r'
  | .error e, .error e' => e = e'
  | .ok _, .error _ | .error _, .ok _ => False

theorem SameResult.refl (q : Query) (x : Except StoreError q.Reply) : SameResult q x x := by
  cases x with
  | ok r => exact Query.Resembles.refl q r
  | error e => rfl

/-! ## Sessions -/

namespace Session

/-- A session with another script. -/
def withScript (s : Session) (script : List (Except Refusal Answer)) : Session := { s with script := script }

/-- Readings of answers that differ in a lookup only. -/
theorem reading_sameAnswer {q : Query} {x y : Except Failure Answer} (h : SameAnswer q x y) :
    SameResult q (reading q x).1 (reading q y).1 ∧ (reading q x).2 = (reading q y).2 := by
  have hsame : x = y → SameResult q (reading q x).1 (reading q y).1 ∧ (reading q x).2 = (reading q y).2 := by
    rintro rfl
    exact ⟨.refl q _, rfl⟩
  cases q with
  | findWallet userId currency =>
      rcases h with heq | ⟨a, b, rfl, rfl, -, hrows⟩
      · exact hsame heq
      · obtain ⟨rows, affected⟩ := a
        obtain ⟨rows', affected'⟩ := b
        cases hrows with
        | nil => exact ⟨rfl, rfl⟩
        | cons hrow hrest =>
            obtain ⟨v, v', hv, hv', hid⟩ := hrow.ids
            simp only [reading, readReply, readOne, hv, hv', and_true]
            exact hid
  | _ => exact hsame h

theorem sending_withScript (s : Session) (q : Query) (script : List (Except Refusal Answer)) :
    ((s.withScript script).drawing q).sending ((s.withScript script).turn q).statement
      = ((s.drawing q).sending (s.turn q).statement).withScript (script.drop 1) := by
  cases q <;> rfl

theorem control_withScript {q : Statement} (hq : q.isControl = true) (what : String) (s : Session)
    (script : List (Except Refusal Answer)) :
    control q what (s.withScript script) = {
      control q what s with state := (control q what s).state.withScript script } := by
  have hanswer : (s.withScript script).answer q = s.answer q := by cases q <;> first | rfl | cases hq
  have hsending : (s.withScript script).sending q = (s.sending q).withScript script := by
    cases q <;> first | rfl | cases hq
  simp only [control, send, hanswer, hsending]
  cases s.answer q <;> rfl

end Session
end Sql

/-! ## Worlds -/

namespace World

variable {w : World Session κ} {script script' : List (Except Refusal Answer)}

/-- A world whose database answers from another script. -/
def withScript (w : World Session κ) (script : List (Except Refusal Answer)) : World Session κ :=
  { w with store := w.store.withScript script }

theorem ask_withScript {q : Query}
    (h : SameAnswer q (Session.scriptAnswer w.store.script) (Session.scriptAnswer script)) :
    ∃ result, (w.withScript script).ask q = (result, (w.ask q).2.withScript (script.drop 1)) ∧
      SameResult q (w.ask q).1 result := by
  obtain ⟨hresult, hevents⟩ := Session.reading_sameAnswer h
  refine ⟨(Session.reading q (Session.scriptAnswer script)).1, ?_, ?_⟩
  · show World.afterStore _ (Session.ask q (w.store.withScript script)) = _
    rw [Session.ask_eq_reading, Session.sending_withScript]
    show _ = (_, (w.afterStore (Session.ask q w.store)).2.withScript _)
    rw [Session.ask_eq_reading, afterStore, afterStore, hevents]
    rfl
  · show SameResult q (Session.ask q w.store).result _
    rw [Session.ask_eq_reading]
    exact hresult

theorem begin_withScript : (w.withScript script).begin = (w.begin.1, w.begin.2.withScript script) := by
  show World.afterStore _ (Session.control .begin "transaction" (w.store.withScript script)) = _
  rw [Session.control_withScript rfl]
  rfl

theorem commit_withScript : (w.withScript script).commit = (w.commit.1, w.commit.2.withScript script) := by
  show World.afterStore _ (Session.control .commit "commit" (w.store.withScript script)) = _
  rw [Session.control_withScript rfl]
  rfl

theorem rollback_withScript : (w.withScript script).rollback = (w.rollback.1, w.rollback.2.withScript script) := by
  show World.afterStore _ (Session.control .rollback "rollback" (w.store.withScript script)) = _
  rw [Session.control_withScript rfl]
  rfl

theorem conclude_withScript (name : String) (a : α) :
    (w.withScript script).conclude name a
      = ((w.conclude name a).1, (w.conclude name a).2.withScript script) := by
  rw [conclude, conclude, commit_withScript]
  cases w.commit with
  | mk result w' => cases result <;> rfl

theorem abandon_withScript (name : String) (e : SettlementError) :
    (w.withScript script).abandon (α := α) name e
      = ((w.abandon (α := α) name e).1, (w.abandon (α := α) name e).2.withScript script) := by
  rw [abandon, abandon, rollback_withScript]
  cases w.rollback with
  | mk result w' => cases result <;> rfl

end World

/-! ## Units of work that use identifiers only -/

namespace Work

/-- Whether a unit of work uses only the identifiers of the wallets that it looks up. -/
def IdsOnly : Work α → Prop
  | .done _ | .fail _ => True
  | .ask q _ next => (∀ r r', q.Resembles r r' → next r = next r') ∧ ∀ r, (next r).IdsOnly
  | .hand _ next => ∀ x, (next x).IdsOnly
  | .note _ next => next.IdsOnly

namespace IdsOnly

theorem bind {x : Work β} {f : β → Work α} (hx : x.IdsOnly) (hf : ∀ b, (f b).IdsOnly) : (x >>= f).IdsOnly := by
  show (x.bind f).IdsOnly
  induction x with
  | done b => exact hf b
  | fail e => trivial
  | ask q context next ih =>
      exact ⟨fun r r' h => congrArg (Work.bind · f) (hx.1 r r' h), fun r => ih r (hx.2 r)⟩
  | hand m next ih => exact fun r => ih r (hx r)
  | note e next ih => exact ih hx

theorem query {q : Query} {context : String} (hq : ∀ r r', q.Resembles r r' → r = r') :
    (query q context).IdsOnly := ⟨fun r r' h => congrArg Work.done (hq r r' h), fun _ => trivial⟩

/-- After a lookup only the identifier of the wallet is used. -/
theorem lookup_bind {userId : Uuid} {currency context : String} {f : Wallet → Work α}
    (hids : ∀ r r', r.id = r'.id → f r = f r') (hf : ∀ r, (f r).IdsOnly) :
    (Work.query (.findWallet userId currency) context >>= f).IdsOnly := ⟨hids, hf⟩

theorem deliver {m : OutboxMessage} : (deliver m).IdsOnly := fun _ => trivial

theorem report {e : Event} : (report e).IdsOnly := trivial

theorem ofExcept {x : Except SettlementError α} : (ofExcept x).IdsOnly := by
  cases x <;> trivial

theorem ofOption {e : SettlementError} {x : Option α} : (ofOption e x).IdsOnly := by
  cases x <;> trivial

theorem require {condition : Bool} {e : SettlementError} : (require condition e).IdsOnly := by
  cases condition <;> trivial

variable [Courier κ]

/-- Two databases that differ in lookups only make a unit of work end in the same way. -/
theorem run_withScript {x : Work α} (hx : x.IdsOnly) {w : World Session κ} {script : List (Except Refusal Answer)}
    (h : DifferInLookups (x.turns w) w.store.script script) :
    ∃ rest, x.run (w.withScript script) = ((x.run w).1, (x.run w).2.withScript rest) := by
  induction x generalizing w script with
  | done a => exact ⟨script, rfl⟩
  | fail e => exact ⟨script, rfl⟩
  | ask q context next ih =>
      rw [turns] at h
      obtain ⟨result, hask', hresult⟩ := World.ask_withScript (q := q) h.head
      cases hask : w.ask q with
      | mk answer w' =>
          rw [hask] at hask' hresult
          cases answer with
          | error e =>
              cases result with
              | ok r => exact hresult.elim
              | error e' =>
                  obtain rfl : e = e' := hresult
                  refine ⟨script.drop 1, ?_⟩
                  simp only [run, hask, hask']
          | ok r =>
              cases result with
              | error e => exact hresult.elim
              | ok r' =>
                  have htail := h.tail
                  simp only [hask] at htail
                  rw [show w.store.script.drop 1 = w'.store.script by
                    rw [World.store_of_ask hask, Session.script_sending]] at htail
                  simp only [run, hask, hask', ← hx.1 r r' hresult]
                  exact ih r (hx.2 r) htail
  | hand m next ih => exact ih _ (hx _) h
  | note e next ih => exact ih hx h

end IdsOnly
end Work

/-! ## Operations -/

section Operation

variable [Courier κ] {w : World Session κ} {script : List (Except Refusal Answer)}

theorem World.transact_withScript {work : Work α} (hwork : work.IdsOnly)
    (h : DifferInLookups (work.turns w.begin.2) w.store.script script) (name : String) :
    ∃ rest, (w.withScript script).transact name work
      = ((w.transact name work).1, (w.transact name work).2.withScript rest) := by
  have hscript : w.begin.2.store.script = w.store.script := by rw [store_begin]; rfl
  rw [← hscript] at h
  obtain ⟨rest, hrun⟩ := hwork.run_withScript h
  rw [transact, transact, begin_withScript]
  cases hbegin : w.begin with
  | mk opened w₁ =>
      rw [hbegin] at hrun
      cases opened with
      | error e => exact ⟨script, rfl⟩
      | ok u =>
          refine ⟨rest, ?_⟩
          simp only [hrun]
          cases work.run w₁ with
          | mk result w₂ =>
              cases result with
              | ok a => exact conclude_withScript name a
              | error e => exact abandon_withScript name e

/-- Two databases that differ in lookups only make an operation end in the same way, and are sent the same. -/
theorem Operation.perform_withScript {o : Operation α} (ho : o.work.IdsOnly)
    (h : DifferInLookups (o.turns w) w.store.script script) :
    ∃ rest, o.perform (w.withScript script) = ((o.perform w).1, (o.perform w).2.withScript rest) := by
  obtain ⟨rest, htransact⟩ := World.transact_withScript ho h o.name
  cases hcheck : o.check with
  | error e => exact ⟨script, by simp only [perform, hcheck]⟩
  | ok u =>
      refine ⟨rest, ?_⟩
      simp only [perform, hcheck, htransact]
      cases w.transact o.name o.work with
      | mk result w' => cases result <;> rfl

end Operation

end Clearing
