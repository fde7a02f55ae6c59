import Clearing.Proofs.Lemmas.Transaction
import Clearing.Proofs.Lemmas.Veils
import Clearing.Proofs.Requests

/-!
# Runs that differ in secrets

Two units of work that differ in passwords and in the names of codes, run over rows that differ in the same way, ask
for the same, hand over the same messages and end alike, whatever failures are queued. So do operations, and what they
log is the same to those who read it.
-/

namespace Clearing

variable {α β κ : Type} {f : String → String}

/-! ## Worlds -/

/-- What is seen of an event: its level, its message and its fields. -/
def Event.shown (e : Event) : Level × String × List (String × String) := (e.level, e.message, e.fields)

/-- Worlds that differ in the secrets of the committed rows, and in nothing that can be seen. -/
structure World.Veiled (f : String → String) (v w : World MemoryStore κ) : Prop where
  committed : v.store.committed.Veiled f w.store.committed
  others : w.store = { v.store with committed := w.store.committed, draft := w.store.draft }
  courier : w.courier = v.courier
  log : w.log.map Event.shown = v.log.map Event.shown

/-- Worlds within a transaction: the drafts differ in secrets as well. -/
structure World.VeiledWithin (f : String → String) (v w : World MemoryStore κ) : Prop extends v.Veiled f w where
  draft : v.store.draft.Veiled f w.store.draft

/-- Two runs that end with related values, or with the same error, in worlds that are related. -/
inductive EndsVeiled {ε : Type} (W : World MemoryStore κ → World MemoryStore κ → Prop) (R : α → β → Prop) :
    Except ε α × World MemoryStore κ → Except ε β × World MemoryStore κ → Prop where
  | ok {a : α} {b : β} {v w : World MemoryStore κ} (values : R a b) (worlds : W v w) :
      EndsVeiled W R (.ok a, v) (.ok b, w)
  | error (e : ε) {v w : World MemoryStore κ} (worlds : W v w) : EndsVeiled W R (.error e, v) (.error e, w)

namespace World

variable {v w : World MemoryStore κ}

theorem Veiled.note (h : v.Veiled f w) (e : Event) : (v.note e).Veiled f (w.note e) where
  committed := h.committed
  others := h.others
  courier := h.courier
  log := by simp only [World.note, List.map_append, h.log]

theorem VeiledWithin.note (h : v.VeiledWithin f w) (e : Event) : (v.note e).VeiledWithin f (w.note e) :=
  { h.toVeiled.note e with draft := h.draft }

theorem Veiled.noteAll (h : v.Veiled f w) {events events' : List Event}
    (hevents : events'.map Event.shown = events.map Event.shown) : (v.noteAll events).Veiled f (w.noteAll events') where
  committed := h.committed
  others := h.others
  courier := h.courier
  log := by simp only [World.noteAll, List.map_append, h.log, hevents]

theorem Veiled.faults (h : v.Veiled f w) : w.store.faults = v.store.faults := by rw [h.others]

theorem Veiled.fault (h : v.Veiled f w) (point : FaultPoint) :
    v.store.fault? point = none ∧ w.store.fault? point = none ∨
    ∃ e left, v.store.fault? point = some (e, { v.store with faults := left }) ∧
      w.store.fault? point = some (e, { w.store with faults := left }) := by
  rw [MemoryStore.fault?, MemoryStore.fault?, h.faults]
  cases MemoryStore.takeFault point v.store.faults with
  | none => exact .inl ⟨rfl, rfl⟩
  | some x => exact .inr ⟨x.1, x.2, rfl, rfl⟩

theorem Veiled.log_append (h : v.Veiled f w) (events : List Event) :
    (w.log ++ events).map Event.shown = (v.log ++ events).map Event.shown := by
  rw [List.map_append, List.map_append, h.log]

theorem Veiled.struck (h : v.Veiled f w) (left : List (FaultPoint × StoreError)) (events : List Event) :
    World.Veiled f { v with store := { v.store with faults := left }, log := v.log ++ events }
      { w with store := { w.store with faults := left }, log := w.log ++ events } where
  committed := h.committed
  others := by rw [h.others]
  courier := h.courier
  log := h.log_append events

variable {q q' : Query} {R : q.Reply → q'.Reply → Prop} (h : v.VeiledWithin f w)
  (hdraws : q'.drawsId = q.drawsId) (hlocks : MemoryStore.lockedBy q' = MemoryStore.lockedBy q)
  (hreply : Tables.SameReply f R (v.store.draft.reply v.store.ids.next v.store.now q)
    (w.store.draft.reply v.store.ids.next v.store.now q'))
include h hdraws hlocks hreply

theorem VeiledWithin.answer :
    EndsVeiled (VeiledWithin f) R (v.afterStore (v.store.answer q)) (w.afterStore (w.store.answer q')) := by
  have hids : w.store.ids = v.store.ids := by rw [h.others]
  have hnow : w.store.now = v.store.now := by rw [h.others]
  have htrace : w.store.lockTrace = v.store.lockTrace := by rw [h.others]
  simp only [afterStore, MemoryStore.answer, hids, hnow, htrace, hdraws, hlocks]
  generalize v.store.draft.reply v.store.ids.next v.store.now q = x at hreply
  generalize w.store.draft.reply v.store.ids.next v.store.now q' = y at hreply
  cases hreply with
  | ok values rows =>
      refine .ok values ⟨⟨h.committed, ?_, h.courier, h.log_append []⟩, rows⟩
      rw [h.others]
  | error e => exact .error e { h with log := h.log_append [] }

theorem VeiledWithin.ask (hpoint : q'.faultPoint? = q.faultPoint?) :
    EndsVeiled (VeiledWithin f) R (v.ask q) (w.ask q') := by
  have hanswer := h.answer hdraws hlocks hreply
  simp only [World.ask, Store.ask, MemoryStore.ask, hpoint]
  cases q.faultPoint? with
  | none => exact hanswer
  | some point =>
      rcases h.fault point with ⟨hv, hw⟩ | ⟨e, left, hv, hw⟩
      · simp only [hv, hw]
        exact hanswer
      · simp only [hv, hw]
        exact .error e { h.struck left _ with draft := h.draft }

end World

/-! ## Units of work -/

/-- Two units of work that differ in secrets at most: they ask the same queries but for passwords and the names of
codes, and go on alike whatever is answered. -/
inductive Work.Veiled (f : String → String) (R : α → β → Prop) : Work α → Work β → Prop where
  | done {a : α} {b : β} (values : R a b) : Veiled f R (.done a) (.done b)
  | fail (e : SettlementError) : Veiled f R (.fail e) (.fail e)
  | ask {q : Query} {context : String} {next : q.Reply → Work α} {next' : q.Reply → Work β}
      (plain : q.concernsUsers = false) (rest : ∀ r, Veiled f R (next r) (next' r)) :
      Veiled f R (.ask q context next) (.ask q context next')
  | insertUser {registration : Registration} {passwordHash context : String} {next : User → Work α}
      {next' : User → Work β} (rest : ∀ u u', User.Veiled u u' → Veiled f R (next u) (next' u')) :
      Veiled f R (.ask (.insertUser registration) context next)
        (.ask (.insertUser { registration with passwordHash := passwordHash }) context next')
  | markUserVerified {username context : String} {next : User → Work α} {next' : User → Work β}
      (rest : ∀ u u', User.Veiled u u' → Veiled f R (next u) (next' u')) :
      Veiled f R (.ask (.markUserVerified username) context next) (.ask (.markUserVerified username) context next')
  | consumeVerification {id : Int} {code context : String} {next : Verification → Work α}
      {next' : Verification → Work β} (rest : ∀ v, Veiled f R (next v) (next' (v.renamed f))) :
      Veiled f R (.ask (.consumeVerification id code) context next)
        (.ask (.consumeVerification id (f code)) context next')
  | hand {m : OutboxMessage} {next : Except QueueUnavailable String → Work α}
      {next' : Except QueueUnavailable String → Work β} (rest : ∀ r, Veiled f R (next r) (next' r)) :
      Veiled f R (.hand m next) (.hand m next')
  | note {e : Event} {next : Work α} {next' : Work β} (rest : Veiled f R next next') :
      Veiled f R (.note e next) (.note e next')

namespace Work.Veiled

variable {R : α → β → Prop}

theorem pure {a : α} {b : β} (h : R a b) : (pure a : Work α).Veiled f R (pure b) := .done h

theorem bind {γ δ : Type} {x : Work γ} {y : Work δ} {g : γ → Work α} {g' : δ → Work β}
    (h : x.Veiled f (fun a b => (g a).Veiled f R (g' b)) y) : (x >>= g).Veiled f R (y >>= g') := by
  show (x.bind g).Veiled f R (y.bind g')
  induction h with
  | done values => exact values
  | fail e => exact .fail e
  | ask plain rest ih => exact .ask plain ih
  | insertUser rest ih => exact .insertUser ih
  | markUserVerified rest ih => exact .markUserVerified ih
  | consumeVerification rest ih => exact .consumeVerification ih
  | hand rest ih => exact .hand ih
  | note rest ih => exact .note ih

theorem mono {S : α → β → Prop} {x : Work α} {y : Work β} (h : x.Veiled f R y) (hweaker : ∀ a b, R a b → S a b) :
    x.Veiled f S y := by
  induction h with
  | done values => exact .done (hweaker _ _ values)
  | fail e => exact .fail e
  | ask plain rest ih => exact .ask plain ih
  | insertUser rest ih => exact .insertUser ih
  | markUserVerified rest ih => exact .markUserVerified ih
  | consumeVerification rest ih => exact .consumeVerification ih
  | hand rest ih => exact .hand ih
  | note rest ih => exact .note ih

theorem query {q : Query} {context : String} {R : q.Reply → q.Reply → Prop} (plain : q.concernsUsers = false)
    (h : ∀ r, R r r) : (query q context).Veiled f R (query q context) := .ask plain fun r => .done (h r)

theorem deliver {m : OutboxMessage} {R : Except QueueUnavailable String → Except QueueUnavailable String → Prop}
    (h : ∀ r, R r r) : (deliver m).Veiled f R (deliver m) := .hand fun r => .done (h r)

theorem report {e : Event} {R : Unit → Unit → Prop} (h : R () ()) : (report e).Veiled f R (report e) :=
  .note (.done h)

theorem ofExcept {x : Except SettlementError α} {R : α → α → Prop} (h : ∀ a, R a a) :
    (ofExcept x).Veiled f R (ofExcept x) := by
  cases x with
  | ok a => exact .done (h a)
  | error e => exact .fail e

theorem ofOption {e : SettlementError} {x : Option α} {R : α → α → Prop} (h : ∀ a, R a a) :
    (ofOption e x).Veiled f R (ofOption e x) := by
  cases x with
  | some a => exact .done (h a)
  | none => exact .fail e

theorem require {condition : Bool} {e : SettlementError} {R : Unit → Unit → Prop} (h : R () ()) :
    (require condition e).Veiled f R (require condition e) := by
  cases condition with
  | true => exact .done h
  | false => exact .fail e

end Work.Veiled

section Runs

variable [Courier κ] {v w : World MemoryStore κ} {R : α → β → Prop} {x : Work α} {y : Work β}

/-- Two runs end alike and hand over the same messages. -/
def RunsVeiled (f : String → String) (R : α → β → Prop) (x : Work α) (y : Work β) (v w : World MemoryStore κ) : Prop :=
  EndsVeiled (World.VeiledWithin f) R (x.run v) (y.run w) ∧ handed (y.trace w) = handed (x.trace v)

theorem RunsVeiled.of_ask {q q' : Query} {context : String} {S : q.Reply → q'.Reply → Prop} {next : q.Reply → Work α}
    {next' : q'.Reply → Work β} (hask : EndsVeiled (World.VeiledWithin f) S (v.ask q) (w.ask q'))
    (hrest : ∀ r r', S r r' → ∀ v w : World MemoryStore κ, v.VeiledWithin f w →
      RunsVeiled f R (next r) (next' r') v w) :
    RunsVeiled f R (.ask q context next) (.ask q' context next') v w := by
  cases hv : v.ask q with
  | mk a v' =>
      cases hw : w.ask q' with
      | mk b w' =>
          rw [hv, hw] at hask
          rw [RunsVeiled]
          cases hask with
          | ok values worlds =>
              rw [Work.trace_ask_ok hv, Work.trace_ask_ok hw]
              simp only [Work.run, hv, hw]
              exact hrest _ _ values _ _ worlds
          | error e worlds =>
              rw [Work.trace_ask_error hv, Work.trace_ask_error hw]
              simp only [Work.run, hv, hw]
              exact ⟨.error _ worlds, rfl⟩

theorem World.VeiledWithin.hand (h : v.VeiledWithin f w) (m : OutboxMessage) :
    (w.hand m).1 = (v.hand m).1 ∧ (v.hand m).2.VeiledWithin f (w.hand m).2 := by
  rw [World.hand, World.hand, World.afterCourier, World.afterCourier, h.courier]
  exact ⟨rfl, { h with courier := rfl, log := h.log_append _ }⟩

/-- Units of work that differ in secrets at most run alike, whatever failures are queued. -/
theorem Work.Veiled.run (hf : Function.Injective f) (hx : x.Veiled f R y) (h : v.VeiledWithin f w) :
    RunsVeiled f R x y v w := by
  -- The induction follows the requests; the rows differ in other secrets after each of them.
  induction hx generalizing v w with
  | done values => exact ⟨.ok values h, rfl⟩
  | fail e => exact ⟨.error e h, rfl⟩
  | ask plain rest ih =>
      refine .of_ask (h.ask rfl rfl (Tables.reply_veiled h.draft _ _ plain) rfl) ?_
      rintro r _ rfl v w h
      exact ih r h
  | insertUser rest ih =>
      exact .of_ask (h.ask rfl rfl (Tables.reply_insertUser h.draft _ _ _ _) rfl) fun u u' hu v w h => ih u u' hu h
  | markUserVerified rest ih =>
      exact .of_ask (h.ask rfl rfl (Tables.reply_markUserVerified h.draft _ _ _) rfl) fun u u' hu v w h => ih u u' hu h
  | consumeVerification rest ih =>
      refine .of_ask (h.ask rfl rfl (Tables.reply_consumeVerification h.draft _ _ hf _ _) rfl) ?_
      rintro v' _ rfl v w h
      exact ih v' h
  | @hand m next next' rest ih =>
      obtain ⟨hanswer, hworlds⟩ := h.hand m
      obtain ⟨hends, hhanded⟩ := ih (v.hand m).1 hworlds
      refine ⟨?_, ?_⟩
      · show EndsVeiled _ _ ((next (v.hand m).1).run (v.hand m).2) ((next' (w.hand m).1).run (w.hand m).2)
        rw [hanswer]
        exact hends
      · show m :: handed ((next' (w.hand m).1).trace (w.hand m).2) =
          m :: handed ((next (v.hand m).1).trace (v.hand m).2)
        rw [hanswer, hhanded]
  | note rest ih => exact ih (h.note _)

end Runs

/-! ## Operations -/

namespace World

variable {v w : World MemoryStore κ}

theorem Veiled.opened (h : v.Veiled f w) : v.opened.VeiledWithin f w.opened where
  committed := h.committed
  others := by
    rw [World.opened, h.others]
    rfl
  courier := h.courier
  log := h.log
  draft := h.committed

theorem Veiled.begin (h : v.Veiled f w) :
    v.begin = (.ok (), v.opened) ∧ w.begin = (.ok (), w.opened) ∨
    ∃ e v' w', v.begin = (.error e, v') ∧ w.begin = (.error e, w') ∧ v'.Veiled f w' := by
  rw [begin_eq, begin_eq]
  rcases h.fault .begin with ⟨hv, hw⟩ | ⟨e, left, hv, hw⟩
  · rw [hv, hw]
    exact .inl ⟨rfl, rfl⟩
  · rw [hv, hw]
    exact .inr ⟨e, _, _, rfl, rfl, h.struck left _⟩

variable {R : α → β → Prop}

theorem VeiledWithin.commit (h : v.VeiledWithin f w) :
    World.Veiled f { v with store := v.store.committing } { w with store := w.store.committing } where
  committed := h.draft
  others := by
    rw [MemoryStore.committing, h.others]
    rfl
  courier := h.courier
  log := h.log

theorem VeiledWithin.conclude (h : v.VeiledWithin f w) (name : String) {a : α} {b : β} (hvalues : R a b) :
    EndsVeiled (World.Veiled f) R (v.conclude name a) (w.conclude name b) := by
  simp only [World.conclude, commit_eq]
  rcases h.fault .commit with ⟨hv, hw⟩ | ⟨e, left, hv, hw⟩
  · simp only [hv, hw]
    exact .ok hvalues (h.commit.note _)
  · simp only [hv, hw]
    refine .error _ { committed := h.committed, others := ?_, courier := h.courier, log := h.log_append _ }
    rw [h.others]
    rfl

theorem VeiledWithin.rollback (h : v.VeiledWithin f w) : v.rollback.2.Veiled f w.rollback.2 where
  committed := h.committed
  others := by
    show w.store.rolledBack = _
    rw [h.others]
    rfl
  courier := h.courier
  log := h.log_append []

theorem VeiledWithin.abandon (h : v.VeiledWithin f w) (name : String) (e : SettlementError) :
    EndsVeiled (World.Veiled f) R (v.abandon name e) (w.abandon name e) :=
  .error e (h.rollback.note _)

end World

section Operations

variable [Courier κ] {v w : World MemoryStore κ} {R : α → β → Prop}

theorem World.transact_veiled (hf : Function.Injective f) {x : Work α} {y : Work β} (hwork : x.Veiled f R y)
    (name : String) (h : v.Veiled f w) :
    EndsVeiled (World.Veiled f) R (v.transact name x) (w.transact name y) := by
  rcases h.begin with ⟨hv, hw⟩ | ⟨e, v', w', hv, hw, hworlds⟩
  · have hrun := (hwork.run hf h.opened).1
    simp only [World.transact, hv, hw]
    generalize x.run v.opened = a at hrun
    generalize y.run w.opened = b at hrun
    cases hrun with
    | ok values worlds => exact worlds.conclude name values
    | error e worlds => exact worlds.abandon name e
  · simp only [World.transact, hv, hw]
    exact .error _ hworlds

namespace Operation

variable (hf : Function.Injective f) {o : Operation α} {o' : Operation β} (hcheck : o'.check = o.check)
  (hwork : o.work.Veiled f R o'.work) (h : v.Veiled f w)
include hf hcheck hwork h

/-- Operations that differ in secrets at most end alike and log the same. -/
theorem perform_veiled (hname : o'.name = o.name)
    (hreport : ∀ a b, R a b → (o'.report b).map Event.shown = (o.report a).map Event.shown) :
    EndsVeiled (World.Veiled f) R (o.perform v) (o'.perform w) := by
  cases hinput : o.check with
  | error e =>
      simp only [perform, hcheck, hinput]
      exact .error e h
  | ok u =>
      have htransact := World.transact_veiled hf hwork o.name h
      simp only [perform, hcheck, hinput, hname]
      generalize v.transact o.name o.work = x at htransact
      generalize w.transact o.name o'.work = y at htransact
      cases htransact with
      | ok values worlds => exact .ok values (worlds.noteAll (hreport _ _ values))
      | error e worlds => exact .error e worlds

theorem handed_veiled : handed (o'.trace w) = handed (o.trace v) := by
  cases hinput : o.check with
  | error e => simp only [trace, hcheck, hinput]
  | ok u =>
      rcases h.begin with ⟨hv, hw⟩ | ⟨e, v', w', hv, hw, -⟩
      · simp only [trace, hcheck, hinput, hv, hw]
        exact (hwork.run hf h.opened).2
      · simp only [trace, hcheck, hinput, hv, hw]

end Operation

end Operations
end Clearing
