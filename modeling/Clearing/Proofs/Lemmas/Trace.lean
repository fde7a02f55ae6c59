import Clearing.Service

/-!
# Traces

What a unit of work requests of its store and its courier, with the answers, in order. A rule says what may be
requested after which exchanges. A unit of work that obeys a rule whatever it is answered follows it in every
run, over every store and every courier.
-/

namespace Clearing

variable {α β σ κ : Type}

/-! ## Exchanges -/

/-- What a unit of work may request. -/
inductive Request where
  | ask (q : Query)
  | hand (m : OutboxMessage)

namespace Request

/-- What a request is answered with. -/
@[reducible] def Answer : Request → Type
  | .ask q => Except StoreError q.Reply
  | .hand _ => Except QueueUnavailable String

end Request

/-- A request with its answer. -/
structure Exchange where
  request : Request
  answer : request.Answer

namespace Work

section Generic

variable [Store σ] [Courier κ]

/-- The exchanges of a unit of work. A query that fails is the last of them. -/
def trace : Work α → World σ κ → List Exchange
  | .done _, _ | .fail _, _ => []
  | .ask q _ next, w =>
    ⟨.ask q, (w.ask q).1⟩ ::
      match w.ask q with
      | (.ok r, w) => (next r).trace w
      | (.error _, _) => []
  | .hand m next, w => ⟨.hand m, (w.hand m).1⟩ :: (next (w.hand m).1).trace (w.hand m).2
  | .note e next, w => next.trace (w.note e)

variable {w : World σ κ} {q : Query} {context : String} {next : q.Reply → Work α}

theorem trace_ask_ok {r : q.Reply} {w' : World σ κ} (h : w.ask q = (.ok r, w')) :
    (Work.ask q context next).trace w = ⟨.ask q, .ok r⟩ :: (next r).trace w' := by
  simp only [trace, h]

theorem trace_ask_error {e : StoreError} {w' : World σ κ} (h : w.ask q = (.error e, w')) :
    (Work.ask q context next).trace w = [⟨.ask q, .error e⟩] := by
  simp only [trace, h]

end Generic

end Work

section Generic

variable [Store σ] [Courier κ]

/-- The exchanges of an operation: none if its input is refused or no transaction is opened. -/
def Operation.trace (o : Operation α) (w : World σ κ) : List Exchange :=
  match o.check with
  | .error _ => []
  | .ok _ =>
    match w.begin with
    | (.error _, _) => []
    | (.ok _, w) => o.work.trace w

/-- The exchanges of a command. -/
def Service.trace (s : Service) (c : Command) (w : World σ κ) : List Exchange := (s.operation c).trace w

end Generic

/-! ## How operations end -/

theorem World.abandon_error [Store σ] (w : World σ κ) (name : String) (e : SettlementError) :
    (w.abandon (α := α) name e).1 = .error e := by
  rw [abandon]
  split <;> rfl

namespace Operation

variable [Store σ] [Courier κ] {o : Operation α} {w w₁ : World σ κ} {u v : Unit}

/-- What an operation gives whose transaction is opened: the error of its work, or its value if the commit
succeeds. -/
theorem perform_opened (hcheck : o.check = .ok u) (hbegin : w.begin = (.ok v, w₁)) :
    (o.perform w).1 = match o.work.run w₁ with
      | (.ok a, w₂) => (w₂.conclude o.name a).1
      | (.error e, _) => .error e := by
  have hperform : (o.perform w).1 = (w.transact o.name o.work).1 := by
    simp only [perform, hcheck]
    cases w.transact o.name o.work with
    | mk result w' => cases result <;> rfl
  rw [hperform]
  simp only [World.transact, hbegin]
  cases o.work.run w₁ with
  | mk result w₂ =>
      cases result with
      | ok a => rfl
      | error e => exact w₂.abandon_error o.name e

theorem trace_opened (hcheck : o.check = .ok u) (hbegin : w.begin = (.ok v, w₁)) :
    o.trace w = o.work.trace w₁ := by
  simp only [trace, hcheck, hbegin]

/-- An operation that succeeds has opened its transaction, and its work has succeeded. -/
theorem run_of_ok {a : α} (h : (o.perform w).1 = .ok a) :
    ∃ w₁ w₂, w.begin = (.ok (), w₁) ∧ o.trace w = o.work.trace w₁ ∧ o.work.run w₁ = (.ok a, w₂) := by
  cases hcheck : o.check with
  | error e =>
      rw [perform, hcheck] at h
      cases h
  | ok u =>
      cases hbegin : w.begin with
      | mk opened w₁ =>
          cases opened with
          | error e =>
              simp only [perform, World.transact, hcheck, hbegin] at h
              cases h
          | ok v =>
              rw [perform_opened hcheck hbegin] at h
              cases hrun : o.work.run w₁ with
              | mk result w₂ =>
                  rw [hrun] at h
                  cases result with
                  | error e => cases h
                  | ok b =>
                      simp only [World.conclude] at h
                      split at h <;> cases h
                      exact ⟨w₁, w₂, rfl, trace_opened hcheck hbegin, hrun⟩

/-- An operation that makes an exchange has opened its transaction. -/
theorem opened_of_mem_trace {x : Exchange} (h : x ∈ o.trace w) :
    o.check = .ok () ∧ ∃ w₁, w.begin = (.ok (), w₁) := by
  simp only [trace] at h
  split at h
  · cases h
  · next hcheck =>
      split at h
      · cases h
      · next hbegin => exact ⟨hcheck, _, hbegin⟩

end Operation

/-! ## Records of a trace -/

/-- A list in the world to which every exchange adds its part, and to which nothing else adds. -/
structure Records {β : Type} [Store σ] [Courier κ] (f : World σ κ → List β) (part : Exchange → List β) : Prop where
  ask : ∀ w q, f (w.ask q).2 = f w ++ part ⟨.ask q, (w.ask q).1⟩
  hand : ∀ w m, f (w.hand m).2 = f w ++ part ⟨.hand m, (w.hand m).1⟩
  begin : ∀ w, f w.begin.2 = f w
  commit : ∀ w, f w.commit.2 = f w
  rollback : ∀ w, f w.rollback.2 = f w
  log : ∀ w log, f { w with log := log } = f w

namespace Records

variable {γ : Type} [Store σ] [Courier κ] {f : World σ κ → List γ} {part : Exchange → List γ}

theorem run (h : Records f part) (x : Work α) (w : World σ κ) :
    f (x.run w).2 = f w ++ (x.trace w).flatMap part := by
  induction x generalizing w with
  | done a => exact (List.append_nil _).symm
  | fail e => exact (List.append_nil _).symm
  | ask q context next ih =>
      have hask := h.ask w q
      cases hw : w.ask q with
      | mk result w' =>
          rw [hw] at hask
          cases result with
          | ok r =>
              rw [Work.trace_ask_ok hw, Work.run, hw, List.flatMap_cons, ← List.append_assoc, ← hask]
              exact ih r w'
          | error e =>
              rw [Work.trace_ask_error hw, Work.run, hw, List.flatMap_singleton]
              exact hask
  | hand m next ih =>
      rw [Work.trace, List.flatMap_cons, ← List.append_assoc, ← h.hand]
      exact ih _ _
  | note e next ih => exact (ih _).trans (by rw [World.note, h.log]; rfl)

theorem conclude (h : Records f part) (name : String) (a : α) (w : World σ κ) :
    f (w.conclude name a).2 = f w := by
  have hcommit := h.commit w
  rw [World.conclude]
  split
  · next hw =>
      rw [hw] at hcommit
      exact (h.log _ _).trans hcommit
  · next hw =>
      rw [hw] at hcommit
      exact hcommit

theorem abandon (h : Records f part) (name : String) (e : SettlementError) (w : World σ κ) :
    f (w.abandon (α := α) name e).2 = f w := by
  have hrollback := h.rollback w
  rw [World.abandon]
  split
  · next hw =>
      rw [hw] at hrollback
      exact (h.log _ _).trans hrollback
  · next hw =>
      rw [hw] at hrollback
      exact (h.log _ _).trans ((h.log _ _).trans hrollback)

/-- A transaction adds what the exchanges of its unit of work add, whether it succeeds or fails. -/
theorem transact (h : Records f part) {name : String} {work : Work α} {w w₁ : World σ κ} {u : Unit}
    (hbegin : w.begin = (.ok u, w₁)) :
    f (w.transact name work).2 = f w ++ (work.trace w₁).flatMap part := by
  have hopened := h.begin w
  have hrun := h.run work w₁
  rw [hbegin] at hopened
  rw [hopened] at hrun
  cases hw₁ : work.run w₁ with
  | mk result w₂ =>
      rw [hw₁] at hrun
      simp only [World.transact, hbegin, hw₁]
      cases result with
      | ok a => exact (h.conclude name a w₂).trans hrun
      | error e => exact (h.abandon name e w₂).trans hrun

theorem perform (h : Records f part) (o : Operation α) (w : World σ κ) :
    f (o.perform w).2 = f w ++ (o.trace w).flatMap part := by
  cases hcheck : o.check with
  | error e =>
      simp only [Operation.perform, Operation.trace, hcheck]
      exact (List.append_nil _).symm
  | ok u =>
      have htransact : f (w.transact o.name o.work).2 = f w ++ (o.trace w).flatMap part := by
        cases hbegin : w.begin with
        | mk opened w₁ =>
            cases opened with
            | ok u =>
                simp only [Operation.trace, hcheck, hbegin]
                exact h.transact hbegin
            | error e =>
                have hsame := h.begin w
                rw [hbegin] at hsame
                simp only [World.transact, Operation.trace, hcheck, hbegin]
                exact hsame.trans (List.append_nil _).symm
      simp only [Operation.perform, hcheck]
      split
      · next hw =>
          rw [hw] at htransact
          exact (h.log _ _).trans htransact
      · next hw =>
          rw [hw] at htransact
          exact htransact

end Records

/-! ## Rules -/

/-- Every element of a list is allowed after the elements before it. -/
def Follows {ε : Type} (rule : List ε → ε → Prop) (t : List ε) : Prop :=
  ∀ before x rest, t = before ++ x :: rest → rule before x

namespace Follows

variable {ε : Type} {rule : List ε → ε → Prop} {t : List ε} {x : ε}

theorem nil : Follows rule [] := by
  intro before x rest h
  cases before <;> cases h

theorem concat_iff : Follows rule (t ++ [x]) ↔ Follows rule t ∧ rule t x := by
  constructor
  · intro h
    refine ⟨?_, h t x [] rfl⟩
    rintro before y rest rfl
    exact h before y (rest ++ [x]) (by simp)
  · rintro ⟨h, hx⟩ before y rest heq
    rcases List.eq_nil_or_concat rest with rfl | ⟨rest, z, rfl⟩
    · obtain ⟨rfl, hy⟩ := List.append_inj' heq rfl
      obtain rfl := List.singleton_inj.mp hy
      exact hx
    · rw [List.concat_eq_append, ← List.cons_append, ← List.append_assoc] at heq
      exact h before y rest (List.append_inj_left' heq rfl)

end Follows

namespace Work

/-- Whether a unit of work obeys a rule after some exchanges, whatever it is answered, and ends in one of the
ways that are expected if it ends with a value. -/
def Obeys (rule : List Exchange → Request → Prop) (expected : List Exchange → α → Prop) :
    Work α → List Exchange → Prop
  | .done a, t => expected t a
  | .fail _, _ => True
  | .ask q _ next, t => rule t (.ask q) ∧ ∀ r, Obeys rule expected (next r) (t ++ [⟨.ask q, .ok r⟩])
  | .hand m next, t => rule t (.hand m) ∧ ∀ x, Obeys rule expected (next x) (t ++ [⟨.hand m, x⟩])
  | .note _ next, t => Obeys rule expected next t

variable {rule : List Exchange → Request → Prop} {expected : List Exchange → α → Prop} {t : List Exchange}

theorem Obeys.pure {a : α} (h : expected t a) : (pure a : Work α).Obeys rule expected t := h

theorem Obeys.mono {x : Work α} {weaker : List Exchange → α → Prop} (h : x.Obeys rule expected t)
    (hweaker : ∀ t a, expected t a → weaker t a) : x.Obeys rule weaker t := by
  induction x generalizing t with
  | done a => exact hweaker t a h
  | fail e => trivial
  | ask q context next ih => exact ⟨h.1, fun r => ih r (h.2 r)⟩
  | hand m next ih => exact ⟨h.1, fun r => ih r (h.2 r)⟩
  | note e next ih => exact ih h

/-- After one unit of work the next one is at the exchanges so far. -/
theorem Obeys.bind {x : Work β} {f : β → Work α}
    (h : x.Obeys rule (fun t b => (f b).Obeys rule expected t) t) : (x >>= f).Obeys rule expected t := by
  show (x.bind f).Obeys rule expected t
  induction x generalizing t with
  | done b => exact h
  | fail e => trivial
  | ask q context next ih => exact ⟨h.1, fun r => ih r (h.2 r)⟩
  | hand m next ih => exact ⟨h.1, fun r => ih r (h.2 r)⟩
  | note e next ih => exact ih h

theorem Obeys.query {q : Query} {context : String} {expected : List Exchange → q.Reply → Prop}
    (hq : rule t (.ask q)) (h : ∀ r, expected (t ++ [⟨.ask q, .ok r⟩]) r) :
    (query q context).Obeys rule expected t := ⟨hq, h⟩

theorem Obeys.deliver {m : OutboxMessage} {expected : List Exchange → Except QueueUnavailable String → Prop}
    (hm : rule t (.hand m)) (h : ∀ x, expected (t ++ [⟨.hand m, x⟩]) x) :
    (deliver m).Obeys rule expected t := ⟨hm, h⟩

theorem Obeys.report {e : Event} {expected : List Exchange → Unit → Prop} (h : expected t ()) :
    (report e).Obeys rule expected t := h

theorem Obeys.ofExcept {x : Except SettlementError α} (h : ∀ a, x = .ok a → expected t a) :
    (ofExcept x).Obeys rule expected t := by
  cases x with
  | ok a => exact h a rfl
  | error e => trivial

theorem Obeys.ofOption {e : SettlementError} {x : Option α} (h : ∀ a, x = some a → expected t a) :
    (ofOption e x).Obeys rule expected t := by
  cases x with
  | some a => exact h a rfl
  | none => trivial

theorem Obeys.require {condition : Bool} {e : SettlementError} {expected : List Exchange → Unit → Prop}
    (h : condition = true → expected t ()) : (require condition e).Obeys rule expected t := by
  cases condition with
  | true => exact h rfl
  | false => trivial

variable [Store σ] [Courier κ]

/-- The traces of a unit of work follow the rules that it obeys. -/
theorem Obeys.follows {x : Work α} (hx : x.Obeys rule expected t) (ht : Follows (fun t x => rule t x.request) t)
    (w : World σ κ) : Follows (fun t x => rule t x.request) (t ++ x.trace w) := by
  induction x generalizing t w with
  | done a => rwa [trace, List.append_nil]
  | fail e => rwa [trace, List.append_nil]
  | ask q context next ih =>
      cases hw : w.ask q with
      | mk result w' =>
          cases result with
          | ok r =>
              rw [trace_ask_ok hw, List.append_cons]
              exact ih r (hx.2 r) (Follows.concat_iff.mpr ⟨ht, hx.1⟩) w'
          | error e =>
              rw [trace_ask_error hw]
              exact Follows.concat_iff.mpr ⟨ht, hx.1⟩
  | hand m next ih =>
      rw [trace, List.append_cons]
      exact ih _ (hx.2 _) (Follows.concat_iff.mpr ⟨ht, hx.1⟩) _
  | note e next ih => exact ih hx ht _

/-- A unit of work that ends with a value ends in a way that is expected. -/
theorem Obeys.ends {x : Work α} (hx : x.Obeys rule expected t) {w w' : World σ κ} {a : α}
    (h : x.run w = (.ok a, w')) : expected (t ++ x.trace w) a := by
  induction x generalizing t w with
  | done b =>
      cases h
      rwa [trace, List.append_nil]
  | fail e => cases h
  | ask q context next ih =>
      cases hask : w.ask q with
      | mk result w₁ =>
          simp only [run, hask] at h
          cases result with
          | error e => cases h
          | ok r =>
              rw [trace_ask_ok hask, List.append_cons]
              exact ih r (hx.2 r) h
  | hand m next ih =>
      rw [trace, List.append_cons]
      exact ih _ (hx.2 _) h
  | note e next ih => exact ih hx h

end Work

theorem Operation.follows_trace [Store σ] [Courier κ] {o : Operation α}
    {rule : List Exchange → Request → Prop} {expected : List Exchange → α → Prop}
    (h : o.work.Obeys rule expected []) (w : World σ κ) : Follows (fun t x => rule t x.request) (o.trace w) := by
  rw [trace]
  split
  · exact .nil
  · split
    · exact .nil
    · exact h.follows .nil _

end Clearing
