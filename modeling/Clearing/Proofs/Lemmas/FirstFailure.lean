import Clearing.Proofs.Lemmas.Alike
import Clearing.Proofs.Lemmas.Faults

/-!
# The first condition that fails

Conditions are looked at in order, and the first one that fails decides with which error. A unit of work over a
store without queued failures, whose queries and checks are such conditions, ends with a value if none of them
fails, and otherwise with the error of the first one.
-/

namespace Clearing

variable {χ ε α β κ : Type}

/-! ## Lists of conditions -/

/-- Of conditions that are looked at in order, the first one that fails does so with this error. -/
def FirstFailure (fails : χ → ε → Prop) : List χ → ε → Prop
  | [], _ => False
  | c :: rest, e => fails c e ∨ (∀ x, ¬ fails c x) ∧ FirstFailure fails rest e

/-- None of the conditions fails. -/
def NoFailure (fails : χ → ε → Prop) (cs : List χ) : Prop := ∀ c ∈ cs, ∀ e, ¬ fails c e

/-- An outcome that the conditions explain: a value after none of them has failed, or the error of the first one
that fails. -/
def Explains (fails : χ → ε → Prop) (cs : List χ) : Except ε α → Prop
  | .ok _ => NoFailure fails cs
  | .error e => FirstFailure fails cs e

variable {fails : χ → ε → Prop} {c : χ} {cs ds : List χ} {e e' : ε}

theorem FirstFailure.head (h : fails c e) : FirstFailure fails (c :: cs) e := .inl h

theorem FirstFailure.tail (hc : ∀ x, ¬ fails c x) (h : FirstFailure fails cs e) : FirstFailure fails (c :: cs) e :=
  .inr ⟨hc, h⟩

theorem FirstFailure.exists_fails (h : FirstFailure fails cs e) : ∃ c ∈ cs, fails c e := by
  induction cs with
  | nil => exact h.elim
  | cons c rest ih =>
      rcases h with h | ⟨-, h⟩
      · exact ⟨c, List.mem_cons_self .., h⟩
      · obtain ⟨d, hd, hfails⟩ := ih h
        exact ⟨d, List.mem_cons_of_mem _ hd, hfails⟩

theorem FirstFailure.append_right (h : FirstFailure fails cs e) (ds : List χ) : FirstFailure fails (cs ++ ds) e := by
  induction cs with
  | nil => exact h.elim
  | cons c rest ih => exact h.imp_right fun ⟨hc, hrest⟩ => ⟨hc, ih hrest⟩

theorem FirstFailure.append_left (hcs : NoFailure fails cs) (h : FirstFailure fails ds e) :
    FirstFailure fails (cs ++ ds) e := by
  induction cs with
  | nil => exact h
  | cons c rest ih => exact .tail (hcs c (List.mem_cons_self ..)) (ih fun d hd => hcs d (List.mem_cons_of_mem _ hd))

theorem FirstFailure.unique (hunique : ∀ c x y, fails c x → fails c y → y = x) (h : FirstFailure fails cs e)
    (h' : FirstFailure fails cs e') : e' = e := by
  induction cs with
  | nil => exact h.elim
  | cons c rest ih =>
      rcases h with h | ⟨hc, h⟩ <;> rcases h' with h' | ⟨hc', h'⟩
      · exact hunique c e e' h h'
      · exact absurd h (hc' e)
      · exact absurd h' (hc e')
      · exact ih h h'

theorem FirstFailure.congr {fails' : χ → ε → Prop} (hfails : ∀ c x, fails c x ↔ fails' c x)
    (h : FirstFailure fails cs e) : FirstFailure fails' cs e := by
  have heq : fails = fails' := funext fun c => funext fun x => propext (hfails c x)
  exact heq ▸ h

theorem NoFailure.nil : NoFailure fails [] := fun _ hc => absurd hc List.not_mem_nil

theorem NoFailure.cons (hc : ∀ x, ¬ fails c x) (h : NoFailure fails cs) : NoFailure fails (c :: cs) :=
  List.forall_mem_cons.mpr ⟨hc, h⟩

theorem NoFailure.single (h : ∀ x, ¬ fails c x) : NoFailure fails [c] := .cons h .nil

theorem NoFailure.append (h : NoFailure fails cs) (h' : NoFailure fails ds) : NoFailure fails (cs ++ ds) := by
  intro c hc
  rcases List.mem_append.mp hc with hc | hc
  · exact h c hc
  · exact h' c hc

namespace Explains

variable {x : Except ε α}

/-- A check that refuses exactly when a condition fails, and then goes on. -/
theorem ite {p : Prop} [Decidable p] (hfails : p → fails c e) (honly : ∀ x, fails c x → p)
    (h : ¬ p → Explains fails cs x) : Explains fails (c :: cs) (if p then .error e else x) := by
  by_cases hp : p
  · rw [if_pos hp]
    exact .head (hfails hp)
  · have hpass : ∀ x, ¬ fails c x := fun x hx => hp (honly x hx)
    have hrest := h hp
    rw [if_neg hp]
    cases x with
    | ok a => exact .cons hpass hrest
    | error e => exact .tail hpass hrest

theorem ok_iff (h : Explains fails cs x) : (∃ a, x = .ok a) ↔ NoFailure fails cs := by
  cases x with
  | ok a => exact iff_of_true ⟨a, rfl⟩ h
  | error e =>
      obtain ⟨c, hc, hfails⟩ := FirstFailure.exists_fails h
      exact iff_of_false (fun ⟨_, heq⟩ => nomatch heq) fun hnone => hnone c hc e hfails

theorem error_iff (h : Explains fails cs x) (hunique : ∀ c x y, fails c x → fails c y → y = x) :
    x = .error e ↔ FirstFailure fails cs e := by
  cases x with
  | ok a =>
      refine iff_of_false (fun heq => nomatch heq) fun hfirst => ?_
      obtain ⟨c, hc, hfails⟩ := hfirst.exists_fails
      exact h c hc e hfails
  | error e' =>
      constructor
      · rintro ⟨⟩
        exact h
      · exact fun hfirst => congrArg _ (hfirst.unique hunique h)

end Explains

/-! ## Queries without an answer -/

/-- Why a query finds nothing, and what is said of it. -/
def Tables.Denies (t : Tables) (now : Instant) : Query → StoreError → Prop
  | .getOrder id, e | .lockOrder id, e | .updateOrder id .., e => t.order? id = none ∧ e = .notFound s!"order {id}"
  | .getMarket id, e => t.market? id = none ∧ e = .notFound s!"market {id}"
  | .findWallet userId currency, e =>
      t.walletOf? userId currency = none ∧ e = .notFound s!"wallet ({userId}, {currency})"
  | .lockWallet id, e | .updateWallet id .., e => t.wallet? id = none ∧ e = .notFound s!"wallet {id}"
  | .lockLedgerEntry id, e | .updateLedgerStatus id _, e => t.entry? id = none ∧ e = .notFound s!"transaction {id}"
  | .insertUser registration, e => ∃ key, t.duplicateOf? registration = some key ∧ e = .alreadyExists key
  | .consumeVerification id secretCode, e =>
      (∀ v, t.verification? id = some v → v.isUsableWith secretCode now = false) ∧
        e = .notFound s!"pending verification {id}"
  | .markUserVerified username, e => t.userNamed? username = none ∧ e = .notFound s!"user {username}"
  | .markPublished id, e | .recordFailure id .., e =>
      t.outboxRow? id = none ∧ e = .notFound s!"outbox message {id}"
  | .insertFee _, _ | .insertTrade _, _ | .insertLedgerEntry .., _ | .insertOutbox _, _ | .listUserWallets _, _
  | .listLargestWallets _, _ | .claimOutbox _, _ => False

theorem Tables.found_bind_error {q : Query} {x : Option α} {f : α → Except StoreError β} {e : StoreError}
    (hf : ∀ a, ∃ b, f a = .ok b) (h : (Tables.found q x >>= f) = .error e) : x = none ∧ e = .notFound q.missing := by
  cases x with
  | some a =>
      obtain ⟨b, hb⟩ := hf a
      exact nomatch hb.symm.trans h
  | none =>
      cases h
      exact ⟨rfl, rfl⟩

theorem Tables.denies_of_reply {fresh : Uuid} {now : Instant} {t : Tables} {q : Query} {e : StoreError}
    (h : t.reply fresh now q = .error e) : t.Denies now q e := by
  cases q with
  | getOrder id | lockOrder id | getMarket id | findWallet userId currency | lockWallet id | lockLedgerEntry id
  | updateOrder id status filled | updateWallet id balance lockedBalance | updateLedgerStatus id status
  | markUserVerified username | markPublished id | recordFailure id error giveUp =>
      exact found_bind_error (fun _ => ⟨_, rfl⟩) h
  | consumeVerification id secretCode =>
      obtain ⟨hnone, he⟩ := found_bind_error (fun _ => ⟨_, rfl⟩) h
      refine ⟨fun v hv => ?_, he⟩
      rw [hv, Option.filter_eq_none_iff] at hnone
      simpa using hnone v rfl
  | insertUser registration =>
      simp only [reply] at h
      split at h
      · next key hkey =>
          cases h
          exact ⟨key, hkey, rfl⟩
      · cases h
  | insertFee rates | insertTrade execution | insertLedgerEntry transfer amount | insertOutbox task
  | listUserWallets userId | listLargestWallets limit | claimOutbox limit => cases h

/-! ## Units of work -/

theorem World.ends_no_faults {fails : StoreError → ε → Prop} {w : World MemoryStore κ} (hfaults : w.store.faults = [])
    {f : World MemoryStore κ → Except ε α × World MemoryStore κ}
    (h : Ends fails fun faults => f (w.withFaults faults)) : (f w).2.store.faults = [] := by
  rcases h.faults w.store.faults with hsame | ⟨point, failure, e, hstruck, -⟩
  · exact hsame.trans hfaults
  · rw [hfaults] at hstruck
    exact absurd hstruck.struck Struck.not_nil

variable [Courier κ]

theorem Work.run_no_faults (x : Work α) {w : World MemoryStore κ} (h : w.store.faults = []) :
    (x.run w).2.store.faults = [] := World.ends_no_faults h (x.run_ends w)

/-- A unit of work, run in a world, has an outcome that the conditions explain; after a value the world is as
expected. -/
def Work.Screened (fails : χ → SettlementError → Prop) (cs : List χ) (expected : α → World MemoryStore κ → Prop)
    (x : Work α) (w : World MemoryStore κ) : Prop :=
  Explains fails cs (x.run w).1 ∧ ∀ a w', x.run w = (.ok a, w') → expected a w'

namespace Work.Screened

variable {fails : χ → SettlementError → Prop} {expected : α → World MemoryStore κ → Prop} {w : World MemoryStore κ}

theorem pure {a : α} (hpass : NoFailure fails cs) (h : expected a w) :
    (pure a : Work α).Screened fails cs expected w := by
  refine ⟨hpass, ?_⟩
  rintro _ _ ⟨⟩
  exact h

/-- The conditions of a unit of work come before those of the next one. -/
theorem bind {x : Work β} {f : β → Work α}
    (h : x.Screened fails cs (fun b w => (f b).Screened fails ds expected w) w) :
    (x >>= f).Screened fails (cs ++ ds) expected w := by
  obtain ⟨hx, hnext⟩ := h
  show Explains fails (cs ++ ds) ((x.bind f).run w).1 ∧ ∀ a w', (x.bind f).run w = (.ok a, w') → expected a w'
  rw [run_bind]
  cases hrun : x.run w with
  | mk result w₁ =>
      rw [hrun] at hx
      cases result with
      | error e => exact ⟨FirstFailure.append_right hx ds, fun a w' heq => nomatch heq⟩
      | ok b =>
          obtain ⟨hf, hends⟩ := hnext b w₁ hrun
          refine ⟨?_, hends⟩
          generalize ((f b).run w₁).1 = y at hf
          cases y with
          | ok a => exact NoFailure.append hx hf
          | error e => exact FirstFailure.append_left hx hf

theorem ofExcept {x : Except SettlementError α} (hx : Explains fails cs x) (h : ∀ a, x = .ok a → expected a w) :
    (ofExcept x).Screened fails cs expected w := by
  cases x with
  | ok a =>
      refine ⟨hx, ?_⟩
      rintro _ _ ⟨⟩
      exact h a rfl
  | error e => exact ⟨hx, fun a w' heq => nomatch heq⟩

theorem ofOption {e : SettlementError} {x : Option α} (hnone : x = none → FirstFailure fails cs e)
    (hsome : ∀ a, x = some a → NoFailure fails cs ∧ expected a w) :
    (ofOption e x).Screened fails cs expected w := by
  cases x with
  | some a =>
      refine ⟨(hsome a rfl).1, ?_⟩
      rintro _ _ ⟨⟩
      exact (hsome a rfl).2
  | none => exact ⟨hnone rfl, fun a w' heq => nomatch heq⟩

theorem require {condition : Bool} {e : SettlementError} {expected : Unit → World MemoryStore κ → Prop}
    (hfalse : condition = false → FirstFailure fails cs e)
    (htrue : condition = true → NoFailure fails cs ∧ expected () w) :
    (require condition e).Screened fails cs expected w := by
  cases condition with
  | true => exact pure (htrue rfl).1 (htrue rfl).2
  | false => exact ⟨hfalse rfl, fun a w' heq => nomatch heq⟩

theorem deliver {m : OutboxMessage} {expected : Except QueueUnavailable String → World MemoryStore κ → Prop}
    (hpass : NoFailure fails cs) (h : expected (w.hand m).1 (w.hand m).2) :
    (deliver m).Screened fails cs expected w := by
  refine ⟨hpass, ?_⟩
  rintro _ _ ⟨⟩
  exact h

theorem report {e : Event} {expected : Unit → World MemoryStore κ → Prop} (hpass : NoFailure fails cs)
    (h : expected () (w.note e)) : (report e).Screened fails cs expected w := by
  refine ⟨hpass, ?_⟩
  rintro _ _ ⟨⟩
  exact h

theorem query {q : Query} {context : String} {expected : q.Reply → World MemoryStore κ → Prop}
    (hfaults : w.store.faults = [])
    (hdenied : ∀ e, w.store.draft.Denies w.store.now q e → FirstFailure fails cs (.store context e))
    (hanswered : ∀ r t, w.store.draft.Answers w.store.ids.next w.store.now q r t →
      NoFailure fails cs ∧ expected r (w.answered q t)) :
    (query q context).Screened fails cs expected w := by
  cases hrun : (Work.query q context).run w with
  | mk result w' =>
      cases result with
      | ok r =>
          obtain ⟨t, ht, rfl⟩ := query_ok hrun
          refine ⟨?_, ?_⟩
          · rw [hrun]
            exact (hanswered r t ht).1
          · intro _ _ heq
            rw [hrun] at heq
            cases heq
            exact (hanswered r t ht).2
      | error e =>
          refine ⟨?_, fun a w' heq => by rw [hrun] at heq; cases heq⟩
          rw [hrun]
          simp only [Work.query, run, World.ask_of_no_faults hfaults, World.afterStore, MemoryStore.answer] at hrun
          cases hreply : w.store.draft.reply w.store.ids.next w.store.now q with
          | ok found =>
              simp only [hreply] at hrun
              cases hrun
          | error e' =>
              simp only [hreply] at hrun
              cases hrun
              exact hdenied e' (Tables.denies_of_reply hreply)

/-- A query that reads a row is a condition of its own: that the row is there. -/
theorem read {q : Query} {context : String} {expected : q.Reply → World MemoryStore κ → Prop}
    (hq : q.isWrite = false) (hfaults : w.store.faults = [])
    (hdenied : ∀ e, w.store.draft.Denies w.store.now q e → fails c (.store context e))
    (hpass : ∀ r, w.store.draft.Answers w.store.ids.next w.store.now q r w.store.draft → ∀ x, ¬ fails c x)
    (hanswered : ∀ r, w.store.draft.Answers w.store.ids.next w.store.now q r w.store.draft →
      expected r (w.answered q w.store.draft)) :
    (Work.query q context).Screened fails [c] expected w := by
  refine query hfaults (fun e he => .head (hdenied e he)) fun r t ht => ?_
  obtain rfl := ht.eq_of_read hq
  exact ⟨.single (hpass r ht), hanswered r ht⟩

/-- Conditions that are known not to fail may be put in front. -/
theorem skip {x : Work α} (hpass : NoFailure fails cs) (h : x.Screened fails ds expected w) :
    x.Screened fails (cs ++ ds) expected w := by
  refine ⟨?_, h.2⟩
  have hx := h.1
  generalize (x.run w).1 = y at hx
  cases y with
  | ok a => exact NoFailure.append hpass hx
  | error e => exact FirstFailure.append_left hpass hx

/-- A wallet that is there is locked, and no condition depends on it. -/
theorem lock_bind {id : Uuid} {v : Wallet} {context : String} {next : Wallet → Work α}
    (hfaults : w.store.faults = []) (hv : w.store.draft.wallet? id = some v)
    (hnext : (next v).Screened fails cs expected (w.answered (.lockWallet id) w.store.draft)) :
    (Work.query (.lockWallet id) context >>= next).Screened fails cs expected w := by
  show Work.Screened _ ([] ++ cs) _ _ _
  refine .bind (.query hfaults ?_ fun locked t hlocked => ⟨.nil, ?_⟩)
  · rintro _ ⟨hnone, -⟩
    cases hnone.symm.trans hv
  · obtain ⟨hlocked, rfl⟩ := hlocked
    obtain rfl : v = locked := Option.some.inj (hv.symm.trans hlocked)
    exact hnext

end Work.Screened

namespace Operation

variable {fails : χ → SettlementError → Prop} {o : Operation α} {expected : α → World MemoryStore κ → Prop}
  {w : World MemoryStore κ} (hfaults : w.store.faults = [])
include hfaults

theorem perform_no_faults : (o.perform w).2.store.faults = [] :=
  World.ends_no_faults hfaults (o.perform_ends w)

/-- An operation over a store without queued failures: the conditions of its input come before those of its work. -/
theorem explains_perform (hcheck : Explains fails cs o.check)
    (hwork : o.check = .ok () → o.work.Screened fails ds expected w.opened) :
    Explains fails (cs ++ ds) (o.perform w).1 := by
  cases hinput : o.check with
  | error e =>
      rw [hinput] at hcheck
      simp only [perform, hinput]
      exact FirstFailure.append_right hcheck ds
  | ok u =>
      have hexplains := (hwork hinput).1
      rw [hinput] at hcheck
      rw [perform_opened hinput (World.begin_of_no_faults hfaults)]
      have hleft : (o.work.run w.opened).2.store.faults = [] := o.work.run_no_faults hfaults
      generalize o.work.run w.opened = x at hexplains hleft
      obtain ⟨result, w'⟩ := x
      cases result with
      | ok a =>
          simp only [World.conclude_of_no_faults hleft]
          exact NoFailure.append hcheck hexplains
      | error e => exact FirstFailure.append_left hcheck hexplains

theorem explains_work (hcheck : o.check = .ok ()) (hwork : o.work.Screened fails cs expected w.opened) :
    Explains fails cs (o.perform w).1 := by
  have hinput : Explains fails [] o.check := by
    rw [hcheck]
    exact NoFailure.nil
  exact explains_perform hfaults hinput fun _ => hwork

end Operation
end Clearing
