import Clearing.Proofs.Lemmas.Attempts
import Clearing.Proofs.Lemmas.Trace
import Clearing.Proofs.Lemmas.Transaction

/-!
# Runs that draw different identifiers

Two runs of an operation over the same rows may draw different identifiers for the rows that they create. A unit of
work that does not look at rows of such a kind once it has created one ends in the same way in both runs, the
identifiers apart.
-/

namespace Clearing

variable {α β κ : Type}

/-! ## Queries -/

namespace Query

/-- Replies that differ in the identifier of a new row at most. -/
def SameButId : (q : Query) → q.Reply → q.Reply → Prop
  | .insertTrade _, r, r' => r' = { r with id := r'.id }
  | .insertFee _, r, r' => r' = { r with id := r'.id }
  | .insertLedgerEntry .., r, r' => r' = { r with id := r'.id }
  | .insertUser _, r, r' => r' = { r with id := r'.id }
  | _, r, r' => r' = r

/-- Whether a query looks at rows of a kind that is created under drawn identifiers. -/
def readsNew : Query → Bool
  | .insertUser _ | .markUserVerified _ | .lockLedgerEntry _ | .updateLedgerStatus .. => true
  | _ => false

theorem SameButId.eq {q : Query} {r r' : q.Reply} (h : q.SameButId r r') (hq : q.drawsId = false) : r' = r := by
  cases q with
  | insertTrade execution | insertFee rates | insertLedgerEntry transfer amount | insertUser registration => cases hq
  | _ => exact h

end Query

/-! ## Rows -/

namespace Tables

/-- The rows are the same, those apart that are created under drawn identifiers. -/
def SameButNew (t t' : Tables) : Prop :=
  ∃ users trades fees ledger, t' = { t with users := users, trades := trades, fees := fees, ledger := ledger }

/-- The rows are the same, those apart that may have been created since. -/
structure Agree (new : Bool) (t t' : Tables) : Prop where
  known : t.SameButNew t'
  same : new = false → t' = t

variable {t t' : Tables} {new : Bool}

theorem Agree.refl (t : Tables) : t.Agree false t := ⟨⟨_, _, _, _, rfl⟩, fun _ => rfl⟩

theorem Agree.map {f : Tables → Tables} (h : t.Agree new t') (hf : (f t).SameButNew (f t')) :
    (f t).Agree new (f t') := ⟨hf, fun hnew => congrArg f (h.same hnew)⟩

/-- After a row has been created under a drawn identifier. -/
theorem Agree.of_new (h : t.SameButNew t') : t.Agree true t' := ⟨h, fun hnew => Bool.noConfusion hnew⟩

end Tables

/-- Two answers to a query that agree: replies that differ in the identifier of a new row at most, or the same error,
which is no conflict. -/
inductive Query.Agree (q : Query) (new : Bool) :
    Except StoreError (q.Reply × Tables) → Except StoreError (q.Reply × Tables) → Prop where
  | ok {r r' : q.Reply} {t t' : Tables} (replies : q.SameButId r r') (rows : t.Agree (new || q.drawsId) t') :
      Query.Agree q new (.ok (r, t)) (.ok (r', t'))
  | error {e : StoreError} (quiet : (e.kind == .conflict) = false) : Query.Agree q new (.error e) (.error e)

namespace Query.Agree

variable {q : Query} {new : Bool} {t t' : Tables}

theorem found_bind {asked : Query} {x : Option α} {f f' : α → Except StoreError (q.Reply × Tables)}
    (hf : ∀ a, q.Agree new (f a) (f' a)) :
    q.Agree new (Tables.found asked x >>= f) (Tables.found asked x >>= f') := by
  cases x with
  | none => exact .error rfl
  | some a => exact hf a

/-- A query that creates no row under a drawn identifier keeps the rows in agreement. -/
theorem same (hq : q.drawsId = false) {r r' : q.Reply} (hr : q.SameButId r r') (h : t.Agree new t') :
    q.Agree new (.ok (r, t)) (.ok (r', t')) := by
  refine .ok hr ?_
  rwa [hq, Bool.or_false]

/-- A query that creates a row under a drawn identifier keeps the other rows in agreement. -/
theorem created (hq : q.drawsId = true) {r r' : q.Reply} (hr : q.SameButId r r') (h : t.SameButNew t') :
    q.Agree new (.ok (r, t)) (.ok (r', t')) := by
  refine .ok hr ?_
  rw [hq, Bool.or_true]
  exact .of_new h

end Query.Agree

/-- A query finds the same rows of a kind that is not created under drawn identifiers, and it finds the same rows of
the other kinds while none of them has been created. -/
theorem Tables.reply_agree {t t' : Tables} {new : Bool} {q : Query} (h : t.Agree new t')
    (hq : (new && q.readsNew) = false) (fresh fresh' : Uuid) (now : Instant) :
    q.Agree new (t.reply fresh now q) (t'.reply fresh' now q) := by
  have hsame : q.readsNew = true → t' = t := by
    intro hreads
    rw [hreads, Bool.and_true] at hq
    exact h.same hq
  obtain ⟨users, trades, fees, ledger, hknown⟩ := h.known
  cases q with
  | getOrder id | lockOrder id | getMarket id | findWallet userId currency | lockWallet id =>
      subst hknown
      exact .found_bind fun _ => .same rfl rfl h
  | listUserWallets userId | listLargestWallets limit | claimOutbox limit =>
      subst hknown
      exact .same rfl rfl h
  | updateOrder id status filled =>
      subst hknown
      exact .found_bind fun _ => .same rfl rfl (h.map (f := fun t => t.putOrder _) ⟨_, _, _, _, rfl⟩)
  | updateWallet id balance lockedBalance =>
      subst hknown
      exact .found_bind fun _ => .same rfl rfl (h.map (f := fun t => t.putWallet _) ⟨_, _, _, _, rfl⟩)
  | consumeVerification id secretCode =>
      subst hknown
      exact .found_bind fun _ => .same rfl rfl (h.map (f := fun t => t.putVerification _) ⟨_, _, _, _, rfl⟩)
  | markPublished id | recordFailure id error giveUp =>
      subst hknown
      exact .found_bind fun _ => .same rfl rfl (h.map (f := fun t => t.putOutbox _) ⟨_, _, _, _, rfl⟩)
  | insertOutbox task =>
      subst hknown
      exact .same rfl rfl (h.map (f := fun t => (t.enqueue task now).2) ⟨_, _, _, _, rfl⟩)
  | insertTrade execution | insertFee rates | insertLedgerEntry transfer amount =>
      subst hknown
      exact .created rfl rfl ⟨_, _, _, _, rfl⟩
  | insertUser registration =>
      obtain rfl := hsame rfl
      simp only [reply]
      split
      · exact .error rfl
      · exact .created rfl rfl ⟨_, _, _, _, rfl⟩
  | lockLedgerEntry id | updateLedgerStatus id status | markUserVerified username =>
      obtain rfl := hsame rfl
      exact .found_bind fun _ => .same rfl rfl ⟨⟨_, _, _, _, rfl⟩, fun _ => rfl⟩

/-! ## Units of work -/

/-- Two units of work that are alike, after rows may have been created under drawn identifiers: they ask the same
queries while the replies differ in the identifiers of new rows at most, and do not look at such rows again. They
end with related values or with the same error, which is no conflict. -/
inductive Work.Alike (R : Bool → α → α → Prop) : Bool → Work α → Work α → Prop where
  | done {new : Bool} {a b : α} (values : R new a b) : Alike R new (.done a) (.done b)
  | fail {new : Bool} {e : SettlementError} (quiet : e.isConflict = false) : Alike R new (.fail e) (.fail e)
  | ask {new : Bool} {q : Query} {context : String} {next next' : q.Reply → Work α}
      (reads : (new && q.readsNew) = false)
      (rest : ∀ r r', q.SameButId r r' → Alike R (new || q.drawsId) (next r) (next' r')) :
      Alike R new (.ask q context next) (.ask q context next')

namespace Work.Alike

variable {R : Bool → α → α → Prop} {new : Bool}

theorem pure {a b : α} (h : R new a b) : (pure a : Work α).Alike R new (pure b) := .done h

theorem mono {S : Bool → α → α → Prop} {x y : Work α} (h : x.Alike R new y)
    (hweaker : ∀ new a b, R new a b → S new a b) : x.Alike S new y := by
  induction h with
  | done values => exact .done (hweaker _ _ _ values)
  | fail quiet => exact .fail quiet
  | ask reads rest ih => exact .ask reads ih

/-- After two units of work that are alike, the next ones are alike if they are so for the values. -/
theorem bind {x y : Work β} {f g : β → Work α} (h : x.Alike (fun new a b => (f a).Alike R new (g b)) new y) :
    (x >>= f).Alike R new (y >>= g) := by
  show (x.bind f).Alike R new (y.bind g)
  induction h with
  | done values => exact values
  | fail quiet => exact .fail quiet
  | ask reads rest ih => exact .ask reads ih

/-- A query that creates no row under a drawn identifier. -/
theorem query {q : Query} {context : String} {R : Bool → q.Reply → q.Reply → Prop} (hq : q.drawsId = false)
    (reads : (new && q.readsNew) = false) (h : ∀ r, R new r r) :
    (query q context).Alike R new (query q context) := by
  refine .ask reads fun r r' hr => ?_
  obtain rfl := hr.eq hq
  rw [hq, Bool.or_false]
  exact .done (h r')

/-- A query that creates a row under a drawn identifier. -/
theorem create {q : Query} {context : String} {R : Bool → q.Reply → q.Reply → Prop} (hq : q.drawsId = true)
    (reads : (new && q.readsNew) = false) (h : ∀ r r', q.SameButId r r' → R true r r') :
    (Work.query q context).Alike R new (Work.query q context) := by
  refine .ask reads fun r r' hr => ?_
  rw [hq, Bool.or_true]
  exact .done (h r r' hr)

theorem ofExcept {x : Except SettlementError α} (quiet : Quiet x)
    (h : ∀ a, x = .ok a → R new a a) : (ofExcept x).Alike R new (ofExcept x) := by
  cases x with
  | ok a => exact .done (h a rfl)
  | error e => exact .fail (quiet e rfl)

theorem ofOption {e : SettlementError} {x : Option α} (quiet : e.isConflict = false)
    (h : ∀ a, x = some a → R new a a) : (ofOption e x).Alike R new (ofOption e x) := by
  cases x with
  | some a => exact .done (h a rfl)
  | none => exact .fail quiet

theorem require {condition : Bool} {e : SettlementError} {R : Bool → Unit → Unit → Prop}
    (quiet : e.isConflict = false) (h : condition = true → R new () ()) :
    (require condition e).Alike R new (require condition e) := by
  cases condition with
  | true => exact .done (h rfl)
  | false => exact .fail quiet

end Work.Alike

/-! ## Runs -/

/-- Two worlds within transactions that have no failures queued, at the same time and over rows that agree. -/
structure World.Agree (new : Bool) (v w : World MemoryStore κ) : Prop where
  rows : v.store.draft.Agree new w.store.draft
  now : w.store.now = v.store.now
  left : v.store.faults = []
  right : w.store.faults = []

/-- Two runs that end alike: with related values in worlds that agree, or with the same error, which is no
conflict. -/
inductive EndsAlike (R : Bool → α → α → Prop) :
    Except SettlementError α × World MemoryStore κ → Except SettlementError α × World MemoryStore κ → Prop where
  | ok {new : Bool} {a b : α} {v w : World MemoryStore κ} (values : R new a b) (worlds : v.Agree new w) :
      EndsAlike R (.ok a, v) (.ok b, w)
  | error {e : SettlementError} {v w : World MemoryStore κ} (quiet : e.isConflict = false) :
      EndsAlike R (.error e, v) (.error e, w)

namespace World

variable {v w : World MemoryStore κ} {new : Bool} {q : Query}

theorem fault?_of_no_faults (h : w.store.faults = []) (point : FaultPoint) : w.store.fault? point = none := by
  rw [MemoryStore.fault?, h]
  rfl

theorem ask_of_no_faults (h : w.store.faults = []) (q : Query) : w.ask q = w.afterStore (w.store.answer q) := by
  simp only [ask, Store.ask, MemoryStore.ask]
  cases q.faultPoint? with
  | none => rfl
  | some point => simp only [fault?_of_no_faults h]

theorem begin_of_no_faults (h : w.store.faults = []) : w.begin = (.ok (), w.opened) := by
  rw [begin_eq, fault?_of_no_faults h]

theorem conclude_of_no_faults (h : w.store.faults = []) (name : String) (a : α) :
    (w.conclude name a).1 = .ok a := by
  simp only [conclude, commit_eq, fault?_of_no_faults h]

theorem Agree.ask (h : v.Agree new w) (hq : (new && q.readsNew) = false) :
    (∃ r r' v' w', v.ask q = (.ok r, v') ∧ w.ask q = (.ok r', w') ∧ q.SameButId r r' ∧
      v'.Agree (new || q.drawsId) w') ∨
    ∃ e v' w', v.ask q = (.error e, v') ∧ w.ask q = (.error e, w') ∧ (e.kind == .conflict) = false := by
  have hreply : q.Agree new (v.store.draft.reply v.store.ids.next v.store.now q)
      (w.store.draft.reply w.store.ids.next w.store.now q) := by
    rw [h.now]
    exact Tables.reply_agree h.rows hq _ _ _
  rw [ask_of_no_faults h.left, ask_of_no_faults h.right]
  simp only [afterStore, MemoryStore.answer]
  generalize v.store.draft.reply v.store.ids.next v.store.now q = x at hreply
  generalize w.store.draft.reply w.store.ids.next w.store.now q = y at hreply
  cases hreply with
  | ok replies rows => exact .inl ⟨_, _, _, _, rfl, rfl, replies, rows, h.now, h.left, h.right⟩
  | error quiet => exact .inr ⟨_, _, _, rfl, rfl, quiet⟩

end World

variable [Courier κ] {R : Bool → α → α → Prop}

theorem Work.Alike.run {x y : Work α} {new : Bool} {v w : World MemoryStore κ} (hx : x.Alike R new y)
    (h : v.Agree new w) : EndsAlike R (x.run v) (y.run w) := by
  induction hx generalizing v w with
  | done values => exact .ok values h
  | fail quiet => exact .error quiet
  | ask reads rest ih =>
      rcases h.ask reads with ⟨r, r', v', w', hv, hw, hreplies, hworlds⟩ | ⟨e, v', w', hv, hw, hquiet⟩
      · simp only [Work.run, hv, hw]
        exact ih r r' hreplies hworlds
      · simp only [Work.run, hv, hw]
        exact .error hquiet

/-- Two outcomes of an operation that agree: related values, or the same error, which is no conflict. -/
inductive SameOutcome (R : α → α → Prop) : Except SettlementError α → Except SettlementError α → Prop where
  | ok {a b : α} (values : R a b) : SameOutcome R (.ok a) (.ok b)
  | error {e : SettlementError} (quiet : e.isConflict = false) : SameOutcome R (.error e) (.error e)

theorem SameOutcome.quiet {R : α → α → Prop} {x y : Except SettlementError α} (h : SameOutcome R x y) : Quiet y := by
  cases h with
  | ok values => exact .ok
  | error quiet => exact .error quiet

/-- Two attempts of an operation over the same committed rows, at the same time and without queued failures, end
alike. -/
theorem Operation.perform_alike {o : Operation α} {R : α → α → Prop} {v w : World MemoryStore κ}
    (hcheck : Quiet o.check) (hwork : o.work.Alike (fun _ => R) false o.work)
    (hrows : w.store.committed = v.store.committed) (hnow : w.store.now = v.store.now)
    (hv : v.store.faults = []) (hw : w.store.faults = []) :
    SameOutcome R (o.perform v).1 (o.perform w).1 := by
  cases hinput : o.check with
  | error e =>
      simp only [perform, hinput]
      exact .error (hcheck e hinput)
  | ok u =>
      rw [perform_opened hinput (World.begin_of_no_faults hv), perform_opened hinput (World.begin_of_no_faults hw)]
      have hopened : v.opened.Agree false w.opened := by
        refine ⟨?_, hnow, hv, hw⟩
        show v.store.committed.Agree false w.store.committed
        rw [hrows]
        exact .refl _
      have hrun := hwork.run hopened
      generalize o.work.run v.opened = x at hrun
      generalize o.work.run w.opened = y at hrun
      cases hrun with
      | ok values worlds =>
          simp only [World.conclude_of_no_faults worlds.left, World.conclude_of_no_faults worlds.right]
          exact .ok values
      | error quiet => exact .error quiet

end Clearing
