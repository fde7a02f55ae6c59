import Clearing.Proofs.Lemmas.Transaction

/-!
# Queued failures

An operation is struck by one of the failures that are queued at most, and ends with it; if it is struck by none, it
ends as it does when none are queued.
-/

namespace Clearing

variable {α β κ : Type}

/-- A failure is taken from a queue, and the others are left in their order. -/
def Struck (e : StoreError) (faults left : List (FaultPoint × StoreError)) : Prop :=
  ∃ before point after, faults = before ++ (point, e) :: after ∧ left = before ++ after

namespace Struck

variable {e : StoreError} {faults left : List (FaultPoint × StoreError)}

theorem not_nil : ¬ Struck e [] left := by
  rintro ⟨before, point, after, heq, -⟩
  cases before <;> cases heq

theorem length (h : Struck e faults left) : faults.length = left.length + 1 := by
  obtain ⟨before, point, after, rfl, rfl⟩ := h
  rw [List.length_append, List.length_append, List.length_cons, Nat.add_assoc]

theorem exists_mem (h : Struck e faults left) : ∃ point, (point, e) ∈ faults := by
  obtain ⟨before, point, after, rfl, -⟩ := h
  exact ⟨point, List.mem_append_right _ (List.mem_cons_self ..)⟩

theorem sublist (h : Struck e faults left) : left.Sublist faults := by
  obtain ⟨before, point, after, rfl, rfl⟩ := h
  exact (List.Sublist.refl before).append (List.sublist_cons_self ..)

end Struck

/-- The oldest failure queued at a place is taken, and the others are left in their order. -/
def StruckAt (point : FaultPoint) (e : StoreError) (faults left : List (FaultPoint × StoreError)) : Prop :=
  ∃ before after, faults = before ++ (point, e) :: after ∧ left = before ++ after ∧ ∀ f ∈ before, f.1 ≠ point

/-- The failures queued at a place, the oldest first. -/
def queuedAt (point : FaultPoint) (faults : List (FaultPoint × StoreError)) : List StoreError :=
  faults.filterMap fun f => if f.1 = point then some f.2 else none

theorem queuedAt_append {point : FaultPoint} {faults more : List (FaultPoint × StoreError)} :
    queuedAt point (faults ++ more) = queuedAt point faults ++ queuedAt point more := List.filterMap_append

theorem queuedAt_cons {point place : FaultPoint} {e : StoreError} {faults : List (FaultPoint × StoreError)} :
    queuedAt point ((place, e) :: faults) =
      if place = point then e :: queuedAt point faults else queuedAt point faults := by
  by_cases h : place = point <;> simp [queuedAt, h]

namespace StruckAt

variable {point other : FaultPoint} {e : StoreError} {faults left : List (FaultPoint × StoreError)}

theorem struck (h : StruckAt point e faults left) : Struck e faults left := by
  obtain ⟨before, after, hfaults, hleft, -⟩ := h
  exact ⟨before, point, after, hfaults, hleft⟩

theorem queuedAt_self (h : StruckAt point e faults left) : queuedAt point faults = e :: queuedAt point left := by
  obtain ⟨before, after, rfl, rfl, hbefore⟩ := h
  have hnone : queuedAt point before = [] := by
    rw [queuedAt, List.filterMap_eq_nil_iff]
    exact fun f hf => if_neg (hbefore f hf)
  rw [queuedAt_append, queuedAt_append, queuedAt_cons, if_pos rfl, hnone]
  rfl

theorem queuedAt_of_ne (h : StruckAt point e faults left) (hne : point ≠ other) :
    queuedAt other faults = queuedAt other left := by
  obtain ⟨before, after, rfl, rfl, -⟩ := h
  rw [queuedAt_append, queuedAt_append, queuedAt_cons, if_neg hne]

end StruckAt

theorem MemoryStore.struckAt_of_takeFault {point : FaultPoint} {faults left : List (FaultPoint × StoreError)}
    {e : StoreError} (h : takeFault point faults = some (e, left)) : StruckAt point e faults left := by
  induction faults generalizing left with
  | nil => cases h
  | cons fault rest ih =>
      obtain ⟨other, e'⟩ := fault
      rw [takeFault] at h
      split at h
      · next hplace =>
          cases h
          exact ⟨[], rest, by rw [← hplace]; rfl, rfl, fun f hf => absurd hf List.not_mem_nil⟩
      · next hplace =>
          obtain ⟨⟨found, others⟩, htake, heq⟩ := Option.map_eq_some_iff.mp h
          cases heq
          obtain ⟨before, after, rfl, rfl, hbefore⟩ := ih htake
          exact ⟨(other, e') :: before, after, rfl, rfl, List.forall_mem_cons.mpr ⟨hplace, hbefore⟩⟩

theorem MemoryStore.struckAt_of_fault? {s s' : MemoryStore} {point : FaultPoint} {e : StoreError}
    (h : s.fault? point = some (e, s')) : StruckAt point e s.faults s'.faults := by
  obtain ⟨⟨found, left⟩, htake, heq⟩ := Option.map_eq_some_iff.mp h
  obtain ⟨rfl, rfl⟩ := Prod.mk.inj heq
  exact struckAt_of_takeFault htake

theorem MemoryStore.exists_fault {s : MemoryStore} {point : FaultPoint} (h : queuedAt point s.faults ≠ []) :
    ∃ e s', s.fault? point = some (e, s') := by
  have htaken : ∀ faults, queuedAt point faults ≠ [] → (takeFault point faults).isSome := by
    intro faults hqueued
    induction faults with
    | nil => exact absurd rfl hqueued
    | cons fault rest ih =>
        obtain ⟨place, e⟩ := fault
        rw [takeFault]
        split
        · rfl
        · next hplace =>
            rw [queuedAt_cons, if_neg hplace] at hqueued
            rw [Option.isSome_map]
            exact ih hqueued
  obtain ⟨taken, htake⟩ := Option.isSome_iff_exists.mp (htaken s.faults h)
  exact ⟨taken.1, { s with faults := taken.2 }, by rw [fault?, htake, Option.map_some]⟩

namespace World

/-- A world whose store has these failures queued. -/
def withFaults (w : World MemoryStore κ) (faults : List (FaultPoint × StoreError)) : World MemoryStore κ :=
  { w with store := { w.store with faults := faults } }

theorem withFaults_self (w : World MemoryStore κ) : w.withFaults w.store.faults = w := rfl

/-- Something that is done to a world in whose store failures are queued: it is struck by the oldest of them at some
place, or ends in a way in which they have no part. -/
def Ends {ε : Type} (fails : StoreError → ε → Prop)
    (f : List (FaultPoint × StoreError) → Except ε α × World MemoryStore κ) : Prop :=
  ∃ (result : Except ε α) (w' : World MemoryStore κ), ∀ faults, f faults = (result, w'.withFaults faults) ∨
    ∃ failure e w'', f faults = (.error e, w'') ∧ fails failure e ∧
      ∃ point, StruckAt point failure faults w''.store.faults

section Ends

variable {ε : Type} {fails : StoreError → ε → Prop}
  {f : List (FaultPoint × StoreError) → Except ε α × World MemoryStore κ}

/-- Nothing is struck while no failures are queued. -/
theorem Ends.of_nil (h : Ends fails f) (faults : List (FaultPoint × StoreError)) :
    f faults = ((f []).1, (f []).2.withFaults faults) ∨
      ∃ failure e w', f faults = (.error e, w') ∧ fails failure e ∧ Struck failure faults w'.store.faults := by
  obtain ⟨result, w', h⟩ := h
  have hnil : f [] = (result, w'.withFaults []) := by
    rcases h [] with hnil | ⟨failure, e, w'', -, -, hstruck⟩
    · exact hnil
    · obtain ⟨point, hstruck⟩ := hstruck
      exact absurd hstruck.struck Struck.not_nil
  rw [hnil]
  refine (h faults).imp_right ?_
  rintro ⟨failure, e, w'', heq, hfails, point, hstruck⟩
  exact ⟨failure, e, w'', heq, hfails, hstruck.struck⟩

/-- What is not struck leaves the queues alone. -/
theorem Ends.faults (h : Ends fails f) (faults : List (FaultPoint × StoreError)) :
    (f faults).2.store.faults = faults ∨
      ∃ point failure e, StruckAt point failure faults (f faults).2.store.faults ∧ (f faults).1 = .error e ∧
        fails failure e := by
  obtain ⟨result, w', h⟩ := h
  rcases h faults with heq | ⟨failure, e, w'', heq, hfails, point, hstruck⟩
  · rw [heq]
    exact .inl rfl
  · rw [heq]
    exact .inr ⟨point, failure, e, hstruck, rfl, hfails⟩

theorem Ends.done (result : Except ε α) (w : World MemoryStore κ) :
    Ends fails fun faults => (result, w.withFaults faults) := ⟨result, w, fun _ => .inl rfl⟩

/-- What comes after something that has been struck passes the failure on. -/
theorem Ends.bind {δ : Type} {fails' : StoreError → δ → Prop}
    {f' : List (FaultPoint × StoreError) → Except δ β × World MemoryStore κ}
    {g : Except ε α × World MemoryStore κ → Except δ β × World MemoryStore κ} (h : Ends fails f)
    (hg : ∀ faults, f' faults = g (f faults))
    (hstruck : ∀ failure e w, fails failure e →
      ∃ e' w', g (.error e, w) = (.error e', w') ∧ fails' failure e' ∧ w'.store.faults = w.store.faults)
    (hfree : ∀ (result : Except ε α) (w : World MemoryStore κ),
      Ends fails' fun faults => g (result, w.withFaults faults)) : Ends fails' f' := by
  obtain ⟨result, w₁, hf⟩ := h
  obtain ⟨result', w₂, hrest⟩ := hfree result w₁
  refine ⟨result', w₂, fun faults => ?_⟩
  rw [hg]
  rcases hf faults with heq | ⟨failure, e, w₃, heq, hfails, hleft⟩
  · rw [heq]
    exact hrest faults
  · obtain ⟨e', w₄, hpassed, hfails', hsame⟩ := hstruck failure e w₃ hfails
    rw [heq]
    exact .inr ⟨failure, e', w₄, hpassed, hfails', hsame ▸ hleft⟩

end Ends

/-! ## Steps of the store -/

/-- A step of the store fails with the failure itself. -/
def Plain (failure e : StoreError) : Prop := e = failure

/-- A step fails with the failure queued at its place, or goes on as it does when there is none. -/
theorem ends_of_checked {f : List (FaultPoint × StoreError) → Except StoreError α × World MemoryStore κ}
    (point : FaultPoint) (result : Except StoreError α) (w' : World MemoryStore κ)
    (hfree : ∀ faults, MemoryStore.takeFault point faults = none → f faults = (result, w'.withFaults faults))
    (hstruck : ∀ faults e left, MemoryStore.takeFault point faults = some (e, left) →
      ∃ w'', f faults = (.error e, w'') ∧ w''.store.faults = left) : Ends Plain f := by
  refine ⟨result, w', fun faults => ?_⟩
  cases htake : MemoryStore.takeFault point faults with
  | none => exact .inl (hfree faults htake)
  | some taken =>
      obtain ⟨e, left⟩ := taken
      obtain ⟨w'', hf, hleft⟩ := hstruck faults e left htake
      exact .inr ⟨e, e, w'', hf, rfl, point, hleft ▸ MemoryStore.struckAt_of_takeFault htake⟩

theorem begin_ends (w : World MemoryStore κ) : Ends Plain fun faults => (w.withFaults faults).begin := by
  refine ends_of_checked .begin (.ok ()) w.opened ?_ ?_
  · intro faults htake
    rw [begin_eq, MemoryStore.fault?]
    simp only [withFaults, htake, Option.map_none]
    rfl
  · intro faults e left htake
    rw [begin_eq, MemoryStore.fault?]
    simp only [withFaults, htake, Option.map_some]
    exact ⟨_, rfl, rfl⟩

theorem commit_ends (w : World MemoryStore κ) : Ends Plain fun faults => (w.withFaults faults).commit := by
  refine ends_of_checked .commit (.ok ()) { w with store := w.store.committing } ?_ ?_
  · intro faults htake
    rw [commit_eq, MemoryStore.fault?]
    simp only [withFaults, htake, Option.map_none]
    rfl
  · intro faults e left htake
    rw [commit_eq, MemoryStore.fault?]
    simp only [withFaults, htake, Option.map_some]
    exact ⟨_, rfl, rfl⟩

theorem ask_ends (w : World MemoryStore κ) (q : Query) : Ends Plain fun faults => (w.withFaults faults).ask q := by
  have hanswer : ∀ faults, (w.withFaults faults).afterStore ((w.withFaults faults).store.answer q) =
      ((w.afterStore (w.store.answer q)).1, (w.afterStore (w.store.answer q)).2.withFaults faults) := by
    intro faults
    have hreply : (w.withFaults faults).store.draft.reply (w.withFaults faults).store.ids.next
        (w.withFaults faults).store.now q = w.store.draft.reply w.store.ids.next w.store.now q := rfl
    simp only [afterStore, MemoryStore.answer, hreply]
    cases w.store.draft.reply w.store.ids.next w.store.now q <;> rfl
  cases hpoint : q.faultPoint? with
  | none =>
      refine ⟨(w.afterStore (w.store.answer q)).1, (w.afterStore (w.store.answer q)).2, fun faults => .inl ?_⟩
      rw [← hanswer]
      simp only [ask, Store.ask, MemoryStore.ask, hpoint]
  | some point =>
      refine ends_of_checked point (w.afterStore (w.store.answer q)).1
        (w.afterStore (w.store.answer q)).2 ?_ ?_
      · intro faults htake
        rw [← hanswer]
        simp only [ask, Store.ask, MemoryStore.ask, hpoint, MemoryStore.fault?, withFaults, htake, Option.map_none]
      · intro faults e left htake
        simp only [ask, Store.ask, MemoryStore.ask, hpoint, MemoryStore.fault?, withFaults, htake, Option.map_some]
        exact ⟨_, rfl, rfl⟩

/-- A query at whose place a failure is queued is struck by the oldest one. -/
theorem ask_struck {w : World MemoryStore κ} {q : Query} {point : FaultPoint} (hpoint : q.faultPoint? = some point)
    (hqueued : queuedAt point w.store.faults ≠ []) :
    ∃ e w', w.ask q = (.error e, w') ∧ StruckAt point e w.store.faults w'.store.faults := by
  obtain ⟨e, s, hfault⟩ := MemoryStore.exists_fault hqueued
  refine ⟨e, { w with store := s, log := w.log ++ [.faultInjected point e] }, ?_, MemoryStore.struckAt_of_fault? hfault⟩
  simp only [ask, Store.ask, MemoryStore.ask, hpoint, hfault]
  rfl

theorem faults_of_ask_ok {w w' : World MemoryStore κ} {q : Query} {r : q.Reply} (h : w.ask q = (.ok r, w')) :
    w'.store.faults = w.store.faults := by
  have hends := (w.ask_ends q).faults w.store.faults
  rw [withFaults_self, h] at hends
  rcases hends with hsame | ⟨point, failure, e, -, herror, -⟩
  · exact hsame
  · cases herror

end World

/-! ## Operations -/

/-- An operation fails with the failure and says where it struck. -/
def Wrapped (failure : StoreError) (e : SettlementError) : Prop := ∃ context, e = .store context failure

theorem World.conclude_ends (name : String) (a : α) (w : World MemoryStore κ) :
    Ends Wrapped fun faults => (w.withFaults faults).conclude name a := by
  refine w.commit_ends.bind (g := fun
    | (.ok _, w) => (.ok a, w.note (.committed name (Store.name MemoryStore)))
    | (.error e, w) => (.error (.store Operation.commitContext e), w)) ?_ ?_ ?_
  · intro faults
    rw [conclude]
    split <;> simp only [*]
  · rintro failure e w rfl
    exact ⟨_, w, rfl, ⟨_, rfl⟩, rfl⟩
  · intro result w
    cases result with
    | ok u => exact .done (.ok a) (w.note _)
    | error e => exact .done (.error _) w

theorem World.abandon_ends (name : String) (e : SettlementError) (w : World MemoryStore κ) :
    Ends Wrapped fun faults => (w.withFaults faults).abandon (α := α) name e :=
  .done (.error e) (w.abandon (α := α) name e).2

variable [Courier κ]

theorem Work.run_ends (x : Work α) (w : World MemoryStore κ) :
    World.Ends Wrapped fun faults => x.run (w.withFaults faults) := by
  induction x generalizing w with
  | done a => exact .done (.ok a) w
  | fail e => exact .done (.error e) w
  | ask q context next ih =>
      refine (w.ask_ends q).bind (g := fun
        | (.ok r, w) => (next r).run w
        | (.error e, w) => (.error (.store context e), w)) ?_ ?_ ?_
      · intro faults
        rw [run]
        split <;> simp only [*]
      · rintro failure e w rfl
        exact ⟨_, w, rfl, ⟨context, rfl⟩, rfl⟩
      · intro result w
        cases result with
        | ok r => exact ih r w
        | error e => exact .done (.error _) w
  | hand m next ih => exact ih (w.hand m).1 (w.hand m).2
  | note e next ih => exact ih (w.note e)

theorem World.transact_ends (name : String) (work : Work α) (w : World MemoryStore κ) :
    Ends Wrapped fun faults => (w.withFaults faults).transact name work := by
  have hend : ∀ w : World MemoryStore κ, Ends Wrapped fun faults => match work.run (w.withFaults faults) with
      | (.ok a, w) => w.conclude name a
      | (.error e, w) => w.abandon name e := by
    intro w
    refine (work.run_ends w).bind (g := fun
      | (.ok a, w) => w.conclude name a
      | (.error e, w) => w.abandon name e) (fun faults => rfl) ?_ ?_
    · exact fun failure e w hfails => ⟨e, _, rfl, hfails, rfl⟩
    · intro result w
      cases result with
      | ok a => exact w.conclude_ends name a
      | error e => exact w.abandon_ends name e
  refine w.begin_ends.bind (g := fun
    | (.error e, w) => (.error (.store Operation.beginContext e), w)
    | (.ok _, w) => match work.run w with
      | (.ok a, w) => w.conclude name a
      | (.error e, w) => w.abandon name e) ?_ ?_ ?_
  · intro faults
    rw [transact]
    split
    · simp only [*]
    · simp only [*]
      split <;> simp only [*]
  · rintro failure e w rfl
    exact ⟨_, w, rfl, ⟨_, rfl⟩, rfl⟩
  · intro opened w
    cases opened with
    | error e => exact .done (.error _) w
    | ok u => exact hend w

/-- What an operation makes of the end of its transaction. -/
def Operation.reporting (o : Operation α) :
    Except SettlementError α × World MemoryStore κ → Except SettlementError α × World MemoryStore κ
  | (.ok a, w) => (.ok a, w.noteAll (o.report a))
  | (.error e, w) => (.error e, w)

theorem Operation.perform_ends (o : Operation α) (w : World MemoryStore κ) :
    World.Ends Wrapped fun faults => o.perform (w.withFaults faults) := by
  cases hcheck : o.check with
  | error e =>
      simp only [perform, hcheck]
      exact .done (.error e) w
  | ok u =>
      refine (w.transact_ends o.name o.work).bind (g := o.reporting) ?_ ?_ ?_
      · intro faults
        simp only [perform, hcheck]
        cases (w.withFaults faults).transact o.name o.work with
        | mk result w => cases result <;> rfl
      · exact fun failure e w hfails => ⟨e, w, rfl, hfails, rfl⟩
      · intro result w
        cases result with
        | ok a => exact .done (.ok a) (w.noteAll (o.report a))
        | error e => exact .done (.error e) w

end Clearing
