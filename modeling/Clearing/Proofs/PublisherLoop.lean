import Clearing.Courier.Mailbox
import Clearing.Outbox.Publisher
import Clearing.Sql.Store

/-!
# The publisher's loop

A publisher looks at its stop flag, runs a batch and waits, until the poll interval is over or it notices that the flag
has been given a value; then it looks again. The flag is given values at any moment, and several before the publisher
notices. Whatever its batches come to, the publisher stops only if it sees the flag up or if nobody is left who could
change it, and it begins no batch without having looked. The loop does in one piece what these moments do one by one:
its signals are what the publisher has seen of the flag.
-/

namespace Clearing

open Sql

variable {σ κ : Type}

/-! ## Flags -/

/-- A flag that others give values to and a publisher watches. -/
structure StopFlag where
  value : Bool
  /-- Whether it has been given a value that the publisher has not noticed. -/
  unseen : Bool := false
  /-- Whether nobody is left who could give it a value. -/
  abandoned : Bool := false

/-- Gives a flag a value, perhaps the one it has. -/
def StopFlag.give (stop : Bool) (f : StopFlag) : StopFlag := { f with value := stop, unseen := true }

/-! ## Publishers -/

/-- What a publisher is about. -/
inductive Phase where
  /-- It is to look at its flag. -/
  | looking
  /-- It has seen the flag down. -/
  | cleared
  | inBatch
  | waiting
  | stopped
deriving DecidableEq

/-- A publisher with its flag and what it acts on. -/
structure Publisher (σ κ : Type) where
  phase : Phase
  flag : StopFlag
  world : World σ κ

/-- What happens to a publisher or is done by it. -/
inductive Moment where
  | given (stop : Bool)
  | abandoned
  /-- It looks at its flag; if the flag is up, it returns. -/
  | looked (stop : Bool)
  | began
  | ended (result : Except SettlementError BatchReport)
  | elapsed
  | noticed
  /-- It returns because nobody is left who could raise the flag. -/
  | deserted

namespace Moment

/-- Whether others do it. -/
def isOutside : Moment → Bool
  | .given _ | .abandoned => true
  | .looked _ | .began | .ended _ | .elapsed | .noticed | .deserted => false

/-- Whether the publisher returns. -/
def isReturn : Moment → Bool
  | .looked stop => stop
  | .deserted => true
  | .given _ | .abandoned | .began | .ended _ | .elapsed | .noticed => false

/-- What it tells the publisher of the flag. -/
def signal? : Moment → Option PublisherConfig.Signal
  | .looked stop => some (.flagged stop)
  | .deserted => some .abandoned
  | .given _ | .abandoned | .began | .ended _ | .elapsed | .noticed => none

end Moment

/-- The world once the outcome of a batch has been looked at: a failure is logged. -/
def World.logBatch (result : Except SettlementError BatchReport) (w : World σ κ) : World σ κ :=
  match result with
  | .ok _ => w
  | .error e => w.note (.batchFailed e)

namespace Publisher

variable [Store σ] [Courier κ]

/-- A publisher that has just been started. -/
def start (c : PublisherConfig) (flag : StopFlag) (w : World σ κ) : Publisher σ κ where
  phase := .looking
  flag := flag
  world := w.note (.publisherStarted c (Courier.name w.courier))

/-- What can come next. Between two batches both the end of the poll interval and a change of the flag can; and a value
that has not been noticed is noticed even if nobody is left who could give another one. -/
inductive Passes (c : PublisherConfig) : Publisher σ κ → Moment → Publisher σ κ → Prop where
  | given {p : Publisher σ κ} (stop : Bool) (held : p.flag.abandoned = false) :
      Passes c p (.given stop) { p with flag := p.flag.give stop }
  | abandoned {p : Publisher σ κ} : Passes c p .abandoned { p with flag := { p.flag with abandoned := true } }
  | cleared {p : Publisher σ κ} (looking : p.phase = .looking) (down : p.flag.value = false) :
      Passes c p (.looked false) { p with phase := .cleared }
  | told {p : Publisher σ κ} (looking : p.phase = .looking) (up : p.flag.value = true) :
      Passes c p (.looked true) { p with phase := .stopped, world := p.world.note .publisherStopped }
  | began {p : Publisher σ κ} (cleared : p.phase = .cleared) : Passes c p .began { p with phase := .inBatch }
  | ended {p : Publisher σ κ} {result : Except SettlementError BatchReport} {w : World σ κ}
      (inBatch : p.phase = .inBatch) (batch : c.batch.perform p.world = (result, w)) :
      Passes c p (.ended result) { p with phase := .waiting, world := w.logBatch result }
  | elapsed {p : Publisher σ κ} (waiting : p.phase = .waiting) : Passes c p .elapsed { p with phase := .looking }
  | noticed {p : Publisher σ κ} (waiting : p.phase = .waiting) (unseen : p.flag.unseen = true) :
      Passes c p .noticed { p with phase := .looking, flag := { p.flag with unseen := false } }
  | deserted {p : Publisher σ κ} (waiting : p.phase = .waiting) (seen : p.flag.unseen = false)
      (abandoned : p.flag.abandoned = true) :
      Passes c p .deserted { p with phase := .stopped, world := p.world.note .publisherStopped }

/-- What can come of a publisher in any number of moments. -/
inductive Runs (c : PublisherConfig) (p : Publisher σ κ) : List Moment → Publisher σ κ → Prop where
  | nil : Runs c p [] p
  | concat {xs : List Moment} {x : Moment} {q r : Publisher σ κ} (before : Runs c p xs q) (last : Passes c q x r) :
      Runs c p (xs ++ [x]) r

variable {c : PublisherConfig} {p q r : Publisher σ κ} {xs ys : List Moment} {x : Moment}

namespace Runs

theorem last (h : Runs c p (xs ++ [x]) r) : ∃ q, Runs c p xs q ∧ Passes c q x r := by
  generalize hys : xs ++ [x] = ys at h
  cases h with
  | nil => cases List.append_eq_nil_iff.mp hys |>.2
  | concat before last =>
      obtain ⟨rfl, hx⟩ := List.append_inj' hys rfl
      cases hx
      exact ⟨_, before, last⟩

theorem append (h : Runs c p xs q) (hrest : Runs c q ys r) : Runs c p (xs ++ ys) r := by
  induction hrest with
  | nil => rwa [List.append_nil]
  | concat before last ih =>
      rw [← List.append_assoc]
      exact .concat ih last

theorem cons (h : Passes c p x q) (hrest : Runs c q xs r) : Runs c p (x :: xs) r :=
  append (.concat .nil h) hrest

/-- What every moment of a kind keeps holds after any number of them. -/
theorem keeps {I : Publisher σ κ → Prop} {A P : Moment → Prop} (h : Runs c p xs q)
    (hstep : ∀ {q x r}, Passes c q x r → A x → I q → I r ∧ P x) (hall : ∀ x ∈ xs, A x) (hp : I p) :
    I q ∧ ∀ x ∈ xs, P x := by
  induction h with
  | nil => exact ⟨hp, fun x hx => absurd hx List.not_mem_nil⟩
  | concat before last ih =>
      obtain ⟨hbefore, hlast⟩ := List.forall_mem_append.mp hall
      obtain ⟨hq, hP⟩ := ih hbefore
      obtain ⟨hr, hx⟩ := hstep last (hlast _ (List.mem_singleton_self _)) hq
      exact ⟨hr, List.forall_mem_append.mpr ⟨hP, List.forall_mem_singleton.mpr hx⟩⟩

/-! ## Looks at the flag -/

/-- While the flag stays up no batch begins, unless the publisher is past its look at it. -/
theorem not_began (h : Runs c p xs q) (hup : p.flag.value = true) (hphase : p.phase ≠ .cleared)
    (hgiven : .given false ∉ xs) : .began ∉ xs := by
  have hkeeps := h.keeps (I := fun q => q.flag.value = true ∧ q.phase ≠ .cleared) (A := (· ≠ .given false))
    (P := (· ≠ .began)) ?_ (fun x hx heq => hgiven (heq ▸ hx)) ⟨hup, hphase⟩
  · exact fun hmem => hkeeps.2 _ hmem rfl
  · intro q x r hlast hx hq
    obtain ⟨hup, hphase⟩ := hq
    cases hlast with
    | given stop held =>
        cases stop with
        | true => exact ⟨⟨rfl, hphase⟩, nofun⟩
        | false => exact absurd rfl hx
    | abandoned => exact ⟨⟨hup, hphase⟩, nofun⟩
    | cleared looking down => cases hup.symm.trans down
    | began cleared => exact absurd cleared hphase
    | ended | elapsed | noticed | told | deserted => exact ⟨⟨hup, nofun⟩, nofun⟩

/-- A publisher that is past its look at the flag has seen it down, and has done nothing since. -/
theorem cleared_before (h : Runs c p xs q) (hp : p.phase ≠ .cleared) (hq : q.phase = .cleared) :
    ∃ before since r, xs = before ++ .looked false :: since ∧ (∀ x ∈ since, x.isOutside = true) ∧
      Runs c p before r ∧ r.phase = .looking ∧ r.flag.value = false := by
  induction h with
  | nil => exact absurd hq hp
  | @concat xs x q r before last ih =>
      have houtside (hx : x.isOutside = true) (hsame : q.phase = .cleared) : ∃ before since r,
          xs ++ [x] = before ++ .looked false :: since ∧ (∀ x ∈ since, x.isOutside = true) ∧
            Runs c p before r ∧ r.phase = .looking ∧ r.flag.value = false := by
        obtain ⟨start, since, r, rfl, hsince, hr⟩ := ih hsame
        refine ⟨start, since ++ [x], r, by rw [List.append_assoc, List.cons_append], ?_, hr⟩
        exact List.forall_mem_append.mpr ⟨hsince, List.forall_mem_singleton.mpr hx⟩
      cases last with
      | given stop held => exact houtside rfl hq
      | abandoned => exact houtside rfl hq
      | cleared looking down => exact ⟨xs, [], q, rfl, nofun, before, looking, down⟩
      | began | ended | elapsed | noticed | told | deserted => cases hq

theorem cleared_of_began (h : Runs c p (xs ++ [.began]) q) (hp : p.phase ≠ .cleared) :
    ∃ before since r, xs = before ++ .looked false :: since ∧ (∀ x ∈ since, x.isOutside = true) ∧
      Runs c p before r ∧ r.phase = .looking ∧ r.flag.value = false := by
  obtain ⟨r, hbefore, hlast⟩ := h.last
  cases hlast with
  | began cleared => exact hbefore.cleared_before hp cleared

theorem only_outside (h : Runs c p xs q) (hp : p.phase = .stopped) : ∀ x ∈ xs, x.isOutside = true := by
  refine (h.keeps (I := fun q => q.phase = .stopped) (A := fun _ => True) ?_ (fun _ _ => trivial) hp).2
  intro q x r hlast _ hq
  cases hlast with
  | given | abandoned => exact ⟨hq, rfl⟩
  | cleared hphase | began hphase | ended hphase | elapsed hphase | noticed hphase | told hphase | deserted hphase =>
      cases hq.symm.trans hphase

/-! ## Going on -/

/-- As long as the flag is down and someone is there to raise it the publisher goes on, whatever its batches come to. -/
theorem goes_on (h : Runs c p xs q) (hdown : p.flag.value = false) (hheld : p.flag.abandoned = false)
    (hphase : p.phase ≠ .stopped) (hgiven : .given true ∉ xs) (habandoned : .abandoned ∉ xs) :
    (q.flag.value = false ∧ q.phase ≠ .stopped) ∧ ∀ x ∈ xs, x.isReturn = false := by
  have hkeeps := h.keeps (I := fun q => q.flag.value = false ∧ q.flag.abandoned = false ∧ q.phase ≠ .stopped)
    (A := fun x => x ≠ .given true ∧ x ≠ .abandoned) (P := fun x => x.isReturn = false) ?_
    (fun x hx => ⟨fun heq => hgiven (heq ▸ hx), fun heq => habandoned (heq ▸ hx)⟩) ⟨hdown, hheld, hphase⟩
  · exact ⟨⟨hkeeps.1.1, hkeeps.1.2.2⟩, hkeeps.2⟩
  · intro q x r hlast hx hq
    obtain ⟨hdown, hheld, hphase⟩ := hq
    cases hlast with
    | given stop held =>
        cases stop with
        | true => exact absurd rfl hx.1
        | false => exact ⟨⟨rfl, hheld, hphase⟩, rfl⟩
    | abandoned => exact absurd rfl hx.2
    | cleared | began | ended | elapsed | noticed => exact ⟨⟨hdown, hheld, nofun⟩, rfl⟩
    | told looking up => cases hdown.symm.trans up
    | deserted waiting seen abandoned => cases hheld.symm.trans abandoned

/-- A publisher whose flag has been lowered does not stop before it has begun another batch, unless the flag is raised
again. -/
theorem not_returned (h : Runs c p xs q) (hdown : p.flag.value = false) (hunseen : p.flag.unseen = true)
    (hphase : p.phase ≠ .stopped) (hgiven : .given true ∉ xs) (hbegan : .began ∉ xs) :
    (q.flag.value = false ∧ q.phase ≠ .stopped) ∧ ∀ x ∈ xs, x.isReturn = false := by
  have hkeeps := h.keeps (I := fun q => q.flag.value = false ∧ q.phase ≠ .stopped ∧
      (q.phase = .inBatch ∨ q.phase = .waiting → q.flag.unseen = true))
    (A := fun x => x ≠ .given true ∧ x ≠ .began) (P := fun x => x.isReturn = false) ?_
    (fun x hx => ⟨fun heq => hgiven (heq ▸ hx), fun heq => hbegan (heq ▸ hx)⟩) ⟨hdown, hphase, fun _ => hunseen⟩
  · exact ⟨⟨hkeeps.1.1, hkeeps.1.2.1⟩, hkeeps.2⟩
  · intro q x r hlast hx hq
    obtain ⟨hdown, hphase, hunseen⟩ := hq
    cases hlast with
    | given stop held =>
        cases stop with
        | true => exact absurd rfl hx.1
        | false => exact ⟨⟨rfl, hphase, fun _ => rfl⟩, rfl⟩
    | abandoned => exact ⟨⟨hdown, hphase, hunseen⟩, rfl⟩
    | began => exact absurd rfl hx.2
    | ended inBatch => exact ⟨⟨hdown, nofun, fun _ => hunseen (.inl inBatch)⟩, rfl⟩
    | cleared | elapsed | noticed => exact ⟨⟨hdown, nofun, fun h => by rcases h with h | h <;> cases h⟩, rfl⟩
    | told looking up => cases hdown.symm.trans up
    | deserted waiting seen abandoned => cases (hunseen (.inr waiting)).symm.trans seen

/-- A publisher whose flag is down can begin another batch without anyone else's doing. -/
theorem exists_began (c : PublisherConfig) (p : Publisher σ κ) (hdown : p.flag.value = false)
    (hphase : p.phase ≠ .stopped) :
    ∃ xs q, Runs c p (xs ++ [.began]) q ∧ xs.any Moment.isOutside = false := by
  cases h : p.phase with
  | looking => exact ⟨[.looked false], _, .cons (.cleared h hdown) (.cons (.began rfl) .nil), rfl⟩
  | cleared => exact ⟨[], _, .cons (.began h) .nil, rfl⟩
  | inBatch =>
      exact ⟨[.ended _, .elapsed, .looked false], _,
        .cons (.ended h rfl) (.cons (.elapsed rfl) (.cons (.cleared rfl hdown) (.cons (.began rfl) .nil))), rfl⟩
  | waiting =>
      exact ⟨[.elapsed, .looked false], _,
        .cons (.elapsed h) (.cons (.cleared rfl hdown) (.cons (.began rfl) .nil)), rfl⟩
  | stopped => exact absurd h hphase

theorem told_of_return (h : Runs c p (xs ++ [x]) q) (hx : x.isReturn = true) :
    ∃ r, Runs c p xs r ∧ (r.phase = .looking ∧ r.flag.value = true ∨
      r.phase = .waiting ∧ r.flag.unseen = false ∧ r.flag.abandoned = true) := by
  obtain ⟨r, hbefore, hlast⟩ := h.last
  refine ⟨r, hbefore, ?_⟩
  cases hlast with
  | told looking up => exact .inl ⟨looking, up⟩
  | deserted waiting seen abandoned => exact .inr ⟨waiting, seen, abandoned⟩
  | given | abandoned | cleared | began | ended | elapsed | noticed => cases hx

end Runs
end Publisher

/-! ## The loop -/

namespace PublisherConfig

namespace Signal

/-- Whether the flag is down after a signal, and there is someone who could raise it. -/
def leavesDown : Signal → Bool
  | .elapsed | .flagged false => true
  | .flagged true | .abandoned => false

/-- What a publisher sees of the flag after a signal: once the interval is over the flag is as it was, that is, down. -/
def seen : Signal → Signal
  | .elapsed => .flagged false
  | .flagged stop => .flagged stop
  | .abandoned => .abandoned

end Signal

/-- How a publisher that stands like this shows. -/
def Standing.phase : Standing → Phase
  | .stopped => .stopped
  | .waiting => .waiting

variable [Store σ] [Courier κ] {c : PublisherConfig} {w : World σ κ}

/-- Batches one after the other with these outcomes lead from one world to another. -/
inductive Batches (c : PublisherConfig) : World σ κ → List (Except SettlementError BatchReport) → World σ κ → Prop where
  | nil {w : World σ κ} : Batches c w [] w
  | concat {w w₁ w₂ : World σ κ} {results : List (Except SettlementError BatchReport)}
      {result : Except SettlementError BatchReport} (before : Batches c w results w₁)
      (last : c.batch.perform w₁ = (result, w₂)) : Batches c w (results ++ [result]) (w₂.logBatch result)

theorem runBatch_eq (c : PublisherConfig) (w : World σ κ) :
    c.runBatch w = (c.batch.perform w).2.logBatch (c.batch.perform w).1 := by
  rw [runBatch]
  cases c.batch.perform w with
  | mk result w' => cases result <;> rfl

/-- What so many batches make of a world. -/
def batches (c : PublisherConfig) : Nat → World σ κ → World σ κ
  | 0, w => w
  | n + 1, w => c.runBatch (c.batches n w)

theorem batches_succ (c : PublisherConfig) (n : Nat) (w : World σ κ) :
    c.batches (n + 1) w = c.batches n (c.runBatch w) := by
  induction n with
  | zero => rfl
  | succ n ih => exact congrArg c.runBatch ih

theorem exists_batches (c : PublisherConfig) (n : Nat) (w : World σ κ) :
    ∃ results, Batches c w results (c.batches n w) ∧ results.length = n := by
  induction n with
  | zero => exact ⟨[], .nil, rfl⟩
  | succ n ih =>
      obtain ⟨results, hresults, hlength⟩ := ih
      refine ⟨results ++ [(c.batch.perform (c.batches n w)).1], ?_, ?_⟩
      · rw [batches, runBatch_eq]
        exact .concat hresults rfl
      · rw [List.length_append, hlength, List.length_singleton]

/-- How many batches a publisher begins if its flag is first seen like this and these signals follow: one, and another
one for each signal until one does not leave the flag down. -/
def begun (stop : Bool) (signals : List Signal) : Nat :=
  if stop then 0 else (signals.takeWhile Signal.leavesDown).length + 1

/-- How a publisher stands then: it waits for another signal if all of them leave the flag down. -/
def standingAfter (stop : Bool) (signals : List Signal) : Standing :=
  if !stop && signals.all Signal.leavesDown then .waiting else .stopped

/-- The loop runs as many batches as the flag and the signals say, whatever the batches come to. -/
theorem loop_eq (c : PublisherConfig) (stop : Bool) (signals : List Signal) (w : World σ κ) :
    c.loop stop signals w = (standingAfter stop signals, c.batches (begun stop signals) w) := by
  induction signals generalizing stop w with
  | nil => cases stop <;> rfl
  | cons signal rest ih =>
      cases stop with
      | true => rfl
      | false =>
          have hdown (hloop : c.loop false (signal :: rest) w = c.loop false rest (c.runBatch w))
              (hsignal : signal.leavesDown = true) : c.loop false (signal :: rest) w =
                (standingAfter false (signal :: rest), c.batches (begun false (signal :: rest)) w) := by
            rw [hloop, ih, ← batches_succ]
            simp only [standingAfter, begun, List.all_cons, List.takeWhile_cons, hsignal, Bool.true_and, if_true,
              List.length_cons, Bool.false_eq_true, if_false]
          cases signal with
          | elapsed => exact hdown rfl rfl
          | flagged stop =>
              cases stop with
              | false => exact hdown rfl rfl
              | true => cases rest <;> rfl
          | abandoned => rfl

/-- The world in which a loop leaves a publisher. -/
def left (standing : Standing) (w : World σ κ) : World σ κ :=
  match standing with
  | .stopped => w.note .publisherStopped
  | .waiting => w

theorem run_eq (c : PublisherConfig) (stop : Bool) (signals : List Signal) (w : World σ κ) :
    c.run stop signals w = (standingAfter stop signals, left (standingAfter stop signals)
      (c.batches (begun stop signals) (w.note (.publisherStarted c (Courier.name w.courier))))) := by
  rw [run, loop_eq]
  cases standingAfter stop signals <;> rfl

/-- The signals by which a publisher has so often seen its flag down. -/
def lowered (n : Nat) : List Signal := List.replicate n (.flagged false)

theorem all_lowered (n : Nat) : (lowered n).all Signal.leavesDown = true := by
  rw [List.all_eq_true]
  intro x hx
  rw [List.eq_of_mem_replicate hx]
  rfl

theorem run_lowered (n : Nat) : standingAfter false (lowered n) = .waiting ∧ begun false (lowered n) = n + 1 := by
  constructor
  · rw [standingAfter, all_lowered]
    rfl
  · rw [begun, lowered, List.takeWhile_replicate]
    exact congrArg (· + 1) List.length_replicate

theorem run_lowered_concat (n : Nat) {last : Signal} (hlast : last.leavesDown = false) :
    standingAfter false (lowered n ++ [last]) = .stopped ∧ begun false (lowered n ++ [last]) = n + 1 := by
  constructor
  · rw [standingAfter, List.all_append, List.all_cons, hlast, Bool.false_and, Bool.and_false, Bool.and_false]
    rfl
  · rw [begun, List.takeWhile_append_of_pos fun x hx => List.all_eq_true.mp (all_lowered n) x hx,
      List.takeWhile_cons_of_neg (by rw [hlast]; decide), List.append_nil]
    exact congrArg (· + 1) List.length_replicate

end PublisherConfig

/-! ## Moments and signals -/

namespace Publisher

open PublisherConfig

variable [Store σ] [Courier κ] {c : PublisherConfig} {p q : Publisher σ κ} {w : World σ κ} {xs : List Moment}

/-- What a publisher has seen of its flag and made of a world, if it had found the flag down `n` times before it last
began to wait or to look. -/
def Reached (c : PublisherConfig) (w : World σ κ) (n : Nat) (seen : List Signal) (p : Publisher σ κ) : Prop :=
  match p.phase with
  | .looking => seen = lowered n ∧ p.world = c.batches n w
  | .cleared | .inBatch => seen = lowered (n + 1) ∧ p.world = c.batches n w
  | .waiting => seen = lowered (n + 1) ∧ p.world = c.batches (n + 1) w
  | .stopped =>
    seen = lowered n ++ [.flagged true] ∧ p.world = (c.batches n w).note .publisherStopped ∨
      seen = lowered (n + 1) ++ [.abandoned] ∧ p.world = (c.batches (n + 1) w).note .publisherStopped

theorem Reached.of_phase {n : Nat} {seen : List Signal} {phase : Phase} (h : Reached c w n seen p)
    (hphase : p.phase = phase) : Reached c w n seen { p with phase := phase } := by
  subst hphase
  exact h

theorem Passes.reached {x : Moment} {n : Nat} {seen : List Signal} (h : Passes c p x q) (hp : Reached c w n seen p) :
    ∃ n, Reached c w n (seen ++ x.signal?.toList) q := by
  cases h with
  | given stop held =>
      refine ⟨n, ?_⟩
      rw [Moment.signal?, Option.toList_none, List.append_nil]
      exact hp
  | abandoned =>
      refine ⟨n, ?_⟩
      rw [Moment.signal?, Option.toList_none, List.append_nil]
      exact hp
  | cleared looking down =>
      obtain ⟨rfl, hworld⟩ := hp.of_phase looking
      exact ⟨n, List.replicate_succ'.symm, hworld⟩
  | told looking up =>
      obtain ⟨rfl, hworld⟩ := hp.of_phase looking
      exact ⟨n, .inl ⟨rfl, congrArg (·.note .publisherStopped) hworld⟩⟩
  | began cleared =>
      obtain ⟨rfl, hworld⟩ := hp.of_phase cleared
      exact ⟨n, List.append_nil _, hworld⟩
  | ended inBatch batch =>
      obtain ⟨rfl, hworld⟩ := hp.of_phase inBatch
      refine ⟨n, List.append_nil _, ?_⟩
      rw [batches, runBatch_eq, ← hworld]
      exact congrArg (fun x => x.2.logBatch x.1) batch.symm
  | elapsed waiting =>
      obtain ⟨rfl, hworld⟩ := hp.of_phase waiting
      exact ⟨n + 1, List.append_nil _, hworld⟩
  | noticed waiting unseen =>
      obtain ⟨rfl, hworld⟩ := hp.of_phase waiting
      exact ⟨n + 1, List.append_nil _, hworld⟩
  | deserted waiting seen abandoned =>
      obtain ⟨rfl, hworld⟩ := hp.of_phase waiting
      exact ⟨n, .inr ⟨rfl, congrArg (·.note .publisherStopped) hworld⟩⟩

theorem Runs.reached {flag : StopFlag} (h : Runs c (start c flag w) xs q) :
    ∃ n, Reached c (w.note (.publisherStarted c (Courier.name w.courier))) n (xs.filterMap Moment.signal?) q := by
  induction h with
  | nil => exact ⟨0, rfl, rfl⟩
  | @concat xs x q r before last ih =>
      obtain ⟨n, hq⟩ := ih
      rw [List.filterMap_append]
      exact last.reached hq

/-- A publisher that waits or has stopped is where the loop leads by what it has seen of its flag. -/
theorem Runs.exists_signals {flag : StopFlag} {standing : Standing} (h : Runs c (start c flag w) xs q)
    (hphase : q.phase = standing.phase) : ∃ stop signals, xs.filterMap Moment.signal? = .flagged stop :: signals ∧
      c.run stop signals w = (standing, q.world) := by
  obtain ⟨n, hq⟩ := h.reached
  have hreached := hq.of_phase hphase
  cases standing with
  | waiting =>
      obtain ⟨hseen, hworld⟩ := hreached
      obtain ⟨hstanding, hbegun⟩ := run_lowered n
      refine ⟨false, lowered n, hseen, ?_⟩
      rw [run_eq, hstanding, hbegun]
      exact congrArg _ hworld.symm
  | stopped =>
      have hends {n : Nat} {last : Signal} (hlast : last.leavesDown = false)
          (hseen : xs.filterMap Moment.signal? = lowered (n + 1) ++ [last])
          (hworld : q.world = (c.batches (n + 1) (w.note (.publisherStarted c (Courier.name w.courier)))).note
            .publisherStopped) : ∃ stop signals, xs.filterMap Moment.signal? = .flagged stop :: signals ∧
              c.run stop signals w = (.stopped, q.world) := by
        obtain ⟨hstanding, hbegun⟩ := run_lowered_concat n hlast
        refine ⟨false, lowered n ++ [last], hseen, ?_⟩
        rw [run_eq, hstanding, hbegun]
        exact congrArg _ hworld.symm
      rcases hreached with ⟨hseen, hworld⟩ | ⟨hseen, hworld⟩
      · cases n with
        | zero => exact ⟨true, [], hseen, (run_eq c true [] w).trans (congrArg _ hworld.symm)⟩
        | succ n => exact hends rfl hseen hworld
      · exact hends rfl hseen hworld

theorem Runs.batch (c : PublisherConfig) (w : World σ κ) :
    Runs c ⟨.looking, { value := false }, w⟩ [.looked false, .began, .ended (c.batch.perform w).1]
      ⟨.waiting, { value := false }, c.runBatch w⟩ := by
  rw [runBatch_eq]
  exact .cons (.cleared rfl rfl) (.cons (.began rfl) (.cons (.ended rfl rfl) .nil))

/-- Every series of signals is one that a publisher can see, as far as the loop looks at it. -/
theorem exists_runs (c : PublisherConfig) (signals : List Signal) (stop : Bool) (w : World σ κ) :
    ∃ xs q, Runs c ⟨.looking, { value := stop }, w⟩ xs q ∧ q.phase = (c.loop stop signals w).1.phase ∧
      q.world = left (c.loop stop signals w).1 (c.loop stop signals w).2 ∧
      xs.filterMap Moment.signal? <+: .flagged stop :: signals.map Signal.seen := by
  have hup (signals : List Signal) (w : World σ κ) : ∃ xs q, Runs c ⟨.looking, { value := true }, w⟩ xs q ∧
      q.phase = .stopped ∧ q.world = w.note .publisherStopped ∧
      xs.filterMap Moment.signal? <+: .flagged true :: signals.map Signal.seen :=
    ⟨_, _, .cons (.told rfl rfl) .nil, rfl, rfl, List.prefix_append [_] _⟩
  induction signals generalizing stop w with
  | nil =>
      cases stop with
      | true => exact hup [] w
      | false => exact ⟨_, _, .batch c w, rfl, rfl, List.prefix_rfl⟩
  | cons signal rest ih =>
      cases stop with
      | true => exact hup (signal :: rest) w
      | false =>
          cases signal with
          | elapsed =>
              obtain ⟨xs, q, h, hphase, hworld, hseen⟩ := ih false (c.runBatch w)
              refine ⟨_, q, (Runs.batch c w).append (.cons (.elapsed rfl) h), hphase, hworld, ?_⟩
              exact List.cons_prefix_cons.mpr ⟨rfl, hseen⟩
          | flagged stop =>
              obtain ⟨xs, q, h, hphase, hworld, hseen⟩ := ih stop (c.runBatch w)
              refine ⟨_, q, (Runs.batch c w).append (.cons (.given stop rfl) (.cons (.noticed rfl rfl) h)), hphase,
                hworld, ?_⟩
              exact List.cons_prefix_cons.mpr ⟨rfl, hseen⟩
          | abandoned =>
              refine ⟨_, _, (Runs.batch c w).append (.cons .abandoned (.cons (.deserted rfl rfl rfl) .nil)), rfl,
                rfl, ?_⟩
              exact List.prefix_append [_, _] _

end Publisher

/-! ## Stopping -/

open Publisher PublisherConfig

/-- How a publisher stops. -/
structure PublisherConfig.StopsWhenTold (c : PublisherConfig) (σ κ : Type) [Store σ] [Courier κ] : Prop where
  /-- No batch begins while the flag is up, except after a look at it before. -/
  up : ∀ {p q : Publisher σ κ} {xs}, Runs c p xs q → p.flag.value = true → p.phase ≠ .cleared →
    .given false ∉ xs → .began ∉ xs
  /-- Before each batch the publisher looks at the flag, whatever has woken it. -/
  looks : ∀ {p q : Publisher σ κ} {xs}, Runs c p (xs ++ [.began]) q → p.phase ≠ .cleared →
    ∃ before since r, xs = before ++ .looked false :: since ∧ (∀ x ∈ since, x.isOutside = true) ∧
      Runs c p before r ∧ r.phase = .looking ∧ r.flag.value = false
  /-- Nothing that batches come to ends the loop. -/
  failures : ∀ {p q : Publisher σ κ} {xs}, Runs c p xs q → p.flag.value = false → p.flag.abandoned = false →
    p.phase ≠ .stopped → .given true ∉ xs → .abandoned ∉ xs →
    (∀ x ∈ xs, x.isReturn = false) ∧ ∃ ys r, Runs c q (ys ++ [.began]) r ∧ ys.any Moment.isOutside = false
  /-- Lowering the flag leads to another batch. -/
  lowered : ∀ {p q r : Publisher σ κ} {xs}, Passes c p (.given false) q → Runs c q xs r → p.phase ≠ .stopped →
    .given true ∉ xs → .began ∉ xs →
    (∀ x ∈ xs, x.isReturn = false) ∧ ∃ ys v, Runs c r (ys ++ [.began]) v ∧ ys.any Moment.isOutside = false
  returns : ∀ {p q : Publisher σ κ} {xs x}, Runs c p (xs ++ [x]) q → x.isReturn = true →
    ∃ r, Runs c p xs r ∧ (r.phase = .looking ∧ r.flag.value = true ∨
      r.phase = .waiting ∧ r.flag.unseen = false ∧ r.flag.abandoned = true)
  /-- Once it has stopped the publisher does nothing. -/
  rests : ∀ {p q : Publisher σ κ} {xs}, Runs c p xs q → p.phase = .stopped → ∀ x ∈ xs, x.isOutside = true
  /-- The loop runs as many batches as the flag and the signals say, whatever these come to: none if the flag is up, and
  no more once it is raised or nobody is left to raise it; only then it stops. -/
  batches : ∀ (stop : Bool) (signals : List Signal) (w : World σ κ), ∃ results w',
    Batches c (w.note (.publisherStarted c (Courier.name w.courier))) results w' ∧
    results.length = begun stop signals ∧
    c.run stop signals w = (standingAfter stop signals, left (standingAfter stop signals) w')
  /-- A publisher that waits or has stopped is where the loop leads by what it has seen of its flag. -/
  runs : ∀ {flag : StopFlag} {w : World σ κ} {q : Publisher σ κ} {xs} {standing : Standing},
    Runs c (start c flag w) xs q → q.phase = standing.phase →
    ∃ stop signals, xs.filterMap Moment.signal? = .flagged stop :: signals ∧
      c.run stop signals w = (standing, q.world)
  /-- Every series of signals is one that a publisher can see, as far as the loop looks at it. -/
  signals : ∀ (stop : Bool) (signals : List Signal) (w : World σ κ), ∃ flag xs q,
    Runs c (start c flag w) xs q ∧ q.phase = (c.run stop signals w).1.phase ∧ q.world = (c.run stop signals w).2 ∧
    xs.filterMap Moment.signal? <+: .flagged stop :: signals.map Signal.seen

/-- In whatever order its flag is set, given up and noticed and its poll intervals end, and whatever its batches come
to, a publisher stops only if it sees the flag up or nobody is left to set it, and then begins no batch. -/
theorem PublisherConfig.stops_when_told [Store σ] [Courier κ] (c : PublisherConfig) : c.StopsWhenTold σ κ := by
  refine ⟨?_, ?_, ?_, ?_, ?_, ?_, ?_, ?_, ?_⟩
  · exact fun h hup hphase hgiven => h.not_began hup hphase hgiven
  · exact fun h hphase => h.cleared_of_began hphase
  · intro p q xs h hdown hheld hphase hgiven habandoned
    obtain ⟨⟨hq, hgoing⟩, hreturned⟩ := h.goes_on hdown hheld hphase hgiven habandoned
    exact ⟨hreturned, Runs.exists_began c q hq hgoing⟩
  · intro p q r xs hpass h hphase hgiven hbegan
    cases hpass with
    | given stop held =>
        obtain ⟨⟨hr, hgoing⟩, hreturned⟩ := h.not_returned rfl rfl hphase hgiven hbegan
        exact ⟨hreturned, Runs.exists_began c r hr hgoing⟩
  · exact fun h hx => h.told_of_return hx
  · exact fun h hphase => h.only_outside hphase
  · intro stop signals w
    obtain ⟨results, hresults, hlength⟩ := exists_batches c (begun stop signals)
      (w.note (.publisherStarted c (Courier.name w.courier)))
    exact ⟨results, _, hresults, hlength, run_eq c stop signals w⟩
  · exact fun h hphase => h.exists_signals hphase
  · intro stop signals w
    obtain ⟨xs, q, hruns, hphase, hworld, hseen⟩ :=
      exists_runs c signals stop (w.note (.publisherStarted c (Courier.name w.courier)))
    rw [loop_eq] at hphase hworld
    rw [run_eq]
    exact ⟨{ value := stop }, xs, q, hruns, hphase, hworld, hseen⟩

/-- A database on which no transaction can be opened. -/
def refusingWorld : World Session Mailbox where
  store := { onBegin := some { state := none, message := "too many connections" } }
  courier := {}

/-- The outcome of every batch on it. -/
def refusedBatch : Except SettlementError BatchReport :=
  .error (.store Operation.beginContext (.internal "error returned from database: too many connections"))

/-- A publisher goes on after a batch that fails, and stops once its flag is raised while the next one fails. -/
theorem Publisher.stopped_after_failures :
    ∃ q : Publisher Session Mailbox, Runs {} (start {} { value := false } refusingWorld)
        [.looked false, .began, .given false, .ended refusedBatch, .noticed, .looked false, .began, .given true,
          .ended refusedBatch, .elapsed, .looked true] q ∧
      PublisherConfig.run {} false [.flagged false, .flagged true] refusingWorld = (.stopped, q.world) := by
  have hruns : ∃ q : Publisher Session Mailbox, Runs {} (start {} { value := false } refusingWorld)
      [.looked false, .began, .given false, .ended refusedBatch, .noticed, .looked false, .began, .given true,
        .ended refusedBatch, .elapsed, .looked true] q ∧ q.phase = .stopped :=
    ⟨_, .cons (.cleared rfl rfl) (.cons (.began rfl) (.cons (.given false rfl) (.cons (.ended rfl rfl)
      (.cons (.noticed rfl rfl) (.cons (.cleared rfl rfl) (.cons (.began rfl) (.cons (.given true rfl)
      (.cons (.ended rfl rfl) (.cons (.elapsed rfl) (.cons (.told rfl rfl) .nil)))))))))), rfl⟩
  obtain ⟨q, h, hphase⟩ := hruns
  have hstops : PublisherConfig.StopsWhenTold {} Session Mailbox := stops_when_told {}
  have hstopped : q.phase = Standing.stopped.phase := hphase
  obtain ⟨stop, signals, hseen, hrun⟩ := hstops.runs h hstopped
  cases hseen
  exact ⟨q, h, hrun⟩

end Clearing
