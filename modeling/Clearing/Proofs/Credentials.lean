import Clearing.Proofs.History
import Clearing.Proofs.Lemmas.VeiledRuns
import Mathlib.Logic.Equiv.Basic

/-!
# Credentials are never seen

Passwords and secret codes are kept in the rows of a store, and nothing that can be seen from outside depends on them.
Two runs in which users register with other passwords, and in which all codes go by other names, give the same results
as far as these are written out, log the same, and hand over the same messages.
-/

namespace Clearing

variable {κ : Type} {f : String → String}

/-! ## Commands -/

section Commands

variable {e : Execution} {paid received : Decimal}

theorem Execution.exchange_veiled {buyer seller : Wallet} :
    (e.exchange buyer seller paid received).Veiled f (· = ·) (e.exchange buyer seller paid received) := by
  refine .bind (.ofExcept fun buyerBalance => ?_)
  refine .bind (.ofExcept fun sellerBalance => ?_)
  refine .bind (.query rfl fun trade => ?_)
  refine .bind (.query rfl fun buyerWallet => ?_)
  refine .bind (.query rfl fun sellerWallet => ?_)
  exact .pure rfl

theorem Execution.settleWithin_veiled (walletId : Uuid) : (e.settleWithin walletId paid received).Veiled f (· = ·)
    (e.settleWithin walletId paid received) := by
  refine .bind (.query rfl fun wallet => ?_)
  refine .bind (.ofOption fun net => ?_)
  refine .bind (.ofExcept fun balance => ?_)
  refine .bind (.query rfl fun trade => ?_)
  refine .bind (.query rfl fun updated => ?_)
  exact .pure rfl

theorem Execution.settleBetween_veiled (buyerId sellerId : Uuid) :
    (e.settleBetween buyerId sellerId paid received).Veiled f (· = ·)
      (e.settleBetween buyerId sellerId paid received) := by
  refine .bind (.query rfl fun first => ?_)
  refine .bind (.query rfl fun second => ?_)
  exact exchange_veiled

theorem Execution.work_veiled (e : Execution) : e.work.Veiled f (· = ·) e.work := by
  refine .bind (.ofOption fun deltas => ?_)
  refine .bind (.query rfl fun buy => ?_)
  refine .bind (.query rfl fun sell => ?_)
  refine .bind (.ofExcept fun _ => ?_)
  refine .bind (.query rfl fun market => ?_)
  refine .bind (.query rfl fun buyer => ?_)
  refine .bind (.query rfl fun seller => ?_)
  split
  · exact settleWithin_veiled _
  · exact settleBetween_veiled _ _

theorem FillRequest.work_veiled (r : FillRequest) : r.work.Veiled f (· = ·) r.work := by
  refine .bind (.query rfl fun order => ?_)
  refine .bind (.ofExcept fun _ => ?_)
  refine .bind (.query rfl fun updated => ?_)
  exact .pure rfl

theorem Transfer.posted_veiled (t : Transfer) (sizing : SizingPolicy) :
    (t.posted sizing).Veiled f (· = ·) (t.posted sizing) := by
  rw [posted]
  split
  · exact .done rfl
  · cases sizing with
    | globalMaxBalance =>
        refine .bind (.query rfl fun wallets => ?_)
        exact .ofOption fun _ => rfl
    | accountBalance =>
        refine .bind (.query rfl fun found => ?_)
        refine .bind (.query rfl fun wallet => ?_)
        refine .bind (.require ?_)
        exact .pure rfl

theorem Transfer.work_veiled (t : Transfer) (sizing : SizingPolicy) (rates : FeeRates) :
    (t.work sizing rates).Veiled f (· = ·) (t.work sizing rates) := by
  refine .bind ((t.posted_veiled sizing).mono ?_)
  rintro amount _ rfl
  refine .bind (.require ?_)
  refine .bind (.query rfl fun entry => ?_)
  refine .bind (.query rfl fun fee => ?_)
  exact .pure rfl

theorem LedgerEntry.moveWork_veiled (id : Uuid) (status : TransferStatus) :
    (moveWork id status).Veiled f (· = ·) (moveWork id status) := by
  refine .bind (.query rfl fun entry => ?_)
  refine .bind (.ofExcept fun _ => ?_)
  exact .query (q := .updateLedgerStatus id status) rfl fun _ => rfl

theorem Wallet.currenciesWork_veiled (userId : Uuid) (base quote : String) :
    (currenciesWork userId base quote).Veiled f (· = ·) (currenciesWork userId base quote) := by
  refine .bind (.query rfl fun wallets => ?_)
  refine .bind (.ofExcept fun _ => ?_)
  exact .ofExcept fun _ => rfl

namespace PublisherConfig

variable (c : PublisherConfig)

theorem publishRow_veiled (r : BatchReport) (m : OutboxMessage) :
    (c.publishRow r m).Veiled f (· = ·) (c.publishRow r m) := by
  refine .bind (.deliver fun answer => ?_)
  cases answer with
  | ok taskId =>
      refine .bind (.query (q := .markPublished m.id) rfl fun _ => ?_)
      refine .bind (.report ?_)
      exact .pure rfl
  | error e =>
      refine .bind (.query (q := .recordFailure m.id _ _) rfl fun _ => ?_)
      split
      · refine .bind (.report ?_)
        exact .pure rfl
      · refine .bind (.report ?_)
        exact .pure rfl

theorem publishRows_veiled (r : BatchReport) (rows : List OutboxMessage) :
    (c.publishRows r rows).Veiled f (· = ·) (c.publishRows r rows) := by
  induction rows generalizing r with
  | nil => exact .done rfl
  | cons m rest ih =>
      refine .bind ((c.publishRow_veiled r m).mono ?_)
      rintro r' _ rfl
      exact ih r'

theorem batchWork_veiled : c.batchWork.Veiled f (· = ·) c.batchWork := by
  refine .bind (.query rfl fun rows => ?_)
  exact c.publishRows_veiled .empty rows

end PublisherConfig

/-- The same user, registered with another password. -/
def RegisteredUser.Veiled (r r' : RegisteredUser) : Prop :=
  ∃ passwordHash, r' = { r with user := { r.user with passwordHash := passwordHash } }

/-- The same user with another password, verified by a code of another name. -/
def VerifiedUser.Veiled (f : String → String) (r r' : VerifiedUser) : Prop :=
  ∃ passwordHash, r' = {
    user := { r.user with passwordHash := passwordHash }
    verification := r.verification.renamed f }

theorem Registration.work_veiled (r : Registration) (options : TaskOptions) (passwordHash : String) :
    (r.work options).Veiled f RegisteredUser.Veiled
      (work options { r with passwordHash := passwordHash }) := by
  refine .bind (.insertUser fun u u' hu => .done ?_)
  refine .bind (.query rfl fun row => ?_)
  obtain ⟨passwordHash, rfl⟩ := hu
  exact .pure ⟨passwordHash, rfl⟩

theorem Verification.work_veiled (id : Int) (code : String) :
    (work id code).Veiled f (VerifiedUser.Veiled f) (work id (f code)) := by
  refine .bind (.consumeVerification fun v => .done ?_)
  refine .bind (.markUserVerified fun u u' hu => .done ?_)
  obtain ⟨passwordHash, rfl⟩ := hu
  exact .pure ⟨passwordHash, rfl⟩

/-- Two commands that differ in secrets at most: a registration in the password, and the return of a code in the name
of the code. -/
def Command.SameButSecrets (f : String → String) : Command → Command → Prop
  | .registerUser registration, c =>
    ∃ passwordHash, c = .registerUser { registration with passwordHash := passwordHash }
  | .verifyEmail id code, c => c = .verifyEmail id (f code)
  | c, c' => c' = c

/-- What is seen of a result: its serialized form, or the result itself if none is defined. -/
inductive Shown where
  | serialized (v : Json)
  | filled (report : FillReport)
  | counted (report : BatchReport)
  | done

/-- What is seen of the result of a command. -/
def Command.shown : (c : Command) → c.Result → Shown
  | .settleTrade _, r => .serialized (json r)
  | .updateFill _, r => .filled r
  | .postTransfer .., r => .serialized (json r)
  | .moveEntry .., r => .serialized (json r)
  | .registerUser _, r => .serialized (json r)
  | .verifyEmail .., r => .serialized (json r)
  | .checkCurrencies .., _ => .done
  | .publishBatch _, r => .counted r

/-! ### What is written out and logged -/

theorem User.Veiled.json_eq {u u' : User} (h : u.Veiled u') : json u' = json u := by
  obtain ⟨passwordHash, rfl⟩ := h
  rfl

theorem Verification.json_renamed (f : String → String) (v : Verification) : json (v.renamed f) = json v := rfl

theorem RegisteredUser.Veiled.json_eq {r r' : RegisteredUser} (h : r.Veiled r') : json r' = json r := by
  obtain ⟨passwordHash, rfl⟩ := h
  rfl

theorem VerifiedUser.Veiled.json_eq {r r' : VerifiedUser} (h : r.Veiled f r') : json r' = json r := by
  obtain ⟨passwordHash, rfl⟩ := h
  rfl

theorem RegisteredUser.Veiled.shown_eq {r r' : RegisteredUser} (h : r.Veiled r') :
    (Event.userRegistered r').shown = (Event.userRegistered r).shown := by
  obtain ⟨passwordHash, rfl⟩ := h
  rfl

theorem VerifiedUser.Veiled.shown_eq {r r' : VerifiedUser} (h : r.Veiled f r') (id : Int) :
    (Event.emailVerified r'.user.id id).shown = (Event.emailVerified r.user.id id).shown := by
  obtain ⟨passwordHash, rfl⟩ := h
  rfl

/-! ### Calls -/

variable [Courier κ] {v w : World MemoryStore κ}

/-- What is the same about two calls: what is seen of their outcomes, and the messages that they hand over. -/
structure Service.CallsVeiled (f : String → String) (s : Service) (c c' : Command) (v w : World MemoryStore κ) :
    Prop where
  outcome : (s.perform c' w).1.map c'.shown = (s.perform c v).1.map c.shown
  worlds : (s.perform c v).2.Veiled f (s.perform c' w).2
  handed : handed (s.trace c' w) = handed (s.trace c v)

theorem Service.callsVeiled_of_work {s : Service} {c c' : Command} {R : c.Result → c'.Result → Prop}
    (hf : Function.Injective f) (h : v.Veiled f w) (hname : (s.operation c').name = (s.operation c).name)
    (hcheck : (s.operation c').check = (s.operation c).check)
    (hwork : (s.operation c).work.Veiled f R (s.operation c').work)
    (hreport : ∀ a b, R a b → ((s.operation c').report b).map Event.shown = ((s.operation c).report a).map Event.shown)
    (hshown : ∀ a b, R a b → c'.shown b = c.shown a) : s.CallsVeiled f c c' v w := by
  have hperform : EndsVeiled (World.Veiled f) R (s.perform c v) (s.perform c' w) :=
    Operation.perform_veiled hf hcheck hwork h hname hreport
  have hhanded : Clearing.handed (s.trace c' w) = Clearing.handed (s.trace c v) :=
    Operation.handed_veiled hf hcheck hwork h
  suffices hends : (s.perform c' w).1.map c'.shown = (s.perform c v).1.map c.shown ∧
      (s.perform c v).2.Veiled f (s.perform c' w).2 from ⟨hends.1, hends.2, hhanded⟩
  generalize s.perform c v = x at hperform
  generalize s.perform c' w = y at hperform
  cases hperform with
  | ok values worlds => exact ⟨congrArg Except.ok (hshown _ _ values), worlds⟩
  | error e worlds => exact ⟨rfl, worlds⟩

theorem Service.callsVeiled_self {s : Service} {c : Command} (hf : Function.Injective f) (h : v.Veiled f w)
    (hwork : (s.operation c).work.Veiled f (· = ·) (s.operation c).work) : s.CallsVeiled f c c v w :=
  callsVeiled_of_work hf h rfl rfl hwork (fun a b hab => by rw [hab]) fun a b hab => by rw [hab]

theorem Service.callsVeiled (s : Service) {c c' : Command} (hf : Function.Injective f) (hc : c.SameButSecrets f c')
    (h : v.Veiled f w) : s.CallsVeiled f c c' v w := by
  cases c with
  | registerUser registration =>
      obtain ⟨passwordHash, rfl⟩ := hc
      exact callsVeiled_of_work hf h rfl rfl (registration.work_veiled s.task passwordHash)
        (fun r r' hr => congrArg (fun x => [x]) hr.shown_eq) fun r r' hr => congrArg Shown.serialized hr.json_eq
  | verifyEmail id code =>
      obtain rfl := hc
      exact callsVeiled_of_work hf h rfl rfl (Verification.work_veiled id code)
        (fun r r' hr => congrArg (fun x => [x]) (hr.shown_eq id)) fun r r' hr => congrArg Shown.serialized hr.json_eq
  | settleTrade e =>
      obtain rfl := hc
      exact callsVeiled_self hf h e.work_veiled
  | updateFill request =>
      obtain rfl := hc
      exact callsVeiled_self hf h request.work_veiled
  | postTransfer transfer rates =>
      obtain rfl := hc
      exact callsVeiled_self hf h (transfer.work_veiled s.sizing rates)
  | moveEntry id status =>
      obtain rfl := hc
      exact callsVeiled_self hf h (LedgerEntry.moveWork_veiled id status)
  | checkCurrencies userId base quote =>
      obtain rfl := hc
      exact callsVeiled_self hf h (Wallet.currenciesWork_veiled userId base quote)
  | publishBatch config =>
      obtain rfl := hc
      exact callsVeiled_self hf h config.batchWork_veiled

end Commands

/-! ## Runs -/

/-- Two actions that differ in secrets at most. -/
def Action.SameButSecrets (f : String → String) : Action κ → Action κ → Prop
  | .seedVerification username email code seconds, a => a = .seedVerification username email (f code) seconds
  | .perform s c, a => ∃ c', c.SameButSecrets f c' ∧ a = .perform s c'
  | a, a' => a' = a

section Runs

variable {v w : World MemoryStore κ}

theorem World.Veiled.seed (h : v.Veiled f w) (g g' : Tables → Tables)
    (hrows : (g v.store.committed).Veiled f (g' w.store.committed)) :
    World.Veiled f { v with store := v.store.drawn.amend g } { w with store := w.store.drawn.amend g' } where
  committed := hrows
  others := by
    rw [MemoryStore.amend, MemoryStore.drawn, h.others]
    rfl
  courier := h.courier
  log := h.log

/-- What two worlds have in common that are seen to be alike: what is logged, the courier, the serialized forms of users
and verifications, and all other rows, those of the outbox among them. -/
structure World.SeenAlike (v w : World MemoryStore κ) : Prop where
  log : w.log.map Event.shown = v.log.map Event.shown
  courier : w.courier = v.courier
  users : w.store.committed.users.rows.map json = v.store.committed.users.rows.map json
  verifications : w.store.committed.verifications.rows.map json = v.store.committed.verifications.rows.map json
  others : w.store.committed =
    { v.store.committed with
      users := w.store.committed.users
      verifications := w.store.committed.verifications }

theorem World.Veiled.seenAlike (h : v.Veiled f w) : v.SeenAlike w where
  log := h.log
  courier := h.courier
  users := h.committed.users.map_eq fun _ _ => User.Veiled.json_eq
  verifications := h.committed.verifications.map_eq fun u u' hu => by rw [hu, Verification.json_renamed]
  others := h.committed.others

theorem World.Veiled.of_empty (h : w.store.committed = {}) : w.Veiled f w where
  committed := by
    rw [h]
    exact ⟨.nil, .nil, rfl⟩
  others := rfl
  courier := rfl
  log := rfl

variable [Courier κ] {a a' : Action κ}

/-- What is seen of the result of an action: a seeded row in its serialized form, or the outcome of a command. -/
def Action.shown (w : World MemoryStore κ) : Action κ → List (Except SettlementError Shown)
  | .seedUser username email => [.ok (.serialized (json (w.store.seedUser username email).1))]
  | .seedWallet userId currency balance => [.ok (.serialized (json (w.store.seedWallet userId currency balance).1))]
  | .seedMarket base quote => [.ok (.serialized (json (w.store.seedMarket base quote).1))]
  | .seedOrder userId marketId side price amount =>
    [.ok (.serialized (json (w.store.seedOrder userId marketId side price amount).1))]
  | .seedVerification username email code seconds =>
    [.ok (.serialized (json (w.store.seedVerification username email code seconds).1))]
  | .perform s c => [(s.perform c w).1.map c.shown]
  | .injectFault .. | .setIds _ | .setClock _ | .setCourier _ => []

structure Action.ActsVeiled (f : String → String) (a a' : Action κ) (v w : World MemoryStore κ) : Prop where
  shown : a'.shown w = a.shown v
  worlds : (a.apply v).Veiled f (a'.apply w)
  handed : handed (a'.trace w) = handed (a.trace v)

theorem Action.actsVeiled (hf : Function.Injective f) (ha : a.SameButSecrets f a') (h : v.Veiled f w) :
    a.ActsVeiled f a' v w := by
  have hids : w.store.ids = v.store.ids := by rw [h.others]
  have hnow : w.store.now = v.store.now := by rw [h.others]
  have hrows := h.committed
  cases a with
  | perform s c =>
      obtain ⟨c', hc, rfl⟩ := ha
      have hcalls := s.callsVeiled hf hc h
      exact ⟨congrArg (fun x => [x]) hcalls.outcome, hcalls.worlds, hcalls.handed⟩
  | seedUser username email =>
      obtain rfl := ha
      have huser : (w.store.seedUser username email).1 = (v.store.seedUser username email).1 := by
        simp only [MemoryStore.seedUser, hids, hnow]
      refine ⟨by simp only [shown, huser], h.seed (·.putUser _) (·.putUser _) ?_, rfl⟩
      simp only [hids, hnow]
      exact h.committed.putUser ⟨_, rfl⟩
  | seedWallet userId currency balance =>
      obtain rfl := ha
      have hwallet : (w.store.seedWallet userId currency balance).1 =
          (v.store.seedWallet userId currency balance).1 := by
        simp only [MemoryStore.seedWallet, hids, hnow]
      refine ⟨by simp only [shown, hwallet], h.seed (·.putWallet _) (·.putWallet _) ?_, rfl⟩
      simp only [hids, hnow]
      exact h.committed.putWallet _
  | seedMarket base quote =>
      obtain rfl := ha
      have hmarket : (w.store.seedMarket base quote).1 = (v.store.seedMarket base quote).1 := by
        simp only [MemoryStore.seedMarket, hids, hnow]
      refine ⟨by simp only [shown, hmarket], h.seed (·.putMarket _) (·.putMarket _) ?_, rfl⟩
      simp only [hids, hnow]
      exact h.committed.putMarket _
  | seedOrder userId marketId side price amount =>
      obtain rfl := ha
      have horder : (w.store.seedOrder userId marketId side price amount).1 =
          (v.store.seedOrder userId marketId side price amount).1 := by
        simp only [MemoryStore.seedOrder, hids, hnow]
      refine ⟨by simp only [shown, horder], h.seed (·.putOrder _) (·.putOrder _) ?_, rfl⟩
      simp only [hids, hnow]
      exact h.committed.putOrder _
  | seedVerification username email code seconds =>
      obtain rfl := ha
      have hadded := h.committed.addVerification username email code v.store.now (v.store.now.addSeconds seconds)
      refine ⟨?_, ⟨?_, ?_, h.courier, h.log⟩, rfl⟩
      · simp only [shown, MemoryStore.seedVerification, hnow, hadded.1, Verification.json_renamed]
      · simp only [apply, MemoryStore.seedVerification, MemoryStore.amend, hnow]
        exact hadded.2
      · simp only [apply, MemoryStore.seedVerification, MemoryStore.amend]
        rw [h.others]
  | injectFault point e =>
      obtain rfl := ha
      refine ⟨rfl, { h with others := ?_ }, rfl⟩
      simp only [apply, MemoryStore.injectFault]
      rw [h.others]
  | setIds ids =>
      obtain rfl := ha
      refine ⟨rfl, { h with others := ?_ }, rfl⟩
      simp only [apply]
      rw [h.others]
  | setClock now =>
      obtain rfl := ha
      refine ⟨rfl, { h with others := ?_ }, rfl⟩
      simp only [apply]
      rw [h.others]
  | setCourier courier =>
      obtain rfl := ha
      exact ⟨rfl, { h with courier := rfl }, rfl⟩

variable {actions actions' : List (Action κ)}

/-- Runs that differ in secrets at most are seen to do the same, action by action. -/
theorem World.after_veiled (hf : Function.Injective f) (hsame : List.Forall₂ (Action.SameButSecrets f) actions actions')
    (h : v.Veiled f w) :
    (v.after actions).Veiled f (w.after actions') ∧
    w.gather Action.shown actions' = v.gather Action.shown actions ∧
    w.gather (fun u a => handed (a.trace u)) actions' = v.gather (fun u a => handed (a.trace u)) actions := by
  induction hsame generalizing v w with
  | nil => exact ⟨h, rfl, rfl⟩
  | cons ha hrest ih =>
      have hacts := Action.actsVeiled hf ha h
      obtain ⟨hworlds, hshown, hhanded⟩ := ih hacts.worlds
      exact ⟨hworlds, congrArg₂ (· ++ ·) hacts.shown hshown, congrArg₂ (· ++ ·) hacts.handed hhanded⟩

/-- Passwords and codes are never seen. From a store without rows, runs that differ in passwords and in the names of
codes have the same results as far as these are written out, hand over the same messages, log the same, and leave
behind the same rows, users and verifications as far as these are written out. -/
theorem World.credentials_unseen (hf : Function.Injective f) (hempty : w.store.committed = {})
    (hsame : List.Forall₂ (Action.SameButSecrets f) actions actions') :
    w.gather Action.shown actions' = w.gather Action.shown actions ∧
    w.gather (fun u a => handed (a.trace u)) actions' = w.gather (fun u a => handed (a.trace u)) actions ∧
    (w.after actions).SeenAlike (w.after actions') := by
  obtain ⟨hworlds, hshown, hhanded⟩ := after_veiled hf hsame (.of_empty hempty)
  exact ⟨hshown, hhanded, hworlds.seenAlike⟩

end Runs

/-- A user registers, returns a code that has not been mailed, and then the one that has. -/
def registrationRun (passwordHash code guess : String) : List (Action Mailbox) := [
  .perform {} (.registerUser { username := "ada", email := "ada@example.com", passwordHash, role := .user }),
  .seedVerification "ada" "ada@example.com" code 3600,
  .perform {} (.verifyEmail 1 guess),
  .perform {} (.verifyEmail 1 code),
  .perform {} (.publishBatch {})]

theorem World.registrations_seen_alike :
    let actions := registrationRun "first" "123456" "654321"
    let actions' := registrationRun "second" "654321" "123456"
    (emptyWorld.after actions).store.committed.users.rows.map (·.passwordHash) = ["first"] ∧
    (emptyWorld.after actions').store.committed.users.rows.map (·.passwordHash) = ["second"] ∧
    (emptyWorld.gather Action.shown actions).map Except.isOk = [true, true, false, true, true] ∧
    emptyWorld.gather Action.shown actions' = emptyWorld.gather Action.shown actions ∧
    emptyWorld.gather (fun u a => handed (a.trace u)) actions' =
      emptyWorld.gather (fun u a => handed (a.trace u)) actions ∧
    (emptyWorld.after actions).SeenAlike (emptyWorld.after actions') := by
  refine ⟨by decide +kernel, by decide +kernel, by decide +kernel, ?_⟩
  refine credentials_unseen (Equiv.swap "123456" "654321").injective rfl ?_
  have hguess : Equiv.swap "123456" "654321" "654321" = "123456" := Equiv.swap_apply_right ..
  have hcode : Equiv.swap "123456" "654321" "123456" = "654321" := Equiv.swap_apply_left ..
  refine .cons ⟨_, ⟨"second", rfl⟩, rfl⟩ (.cons ?_ (.cons ⟨_, rfl, ?_⟩ (.cons ⟨_, rfl, ?_⟩ (.cons ⟨_, rfl, rfl⟩ .nil))))
  · show _ = Action.seedVerification _ _ (Equiv.swap _ _ _) _
    rw [hcode]
  · rw [hguess]
  · rw [hcode]

end Clearing
