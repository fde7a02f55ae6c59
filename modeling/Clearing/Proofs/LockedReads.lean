import Clearing.Proofs.Lemmas.Lookups
import Clearing.Proofs.Lemmas.Rows
import Clearing.Proofs.TransactionBracket
import Clearing.Proofs.WalletAccess

/-!
# Balances come from locked rows

Of a wallet that is looked up, every command uses the identifier only: what it sends and how it ends do not depend on
the rest. What a settlement writes to a wallet is computed from the row that the lock has given.
-/

namespace Clearing

open Sql

variable {α β κ : Type}

/-! ## Every command uses identifiers only -/

namespace Execution

variable {e : Execution} {paid received : Decimal}

theorem exchange_idsOnly {buyer seller : Wallet} : (e.exchange buyer seller paid received).IdsOnly := by
  refine .bind .ofExcept fun buyerBalance => ?_
  refine .bind .ofExcept fun sellerBalance => ?_
  refine .bind (.query fun _ _ h => h) fun trade => ?_
  refine .bind (.query fun _ _ h => h) fun buyerWallet => ?_
  exact .bind (.query fun _ _ h => h) fun sellerWallet => trivial

theorem settleWithin_idsOnly (walletId : Uuid) : (e.settleWithin walletId paid received).IdsOnly := by
  refine .bind (.query fun _ _ h => h) fun wallet => ?_
  refine .bind .ofOption fun net => ?_
  refine .bind .ofExcept fun balance => ?_
  refine .bind (.query fun _ _ h => h) fun trade => ?_
  exact .bind (.query fun _ _ h => h) fun updated => trivial

theorem settleBetween_idsOnly (buyerId sellerId : Uuid) :
    (e.settleBetween buyerId sellerId paid received).IdsOnly := by
  refine .bind (.query fun _ _ h => h) fun first => ?_
  refine .bind (.query fun _ _ h => h) fun second => ?_
  exact exchange_idsOnly

theorem work_idsOnly (e : Execution) : e.work.IdsOnly := by
  refine .bind .ofOption fun deltas => ?_
  refine .bind (.query fun _ _ h => h) fun buy => ?_
  refine .bind (.query fun _ _ h => h) fun sell => ?_
  refine .bind .ofExcept fun _ => ?_
  refine .bind (.query fun _ _ h => h) fun market => ?_
  refine .lookup_bind (fun buyer buyer' h => ?_) fun buyer => ?_
  · simp only [h]
  · refine .lookup_bind (fun seller seller' h => ?_) fun seller => ?_
    · simp only [h]
    · split
      · exact settleWithin_idsOnly _
      · exact settleBetween_idsOnly _ _

end Execution

theorem FillRequest.work_idsOnly (r : FillRequest) : r.work.IdsOnly := by
  refine .bind (.query fun _ _ h => h) fun order => ?_
  refine .bind .ofExcept fun _ => ?_
  exact .bind (.query fun _ _ h => h) fun updated => trivial

namespace Transfer

/-- The amount of a withdrawal is checked against the wallet that is locked, not against the one that is found. -/
theorem posted_idsOnly (t : Transfer) (sizing : SizingPolicy) : (t.posted sizing).IdsOnly := by
  rw [posted]
  split
  · trivial
  · cases sizing with
    | globalMaxBalance => exact .bind (.query fun _ _ h => h) fun wallets => .ofOption
    | accountBalance =>
        refine .lookup_bind (fun found found' h => ?_) fun found => ?_
        · rw [h]
        · refine .bind (.query fun _ _ h => h) fun wallet => ?_
          exact .bind .require fun _ => trivial

theorem work_idsOnly (t : Transfer) (sizing : SizingPolicy) (rates : FeeRates) : (t.work sizing rates).IdsOnly := by
  refine .bind (t.posted_idsOnly sizing) fun amount => ?_
  refine .bind .require fun _ => ?_
  refine .bind (.query fun _ _ h => h) fun entry => ?_
  exact .bind (.query fun _ _ h => h) fun fee => trivial

end Transfer

theorem LedgerEntry.moveWork_idsOnly (id : Uuid) (status : TransferStatus) : (moveWork id status).IdsOnly := by
  refine .bind (.query fun _ _ h => h) fun entry => ?_
  exact .bind .ofExcept fun _ => .query fun _ _ h => h

theorem Registration.work_idsOnly (r : Registration) (options : TaskOptions) : (r.work options).IdsOnly := by
  refine .bind (.query fun _ _ h => h) fun user => ?_
  exact .bind (.query fun _ _ h => h) fun row => trivial

theorem Verification.work_idsOnly (id : Int) (secretCode : String) : (work id secretCode).IdsOnly := by
  refine .bind (.query fun _ _ h => h) fun verification => ?_
  exact .bind (.query fun _ _ h => h) fun user => trivial

theorem Wallet.currenciesWork_idsOnly (userId : Uuid) (base quote : String) :
    (currenciesWork userId base quote).IdsOnly := by
  refine .bind (.query fun _ _ h => h) fun wallets => ?_
  exact .bind .ofExcept fun _ => .ofExcept

namespace PublisherConfig

variable {config : PublisherConfig} {r : BatchReport}

theorem publishRow_idsOnly (m : OutboxMessage) : (config.publishRow r m).IdsOnly := by
  refine .bind .deliver fun x => ?_
  cases x with
  | ok taskId =>
      refine .bind (.query fun _ _ h => h) fun _ => ?_
      exact .bind .report fun _ => trivial
  | error e =>
      refine .bind (.query fun _ _ h => h) fun _ => ?_
      split <;> exact .bind .report fun _ => trivial

theorem publishRows_idsOnly (rows : List OutboxMessage) : (config.publishRows r rows).IdsOnly := by
  induction rows generalizing r with
  | nil => trivial
  | cons m rest ih => exact .bind (publishRow_idsOnly m) fun _ => ih

end PublisherConfig

theorem Service.work_idsOnly (s : Service) (c : Command) : (s.operation c).work.IdsOnly := by
  cases c with
  | settleTrade e => exact e.work_idsOnly
  | updateFill request => exact request.work_idsOnly
  | postTransfer t rates => exact t.work_idsOnly s.sizing rates
  | moveEntry id status => exact LedgerEntry.moveWork_idsOnly id status
  | registerUser registration => exact registration.work_idsOnly s.task
  | verifyEmail id code => exact Verification.work_idsOnly id code
  | checkCurrencies userId base quote => exact Wallet.currenciesWork_idsOnly userId base quote
  | publishBatch config =>
      exact .bind (.query fun _ _ h => h) fun rows => PublisherConfig.publishRows_idsOnly rows

/-! ## What a settlement writes -/

namespace Sql

/-- The statement that reads a wallet by its identifier and locks its row. -/
def Statement.walletForUpdate (id : Uuid) : Statement :=
  .select { relation := .wallets, conditions := [whose "id" id], lock := some .waiting }

example (id : Uuid) : (Statement.walletForUpdate id).sql =
    "SELECT id, user_id, currency, balance, locked_balance, created_at FROM wallets WHERE id = $1 FOR UPDATE" := rfl

/-- The statement that writes both balances of a wallet. -/
def Statement.walletUpdate (id : Uuid) (balance lockedBalance : Decimal) : Statement :=
  .update .wallets [set "balance" balance, set "locked_balance" lockedBalance] [whose "id" id] true

example : (Statement.walletUpdate (.ofNat 1) .zero .zero).sql =
    "UPDATE wallets SET balance = $2, locked_balance = $3 WHERE id = $1 " ++
      "RETURNING id, user_id, currency, balance, locked_balance, created_at" := by decide +kernel

namespace Turn

/-- What a turn tells of its query. -/
def exchange (x : Turn) : Exchange where
  request := .ask x.query
  answer := (Session.reading x.query x.answer).1

/-- A turn is answered with this wallet. -/
def Lists (x : Turn) (wallet : Wallet) : Prop := ∃ a, x.answer = .ok a ∧ readOne readWallet a = .ok wallet

/-- A turn sends the statement of its query. -/
def Sends (x : Turn) : Prop := ∃ s : Session, x = s.turn x.query

end Turn

/-- One of these turns has locked a wallet and was answered with this row, and no other one that has locked it was
answered with a row. -/
def RowLocked (turns : List Turn) (id : Uuid) (row : Wallet) : Prop :=
  ∃ before x after, turns = before ++ x :: after ∧ x.statement = .walletForUpdate id ∧ x.Lists row ∧
    ∀ y ∈ before ++ after, y.statement = .walletForUpdate id → ∀ other, ¬ y.Lists other

/-- Every lock is answered with the wallet asked for. -/
def LocksTruthful (turns : List Turn) : Prop :=
  ∀ x ∈ turns, ∀ id row, x.statement = .walletForUpdate id → x.Lists row → row.id = id

/-- Only a lock of a wallet is sent as one. -/
theorem statement_eq_walletForUpdate_iff {fresh id : Uuid} {q : Query} :
    statement fresh q = .walletForUpdate id ↔ q = .lockWallet id := by
  constructor
  · intro h
    cases q with
    | lockWallet asked =>
        have hid : whose "id" asked = whose "id" id := by
          rw [statement, byId, Statement.walletForUpdate] at h
          injection h with h
          injection h with _ h
          exact List.head_eq_of_cons_eq h
        injection hid with _ hid
        injection hid with hid
        injection hid with hid
        rw [hid]
    | findWallet | listUserWallets | listLargestWallets =>
        injection h with h
        cases congrArg Selection.lock h
    | _ => cases h
  · rintro rfl
    rfl

section Locks

variable {x : Turn} {turns : List Turn} {id : Uuid} {row : Wallet}

theorem Turn.Sends.statement_eq_iff (h : x.Sends) : x.statement = .walletForUpdate id ↔ x.query = .lockWallet id := by
  obtain ⟨s, hs⟩ := h
  rw [hs]
  exact statement_eq_walletForUpdate_iff

theorem Turn.lockedRow_exchange (h : x.Sends) :
    x.exchange.lockedRow id = [row] ↔ x.statement = .walletForUpdate id ∧ x.Lists row := by
  rw [h.statement_eq_iff]
  obtain ⟨q, sent, answer⟩ := x
  constructor
  · intro hrow
    cases q with
    | lockWallet asked =>
        cases hread : (Session.reading (.lockWallet asked) answer).1 with
        | error e =>
            simp only [exchange, hread, Exchange.lockedRow] at hrow
            cases hrow
        | ok wallet =>
            simp only [exchange, hread, Exchange.lockedRow] at hrow
            split at hrow
            · next hid =>
                cases hrow
                exact ⟨congrArg _ hid, Session.reading_eq_ok_iff.mp hread⟩
            · cases hrow
    | _ => cases hrow
  · rintro ⟨rfl, hlists⟩
    have hread : (Session.reading (.lockWallet id) answer).1 = .ok row := Session.reading_eq_ok_iff.mpr hlists
    simp only [exchange, hread, Exchange.lockedRow, if_pos]

theorem Turn.isTruthful_exchange (h : x.Sends) :
    x.exchange.isTruthful ↔ ∀ id row, x.statement = .walletForUpdate id → x.Lists row → row.id = id := by
  simp only [h.statement_eq_iff]
  obtain ⟨q, sent, answer⟩ := x
  constructor
  · rintro htruthful id row rfl hlists
    have hread : (Session.reading (.lockWallet id) answer).1 = .ok row := Session.reading_eq_ok_iff.mpr hlists
    simpa only [exchange, hread, Exchange.isTruthful, decide_eq_true_eq] using htruthful
  · intro hlock
    cases q with
    | lockWallet asked =>
        cases hread : (Session.reading (.lockWallet asked) answer).1 with
        | error e => simp only [exchange, hread, Exchange.isTruthful]
        | ok wallet =>
            simp only [exchange, hread, Exchange.isTruthful, decide_eq_true_eq]
            exact hlock asked wallet rfl (Session.reading_eq_ok_iff.mp hread)
    | _ => rfl

/-- The only row that a trace was given for locks of a wallet is that of the only turn that has locked it. -/
theorem RowLocked.of_lockedRows (hsends : ∀ x ∈ turns, x.Sends)
    (h : lockedRows id (turns.map Turn.exchange) = [row]) : RowLocked turns id row := by
  induction turns with
  | nil => cases h
  | cons x rest ih =>
      have hx := hsends x (List.mem_cons_self ..)
      have hrest : ∀ y ∈ rest, y.Sends := fun y hy => hsends y (List.mem_cons_of_mem _ hy)
      rw [List.map_cons, lockedRows, List.flatMap_cons] at h
      rcases List.append_eq_singleton_iff.mp h with ⟨hnone, hrow⟩ | ⟨hrow, hnone⟩
      · obtain ⟨before, y, after, rfl, hy, hlists, hothers⟩ := ih hrest hrow
        have hfirst : x.statement = .walletForUpdate id → ∀ other, ¬ x.Lists other := by
          intro hlock other hother
          cases hnone.symm.trans ((Turn.lockedRow_exchange hx).mpr ⟨hlock, hother⟩)
        exact ⟨x :: before, y, after, rfl, hy, hlists, List.forall_mem_cons.mpr ⟨hfirst, hothers⟩⟩
      · obtain ⟨hlock, hlists⟩ := (Turn.lockedRow_exchange hx).mp hrow
        refine ⟨[], x, rest, rfl, hlock, hlists, fun y hy hlock other hother => ?_⟩
        have hempty := List.flatMap_eq_nil_iff.mp hnone _ (List.mem_map_of_mem hy)
        cases hempty.symm.trans ((Turn.lockedRow_exchange (hrest y hy)).mpr ⟨hlock, hother⟩)

end Locks
end Sql

/-- Whether an exchange is with the store. -/
def Exchange.isQuery : Exchange → Bool
  | ⟨.ask _, _⟩ => true
  | ⟨.hand _, _⟩ => false

/-- After these turns a settlement writes by this statement what the locked row of a wallet and its share of the trade
make: the balance of that row with the share added, and its locked balance. -/
def Execution.WritesLocked (e : Execution) (before : List Turn) (sent : Statement) : Prop :=
  ∃ id balance lockedBalance buyer seller row change, sent = .walletUpdate id balance lockedBalance ∧
    e.LooksUp (before.map Turn.exchange) buyer seller ∧ (id = buyer.id ∨ id = seller.id) ∧
    RowLocked before id row ∧ e.change? buyer.id seller.id id = some change ∧
    row.balance.add? change = some balance ∧ lockedBalance = row.lockedBalance

section Turns

variable [Courier κ]

/-- The turns of a unit of work are its exchanges with the store. -/
theorem Work.exchange_turns (x : Work α) (w : World Session κ) :
    (x.turns w).map Turn.exchange = (x.trace w).filter Exchange.isQuery := by
  induction x generalizing w with
  | done a => rfl
  | fail e => rfl
  | ask q context next ih =>
      have hreply : (w.store.turn q).exchange = ⟨.ask q, (w.ask q).1⟩ := by
        show Exchange.mk (.ask q) _ = ⟨.ask q, (Session.ask q w.store).result⟩
        rw [Session.ask_eq_reading, Session.answer_turn]
        rfl
      rw [turns, trace, List.map_cons, List.filter_cons, hreply]
      refine congrArg _ ?_
      cases w.ask q with
      | mk result w' => cases result with
        | ok r => exact ih r w'
        | error e => rfl
  | hand m next ih => exact ih _ _
  | note e next ih => exact ih _

theorem Work.sends_of_mem {x : Work α} {w : World Session κ} {y : Turn} (hy : y ∈ x.turns w) : y.Sends := by
  induction x generalizing w with
  | done a => cases hy
  | fail e => cases hy
  | ask q context next ih =>
      rw [turns] at hy
      rcases List.mem_cons.mp hy with rfl | hy
      · exact ⟨w.store, rfl⟩
      · split at hy
        · exact ih _ hy
        · cases hy
  | hand m next ih => exact ih _ hy
  | note e next ih => exact ih hy

namespace Execution

variable {e : Execution} {w : World Session κ}

theorem exchange_turns (e : Execution) (w : World Session κ) :
    (e.work.turns w).map Turn.exchange = e.work.trace w := by
  have hpermits : (Command.settleTrade e).Permits (e.work.trace w) := e.work_obeys.follows .nil w
  have hhanded := hpermits.handed_eq_nil fun _ => Command.noConfusion
  rw [Work.exchange_turns, List.filter_eq_self]
  rintro ⟨request, answer⟩ hx
  cases request with
  | ask q => rfl
  | hand m =>
      have hmem : m ∈ handed (e.work.trace w) := List.mem_flatMap.mpr ⟨_, hx, List.mem_singleton_self m⟩
      rw [hhanded] at hmem
      cases hmem

/-- Only an update of a wallet is sent as an update of wallets. -/
theorem query_of_update {q : Query} {fresh : Uuid} {assignments : List Assignment} {conditions : List Condition}
    {returning : Bool} (h : statement fresh q = .update .wallets assignments conditions returning) :
    ∃ id balance lockedBalance, q = .updateWallet id balance lockedBalance := by
  cases q with
  | updateWallet id balance lockedBalance => exact ⟨id, balance, lockedBalance, rfl⟩
  | _ => cases h

/-- An update of a wallet writes what its locked row and its share of the trade make. -/
theorem writesLocked_of_turns {before rest : List Turn} {x : Turn} {assignments : List Assignment}
    {conditions : List Condition} {returning : Bool} (hturns : e.settle.turns w = before ++ x :: rest)
    (hx : x.statement = .update .wallets assignments conditions returning) (htruthful : LocksTruthful before) :
    e.WritesLocked before x.statement := by
  have hsends : ∀ y ∈ before ++ x :: rest, y.Sends := fun y hy => Work.sends_of_mem (hturns ▸ hy)
  have hbefore : ∀ y ∈ before, y.Sends := fun y hy => hsends y (List.mem_append_left _ hy)
  obtain ⟨s, hs⟩ := hsends x (List.mem_append_right before (List.mem_cons_self ..))
  rw [hs] at hx
  obtain ⟨id, balance, lockedBalance, hquery⟩ := query_of_update hx
  have hfollows := e.work_accesses.follows .nil w.begin.2
  rw [List.nil_append, ← exchange_turns] at hfollows
  have hsplit : (e.work.turns w.begin.2).map Turn.exchange
      = before.map Turn.exchange ++ x.exchange :: rest.map Turn.exchange := by
    rw [← List.map_cons, ← List.map_append, ← hturns]
    rfl
  have hallows : e.Allows (before.map Turn.exchange) (.ask x.query) := hfollows _ _ _ hsplit
  rw [hquery] at hallows
  have hexchanges : ∀ y ∈ before.map Turn.exchange, y.isTruthful := by
    intro y hy
    obtain ⟨z, hz, rfl⟩ := List.mem_map.mp hy
    exact (Turn.isTruthful_exchange (hbefore z hz)).mpr (htruthful z hz)
  obtain ⟨buyer, seller, row, change, hlooksUp, hid, hrows, hmade⟩ := hallows hexchanges
  refine ⟨id, balance, lockedBalance, buyer, seller, row, change, ?_, hlooksUp, hid, .of_lockedRows hbefore hrows,
    hmade⟩
  rw [hs, hquery]
  rfl

end Execution
end Turns

/-- Two databases that differ only in what they say of wallets before these are locked are sent the same and give
the same result. A settlement that is let begin sends the statements of its turns. The balance that it writes to a
wallet is that of the row which the one `SELECT … FOR UPDATE` of this wallet was answered with, its share of the trade
added, and the locked balance is that of the same row. -/
theorem Service.balances_from_locked_rows [Courier κ] (s : Service) (c : Command) (w : World Session κ)
    (script : List (Except Refusal Answer))
    (h : DifferInLookups ((s.operation c).turns w) w.store.script script) :
    ((s.perform c (w.withScript script)).1 = (s.perform c w).1 ∧
      (s.perform c (w.withScript script)).2.store.sent = (s.perform c w).2.store.sent) ∧
    ∀ e : Execution, e.check = .ok () → w.store.onBegin = none →
      (∃ last, (e.settle.perform w).2.store.sent
        = w.store.sent ++ .begin :: ((e.settle.turns w).map Turn.statement ++ [last])) ∧
      (LocksTruthful (e.settle.turns w) →
        ∀ before x rest assignments conditions returning, e.settle.turns w = before ++ x :: rest →
          x.statement = .update .wallets assignments conditions returning → e.WritesLocked before x.statement) := by
  constructor
  · obtain ⟨rest, hperform⟩ := Operation.perform_withScript (s.work_idsOnly c) h
    rw [perform, hperform]
    exact ⟨rfl, rfl⟩
  · intro e hcheck hbegin
    obtain ⟨last, hbracketed⟩ := Operation.perform_bracketed (o := e.settle) hcheck hbegin
    refine ⟨⟨last, hbracketed.sent⟩, ?_⟩
    intro htruthful before x rest assignments conditions returning hturns hx
    exact Execution.writesLocked_of_turns hturns hx fun y hy => htruthful y (hturns ▸ List.mem_append_left _ hy)

/-- A wallet of the trade below, numbered like its user. -/
def quotedWallet (number : Nat) (balance : Nat) : Wallet where
  id := .ofNat number
  userId := .ofNat number
  currency := "USDT"
  balance := .ofCoeff balance 0
  lockedBalance := .ofCoeff 3 0
  createdAt := .epoch

/-- An order of the trade below, numbered like its user. -/
def quotedOrder (number : Nat) (side : OrderSide) : Order where
  id := .ofNat number
  userId := .ofNat number
  marketId := .ofNat 3
  side := side
  price := .ofCoeff 5 0
  amount := .ofCoeff 2 0
  filledAmount := .zero
  status := .opened
  createdAt := .epoch
  updatedAt := .epoch

/-- A trade between users 1 and 2. -/
def quotedTrade : Execution where
  buyOrderId := .ofNat 1
  sellOrderId := .ofNat 2
  marketId := .ofNat 3
  price := .ofCoeff 5 0
  quantity := .ofCoeff 2 0
  fee := .ofCoeff 1 0

/-- What a database answers to the trade whose lookups show this balance in each wallet. -/
def quotedScript (lookedUp : Nat) : List (Except Refusal Answer) :=
  [Tabled.row (quotedOrder 1 .buy), Tabled.row (quotedOrder 2 .sell),
   Tabled.row (Market.mk (.ofNat 3) "BTC" "USDT" .zero 0 .epoch),
   Tabled.row (quotedWallet 1 lookedUp), Tabled.row (quotedWallet 2 lookedUp),
   Tabled.row (quotedWallet 1 100), Tabled.row (quotedWallet 2 50),
   Tabled.row (quotedTrade.toTrade (.ofNat 7) .epoch),
   Tabled.row (quotedWallet 1 89), Tabled.row (quotedWallet 2 59)].map fun row => .ok { rows := [row] }

/-- A database in which both wallets have been emptied when the trade looks them up. -/
def quotedWorld : World Session Mailbox where
  store := { script := quotedScript 0 }
  courier := {}

/-- The wallet is looked up with one balance and with the other. -/
theorem sameWallet_quoted {number : Nat}
    (hread : ∀ balance ∈ [0, 100], (readWallet (Tabled.row (quotedWallet number balance))).isOk = true) :
    SameWallet (Tabled.row (quotedWallet number 0)) (Tabled.row (quotedWallet number 100)) := by
  refine ⟨hread 0 (by simp), hread 100 (by simp), ?_⟩
  intro column hcolumn
  have hbalance : ("balance" == column) = false := by
    rw [beq_eq_false_iff_ne]
    rintro rfl
    exact hcolumn (by decide)
  simp only [Row.cell?, Tabled.row, List.find?_cons, hbalance]
  rfl

theorem Service.emptied_wallets_settle :
    DifferInLookups ((Service.operation {} (.settleTrade quotedTrade)).turns quotedWorld) (quotedScript 0)
      (quotedScript 100) ∧
    (∃ r, (Service.perform {} (.settleTrade quotedTrade) quotedWorld).1 = .ok r ∧
      (Service.perform {} (.settleTrade quotedTrade) (quotedWorld.withScript (quotedScript 100))).1 = .ok r) ∧
    ∃ before x rest, quotedTrade.settle.turns quotedWorld = before ++ x :: rest ∧
      x.statement = .walletUpdate (.ofNat 1) (.ofCoeff 89 0) (.ofCoeff 3 0) ∧
      quotedTrade.WritesLocked before x.statement := by
  have hdiffer : DifferInLookups (quotedTrade.settle.turns quotedWorld) (quotedScript 0) (quotedScript 100) := by
    intro i x hx
    -- The fourth and the fifth turn look the wallets up.
    rcases i with _ | _ | _ | _ | _ | i
    · exact .of_eq rfl
    · exact .of_eq rfl
    · exact .of_eq rfl
    · obtain rfl := Option.some.inj hx
      exact .inr ⟨_, _, rfl, rfl, rfl, .cons (sameWallet_quoted (by decide +kernel)) .nil⟩
    · obtain rfl := Option.some.inj hx
      exact .inr ⟨_, _, rfl, rfl, rfl, .cons (sameWallet_quoted (by decide +kernel)) .nil⟩
    · exact .of_eq rfl
  obtain ⟨⟨hresult, -⟩, hwrites⟩ :=
    balances_from_locked_rows {} (.settleTrade quotedTrade) quotedWorld (quotedScript 100) hdiffer
  refine ⟨hdiffer, ⟨_, rfl, hresult.trans rfl⟩, ?_⟩
  obtain ⟨-, hwrites⟩ := hwrites quotedTrade rfl rfl
  have htruthful : LocksTruthful (quotedTrade.settle.turns quotedWorld) := by
    have hexchanges : ∀ x ∈ quotedTrade.settle.turns quotedWorld, x.exchange.isTruthful := by decide +kernel
    exact fun x hx => (Turn.isTruthful_exchange (Work.sends_of_mem hx)).mp (hexchanges x hx)
  have hupdate : (quotedTrade.settle.turns quotedWorld)[8]?.map Turn.statement =
      some (.walletUpdate (.ofNat 1) (.ofCoeff 89 0) (.ofCoeff 3 0)) := rfl
  obtain ⟨x, hx, hstatement⟩ := Option.map_eq_some_iff.mp hupdate
  have hturns : quotedTrade.settle.turns quotedWorld
      = (quotedTrade.settle.turns quotedWorld).take 8 ++ x :: (quotedTrade.settle.turns quotedWorld).drop 9 := by
    obtain ⟨hlt, hx⟩ := List.getElem?_eq_some_iff.mp hx
    rw [← hx, List.getElem_cons_drop, List.take_append_drop]
  exact ⟨_, x, _, hturns, hstatement, hwrites htruthful _ x _ _ _ _ hturns hstatement⟩

end Clearing
