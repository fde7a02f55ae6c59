import Clearing.Memory.Table
import Clearing.Store.Query

/-!
# The rows of a store in memory

Rows with an identity of their own are kept in tables; trades, fee rows and ledger entries are kept in the
order in which they were written. Every query is answered from the rows alone, given the identifier a new row
would take and the time.
-/

namespace Clearing

instance : Keyed User := ⟨fun u => u.id.value⟩
instance : Keyed Wallet := ⟨fun w => w.id.value⟩
instance : Keyed Market := ⟨fun m => m.id.value⟩
instance : Keyed Order := ⟨fun o => o.id.value⟩
instance : Keyed Verification := ⟨fun v => v.id⟩
instance : Keyed OutboxMessage := ⟨fun m => m.id⟩

/-- All rows, and the numbers that the next verification and the next outbox row take. -/
structure Tables where
  users : Table User := .empty
  wallets : Table Wallet := .empty
  markets : Table Market := .empty
  orders : Table Order := .empty
  verifications : Table Verification := .empty
  outbox : Table OutboxMessage := .empty
  trades : List Trade := []
  fees : List FeeSchedule := []
  ledger : List LedgerEntry := []
  nextVerificationId : Int := 1
  nextOutboxId : Int := 1

instance : Inhabited Tables := ⟨{}⟩

namespace Tables

/-! ## Looking rows up -/

/-- The order with this identifier. -/
def order? (t : Tables) (id : Uuid) : Option Order := t.orders.get? id.value

/-- The market with this identifier. -/
def market? (t : Tables) (id : Uuid) : Option Market := t.markets.get? id.value

/-- The wallet with this identifier. -/
def wallet? (t : Tables) (id : Uuid) : Option Wallet := t.wallets.get? id.value

/-- The first wallet of a user in a currency. -/
def walletOf? (t : Tables) (userId : Uuid) (currency : String) : Option Wallet :=
  t.wallets.find? fun w => w.userId = userId ∧ w.currency = currency

/-- The wallets of a user in the order of their currencies. -/
def walletsOf (t : Tables) (userId : Uuid) : List Wallet :=
  (t.wallets.filter (·.userId = userId)).mergeSort fun a b => a.currency ≤ b.currency

/-- Whether one wallet comes before another among the largest: by balance, then by identifier. -/
def isLarger (a b : Wallet) : Bool :=
  decide (b.balance < a.balance) || (a.balance.sameNumber b.balance && decide (a.id ≤ b.id))

/-- The wallets in descending order of their balances, at most `limit` of them. -/
def largestWallets (t : Tables) (limit : Int) : List Wallet :=
  (t.wallets.rows.mergeSort isLarger).take limit.toNat

/-- The ledger entry with this identifier. -/
def entry? (t : Tables) (id : Uuid) : Option LedgerEntry := t.ledger.find? (·.id = id)

/-- The first user of this name. -/
def userNamed? (t : Tables) (username : String) : Option User := t.users.find? (·.username = username)

/-- The verification with this number. -/
def verification? (t : Tables) (id : Int) : Option Verification := t.verifications.get? id

/-- The outbox row with this number. -/
def outboxRow? (t : Tables) (id : Int) : Option OutboxMessage := t.outbox.get? id

/-- The pending outbox rows, oldest first, at most `limit` of them. -/
def pending (t : Tables) (limit : Int) : List OutboxMessage :=
  (t.outbox.filter (·.status = .pending)).take limit.toNat

/-- The constraint a registration violates, if any. -/
def duplicateOf? (t : Tables) (r : Registration) : Option String :=
  if (t.users.find? (·.username = r.username)).isSome then some "users_username_key"
  else if (t.users.find? (·.email = r.email)).isSome then some "users_email_key"
  else none

/-! ## Writing rows -/

/-- Writes an order. -/
def putOrder (t : Tables) (o : Order) : Tables := { t with orders := t.orders.insert o }

/-- Writes a wallet. -/
def putWallet (t : Tables) (w : Wallet) : Tables := { t with wallets := t.wallets.insert w }

/-- Writes a market. -/
def putMarket (t : Tables) (m : Market) : Tables := { t with markets := t.markets.insert m }

/-- Writes a user. -/
def putUser (t : Tables) (u : User) : Tables := { t with users := t.users.insert u }

/-- Writes a verification. -/
def putVerification (t : Tables) (v : Verification) : Tables :=
  { t with verifications := t.verifications.insert v }

/-- Writes an outbox row. -/
def putOutbox (t : Tables) (m : OutboxMessage) : Tables := { t with outbox := t.outbox.insert m }

/-- Appends a trade. -/
def addTrade (t : Tables) (trade : Trade) : Tables := { t with trades := t.trades ++ [trade] }

/-- Appends a fee row. -/
def addFee (t : Tables) (fee : FeeSchedule) : Tables := { t with fees := t.fees ++ [fee] }

/-- Appends a ledger entry. -/
def addEntry (t : Tables) (entry : LedgerEntry) : Tables := { t with ledger := t.ledger ++ [entry] }

/-- Gives the first entry with this identifier a status. -/
def moveEntry (id : Uuid) (status : TransferStatus) : List LedgerEntry → List LedgerEntry
  | [] => []
  | e :: rest => if e.id = id then { e with status := status } :: rest else e :: moveEntry id status rest

/-- Appends a new pending outbox row and moves its number on. -/
def enqueue (t : Tables) (task : OutboxTask) (now : Instant) : OutboxMessage × Tables :=
  let row := task.toMessage t.nextOutboxId now
  (row, { t.putOutbox row with nextOutboxId := t.nextOutboxId + 1 })

/-- Appends a new verification and moves its number on. -/
def addVerification (t : Tables) (username email secretCode : String) (now expiry : Instant) :
    Verification × Tables :=
  let row : Verification := {
    id := t.nextVerificationId
    username := username
    email := email
    secretCode := secretCode
    isUsed := false
    createdAt := now
    expiredAt := expiry }
  (row, { t.putVerification row with nextVerificationId := t.nextVerificationId + 1 })

/-! ## Answering queries -/

/-- The row that a query asks for, or the error that there is none. -/
def found {α : Type} (q : Query) : Option α → Except StoreError α
  | some a => .ok a
  | none => .error (.notFound q.missing)

/-- The reply to a query, with the rows it leaves behind. -/
def reply (fresh : Uuid) (now : Instant) (t : Tables) :
    (q : Query) → Except StoreError (q.Reply × Tables)
  | .getOrder id | .lockOrder id => do
    return (← found (.getOrder id) (t.order? id), t)
  | .updateOrder id status filled => do
    let o ← found (.getOrder id) (t.order? id)
    let o := { o with status := status, filledAmount := filled, updatedAt := now }
    return (o, t.putOrder o)
  | .getMarket id => do
    return (← found (.getMarket id) (t.market? id), t)
  | .insertFee rates =>
    let fee := rates.toSchedule fresh now
    .ok (fee, t.addFee fee)
  | .findWallet userId currency => do
    return (← found (.findWallet userId currency) (t.walletOf? userId currency), t)
  | .lockWallet id => do
    return (← found (.lockWallet id) (t.wallet? id), t)
  | .updateWallet id balance lockedBalance => do
    let w ← found (.lockWallet id) (t.wallet? id)
    let w := { w with balance := balance, lockedBalance := lockedBalance }
    return (w, t.putWallet w)
  | .listUserWallets userId => .ok (t.walletsOf userId, t)
  | .listLargestWallets limit => .ok (t.largestWallets limit, t)
  | .insertTrade execution =>
    let trade := execution.toTrade fresh now
    .ok (trade, t.addTrade trade)
  | .insertLedgerEntry transfer amount =>
    let entry := transfer.toEntry amount fresh now
    .ok (entry, t.addEntry entry)
  | .lockLedgerEntry id => do
    return (← found (.lockLedgerEntry id) (t.entry? id), t)
  | .updateLedgerStatus id status => do
    let e ← found (.lockLedgerEntry id) (t.entry? id)
    return ({ e with status := status }, { t with ledger := moveEntry id status t.ledger })
  | .insertUser registration =>
    match t.duplicateOf? registration with
    | some key => .error (.alreadyExists key)
    | none =>
      let user := registration.toUser fresh now
      .ok (user, t.putUser user)
  | .consumeVerification id secretCode => do
    let usable := (t.verification? id).filter (·.isUsableWith secretCode now)
    let v ← found (.consumeVerification id secretCode) usable
    let v := { v with isUsed := true }
    return (v, t.putVerification v)
  | .markUserVerified username => do
    let u ← found (.markUserVerified username) (t.userNamed? username)
    let u := { u with isVerified := true }
    return (u, t.putUser u)
  | .insertOutbox task => .ok (t.enqueue task now)
  | .claimOutbox limit => .ok (t.pending limit, t)
  | .markPublished id => do
    let m ← found (.markPublished id) (t.outboxRow? id)
    return ((), t.putOutbox (m.published now))
  | .recordFailure id error giveUp => do
    let m ← found (.markPublished id) (t.outboxRow? id)
    return ((), t.putOutbox (m.failing error giveUp))

end Tables
end Clearing
