import Clearing.Market

/-!
# The ledger of deposits and withdrawals

A transfer asks for money to come in or go out. Posting it writes a ledger entry with the requested and the
posted amount, and a fee row beside it. An entry is pending until it is completed or has failed; both are
final.
-/

namespace Clearing

/-- The direction of a transfer. -/
inductive TransferKind where
  | deposit
  | withdrawal
deriving DecidableEq

instance : Named TransferKind where
  all := [.deposit, .withdrawal]
  name
    | .deposit => "deposit"
    | .withdrawal => "withdrawal"

instance : ToString TransferKind := ⟨Named.name⟩

/-- How far a transfer has come. -/
inductive TransferStatus where
  | pending
  | completed
  | failed
deriving DecidableEq

instance : Named TransferStatus where
  all := [.pending, .completed, .failed]
  name
    | .pending => "pending"
    | .completed => "completed"
    | .failed => "failed"

instance : ToString TransferStatus := ⟨Named.name⟩

namespace TransferStatus

/-- Whether a transfer is over. -/
def isTerminal : TransferStatus → Bool
  | .pending => false
  | .completed | .failed => true

/-- Whether an entry may move from one status to another. -/
def mayBecome : TransferStatus → TransferStatus → Bool
  | .pending, .completed | .pending, .failed => true
  | _, _ => false

end TransferStatus

/-- How the posted amount of a withdrawal is found. -/
inductive SizingPolicy where
  | globalMaxBalance
  | accountBalance
deriving DecidableEq

instance : Named SizingPolicy where
  all := [.globalMaxBalance, .accountBalance]
  name
    | .globalMaxBalance => "global_max_balance"
    | .accountBalance => "account_balance"

/-- A deposit or withdrawal to be posted. -/
structure Transfer where
  userId : Uuid
  kind : TransferKind
  currency : String
  amount : Decimal
  status : TransferStatus
  address : Option String
  txHash : Option String
deriving DecidableEq

/-- A posted deposit or withdrawal: what was asked for, and what was posted. -/
structure LedgerEntry where
  id : Uuid
  userId : Uuid
  kind : TransferKind
  currency : String
  requestedAmount : Decimal
  amount : Decimal
  status : TransferStatus
  address : Option String
  txHash : Option String
  createdAt : Instant
deriving DecidableEq

/-- What a posting leaves behind: the ledger entry and its fee row. -/
structure Posting where
  entry : LedgerEntry
  fee : FeeSchedule
deriving DecidableEq

namespace Transfer

/-- The ledger entry that posts a transfer with an amount. -/
def toEntry (t : Transfer) (amount : Decimal) (id : Uuid) (now : Instant) : LedgerEntry where
  id := id
  userId := t.userId
  kind := t.kind
  currency := t.currency
  requestedAmount := t.amount
  amount := amount
  status := t.status
  address := t.address
  txHash := t.txHash
  createdAt := now

/-- The names of the fields, in order. -/
def fieldNames : List String :=
  ["user_id", "tx_type", "currency", "amount", "status", "address", "tx_hash"]

instance : Encode Transfer where
  json t := .object [
    ("user_id", json t.userId), ("tx_type", json t.kind), ("currency", json t.currency),
    ("amount", json t.amount), ("status", json t.status), ("address", json t.address),
    ("tx_hash", json t.txHash)]

instance : Decode Transfer where
  ofJson? v := do
    let ms ← Json.fullRecord? fieldNames v
    some {
      userId := ← Json.field? ms "user_id"
      kind := ← Json.field? ms "tx_type"
      currency := ← Json.field? ms "currency"
      amount := ← Json.field? ms "amount"
      status := ← Json.field? ms "status"
      address := ← Json.optional? ms "address"
      txHash := ← Json.optional? ms "tx_hash" }

end Transfer

namespace LedgerEntry

/-- The names of the fields, in order. -/
def fieldNames : List String :=
  ["id", "user_id", "tx_type", "currency", "requested_amount", "amount", "status", "address",
   "tx_hash", "created_at"]

instance : Encode LedgerEntry where
  json e := .object [
    ("id", json e.id), ("user_id", json e.userId), ("tx_type", json e.kind),
    ("currency", json e.currency), ("requested_amount", json e.requestedAmount),
    ("amount", json e.amount), ("status", json e.status), ("address", json e.address),
    ("tx_hash", json e.txHash), ("created_at", json e.createdAt)]

instance : Decode LedgerEntry where
  ofJson? v := do
    let ms ← Json.fullRecord? fieldNames v
    some {
      id := ← Json.field? ms "id"
      userId := ← Json.field? ms "user_id"
      kind := ← Json.field? ms "tx_type"
      currency := ← Json.field? ms "currency"
      requestedAmount := ← Json.field? ms "requested_amount"
      amount := ← Json.field? ms "amount"
      status := ← Json.field? ms "status"
      address := ← Json.optional? ms "address"
      txHash := ← Json.optional? ms "tx_hash"
      createdAt := ← Json.field? ms "created_at" }

end LedgerEntry

instance : Encode Posting where
  json p := .object [("entry", json p.entry), ("fee", json p.fee)]

end Clearing
