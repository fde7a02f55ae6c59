import Clearing.Outbox.Message
import Clearing.Store.FaultPoint
import Clearing.Error
import Clearing.Trade.Basic
import Clearing.User.Basic

/-!
# Queries

Everything a unit of work may ask of a store, within a transaction. Queries that lock a row keep it until the
transaction ends; queries that write change the transaction's view only.
-/

namespace Clearing

/-- A request to a store within a transaction. -/
inductive Query where
  | getOrder (id : Uuid)
  | lockOrder (id : Uuid)
  | updateOrder (id : Uuid) (status : OrderStatus) (filled : Decimal)
  | getMarket (id : Uuid)
  | insertFee (rates : FeeRates)
  | findWallet (userId : Uuid) (currency : String)
  | lockWallet (id : Uuid)
  | updateWallet (id : Uuid) (balance lockedBalance : Decimal)
  | listUserWallets (userId : Uuid)
  | listLargestWallets (limit : Int)
  | insertTrade (execution : Execution)
  | insertLedgerEntry (transfer : Transfer) (amount : Decimal)
  | lockLedgerEntry (id : Uuid)
  | updateLedgerStatus (id : Uuid) (status : TransferStatus)
  | insertUser (registration : Registration)
  | consumeVerification (id : Int) (secretCode : String)
  | markUserVerified (username : String)
  | insertOutbox (task : OutboxTask)
  | claimOutbox (limit : Int)
  | markPublished (id : Int)
  | recordFailure (id : Int) (error : String) (giveUp : Bool)

namespace Query

/-- What a query is answered with when it succeeds. -/
@[reducible] def Reply : Query → Type
  | .getOrder _ | .lockOrder _ | .updateOrder .. => Order
  | .getMarket _ => Market
  | .insertFee _ => FeeSchedule
  | .findWallet .. | .lockWallet _ | .updateWallet .. => Wallet
  | .listUserWallets _ | .listLargestWallets _ => List Wallet
  | .insertTrade _ => Trade
  | .insertLedgerEntry .. | .lockLedgerEntry _ | .updateLedgerStatus .. => LedgerEntry
  | .insertUser _ | .markUserVerified _ => User
  | .consumeVerification .. => Verification
  | .insertOutbox _ => OutboxMessage
  | .claimOutbox _ => List OutboxMessage
  | .markPublished _ | .recordFailure .. => Unit

/-- Whether a query changes what the transaction sees. -/
def isWrite : Query → Bool
  | .updateOrder .. | .insertFee _ | .updateWallet .. | .insertTrade _ | .insertLedgerEntry ..
  | .updateLedgerStatus .. | .insertUser _ | .consumeVerification .. | .markUserVerified _
  | .insertOutbox _ | .markPublished _ | .recordFailure .. => true
  | .getOrder _ | .lockOrder _ | .getMarket _ | .findWallet .. | .lockWallet _ | .listUserWallets _
  | .listLargestWallets _ | .lockLedgerEntry _ | .claimOutbox _ => false

/-- Whether a query creates a row under a new identifier. -/
def drawsId : Query → Bool
  | .insertFee _ | .insertTrade _ | .insertLedgerEntry .. | .insertUser _ => true
  | _ => false

/-- Where a query may be made to fail. -/
def faultPoint? : Query → Option FaultPoint
  | .getOrder _ => some .getOrder
  | .lockOrder _ => some .lockOrder
  | .updateOrder .. => some .updateOrder
  | .getMarket _ => some .getMarket
  | .insertFee _ => some .insertFee
  | .findWallet .. | .listUserWallets _ | .listLargestWallets _ => some .findWallet
  | .lockWallet _ => some .lockWallet
  | .updateWallet .. => some .updateWallet
  | .insertTrade _ => some .insertTrade
  | .insertLedgerEntry .. => some .insertLedgerEntry
  | .lockLedgerEntry _ => none
  | .updateLedgerStatus .. => some .updateLedgerStatus
  | .insertUser _ => some .insertUser
  | .consumeVerification .. => some .consumeVerification
  | .markUserVerified _ => some .markUserVerified
  | .insertOutbox _ => some .insertOutbox
  | .claimOutbox _ => some .claimOutbox
  | .markPublished _ | .recordFailure .. => some .updateOutbox

/-- The row that is missing when a query finds none. -/
def missing : Query → String
  | .getOrder id | .lockOrder id | .updateOrder id .. => s!"order {id}"
  | .getMarket id => s!"market {id}"
  | .insertFee _ => "fee"
  | .findWallet userId currency => s!"wallet ({userId}, {currency})"
  | .lockWallet id | .updateWallet id .. => s!"wallet {id}"
  | .listUserWallets _ | .listLargestWallets _ => "wallets"
  | .insertTrade _ => "trade"
  | .insertLedgerEntry .. => "transaction"
  | .lockLedgerEntry id | .updateLedgerStatus id _ => s!"transaction {id}"
  | .insertUser registration => s!"user {registration.username}"
  | .consumeVerification id _ => s!"pending verification {id}"
  | .markUserVerified username => s!"user {username}"
  | .insertOutbox _ => "outbox message"
  | .claimOutbox _ => "outbox messages"
  | .markPublished id | .recordFailure id .. => s!"outbox message {id}"

end Query
end Clearing
