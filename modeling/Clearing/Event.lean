import Clearing.Error
import Clearing.Outbox.Config
import Clearing.Store.FaultPoint
import Clearing.Text.Quoted
import Clearing.Trade.Basic
import Clearing.User.Basic

/-!
# What is logged

Every event has a level, a message and named fields with their texts. Transactions, operations, the outbox,
couriers and stores each have events of their own.
-/

namespace Clearing

/-- How much an event matters. -/
inductive Level where
  | debug
  | info
  | warn
  | error
deriving DecidableEq

instance : Named Level where
  all := [.debug, .info, .warn, .error]
  name
    | .debug => "DEBUG"
    | .info => "INFO"
    | .warn => "WARN"
    | .error => "ERROR"

/-- Something worth logging. -/
inductive Event where
  | committed (operation store : String)
  | rollbackFailed (operation : String) (error : SettlementError) (rollbackError : StoreError)
  | rolledBack (operation : String) (error : SettlementError)
  | retrying (attempt maxAttempts delayMs : Nat) (error : SettlementError)
  | tradeSettled (settlement : Settlement)
  | orderFilled (orderId : Uuid) (status : OrderStatus) (filled remaining : Decimal)
  | transferPosted (posting : Posting) (sizing : SizingPolicy)
  | transferMoved (entryId : Uuid) (status : TransferStatus)
  | userRegistered (registered : RegisteredUser)
  | emailVerified (userId : Uuid) (verificationId : Int)
  | currenciesAvailable (userId : Uuid)
  | rowPublished (outboxId : Int) (taskId : String)
  | rowGivenUp (outboxId : Int) (taskType : String) (attempts : Int32) (error : QueueUnavailable)
  | rowFailed (outboxId : Int) (attempts : Int32) (error : QueueUnavailable)
  | batchDone (report : BatchReport)
  | publisherStarted (config : PublisherConfig) (courier : String)
  | batchFailed (error : SettlementError)
  | publisherStopped
  | faultInjected (point : FaultPoint) (error : StoreError)
  | streamConnected (streamPrefix : String)
  | taskAppended (stream entryId : String) (outboxId : Int)
  | databaseUnclassified (code : Option String) (error : String)
  | databaseFailed (error : String)
  | multiplicationOverflowed
  | poolOpened (maxConnections : Nat)
  | schemaStarted
  | schemaReady (objects : Nat)
deriving DecidableEq

namespace Event

/-- How much an event matters. -/
def level : Event → Level
  | .committed .. | .currenciesAvailable _ | .rowPublished .. | .faultInjected .. | .taskAppended .. =>
    .debug
  | .tradeSettled _ | .orderFilled .. | .transferPosted .. | .transferMoved .. | .userRegistered _
  | .emailVerified .. | .batchDone _ | .publisherStarted .. | .publisherStopped | .streamConnected _
  | .poolOpened _ | .schemaStarted | .schemaReady _ => .info
  | .rolledBack .. | .retrying .. | .rowFailed .. => .warn
  | .rollbackFailed .. | .rowGivenUp .. | .batchFailed _ | .databaseUnclassified .. | .databaseFailed _
  | .multiplicationOverflowed => .error

/-- What an event says. -/
def message : Event → String
  | .committed .. => "Transaction committed"
  | .rollbackFailed .. => "Rollback failed"
  | .rolledBack .. => "Transaction rolled back"
  | .retrying .. => "Conflict, retrying unit of work"
  | .tradeSettled _ => "Trade settled"
  | .orderFilled .. => "Order fill updated"
  | .transferPosted .. => "Transaction posted"
  | .transferMoved .. => "Transaction status updated"
  | .userRegistered _ => "User created"
  | .emailVerified .. => "Email verified"
  | .currenciesAvailable _ => "Currencies available"
  | .rowPublished .. => "Outbox row published"
  | .rowGivenUp .. => "Giving up on outbox row"
  | .rowFailed .. => "Outbox distribution failed"
  | .batchDone _ => "Outbox batch done"
  | .publisherStarted .. => "Starting outbox publisher"
  | .batchFailed _ => "Outbox batch failed"
  | .publisherStopped => "Outbox publisher stopped"
  | .faultInjected .. => "Injected store fault"
  | .streamConnected _ => "Redis task distributor connected"
  | .taskAppended .. => "Task appended"
  | .databaseUnclassified .. => "Unclassified database error"
  | .databaseFailed _ => "Store failure"
  | .multiplicationOverflowed => "Multiplication overflowed"
  | .poolOpened _ => "PostgreSQL connection pool established"
  | .schemaStarted => "Initializing PostgreSQL schema..."
  | .schemaReady objects => s!"PostgreSQL schema ready ({objects} tables)"

/-! ## Fields -/

/-- A text that may be absent, as a field. -/
def optionalText : Option String → String
  | none => "None"
  | some s => "Some(" ++ Text.quoted s ++ ")"

/-- The fields of an event, in order. -/
def fields : Event → List (String × String)
  | .committed operation store => [("op", operation), ("store", store)]
  | .rollbackFailed operation error rollbackError =>
    [("op", operation), ("error", error.message), ("rollback_error", rollbackError.message)]
  | .rolledBack operation error =>
    [("op", operation), ("code", error.code), ("error", error.message)]
  | .retrying attempt maxAttempts delayMs error =>
    [("attempt", toString attempt), ("max_attempts", toString maxAttempts),
     ("delay_ms", toString delayMs), ("error", error.message)]
  | .tradeSettled s =>
    [("trade_id", toString s.trade.id), ("market_id", toString s.trade.marketId),
     ("price", toString s.trade.price), ("amount", toString s.trade.amount),
     ("fee", toString s.trade.fee), ("buyer_wallet", toString s.buyerWallet.id),
     ("seller_wallet", toString s.sellerWallet.id)]
  | .orderFilled orderId status filled remaining =>
    [("order_id", toString orderId), ("status", toString status),
     ("filled_amount", toString filled), ("remaining", toString remaining)]
  | .transferPosted p sizing =>
    [("entry_id", toString p.entry.id), ("user_id", toString p.entry.userId),
     ("tx_type", toString p.entry.kind), ("currency", p.entry.currency),
     ("requested", toString p.entry.requestedAmount), ("posted", toString p.entry.amount),
     ("sizing", Named.name sizing)]
  | .transferMoved entryId status =>
    [("entry_id", toString entryId), ("status", toString status)]
  | .userRegistered r =>
    [("user_id", toString r.user.id), ("username", r.user.username),
     ("outbox_id", toString r.outboxId)]
  | .emailVerified userId verificationId =>
    [("user_id", toString userId), ("verify_email_id", toString verificationId)]
  | .currenciesAvailable userId => [("user_id", toString userId)]
  | .rowPublished outboxId taskId => [("outbox_id", toString outboxId), ("task_id", taskId)]
  | .rowGivenUp outboxId taskType attempts error =>
    [("outbox_id", toString outboxId), ("task_type", taskType), ("attempts", toString attempts),
     ("error", error.message)]
  | .rowFailed outboxId attempts error =>
    [("outbox_id", toString outboxId), ("attempts", toString attempts), ("error", error.message)]
  | .batchDone r =>
    [("published", toString r.published), ("failed", toString r.failed),
     ("gave_up", toString r.gaveUp)]
  | .publisherStarted config courier =>
    [("poll_interval_ms", toString (config.pollInterval.millis % UInt64.size)),
     ("batch_size", toString config.batchSize), ("max_attempts", toString config.maxAttempts),
     ("distributor", courier)]
  | .batchFailed error => [("error", error.message), ("code", error.code)]
  | .publisherStopped => []
  | .faultInjected point error => [("point", Named.name point), ("error", error.message)]
  | .streamConnected streamPrefix => [("stream_prefix", streamPrefix)]
  | .taskAppended stream entryId outboxId =>
    [("stream", stream), ("entry_id", entryId), ("outbox_id", toString outboxId)]
  | .databaseUnclassified code error => [("code", optionalText code), ("error", error)]
  | .databaseFailed error => [("error", error)]
  | .multiplicationOverflowed => []
  | .poolOpened maxConnections => [("max_connections", toString maxConnections)]
  | .schemaStarted => []
  | .schemaReady _ => []

end Event
end Clearing
