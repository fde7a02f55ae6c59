import Clearing.Ledger.Basic
import Clearing.Order.Basic

/-!
# What can go wrong

A store fails in four ways. An operation fails with a reason of its own or with a store's failure, to which
the failing step is attached. Every error has a message, a stable code and a kind; only conflicts are worth
another attempt.
-/

namespace Clearing

/-- The kinds of error that callers tell apart. -/
inductive ErrorKind where
  | notFound
  | alreadyExists
  | invariantViolation
  | conflict
  | internal
deriving DecidableEq

instance : Named ErrorKind where
  all := [.notFound, .alreadyExists, .invariantViolation, .conflict, .internal]
  name
    | .notFound => "NotFound"
    | .alreadyExists => "AlreadyExists"
    | .invariantViolation => "InvariantViolation"
    | .conflict => "Conflict"
    | .internal => "Internal"

/-- Whether the whole unit of work is worth another attempt. -/
def ErrorKind.isRetryable (k : ErrorKind) : Bool := k == .conflict

/-! ## Failures of a store -/

/-- A classified failure of a store. -/
inductive StoreError where
  | notFound (what : String)
  | alreadyExists (key : String)
  | conflict (text : String)
  | internal (text : String)
deriving DecidableEq

namespace StoreError

/-- The message of a store's failure. -/
def message : StoreError → String
  | .notFound what => s!"{what} not found"
  | .alreadyExists key => s!"duplicate key: {key}"
  | .conflict text => s!"lock or serialization conflict: {text}"
  | .internal text => s!"store failure: {text}"

/-- The kind of a store's failure. -/
def kind : StoreError → ErrorKind
  | .notFound _ => .notFound
  | .alreadyExists _ => .alreadyExists
  | .conflict _ => .conflict
  | .internal _ => .internal

/-- The code of a store's failure. -/
def code : StoreError → String
  | .notFound _ => "NOT_FOUND"
  | .alreadyExists _ => "ALREADY_EXISTS"
  | .conflict _ => "CONFLICT"
  | .internal _ => "STORE_ERROR"

instance : ToString StoreError := ⟨message⟩

end StoreError

/-! ## Failures of a settlement operation -/

/-- What is wrong with an amount. -/
inductive AmountFault where
  | priceNotPositive (price : Decimal)
  | quantityNotPositive (quantity : Decimal)
  | feeNegative (fee : Decimal)
  | valueOverflow (price quantity fee : Decimal)
  | balanceOverflow (walletId : Uuid) (delta : Decimal)
  | selfTradeOverflow (walletId : Uuid)
  | filledWhileOpen (orderId : Uuid) (filled : Decimal)
  | nothingFilled (orderId : Uuid)
  | filledShort (orderId : Uuid) (filled amount : Decimal)
  | transferNotPositive (kind : TransferKind) (amount : Decimal)
  | ratesNegative (maker taker : Decimal)
  | withdrawalOverflow (amount against : Decimal)
  | postedNegative (kind : TransferKind) (posted requested : Decimal)
  | stated (text : String)
deriving DecidableEq

/-- The text of what is wrong with an amount. -/
def AmountFault.text : AmountFault → String
  | .priceNotPositive price => s!"trade price must be positive, got {price}"
  | .quantityNotPositive quantity => s!"trade quantity must be positive, got {quantity}"
  | .feeNegative fee => s!"trade fee must not be negative, got {fee}"
  | .valueOverflow price quantity fee =>
    s!"trade value overflows: price {price} quantity {quantity} fee {fee}"
  | .balanceOverflow walletId delta => s!"balance of wallet {walletId} overflows applying {delta}"
  | .selfTradeOverflow walletId => s!"self-trade on wallet {walletId} overflows"
  | .filledWhileOpen orderId filled => s!"order {orderId} cannot stay open with {filled} filled"
  | .nothingFilled orderId => s!"order {orderId} marked partially filled with nothing filled"
  | .filledShort orderId filled amount => s!"order {orderId} marked filled at {filled} of {amount}"
  | .transferNotPositive kind amount => s!"{kind} amount must be positive, got {amount}"
  | .ratesNegative maker taker => s!"fee rates must not be negative, got maker {maker} taker {taker}"
  | .withdrawalOverflow amount against => s!"withdrawal of {amount} against {against} overflows"
  | .postedNegative kind posted requested =>
    s!"posted {kind} amount {posted} is negative (requested {requested})"
  | .stated text => text

/-- How a trade and its orders disagree on the market. -/
inductive MarketFault where
  | orders (marketId buyMarketId sellMarketId : Uuid)
  | stated (text : String)
deriving DecidableEq

/-- The text of a disagreement on the market. -/
def MarketFault.text : MarketFault → String
  | .orders marketId buyMarketId sellMarketId =>
    s!"trade on market {marketId} references orders on {buyMarketId} and {sellMarketId}"
  | .stated text => text

/-- How an order stands on the wrong side. -/
inductive SideFault where
  | order (expected : OrderSide) (orderId : Uuid) (actual : OrderSide)
  | stated (text : String)
deriving DecidableEq

/-- The text of an order on the wrong side. -/
def SideFault.text : SideFault → String
  | .order expected orderId actual => s!"{expected} order {orderId} is a {actual} order"
  | .stated text => text

/-- Why a settlement operation failed. -/
inductive SettlementError where
  | insufficientBalance (walletId : Uuid) (balance required : Decimal)
  | fillDecrease (orderId : Uuid) (current requested : Decimal)
  | fillExceedsAmount (orderId : Uuid) (amount requested : Decimal)
  | illegalTransition (source target : String)
  | invalidAmount (fault : AmountFault)
  | marketMismatch (fault : MarketFault)
  | sideMismatch (fault : SideFault)
  | currencyUnavailable (userId : Uuid) (currency : String)
  | store (context : String) (source : StoreError)
  | internal (text : String)
deriving DecidableEq

namespace SettlementError

/-- The message of an error. -/
def message : SettlementError → String
  | .insufficientBalance walletId balance required =>
    s!"Insufficient balance in wallet {walletId}: balance {balance}, required {required}"
  | .fillDecrease orderId current requested =>
    s!"Filled amount of order {orderId} cannot decrease ({current} -> {requested})"
  | .fillExceedsAmount orderId amount requested =>
    s!"Filled amount of order {orderId} exceeds order amount ({requested} > {amount})"
  | .illegalTransition source target => s!"Illegal status transition: {source} -> {target}"
  | .invalidAmount fault => "Invalid amount: " ++ fault.text
  | .marketMismatch fault => "Market mismatch: " ++ fault.text
  | .sideMismatch fault => "Order side mismatch: " ++ fault.text
  | .currencyUnavailable userId currency => s!"User {userId} has no wallet for currency {currency}"
  | .store context source => s!"{context}: {source}"
  | .internal text => s!"Internal error: {text}"

/-- The kind of an error. -/
def kind : SettlementError → ErrorKind
  | .insufficientBalance .. | .fillDecrease .. | .fillExceedsAmount .. | .illegalTransition ..
  | .invalidAmount _ | .marketMismatch _ | .sideMismatch _ => .invariantViolation
  | .currencyUnavailable .. => .notFound
  | .store _ source => source.kind
  | .internal _ => .internal

/-- The code of an error. -/
def code : SettlementError → String
  | .insufficientBalance .. => "INSUFFICIENT_BALANCE"
  | .fillDecrease .. => "FILL_DECREASE"
  | .fillExceedsAmount .. => "FILL_EXCEEDS_AMOUNT"
  | .illegalTransition .. => "ILLEGAL_TRANSITION"
  | .invalidAmount _ => "INVALID_AMOUNT"
  | .marketMismatch _ => "MARKET_MISMATCH"
  | .sideMismatch _ => "SIDE_MISMATCH"
  | .currencyUnavailable .. => "CURRENCY_UNAVAILABLE"
  | .store _ source => source.code
  | .internal _ => "INTERNAL_ERROR"

/-- Whether an error reports contention. -/
def isConflict (e : SettlementError) : Bool := e.kind == .conflict

/-- Whether the whole operation is worth another attempt. -/
def isRetryable (e : SettlementError) : Bool := e.kind.isRetryable

instance : ToString SettlementError := ⟨message⟩

end SettlementError

/-! ## Failures of the task queue -/

/-- The task queue cannot take a task now. -/
structure QueueUnavailable where
  reason : String
deriving DecidableEq

namespace QueueUnavailable

/-- The message of a task queue's failure. -/
def message (e : QueueUnavailable) : String := "Task queue unavailable: " ++ e.reason

/-- The code of a task queue's failure. -/
def code (_ : QueueUnavailable) : String := "QUEUE_UNAVAILABLE"

instance : ToString QueueUnavailable := ⟨message⟩

end QueueUnavailable
end Clearing
