import Clearing.Store.Query
import Clearing.Sql.Cell

/-!
# Records from rows

Each record is read from a row column by column, in the order of its fields; the first column that cannot be
read decides the error.
-/

namespace Clearing.Sql

/-- Reads an order. -/
def readOrder (row : Row) : Except RowFault Order := do
  return {
    id := ← Row.read row "id"
    userId := ← Row.read row "user_id"
    marketId := ← Row.read row "market_id"
    side := ← Row.readName row "side"
    price := ← Row.read row "price"
    amount := ← Row.read row "amount"
    filledAmount := ← Row.read row "filled_amount"
    status := ← Row.readName row "status"
    createdAt := ← Row.read row "created_at"
    updatedAt := ← Row.read row "updated_at" }

/-- Reads a wallet. -/
def readWallet (row : Row) : Except RowFault Wallet := do
  return {
    id := ← Row.read row "id"
    userId := ← Row.read row "user_id"
    currency := ← Row.read row "currency"
    balance := ← Row.read row "balance"
    lockedBalance := ← Row.read row "locked_balance"
    createdAt := ← Row.read row "created_at" }

/-- Reads a market. -/
def readMarket (row : Row) : Except RowFault Market := do
  return {
    id := ← Row.read row "id"
    baseCurrency := ← Row.read row "base_currency"
    quoteCurrency := ← Row.read row "quote_currency"
    minOrderAmount := ← Row.read row "min_order_amount"
    pricePrecision := ← Row.read row "price_precision"
    createdAt := ← Row.read row "created_at" }

/-- Reads a trade. -/
def readTrade (row : Row) : Except RowFault Trade := do
  return {
    id := ← Row.read row "id"
    buyOrderId := ← Row.read row "buy_order_id"
    sellOrderId := ← Row.read row "sell_order_id"
    marketId := ← Row.read row "market_id"
    price := ← Row.read row "price"
    amount := ← Row.read row "amount"
    fee := ← Row.read row "fee"
    createdAt := ← Row.read row "created_at" }

/-- Reads a fee row. -/
def readFee (row : Row) : Except RowFault FeeSchedule := do
  return {
    id := ← Row.read row "id"
    marketId := ← Row.read row "market_id"
    makerFee := ← Row.read row "maker_fee"
    takerFee := ← Row.read row "taker_fee"
    createdAt := ← Row.read row "created_at" }

/-- Reads a ledger entry. -/
def readEntry (row : Row) : Except RowFault LedgerEntry := do
  return {
    id := ← Row.read row "id"
    userId := ← Row.read row "user_id"
    kind := ← Row.readName row "type"
    currency := ← Row.read row "currency"
    requestedAmount := ← Row.read row "requested_amount"
    amount := ← Row.read row "amount"
    status := ← Row.readName row "status"
    address := ← Row.read row "address"
    txHash := ← Row.read row "tx_hash"
    createdAt := ← Row.read row "created_at" }

/-- Reads a user. -/
def readUser (row : Row) : Except RowFault User := do
  return {
    id := ← Row.read row "id"
    username := ← Row.read row "username"
    email := ← Row.read row "email"
    passwordHash := ← Row.read row "password_hash"
    role := ← Row.readName row "role"
    isVerified := ← Row.read row "is_verified"
    createdAt := ← Row.read row "created_at" }

/-- Reads a verification. -/
def readVerification (row : Row) : Except RowFault Verification := do
  return {
    id := ← Row.read row "id"
    username := ← Row.read row "username"
    email := ← Row.read row "email"
    secretCode := ← Row.read row "secret_code"
    isUsed := ← Row.read row "is_used"
    createdAt := ← Row.read row "created_at"
    expiredAt := ← Row.read row "expired_at" }

/-- Reads an outbox row. -/
def readOutboxMessage (row : Row) : Except RowFault OutboxMessage := do
  return {
    id := ← Row.read row "id"
    taskType := ← Row.read row "task_type"
    payload := ← Row.read row "payload"
    queue := ← Row.read row "queue"
    maxRetry := ← Row.read row "max_retry"
    delaySecs := ← Row.read row "delay_secs"
    status := ← Row.readName row "status"
    attempts := ← Row.read row "attempts"
    lastError := ← Row.read row "last_error"
    createdAt := ← Row.read row "created_at"
    publishedAt := ← Row.read row "published_at" }

end Clearing.Sql
