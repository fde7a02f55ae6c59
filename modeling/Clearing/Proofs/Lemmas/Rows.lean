import Clearing.Market
import Clearing.Sql.Schema
import Clearing.Trade.Basic

/-!
# Records as rows

How the records of each table stand in the rows of a database.
-/

namespace Clearing

open Sql

/-- Records that a table of the schema holds: their rows list the columns of the table in order. -/
class Tabled (ρ : Type) where
  relation : Relation
  row : ρ → Row
  columns : ∀ r, (row r).map Prod.fst = relation.columnNames

instance : Tabled User where
  relation := .users
  row u := [
    ("id", cell u.id), ("username", cell u.username), ("email", cell u.email),
    ("password_hash", cell u.passwordHash), ("role", cell u.role), ("is_verified", cell u.isVerified),
    ("created_at", cell u.createdAt)]
  columns _ := rfl

instance : Tabled Verification where
  relation := .verifications
  row v := [
    ("id", cell v.id), ("username", cell v.username), ("email", cell v.email),
    ("secret_code", cell v.secretCode), ("is_used", cell v.isUsed), ("created_at", cell v.createdAt),
    ("expired_at", cell v.expiredAt)]
  columns _ := rfl

instance : Tabled Market where
  relation := .markets
  row m := [
    ("id", cell m.id), ("base_currency", cell m.baseCurrency), ("quote_currency", cell m.quoteCurrency),
    ("min_order_amount", cell m.minOrderAmount), ("price_precision", cell m.pricePrecision),
    ("created_at", cell m.createdAt)]
  columns _ := rfl

instance : Tabled FeeSchedule where
  relation := .fees
  row f := [
    ("id", cell f.id), ("market_id", cell f.marketId), ("maker_fee", cell f.makerFee),
    ("taker_fee", cell f.takerFee), ("created_at", cell f.createdAt)]
  columns _ := rfl

instance : Tabled Wallet where
  relation := .wallets
  row w := [
    ("id", cell w.id), ("user_id", cell w.userId), ("currency", cell w.currency), ("balance", cell w.balance),
    ("locked_balance", cell w.lockedBalance), ("created_at", cell w.createdAt)]
  columns _ := rfl

instance : Tabled Order where
  relation := .orders
  row o := [
    ("id", cell o.id), ("user_id", cell o.userId), ("market_id", cell o.marketId), ("side", cell o.side),
    ("price", cell o.price), ("amount", cell o.amount), ("filled_amount", cell o.filledAmount),
    ("status", cell o.status), ("created_at", cell o.createdAt), ("updated_at", cell o.updatedAt)]
  columns _ := rfl

instance : Tabled Trade where
  relation := .trades
  row t := [
    ("id", cell t.id), ("buy_order_id", cell t.buyOrderId), ("sell_order_id", cell t.sellOrderId),
    ("market_id", cell t.marketId), ("price", cell t.price), ("amount", cell t.amount), ("fee", cell t.fee),
    ("created_at", cell t.createdAt)]
  columns _ := rfl

instance : Tabled LedgerEntry where
  relation := .ledger
  row e := [
    ("id", cell e.id), ("user_id", cell e.userId), ("type", cell e.kind), ("currency", cell e.currency),
    ("requested_amount", cell e.requestedAmount), ("amount", cell e.amount), ("status", cell e.status),
    ("address", cell e.address), ("tx_hash", cell e.txHash), ("created_at", cell e.createdAt)]
  columns _ := rfl

instance : Tabled OutboxMessage where
  relation := .outbox
  row m := [
    ("id", cell m.id), ("task_type", cell m.taskType), ("payload", cell m.payload), ("queue", cell m.queue),
    ("max_retry", cell m.maxRetry), ("delay_secs", cell m.delaySecs), ("status", cell m.status),
    ("attempts", cell m.attempts), ("last_error", cell m.lastError), ("created_at", cell m.createdAt),
    ("published_at", cell m.publishedAt)]
  columns _ := rfl

end Clearing
