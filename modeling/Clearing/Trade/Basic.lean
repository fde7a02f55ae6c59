import Clearing.Wallet.Basic

/-!
# Trades

An execution says that a buy order and a sell order met at a price. Settling it appends a trade and moves
money between the two owners' wallets.
-/

namespace Clearing

/-- An executed match of two orders, to be settled. -/
structure Execution where
  buyOrderId : Uuid
  sellOrderId : Uuid
  marketId : Uuid
  price : Decimal
  quantity : Decimal
  fee : Decimal
deriving DecidableEq

/-- A settled trade. -/
structure Trade where
  id : Uuid
  buyOrderId : Uuid
  sellOrderId : Uuid
  marketId : Uuid
  price : Decimal
  amount : Decimal
  fee : Decimal
  createdAt : Instant
deriving DecidableEq

/-- What a settlement leaves behind: the trade and both wallets after it. -/
structure Settlement where
  trade : Trade
  buyerWallet : Wallet
  sellerWallet : Wallet
deriving DecidableEq

namespace Execution

/-- The trade that records an execution. -/
def toTrade (e : Execution) (id : Uuid) (now : Instant) : Trade where
  id := id
  buyOrderId := e.buyOrderId
  sellOrderId := e.sellOrderId
  marketId := e.marketId
  price := e.price
  amount := e.quantity
  fee := e.fee
  createdAt := now

/-- The names of the fields, in order. -/
def fieldNames : List String :=
  ["buy_order_id", "sell_order_id", "market_id", "price", "quantity", "fee"]

instance : Encode Execution where
  json e := .object [
    ("buy_order_id", json e.buyOrderId), ("sell_order_id", json e.sellOrderId),
    ("market_id", json e.marketId), ("price", json e.price), ("quantity", json e.quantity),
    ("fee", json e.fee)]

instance : Decode Execution where
  ofJson? v := do
    let ms ← Json.fullRecord? fieldNames v
    some {
      buyOrderId := ← Json.field? ms "buy_order_id"
      sellOrderId := ← Json.field? ms "sell_order_id"
      marketId := ← Json.field? ms "market_id"
      price := ← Json.field? ms "price"
      quantity := ← Json.field? ms "quantity"
      fee := ← Json.field? ms "fee" }

end Execution

namespace Trade

/-- The names of the fields, in order. -/
def fieldNames : List String :=
  ["id", "buy_order_id", "sell_order_id", "market_id", "price", "amount", "fee", "created_at"]

instance : Encode Trade where
  json t := .object [
    ("id", json t.id), ("buy_order_id", json t.buyOrderId), ("sell_order_id", json t.sellOrderId),
    ("market_id", json t.marketId), ("price", json t.price), ("amount", json t.amount),
    ("fee", json t.fee), ("created_at", json t.createdAt)]

instance : Decode Trade where
  ofJson? v := do
    let ms ← Json.fullRecord? fieldNames v
    some {
      id := ← Json.field? ms "id"
      buyOrderId := ← Json.field? ms "buy_order_id"
      sellOrderId := ← Json.field? ms "sell_order_id"
      marketId := ← Json.field? ms "market_id"
      price := ← Json.field? ms "price"
      amount := ← Json.field? ms "amount"
      fee := ← Json.field? ms "fee"
      createdAt := ← Json.field? ms "created_at" }

end Trade

instance : Encode Settlement where
  json s := .object [
    ("trade", json s.trade), ("buyer_wallet", json s.buyerWallet),
    ("seller_wallet", json s.sellerWallet)]

end Clearing
