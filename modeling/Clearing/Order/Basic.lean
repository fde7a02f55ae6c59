import Clearing.Json.Codec

/-!
# Orders

A resting order is filled in steps. Its status moves from open to partially filled to filled, or to cancelled
from either of the first two; a partially filled or an open order may keep its status. Filled and cancelled
are final.
-/

namespace Clearing

/-- Which side of a market an order stands on. -/
inductive OrderSide where
  | buy
  | sell
deriving DecidableEq

instance : Named OrderSide where
  all := [.buy, .sell]
  name
    | .buy => "buy"
    | .sell => "sell"

instance : ToString OrderSide := ⟨Named.name⟩

/-- How far an order has come. -/
inductive OrderStatus where
  | opened
  | partiallyFilled
  | filled
  | cancelled
deriving DecidableEq

instance : Named OrderStatus where
  all := [.opened, .partiallyFilled, .filled, .cancelled]
  name
    | .opened => "open"
    | .partiallyFilled => "partially_filled"
    | .filled => "filled"
    | .cancelled => "cancelled"

instance : ToString OrderStatus := ⟨Named.name⟩

namespace OrderStatus

/-- Whether nothing may happen to an order any more. -/
def isTerminal : OrderStatus → Bool
  | .filled | .cancelled => true
  | .opened | .partiallyFilled => false

/-- Whether a fill update may move an order from one status to another. -/
def mayBecome : OrderStatus → OrderStatus → Bool
  | .opened, .opened | .opened, .partiallyFilled | .opened, .cancelled => true
  | .partiallyFilled, .partiallyFilled | .partiallyFilled, .filled | .partiallyFilled, .cancelled => true
  | _, _ => false

end OrderStatus

/-- An order to buy or sell an amount at a price, and how much of it has been filled. -/
structure Order where
  id : Uuid
  userId : Uuid
  marketId : Uuid
  side : OrderSide
  price : Decimal
  amount : Decimal
  filledAmount : Decimal
  status : OrderStatus
  createdAt : Instant
  updatedAt : Instant
deriving DecidableEq

/-- A request to give an order a new status and filled amount. -/
structure FillRequest where
  orderId : Uuid
  status : OrderStatus
  filledAmount : Decimal
deriving DecidableEq

namespace Order

/-- What is left of the amount; `none` if the difference is out of range. -/
def remaining? (o : Order) : Option Decimal := o.amount.sub? o.filledAmount

/-- The names of the fields, in order. -/
def fieldNames : List String :=
  ["id", "user_id", "market_id", "side", "price", "amount", "filled_amount", "status", "created_at",
   "updated_at"]

instance : Encode Order where
  json o := .object [
    ("id", json o.id), ("user_id", json o.userId), ("market_id", json o.marketId),
    ("side", json o.side), ("price", json o.price), ("amount", json o.amount),
    ("filled_amount", json o.filledAmount), ("status", json o.status),
    ("created_at", json o.createdAt), ("updated_at", json o.updatedAt)]

instance : Decode Order where
  ofJson? v := do
    let ms ← Json.fullRecord? fieldNames v
    some {
      id := ← Json.field? ms "id"
      userId := ← Json.field? ms "user_id"
      marketId := ← Json.field? ms "market_id"
      side := ← Json.field? ms "side"
      price := ← Json.field? ms "price"
      amount := ← Json.field? ms "amount"
      filledAmount := ← Json.field? ms "filled_amount"
      status := ← Json.field? ms "status"
      createdAt := ← Json.field? ms "created_at"
      updatedAt := ← Json.field? ms "updated_at" }

end Order

namespace FillRequest

/-- The names of the fields, in order. -/
def fieldNames : List String := ["order_id", "status", "filled_amount"]

instance : Encode FillRequest where
  json r := .object [
    ("order_id", json r.orderId), ("status", json r.status), ("filled_amount", json r.filledAmount)]

instance : Decode FillRequest where
  ofJson? v := do
    let ms ← Json.fullRecord? fieldNames v
    some {
      orderId := ← Json.field? ms "order_id"
      status := ← Json.field? ms "status"
      filledAmount := ← Json.field? ms "filled_amount" }

end FillRequest
end Clearing
