import Clearing.Json.Codec

/-!
# Wallets

A wallet holds one user's balance in one currency. The locked balance is carried along and never moved by a
settlement.
-/

namespace Clearing

/-- A user's balance in a currency. -/
structure Wallet where
  id : Uuid
  userId : Uuid
  currency : String
  balance : Decimal
  lockedBalance : Decimal
  createdAt : Instant
deriving DecidableEq

namespace Wallet

/-- The names of the fields, in order. -/
def fieldNames : List String :=
  ["id", "user_id", "currency", "balance", "locked_balance", "created_at"]

instance : Encode Wallet where
  json w := .object [
    ("id", json w.id), ("user_id", json w.userId), ("currency", json w.currency),
    ("balance", json w.balance), ("locked_balance", json w.lockedBalance),
    ("created_at", json w.createdAt)]

instance : Decode Wallet where
  ofJson? v := do
    let ms ← Json.fullRecord? fieldNames v
    some {
      id := ← Json.field? ms "id"
      userId := ← Json.field? ms "user_id"
      currency := ← Json.field? ms "currency"
      balance := ← Json.field? ms "balance"
      lockedBalance := ← Json.field? ms "locked_balance"
      createdAt := ← Json.field? ms "created_at" }

end Wallet
end Clearing
