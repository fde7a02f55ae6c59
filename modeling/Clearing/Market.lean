import Clearing.Json.Codec

/-!
# Markets and fee rates

A market trades a base currency against a quote currency. Fee rates for makers and takers are recorded per
market, one row beside each ledger entry.
-/

namespace Clearing

/-- A pair of currencies that is traded. -/
structure Market where
  id : Uuid
  baseCurrency : String
  quoteCurrency : String
  minOrderAmount : Decimal
  pricePrecision : Int32
  createdAt : Instant
deriving DecidableEq

/-- Recorded fee rates of a market. -/
structure FeeSchedule where
  id : Uuid
  marketId : Uuid
  makerFee : Decimal
  takerFee : Decimal
  createdAt : Instant
deriving DecidableEq

/-- Fee rates to be recorded. -/
structure FeeRates where
  marketId : Uuid
  makerFee : Decimal
  takerFee : Decimal
deriving DecidableEq

namespace Market

/-- The names of the fields, in order. -/
def fieldNames : List String :=
  ["id", "base_currency", "quote_currency", "min_order_amount", "price_precision", "created_at"]

instance : Encode Market where
  json m := .object [
    ("id", json m.id), ("base_currency", json m.baseCurrency),
    ("quote_currency", json m.quoteCurrency), ("min_order_amount", json m.minOrderAmount),
    ("price_precision", json m.pricePrecision), ("created_at", json m.createdAt)]

instance : Decode Market where
  ofJson? v := do
    let ms ← Json.fullRecord? fieldNames v
    some {
      id := ← Json.field? ms "id"
      baseCurrency := ← Json.field? ms "base_currency"
      quoteCurrency := ← Json.field? ms "quote_currency"
      minOrderAmount := ← Json.field? ms "min_order_amount"
      pricePrecision := ← Json.field? ms "price_precision"
      createdAt := ← Json.field? ms "created_at" }

end Market

namespace FeeSchedule

/-- The names of the fields, in order. -/
def fieldNames : List String := ["id", "market_id", "maker_fee", "taker_fee", "created_at"]

instance : Encode FeeSchedule where
  json f := .object [
    ("id", json f.id), ("market_id", json f.marketId), ("maker_fee", json f.makerFee),
    ("taker_fee", json f.takerFee), ("created_at", json f.createdAt)]

instance : Decode FeeSchedule where
  ofJson? v := do
    let ms ← Json.fullRecord? fieldNames v
    some {
      id := ← Json.field? ms "id"
      marketId := ← Json.field? ms "market_id"
      makerFee := ← Json.field? ms "maker_fee"
      takerFee := ← Json.field? ms "taker_fee"
      createdAt := ← Json.field? ms "created_at" }

end FeeSchedule

namespace FeeRates

/-- The row that records fee rates. -/
def toSchedule (r : FeeRates) (id : Uuid) (now : Instant) : FeeSchedule where
  id := id
  marketId := r.marketId
  makerFee := r.makerFee
  takerFee := r.takerFee
  createdAt := now

/-- The names of the fields, in order. -/
def fieldNames : List String := ["market_id", "maker_fee", "taker_fee"]

instance : Encode FeeRates where
  json f := .object [
    ("market_id", json f.marketId), ("maker_fee", json f.makerFee), ("taker_fee", json f.takerFee)]

instance : Decode FeeRates where
  ofJson? v := do
    let ms ← Json.fullRecord? fieldNames v
    some {
      marketId := ← Json.field? ms "market_id"
      makerFee := ← Json.field? ms "maker_fee"
      takerFee := ← Json.field? ms "taker_fee" }

end FeeRates
end Clearing
