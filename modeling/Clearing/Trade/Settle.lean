import Clearing.Operation

/-!
# Settling a trade

The buyer pays price times quantity and the fee; the seller receives price times quantity without the fee.
Both wallets in the market's quote currency are found first, then locked in ascending order of their
identifiers, so that two trades over the same pair of wallets never wait for each other in a circle. Balances
are computed from the locked rows, and nothing is written before every check has passed.
-/

namespace Clearing

namespace Execution

/-- Price and quantity have to be positive, and the fee must not be negative. -/
def check (e : Execution) : Except SettlementError Unit :=
  if e.price ≤ Decimal.zero then .error (.invalidAmount (.priceNotPositive e.price))
  else if e.quantity ≤ Decimal.zero then .error (.invalidAmount (.quantityNotPositive e.quantity))
  else if e.fee < Decimal.zero then .error (.invalidAmount (.feeNegative e.fee))
  else .ok ()

/-- What the buyer's and the seller's balances change by; `none` if an amount is out of range. -/
def deltas? (e : Execution) : Option (Decimal × Decimal) := do
  let total ← e.price.mul? e.quantity
  let paid ← total.add? e.fee
  let received ← total.sub? e.fee
  some (-paid, received)

/-- Both orders have to be on the trade's market, and each on its side. -/
def checkOrders (e : Execution) (buy sell : Order) : Except SettlementError Unit :=
  if buy.marketId ≠ e.marketId ∨ sell.marketId ≠ e.marketId then
    .error (.marketMismatch (.orders e.marketId buy.marketId sell.marketId))
  else if buy.side ≠ .buy then .error (.sideMismatch (.order .buy buy.id buy.side))
  else if sell.side ≠ .sell then .error (.sideMismatch (.order .sell sell.id sell.side))
  else .ok ()

end Execution

/-- The balance of a wallet after a change, which must not make it negative. -/
def Wallet.apply (w : Wallet) (delta : Decimal) : Except SettlementError Decimal :=
  match w.balance.add? delta with
  | none => .error (.invalidAmount (.balanceOverflow w.id delta))
  | some balance =>
    if balance < Decimal.zero then .error (.insufficientBalance w.id w.balance (-delta))
    else .ok balance

namespace Execution

/-- Settles a trade whose buyer and seller share a wallet: only the difference is applied. -/
def settleWithin (e : Execution) (walletId : Uuid) (buyerDelta sellerDelta : Decimal) :
    Work Settlement := do
  let wallet ← Work.query (.lockWallet walletId) "failed to lock wallet"
  let net ← Work.ofOption (.invalidAmount (.selfTradeOverflow wallet.id))
    (buyerDelta.add? sellerDelta)
  let balance ← Work.ofExcept (wallet.apply net)
  let trade ← Work.query (.insertTrade e) "failed to create trade"
  let wallet ← Work.query (.updateWallet wallet.id balance wallet.lockedBalance)
    "failed to update buyer wallet"
  return { trade, buyerWallet := wallet, sellerWallet := wallet }

/-- Moves money between two locked wallets. -/
def exchange (e : Execution) (buyer seller : Wallet) (buyerDelta sellerDelta : Decimal) :
    Work Settlement := do
  let buyerBalance ← Work.ofExcept (buyer.apply buyerDelta)
  let sellerBalance ← Work.ofExcept (seller.apply sellerDelta)
  let trade ← Work.query (.insertTrade e) "failed to create trade"
  let buyerWallet ← Work.query (.updateWallet buyer.id buyerBalance buyer.lockedBalance)
    "failed to update buyer wallet"
  let sellerWallet ← Work.query (.updateWallet seller.id sellerBalance seller.lockedBalance)
    "failed to update seller wallet"
  return { trade, buyerWallet, sellerWallet }

/-- Settles a trade between two wallets. -/
def settleBetween (e : Execution) (buyerId sellerId : Uuid) (buyerDelta sellerDelta : Decimal) :
    Work Settlement := do
  let (low, high) := if buyerId < sellerId then (buyerId, sellerId) else (sellerId, buyerId)
  let first ← Work.query (.lockWallet low) "failed to lock wallet"
  let second ← Work.query (.lockWallet high) "failed to lock wallet"
  let (buyer, seller) := if first.id = buyerId then (first, second) else (second, first)
  e.exchange buyer seller buyerDelta sellerDelta

/-- The unit of work that settles a trade. -/
def work (e : Execution) : Work Settlement := do
  let (buyerDelta, sellerDelta) ←
    Work.ofOption (.invalidAmount (.valueOverflow e.price e.quantity e.fee)) e.deltas?
  let buy ← Work.query (.getOrder e.buyOrderId) "failed to load buy order"
  let sell ← Work.query (.getOrder e.sellOrderId) "failed to load sell order"
  Work.ofExcept (e.checkOrders buy sell)
  let market ← Work.query (.getMarket e.marketId) "failed to load market"
  let currency := market.quoteCurrency
  let buyerWallet ← Work.query (.findWallet buy.userId currency) "failed to load buyer wallet"
  let sellerWallet ← Work.query (.findWallet sell.userId currency) "failed to load seller wallet"
  if buyerWallet.id = sellerWallet.id then
    e.settleWithin buyerWallet.id buyerDelta sellerDelta
  else
    e.settleBetween buyerWallet.id sellerWallet.id buyerDelta sellerDelta

/-- Settles a trade. -/
def settle (e : Execution) : Operation Settlement where
  name := "settle_trade"
  check := e.check
  work := e.work
  report s := [.tradeSettled s]

end Execution
end Clearing
