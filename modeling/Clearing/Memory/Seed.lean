import Clearing.Memory.Store

/-!
# Seeding a store in memory

Users, wallets, markets, orders and verifications come into being outside of this library. Seeding writes such
a row to the committed rows, in no transaction; a row of the same identifier is overwritten.
-/

namespace Clearing.MemoryStore

/-- Changes the committed rows outside of a transaction. -/
def amend (s : MemoryStore) (f : Tables → Tables) : MemoryStore :=
  { s with committed := f s.committed, draft := f s.committed }

/-- The store after the next identifier has been taken. -/
def drawn (s : MemoryStore) : MemoryStore := { s with ids := s.ids.advance }

/-- Writes a user who has not been verified. -/
def seedUser (username email : String) (s : MemoryStore) : User × MemoryStore :=
  let registration : Registration := { username, email, passwordHash := "", role := .user }
  let user := registration.toUser s.ids.next s.now
  (user, s.drawn.amend (·.putUser user))

/-- Writes a wallet in which nothing is locked. -/
def seedWallet (userId : Uuid) (currency : String) (balance : Decimal) (s : MemoryStore) :
    Wallet × MemoryStore :=
  let wallet : Wallet := {
    id := s.ids.next
    userId := userId
    currency := currency
    balance := balance
    lockedBalance := Decimal.zero
    createdAt := s.now }
  (wallet, s.drawn.amend (·.putWallet wallet))

/-- Writes a market. -/
def seedMarket (base quote : String) (s : MemoryStore) : Market × MemoryStore :=
  let market : Market := {
    id := s.ids.next
    baseCurrency := base
    quoteCurrency := quote
    minOrderAmount := Decimal.zero
    pricePrecision := 8
    createdAt := s.now }
  (market, s.drawn.amend (·.putMarket market))

/-- Writes an open order of which nothing is filled. -/
def seedOrder (userId marketId : Uuid) (side : OrderSide) (price amount : Decimal) (s : MemoryStore) :
    Order × MemoryStore :=
  let order : Order := {
    id := s.ids.next
    userId := userId
    marketId := marketId
    side := side
    price := price
    amount := amount
    filledAmount := Decimal.zero
    status := .opened
    createdAt := s.now
    updatedAt := s.now }
  (order, s.drawn.amend (·.putOrder order))

/-- Writes an unused verification that expires after this many seconds. -/
def seedVerification (username email secretCode : String) (seconds : Int) (s : MemoryStore) :
    Verification × MemoryStore :=
  let (verification, rows) :=
    s.committed.addVerification username email secretCode s.now (s.now.addSeconds seconds)
  (verification, s.amend fun _ => rows)

end Clearing.MemoryStore
