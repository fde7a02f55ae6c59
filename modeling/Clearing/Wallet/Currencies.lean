import Clearing.Operation

/-!
# Checking for currencies

Before an order is placed, its user has to hold a wallet in both currencies of the market. The check only
reads; its transaction gives it one view of the wallets.
-/

namespace Clearing.Wallet

/-- One of the wallets has to be in the currency. -/
def checkCurrency (wallets : List Wallet) (userId : Uuid) (currency : String) :
    Except SettlementError Unit :=
  if wallets.any (·.currency == currency) then .ok ()
  else .error (.currencyUnavailable userId currency)

/-- The unit of work that checks for both currencies. -/
def currenciesWork (userId : Uuid) (base quote : String) : Work Unit := do
  let wallets ← Work.query (.listUserWallets userId) "failed to list wallets"
  Work.ofExcept (checkCurrency wallets userId base)
  Work.ofExcept (checkCurrency wallets userId quote)

/-- Checks that a user holds wallets in a base and a quote currency. -/
def checkCurrencies (userId : Uuid) (base quote : String) : Operation Unit where
  name := "check_currency_availability"
  work := currenciesWork userId base quote
  report _ := [.currenciesAvailable userId]

end Clearing.Wallet
