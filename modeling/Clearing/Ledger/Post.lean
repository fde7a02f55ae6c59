import Clearing.Operation

/-!
# Posting transfers

Posting writes a ledger entry and a fee row; balances are moved by whoever completes the transfer. A deposit
is posted as requested. For a withdrawal a sizing policy decides: either the largest balance of any wallet
less the request, or the request itself if the user's own wallet, locked for the purpose, covers it.
-/

namespace Clearing

namespace SizingPolicy

/-- The amount a withdrawal is posted with when the largest balance of all wallets decides. -/
def postedFromLargest (t : Transfer) : Work Decimal := do
  let wallets ← Work.query (.listLargestWallets 1) "failed to list wallets"
  let largest := (wallets.head?.map (·.balance)).getD Decimal.zero
  Work.ofOption (.invalidAmount (.withdrawalOverflow t.amount largest)) (largest.sub? t.amount)

/-- The amount a withdrawal is posted with when the user's own wallet has to cover it. -/
def postedFromAccount (t : Transfer) : Work Decimal := do
  let found ← Work.query (.findWallet t.userId t.currency) "failed to load withdrawal wallet"
  let wallet ← Work.query (.lockWallet found.id) "failed to lock withdrawal wallet"
  Work.require (t.amount ≤ wallet.balance) (.insufficientBalance wallet.id wallet.balance t.amount)
  return t.amount

/-- The amount a withdrawal is posted with. -/
def posted : SizingPolicy → Transfer → Work Decimal
  | .globalMaxBalance, t => postedFromLargest t
  | .accountBalance, t => postedFromAccount t

end SizingPolicy

namespace Transfer

/-- The requested amount has to be positive, and fee rates must not be negative. -/
def check (t : Transfer) (rates : FeeRates) : Except SettlementError Unit :=
  if t.amount ≤ Decimal.zero then .error (.invalidAmount (.transferNotPositive t.kind t.amount))
  else if rates.makerFee < Decimal.zero ∨ rates.takerFee < Decimal.zero then
    .error (.invalidAmount (.ratesNegative rates.makerFee rates.takerFee))
  else .ok ()

/-- The amount a transfer is posted with. -/
def posted (sizing : SizingPolicy) (t : Transfer) : Work Decimal :=
  match t.kind with
  | .deposit => .done t.amount
  | .withdrawal => sizing.posted t

/-- The unit of work that posts a transfer. -/
def work (sizing : SizingPolicy) (t : Transfer) (rates : FeeRates) : Work Posting := do
  let amount ← t.posted sizing
  Work.require (Decimal.zero ≤ amount) (.invalidAmount (.postedNegative t.kind amount t.amount))
  let entry ← Work.query (.insertLedgerEntry t amount) "failed to create transaction"
  let fee ← Work.query (.insertFee rates) "failed to create fee"
  return { entry, fee }

/-- Posts a transfer. -/
def post (sizing : SizingPolicy) (t : Transfer) (rates : FeeRates) : Operation Posting where
  name := "post_transaction"
  check := t.check rates
  work := t.work sizing rates
  report p := [.transferPosted p sizing]

end Transfer

namespace LedgerEntry

/-- Whether an entry may be given a status. -/
def checkMove (e : LedgerEntry) (status : TransferStatus) : Except SettlementError Unit :=
  if e.status.mayBecome status then .ok ()
  else .error (.illegalTransition (toString e.status) (toString status))

/-- The unit of work that gives an entry a new status. -/
def moveWork (id : Uuid) (status : TransferStatus) : Work LedgerEntry := do
  let entry ← Work.query (.lockLedgerEntry id) "failed to load transaction"
  Work.ofExcept (entry.checkMove status)
  Work.query (.updateLedgerStatus id status) "failed to update transaction status"

/-- Moves an entry out of its pending state. -/
def move (id : Uuid) (status : TransferStatus) : Operation LedgerEntry where
  name := "update_ledger_status"
  work := moveWork id status
  report _ := [.transferMoved id status]

end LedgerEntry
end Clearing
