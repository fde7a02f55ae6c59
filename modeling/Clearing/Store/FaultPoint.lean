import Clearing.Json.Codec

/-!
# Where a store may be made to fail

Each place is the start of one or several queries, or of opening or committing a transaction.
-/

namespace Clearing

/-- A place where a store may be made to fail. -/
inductive FaultPoint where
  | begin
  | commit
  | getOrder
  | lockOrder
  | updateOrder
  | getMarket
  | findWallet
  | lockWallet
  | updateWallet
  | insertTrade
  | insertLedgerEntry
  | updateLedgerStatus
  | insertFee
  | insertUser
  | consumeVerification
  | markUserVerified
  | insertOutbox
  | claimOutbox
  | updateOutbox
deriving DecidableEq

instance : Named FaultPoint where
  all := [
    .begin, .commit, .getOrder, .lockOrder, .updateOrder, .getMarket, .findWallet, .lockWallet,
    .updateWallet, .insertTrade, .insertLedgerEntry, .updateLedgerStatus, .insertFee, .insertUser,
    .consumeVerification, .markUserVerified, .insertOutbox, .claimOutbox, .updateOutbox]
  name
    | .begin => "Begin"
    | .commit => "Commit"
    | .getOrder => "GetOrder"
    | .lockOrder => "LockOrder"
    | .updateOrder => "UpdateOrder"
    | .getMarket => "GetMarket"
    | .findWallet => "FindWallet"
    | .lockWallet => "LockWallet"
    | .updateWallet => "UpdateWallet"
    | .insertTrade => "InsertTrade"
    | .insertLedgerEntry => "InsertLedgerEntry"
    | .updateLedgerStatus => "UpdateLedgerStatus"
    | .insertFee => "InsertFee"
    | .insertUser => "InsertUser"
    | .consumeVerification => "ConsumeVerifyEmail"
    | .markUserVerified => "MarkUserVerified"
    | .insertOutbox => "InsertOutbox"
    | .claimOutbox => "ClaimOutbox"
    | .updateOutbox => "UpdateOutbox"

end Clearing
