import Clearing.Ledger.Post
import Clearing.Order.Fill
import Clearing.Outbox.Publisher
import Clearing.Retry
import Clearing.Trade.Settle
import Clearing.User.Register
import Clearing.Wallet.Currencies

/-!
# The service

A service decides how withdrawals are sized and how verification mails are delivered; with that, every
command is an operation. A caller may have a command repeated while it ends in conflicts.
-/

namespace Clearing

/-- What a service is set up with. -/
structure Service where
  sizing : SizingPolicy := .globalMaxBalance
  task : TaskOptions := {}
deriving DecidableEq

/-- What can be done with a store and a courier. -/
inductive Command where
  | settleTrade (execution : Execution)
  | updateFill (request : FillRequest)
  | postTransfer (transfer : Transfer) (rates : FeeRates)
  | moveEntry (id : Uuid) (status : TransferStatus)
  | registerUser (registration : Registration)
  | verifyEmail (id : Int) (secretCode : String)
  | checkCurrencies (userId : Uuid) (base quote : String)
  | publishBatch (config : PublisherConfig)
deriving DecidableEq

namespace Command

/-- What a command gives when it succeeds. -/
@[reducible] def Result : Command → Type
  | .settleTrade _ => Settlement
  | .updateFill _ => FillReport
  | .postTransfer .. => Posting
  | .moveEntry .. => LedgerEntry
  | .registerUser _ => RegisteredUser
  | .verifyEmail .. => VerifiedUser
  | .checkCurrencies .. => Unit
  | .publishBatch _ => BatchReport

end Command

namespace Service

/-- The operation of a command. -/
def operation (s : Service) : (c : Command) → Operation c.Result
  | .settleTrade execution => execution.settle
  | .updateFill request => request.apply
  | .postTransfer transfer rates => transfer.post s.sizing rates
  | .moveEntry id status => LedgerEntry.move id status
  | .registerUser registration => registration.register s.task
  | .verifyEmail id secretCode => Verification.verify id secretCode
  | .checkCurrencies userId base quote => Wallet.checkCurrencies userId base quote
  | .publishBatch config => config.batch

variable {σ κ : Type} [Store σ] [Courier κ]

/-- Performs a command. -/
def perform (s : Service) (c : Command) (w : World σ κ) : Except SettlementError c.Result × World σ κ :=
  (s.operation c).perform w

/-- Performs a command, and repeats it under a policy while it ends in conflicts. The random part of each
delay is given, and waiting leaves the world as it is. -/
def performRetrying (s : Service) (policy : RetryPolicy) (draw : Nat → Nat) (c : Command)
    (w : World σ κ) : Retried c.Result × World σ κ :=
  policy.retry { draw := draw, note := fun e w => w.note e, sleep := fun _ w => w } (s.perform c) w

end Service
end Clearing
