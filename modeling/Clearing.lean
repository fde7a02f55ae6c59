import Clearing.Courier.Mailbox
import Clearing.Courier.Stream
import Clearing.Json.Reader
import Clearing.Json.Writer
import Clearing.Memory.Seed
import Clearing.Service
import Clearing.Settings
import Clearing.Sql.Store
import Clearing.Proofs.Lemmas.Rounding
import Clearing.Proofs.Lemmas.Reading
import Clearing.Proofs.Lemmas.Table
import Clearing.Proofs.Lemmas.Transaction
import Clearing.Proofs.Effect
import Clearing.Proofs.Atomicity
import Clearing.Proofs.Parts
import Clearing.Proofs.Run
import Clearing.Proofs.OrderLifecycle
import Clearing.Proofs.ExactSettlement
import Clearing.Proofs.WalletBooks
import Clearing.Proofs.LockOrder
import Clearing.Proofs.OutboxDelivery
import Clearing.Proofs.Constraints
import Clearing.Proofs.TransactionBracket
import Clearing.Proofs.WalletAccess
import Clearing.Proofs.LockedReads
import Clearing.Proofs.ChecksFirst
import Clearing.Proofs.ConflictRetry
import Clearing.Proofs.OutboxRows
import Clearing.Proofs.SurfacedFaults
import Clearing.Proofs.TransactionLog
import Clearing.Proofs.LedgerHistory
import Clearing.Proofs.VerifiedUsers
import Clearing.Proofs.Credentials
import Clearing.Proofs.Independence
import Clearing.Proofs.Footprints
import Clearing.Proofs.TradeAcceptance
import Clearing.Proofs.Refusals
import Clearing.Proofs.Views
import Clearing.Proofs.Lemmas.Differences
import Clearing.Proofs.FillAcceptance
import Clearing.Proofs.Withdrawals
import Clearing.Proofs.Lemmas.Backoff
import Clearing.Proofs.OutboxDrain
import Clearing.Proofs.RetryCalls
import Clearing.Proofs.Delays
import Clearing.Proofs.BatchOnConnection
import Clearing.Proofs.PublisherLoop
import Clearing.Proofs.StoresAgree
import Clearing.Proofs.WrittenForm
import Clearing.Proofs.DueTimes
import Clearing.Proofs.Lemmas.JsonText
import Clearing.Proofs.SettingsFile
import Clearing.Proofs.SchemaSetup
