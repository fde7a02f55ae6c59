import Clearing.Sql.Records
import Clearing.Sql.Session

/-!
# The store in a database

Every query is one statement, and its reply is read from the rows that the statement lists. A query about one
row takes the first row; where there is none, the row is missing. A new row's identifier is taken before its
statement is sent.
-/

namespace Clearing.Sql

/-! ## Queries as statements -/

/-- The condition that a column has a value. -/
def whose {α : Type} [ToCell α] (column : String) (a : α) : Condition := .equals column (.bound (cell a))

/-- The assignment of a value to a column. -/
def set {α : Type} [ToCell α] (column : String) (a : α) : Assignment where
  column := column
  term := .bound (cell a)

/-- The row of a table with this identifier. -/
def byId (relation : Relation) (id : Uuid) (lock : Option RowLock := none) : Statement :=
  .select { relation, conditions := [whose "id" id], lock }

/-- The statement of a query; a new row takes the identifier `fresh`. -/
def statement (fresh : Uuid) : Query → Statement
  | .getOrder id => byId .orders id
  | .lockOrder id => byId .orders id (some .waiting)
  | .updateOrder id status filled =>
    .update .orders
      [set "status" status, set "filled_amount" filled, { column := "updated_at", term := .now }]
      [whose "id" id] true
  | .getMarket id => byId .markets id
  | .insertFee rates =>
    .insert .fees [
      ("id", cell fresh), ("market_id", cell rates.marketId), ("maker_fee", cell rates.makerFee),
      ("taker_fee", cell rates.takerFee)]
  | .findWallet userId currency =>
    .select { relation := .wallets, conditions := [whose "user_id" userId, whose "currency" currency] }
  | .lockWallet id => byId .wallets id (some .waiting)
  | .updateWallet id balance lockedBalance =>
    .update .wallets [set "balance" balance, set "locked_balance" lockedBalance] [whose "id" id] true
  | .listUserWallets userId =>
    .select {
      relation := .wallets, conditions := [whose "user_id" userId], order := [.ascending "currency"] }
  | .listLargestWallets limit =>
    .select {
      relation := .wallets, order := [.descending "balance", .ascending "id"], limit := some limit }
  | .insertTrade e =>
    .insert .trades [
      ("id", cell fresh), ("buy_order_id", cell e.buyOrderId), ("sell_order_id", cell e.sellOrderId),
      ("market_id", cell e.marketId), ("price", cell e.price), ("amount", cell e.quantity),
      ("fee", cell e.fee)]
  | .insertLedgerEntry t amount =>
    .insert .ledger [
      ("id", cell fresh), ("user_id", cell t.userId), ("type", cell t.kind),
      ("currency", cell t.currency), ("requested_amount", cell t.amount), ("amount", cell amount),
      ("status", cell t.status), ("address", cell t.address), ("tx_hash", cell t.txHash)]
  | .lockLedgerEntry id => byId .ledger id (some .waiting)
  | .updateLedgerStatus id status => .update .ledger [set "status" status] [whose "id" id] true
  | .insertUser r =>
    .insert .users [
      ("id", cell fresh), ("username", cell r.username), ("email", cell r.email),
      ("password_hash", cell r.passwordHash), ("role", cell r.role)]
  | .consumeVerification id secretCode =>
    .update .verifications [{ column := "is_used", term := .yes }]
      [whose "id" id, whose "secret_code" secretCode, .equals "is_used" .no, .later "expired_at" .now]
      true
  | .markUserVerified username =>
    .update .users [{ column := "is_verified", term := .yes }] [whose "username" username] true
  | .insertOutbox t =>
    .insert .outbox [
      ("task_type", cell t.taskType), ("payload", cell t.payload), ("queue", cell t.queue),
      ("max_retry", cell t.maxRetry), ("delay_secs", cell t.delaySecs)]
  | .claimOutbox limit =>
    .select {
      relation := .outbox
      conditions := [.equals "status" (.text (Named.name OutboxStatus.pending))]
      order := [.ascending "id"]
      limit := some limit
      lock := some .skipping }
  | .markPublished id =>
    .update .outbox
      [{ column := "status", term := .text (Named.name OutboxStatus.published) },
       { column := "published_at", term := .now }, { column := "last_error", term := .null }]
      [whose "id" id] false
  | .recordFailure id error giveUp =>
    .update .outbox
      [{ column := "attempts", term := .successor "attempts" }, set "last_error" error,
       { column := "status", term := .choice giveUp (Named.name OutboxStatus.failed) "status" }]
      [whose "id" id] false

/-! ## Answers as replies -/

/-- Reads the first row of an answer. -/
def readOne {α : Type} (read : Row → Except RowFault α) (a : Answer) : Except RowFault α :=
  match a.rows with
  | [] => .error .noRow
  | row :: _ => read row

/-- Reads all rows of an answer. -/
def readAll {α : Type} (read : Row → Except RowFault α) (a : Answer) : Except RowFault (List α) :=
  a.rows.mapM read

/-- At least one row has to have been changed. -/
def readChanged (a : Answer) : Except RowFault Unit :=
  if a.affected = 0 then .error .noRow else .ok ()

/-- The reply to a query that an answer stands for. -/
def readReply (q : Query) (a : Answer) : Except RowFault q.Reply :=
  match q with
  | .getOrder _ | .lockOrder _ | .updateOrder .. => readOne readOrder a
  | .getMarket _ => readOne readMarket a
  | .insertFee _ => readOne readFee a
  | .findWallet .. | .lockWallet _ | .updateWallet .. => readOne readWallet a
  | .listUserWallets _ | .listLargestWallets _ => readAll readWallet a
  | .insertTrade _ => readOne readTrade a
  | .insertLedgerEntry .. | .lockLedgerEntry _ | .updateLedgerStatus .. => readOne readEntry a
  | .insertUser _ | .markUserVerified _ => readOne readUser a
  | .consumeVerification .. => readOne readVerification a
  | .insertOutbox _ => readOne readOutboxMessage a
  | .claimOutbox _ => readAll readOutboxMessage a
  | .markPublished _ | .recordFailure .. => readChanged a

/-! ## The store -/

namespace Session

/-- Sends a statement whose answer holds nothing. -/
def control (q : Statement) (what : String) (s : Session) : Step Session StoreError Unit :=
  match s.send q with
  | (.ok _, s) => { result := .ok (), state := s }
  | (.error f, s) => { result := .error (f.classify what), state := s, events := f.events }

/-- The session after a query has taken the identifier it needs. -/
def drawing (s : Session) (q : Query) : Session :=
  if q.drawsId then { s with ids := s.ids.advance } else s

/-- Asks a query. -/
def ask (q : Query) (s : Session) : Step Session StoreError q.Reply :=
  match (s.drawing q).send (statement s.ids.next q) with
  | (.ok a, s) =>
    match readReply q a with
    | .ok r => { result := .ok r, state := s }
    | .error f => { result := .error (f.classify q.missing), state := s, events := f.events }
  | (.error f, s) => { result := .error (f.classify q.missing), state := s, events := f.events }

instance : Store Session where
  name := "postgres"
  begin := control .begin "transaction"
  commit := control .commit "commit"
  rollback := control .rollback "rollback"
  ask := ask

end Session
end Clearing.Sql
