import Clearing.Sql.Cell
import Clearing.Ledger.Basic
import Clearing.Order.Basic
import Clearing.Outbox.Message
import Clearing.User.Basic

/-!
# The database schema

Nine tables and an index over the pending outbox rows. Tables are created in an order in which every table
follows those it refers to. The checks repeat what operations check before they write.
-/

namespace Clearing.Sql

/-! ## What columns are made of -/

/-- The type of a column. -/
inductive ColumnType where
  | uuid
  | varchar (length : Nat)
  | text
  | boolean
  | numeric
  | int
  | bigint
  | bigserial
  | jsonb
  | timestamp
deriving DecidableEq

/-- A type as it stands in a definition. -/
def ColumnType.sql : ColumnType → String
  | .uuid => "UUID"
  | .varchar length => s!"VARCHAR({length})"
  | .text => "TEXT"
  | .boolean => "BOOLEAN"
  | .numeric => "NUMERIC"
  | .int => "INT"
  | .bigint => "BIGINT"
  | .bigserial => "BIGSERIAL"
  | .jsonb => "JSONB"
  | .timestamp => "TIMESTAMPTZ"

/-- What a column holds when no value is given for it. -/
inductive DefaultValue where
  | number (n : Int)
  | text (s : String)
  | no
  | now
  | minutesFromNow (minutes : Nat)
deriving DecidableEq

namespace DefaultValue

/-- A default as it stands in a definition. -/
def sql : DefaultValue → String
  | .number n => toString n
  | .text s => s!"'{s}'"
  | .no => "FALSE"
  | .now => "NOW()"
  | .minutesFromNow minutes => s!"(NOW() + INTERVAL '{minutes} minutes')"

end DefaultValue

/-- A condition on the rows of a table. -/
inductive Check where
  | notNegative (column : String)
  | positive (column : String)
  | upTo (column greatest : String)
  | oneOf (column : String) (names : List String)
deriving DecidableEq

namespace Check

/-- A check as it stands in a definition. -/
def sql : Check → String
  | .notNegative column => s!"{column} >= 0"
  | .positive column => s!"{column} > 0"
  | .upTo column greatest => s!"{column} >= 0 AND {column} <= {greatest}"
  | .oneOf column names =>
    column ++ " IN (" ++ ", ".intercalate (names.map fun name => s!"'{name}'") ++ ")"

/-- The check that a column holds the name of a value of a type. -/
def named (α : Type) [Named α] (column : String) : Check :=
  .oneOf column ((Named.all : List α).map Named.name)

/-- Whether a row passes a check. -/
def holds (row : Row) : Check → Bool
  | .notNegative column =>
    match Row.cell? row column with
    | some (.numeric n) => decide (0 ≤ n.signed)
    | _ => false
  | .positive column =>
    match Row.cell? row column with
    | some (.numeric n) => decide (0 < n.signed)
    | _ => false
  | .upTo column greatest =>
    match Row.cell? row column, Row.cell? row greatest with
    | some (.numeric m), some (.numeric n) => decide (0 ≤ m.signed) && m.atMost n
    | _, _ => false
  | .oneOf column names =>
    match Row.cell? row column with
    | some (.text s) => names.contains s
    | _ => false

end Check

/-- A rule on a single column. -/
inductive ColumnRule where
  | primaryKey
  | notNull
  | unique
  | references (table column : String)
  | default (value : DefaultValue)
  | check (condition : Check)
deriving DecidableEq

/-- A rule as it stands in a definition. -/
def ColumnRule.sql : ColumnRule → String
  | .primaryKey => "PRIMARY KEY"
  | .notNull => "NOT NULL"
  | .unique => "UNIQUE"
  | .references table column => s!"REFERENCES {table} ({column})"
  | .default value => "DEFAULT " ++ value.sql
  | .check condition => s!"CHECK ({condition.sql})"

/-- A column of a table. -/
structure Column where
  name : String
  type : ColumnType
  rules : List ColumnRule
deriving DecidableEq

namespace Column

/-- A column as it stands in a definition. -/
def sql (c : Column) : String := " ".intercalate (c.name :: c.type.sql :: c.rules.map ColumnRule.sql)

/-- A column that may be null. -/
def nullable (name : String) (type : ColumnType) : Column := { name, type, rules := [] }

/-- A column that may not be null, and whatever else is said of it. -/
def required (name : String) (type : ColumnType) (rules : List ColumnRule := []) : Column where
  name := name
  type := type
  rules := .notNull :: rules

/-- The identifier of a row. -/
def key (type : ColumnType) : Column := { name := "id", type, rules := [.primaryKey] }

/-- A reference to the identifier of a row. -/
def reference (name table : String) : Column := required name .uuid [.references table "id"]

/-- The time at which something happened to a row. -/
def time (name : String) : Column := required name .timestamp [.default .now]

/-- A name of a value of a type, perhaps with a default. -/
def named (α : Type) [Named α] (name : String) (length : Nat) (value : Option α := none) : Column :=
  required name (.varchar length)
    ((value.map fun a => ColumnRule.default (.text (Named.name a))).toList ++
      [.check (Check.named α name)])

/-- A numeric that is not negative, and zero by default. -/
def nonNegative (name : String) : Column :=
  required name .numeric [.default (.number 0), .check (.notNegative name)]

/-- The default of a column. -/
def default? (c : Column) : Option DefaultValue :=
  c.rules.findSome? fun
    | .default value => some value
    | _ => none

/-- The checks of a column. -/
def checks (c : Column) : List Check :=
  c.rules.filterMap fun
    | .check condition => some condition
    | _ => none

end Column

/-! ## Tables -/

/-- A table, and the columns that no two rows share. -/
structure TableSchema where
  name : String
  columns : List Column
  unique : List String := []
deriving DecidableEq

namespace TableSchema

/-- The names of the columns, in order. -/
def columnNames (t : TableSchema) : List String := t.columns.map Column.name

/-- The statement that creates a table unless it is there. -/
def sql (t : TableSchema) : String :=
  let unique := if t.unique.isEmpty then [] else ["UNIQUE (" ++ ", ".intercalate t.unique ++ ")"]
  "CREATE TABLE IF NOT EXISTS " ++ t.name ++ " ( " ++
    ", ".intercalate (t.columns.map Column.sql ++ unique) ++ " )"

/-- The checks of all columns. -/
def checks (t : TableSchema) : List Check := t.columns.flatMap Column.checks

end TableSchema

/-- The tables of the schema. -/
inductive Relation where
  | users
  | verifications
  | markets
  | fees
  | wallets
  | orders
  | trades
  | ledger
  | outbox
deriving DecidableEq

namespace Relation

/-- All tables, every one after those it refers to. -/
def all : List Relation :=
  [.users, .verifications, .markets, .fees, .wallets, .orders, .trades, .ledger, .outbox]

/-- The name of a table. -/
def name : Relation → String
  | .users => "users"
  | .verifications => "verify_emails"
  | .markets => "markets"
  | .fees => "fees"
  | .wallets => "wallets"
  | .orders => "orders"
  | .trades => "trades"
  | .ledger => "transactions"
  | .outbox => "outbox_messages"

/-- The columns of a table. -/
def columns : Relation → List Column
  | .users => [
    .key .uuid,
    .required "username" (.varchar 64) [.unique],
    .required "email" (.varchar 255) [.unique],
    .required "password_hash" .text,
    .named UserRole "role" 16 (some .user),
    .required "is_verified" .boolean [.default .no],
    .time "created_at"]
  | .verifications => [
    .key .bigserial,
    .required "username" (.varchar 64) [.references "users" "username"],
    .required "email" (.varchar 255),
    .required "secret_code" (.varchar 64),
    .required "is_used" .boolean [.default .no],
    .time "created_at",
    .required "expired_at" .timestamp [.default (.minutesFromNow 15)]]
  | .markets => [
    .key .uuid,
    .required "base_currency" (.varchar 16),
    .required "quote_currency" (.varchar 16),
    .nonNegative "min_order_amount",
    .required "price_precision" .int [.default (.number 8)],
    .time "created_at"]
  | .fees => [
    .key .uuid,
    .reference "market_id" "markets",
    .required "maker_fee" .numeric [.check (.notNegative "maker_fee")],
    .required "taker_fee" .numeric [.check (.notNegative "taker_fee")],
    .time "created_at"]
  | .wallets => [
    .key .uuid,
    .reference "user_id" "users",
    .required "currency" (.varchar 16),
    .nonNegative "balance",
    .nonNegative "locked_balance",
    .time "created_at"]
  | .orders => [
    .key .uuid,
    .reference "user_id" "users",
    .reference "market_id" "markets",
    .named OrderSide "side" 8,
    .required "price" .numeric [.check (.positive "price")],
    .required "amount" .numeric [.check (.positive "amount")],
    .required "filled_amount" .numeric
      [.default (.number 0), .check (.upTo "filled_amount" "amount")],
    .named OrderStatus "status" 20 (some .opened),
    .time "created_at",
    .time "updated_at"]
  | .trades => [
    .key .uuid,
    .reference "buy_order_id" "orders",
    .reference "sell_order_id" "orders",
    .reference "market_id" "markets",
    .required "price" .numeric [.check (.positive "price")],
    .required "amount" .numeric [.check (.positive "amount")],
    .nonNegative "fee",
    .time "created_at"]
  | .ledger => [
    .key .uuid,
    .reference "user_id" "users",
    .named TransferKind "type" 16,
    .required "currency" (.varchar 16),
    .required "requested_amount" .numeric [.check (.positive "requested_amount")],
    .required "amount" .numeric [.check (.notNegative "amount")],
    .named TransferStatus "status" 16 (some .pending),
    .nullable "address" .text,
    .nullable "tx_hash" .text,
    .time "created_at"]
  | .outbox => [
    .key .bigserial,
    .required "task_type" (.varchar 64),
    .required "payload" .jsonb,
    .required "queue" (.varchar 32),
    .required "max_retry" .int,
    .required "delay_secs" .bigint [.default (.number 0)],
    .named OutboxStatus "status" 16 (some .pending),
    .required "attempts" .int [.default (.number 0)],
    .nullable "last_error" .text,
    .time "created_at",
    .nullable "published_at" .timestamp]

/-- The columns of a table that no two rows share. -/
def unique : Relation → List String
  | .markets => ["base_currency", "quote_currency"]
  | .wallets => ["user_id", "currency"]
  | _ => []

/-- A table with its columns. -/
def schema (r : Relation) : TableSchema := { name := r.name, columns := r.columns, unique := r.unique }

/-- The names of a table's columns, in order. -/
def columnNames (r : Relation) : List String := r.schema.columnNames

end Relation

/-! ## The whole schema -/

/-- Something that is created in a database. -/
inductive SchemaObject where
  | table (relation : Relation)
  | pendingIndex
deriving DecidableEq

namespace SchemaObject

/-- All objects of the schema, in the order in which they are created. -/
def all : List SchemaObject := Relation.all.map .table ++ [.pendingIndex]

/-- The name of an object. -/
def name : SchemaObject → String
  | .table relation => relation.name
  | .pendingIndex => "outbox_messages_pending_idx"

/-- The statement that creates an object unless it is there. -/
def sql : SchemaObject → String
  | .table relation => relation.schema.sql
  | .pendingIndex =>
    "CREATE INDEX IF NOT EXISTS outbox_messages_pending_idx " ++
      "ON outbox_messages (id) WHERE status = 'pending'"

end SchemaObject
end Clearing.Sql
