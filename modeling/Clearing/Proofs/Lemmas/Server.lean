import Clearing.Proofs.Lemmas.Rows
import Clearing.Proofs.Lemmas.Table
import Clearing.Sql.Store

/-!
# What a server answers

A server takes from a statement which columns it names and which parameter, by its number, stands where; the values
come from the list of parameters. Columns that an INSERT does not name take the defaults of the schema, and those that
an UPDATE does not assign stay as they are.
-/

namespace Clearing

namespace Sql

/-! ## Terms and conditions -/

/-- The parameter with this number, counted from 1. -/
def parameter (parameters : List Cell) (n : Nat) : Cell := (parameters[n - 1]?).getD .null

/-- The value of a term in a row, where its parameter, if it has one, has number `n`. -/
def Term.valueAt (parameters : List Cell) (now : Instant) (row : Row) (n : Nat) : Term → Cell
  | .bound _ => parameter parameters n
  | .text s => .text s
  | .yes => .boolean true
  | .no => .boolean false
  | .null => .null
  | .now => .timestamp now
  | .successor column =>
    match Row.cell? row column with
    | some (.integer k) => .integer (k + 1)
    | _ => .null
  | .choice _ chosen column =>
    match parameter parameters n with
    | .boolean true => .text chosen
    | _ => (Row.cell? row column).getD .null

/-- Whether two cells are equal; nothing equals null. -/
def Cell.equals : Cell → Cell → Bool
  | .uuid a, .uuid b => a == b
  | .text a, .text b => a == b
  | .numeric a, .numeric b => a.atMost b && b.atMost a
  | .integer a, .integer b => a == b
  | .boolean a, .boolean b => a == b
  | .timestamp a, .timestamp b => !a.before b && !b.before a
  | _, _ => false

/-- Whether a cell holds a later time than another. -/
def Cell.isAfter : Cell → Cell → Bool
  | .timestamp a, .timestamp b => b.before a
  | _, _ => false

/-- Whether a row fulfils a condition whose parameter, if it has one, has number `n`. -/
def Condition.holdsAt (parameters : List Cell) (now : Instant) (row : Row) (n : Nat) : Condition → Bool
  | .equals column t => (Row.cell? row column).any (·.equals (t.valueAt parameters now row n))
  | .later column t => (Row.cell? row column).any (·.isAfter (t.valueAt parameters now row n))

/-- Whether a row fulfils all conditions, parameters counted from `n`. -/
def conditionsHold (parameters : List Cell) (now : Instant) (row : Row) (n : Nat) : List Condition → Bool
  | [] => true
  | c :: rest =>
    c.holdsAt parameters now row n && conditionsHold parameters now row (n + c.term.parameters.length) rest

/-! ## Rows -/

/-- What a column holds that an INSERT does not name. -/
def Column.initial (serial : Int) (now : Instant) (c : Column) : Cell :=
  match c.default? with
  | some (.number k) =>
    if c.type = .numeric then .numeric { negative := k < 0, digits := k.natAbs, scale := 0 } else .integer k
  | some (.text s) => .text s
  | some .no => .boolean false
  | some .now => .timestamp now
  | some (.minutesFromNow minutes) => .timestamp (now.addSeconds (60 * minutes))
  | none => if c.type = .bigserial then .integer serial else .null

/-- The row that an INSERT of these columns writes: the column in place `i` of the list takes parameter `i + 1`. -/
def insertedRow (relation : Relation) (named : List String) (parameters : List Cell) (serial : Int) (now : Instant) :
    Row :=
  relation.columns.map fun c => (c.name,
    match named.idxOf? c.name with
    | some i => parameter parameters (i + 1)
    | none => c.initial serial now)

/-- What an UPDATE assigns to the columns of a row, parameters counted from `n`. -/
def assignedCells (parameters : List Cell) (now : Instant) (row : Row) (n : Nat) : List Assignment → Row
  | [] => []
  | a :: rest =>
    (a.column, a.term.valueAt parameters now row n) ::
      assignedCells parameters now row (n + a.term.parameters.length) rest

/-- A row after an UPDATE. -/
def updatedRow (relation : Relation) (assigned row : Row) : Row :=
  relation.columnNames.map fun name => (name, ((Row.cell? assigned name).or (Row.cell? row name)).getD .null)

/-- The answer to an INSERT or UPDATE in a database with these rows, where a new row takes the number `serial`. -/
def Statement.answerOn (rowsOf : Relation → List Row) (serial : Int) (now : Instant) (s : Statement) : Answer :=
  match s with
  | .insert relation values => {
      rows := [insertedRow relation (values.map (·.1)) s.parameters serial now]
      affected := 1 }
  | .update relation assignments conditions returning =>
    let changed := (rowsOf relation).filter fun row => conditionsHold s.parameters now row 1 conditions
    let assigned (row : Row) :=
      assignedCells s.parameters now row (1 + (conditionParameters conditions).length) assignments
    { rows := if returning then changed.map fun row => updatedRow relation (assigned row) row else []
      affected := changed.length }
  | _ => {}

end Sql

open Sql

/-- The rows of a store in memory, table by table. -/
def Tables.rowsOf (t : Tables) : Relation → List Row
  | .users => t.users.rows.map Tabled.row
  | .verifications => t.verifications.rows.map Tabled.row
  | .markets => t.markets.rows.map Tabled.row
  | .fees => t.fees.map Tabled.row
  | .wallets => t.wallets.rows.map Tabled.row
  | .orders => t.orders.rows.map Tabled.row
  | .trades => t.trades.map Tabled.row
  | .ledger => t.ledger.map Tabled.row
  | .outbox => t.outbox.rows.map Tabled.row

/-! ## Inserted rows -/

section Insert

variable {rowsOf : Relation → List Row} {fresh : Uuid} {serial : Int} {now : Instant}

theorem rows_insertTrade (e : Execution) :
    ((statement fresh (.insertTrade e)).answerOn rowsOf serial now).rows = [Tabled.row (e.toTrade fresh now)] := rfl

theorem rows_insertLedgerEntry (t : Transfer) (amount : Decimal) :
    ((statement fresh (.insertLedgerEntry t amount)).answerOn rowsOf serial now).rows =
      [Tabled.row (t.toEntry amount fresh now)] := rfl

theorem rows_insertFee (rates : FeeRates) :
    ((statement fresh (.insertFee rates)).answerOn rowsOf serial now).rows =
      [Tabled.row (rates.toSchedule fresh now)] := rfl

theorem rows_insertUser (r : Registration) :
    ((statement fresh (.insertUser r)).answerOn rowsOf serial now).rows = [Tabled.row (r.toUser fresh now)] := rfl

theorem rows_insertOutbox (t : OutboxTask) :
    ((statement fresh (.insertOutbox t)).answerOn rowsOf serial now).rows = [Tabled.row (t.toMessage serial now)] := rfl

end Insert

/-! ## Updated rows -/

/-- The first row that is listed comes from the first record that fulfils the conditions. -/
theorem head?_changed {ρ : Type} [Tabled ρ] (rows : List ρ) {holds : Row → Bool} {change : Row → Row} {p : ρ → Bool}
    {f : ρ → ρ} (hp : ∀ r, holds (Tabled.row r) = p r) (hf : ∀ r, change (Tabled.row r) = Tabled.row (f r)) :
    (((rows.map Tabled.row).filter holds).map change).head? = (rows.find? p).map fun r => Tabled.row (f r) := by
  have hholds : holds ∘ Tabled.row = p := funext hp
  rw [List.head?_map, List.head?_filter, List.find?_map, Option.map_map, hholds]
  exact congrArg (Option.map · _) (funext hf)

theorem Uuid.beq_value (a b : Uuid) : (a == b) = ((a.value : Int) == b.value) := by
  rw [Bool.eq_iff_iff, beq_iff_eq, beq_iff_eq, Uuid.value_cast_inj]

section Update

variable {t : Tables} {fresh : Uuid} {serial : Int} {now : Instant}

theorem head?_updateOrder (id : Uuid) (status : OrderStatus) (filled : Decimal) :
    ((statement fresh (.updateOrder id status filled)).answerOn t.rowsOf serial now).rows.head? =
      (t.order? id).map fun o =>
        Tabled.row { o with status := status, filledAmount := filled, updatedAt := now } :=
  head?_changed t.orders.rows
    (f := fun o : Order => { o with status := status, filledAmount := filled, updatedAt := now })
    (fun o => (Bool.and_true _).trans (Uuid.beq_value o.id id)) fun _ => rfl

theorem head?_updateWallet (id : Uuid) (balance lockedBalance : Decimal) :
    ((statement fresh (.updateWallet id balance lockedBalance)).answerOn t.rowsOf serial now).rows.head? =
      (t.wallet? id).map fun w => Tabled.row { w with balance := balance, lockedBalance := lockedBalance } :=
  head?_changed t.wallets.rows
    (f := fun w : Wallet => { w with balance := balance, lockedBalance := lockedBalance })
    (fun w => (Bool.and_true _).trans (Uuid.beq_value w.id id)) fun _ => rfl

theorem head?_updateLedgerStatus (id : Uuid) (status : TransferStatus) :
    ((statement fresh (.updateLedgerStatus id status)).answerOn t.rowsOf serial now).rows.head? =
      (t.entry? id).map fun e => Tabled.row { e with status := status } :=
  head?_changed t.ledger (f := fun e : LedgerEntry => { e with status := status })
    (fun _ => Bool.and_true _) fun _ => rfl

theorem head?_markUserVerified (username : String) :
    ((statement fresh (.markUserVerified username)).answerOn t.rowsOf serial now).rows.head? =
      (t.userNamed? username).map fun u => Tabled.row { u with isVerified := true } :=
  head?_changed t.users.rows (f := fun u : User => { u with isVerified := true })
    (fun _ => Bool.and_true _) fun _ => rfl

/-- The conditions are on the identifier, the code, the use and the time limit of a verification, and all in one. -/
theorem head?_consumeVerification (id : Int) (secretCode : String) :
    ((statement fresh (.consumeVerification id secretCode)).answerOn t.rowsOf serial now).rows.head? =
      ((t.verification? id).filter (·.isUsableWith secretCode now)).map fun v =>
        Tabled.row { v with isUsed := true } := by
  rw [Tables.verification?, ← Table.find?_key_and]
  refine head?_changed t.verifications.rows (f := fun v : Verification => { v with isUsed := true })
    (fun v => ?_) fun _ => rfl
  have hholds : conditionsHold [cell id, cell secretCode] now (Tabled.row v) 1
      [whose "id" id, whose "secret_code" secretCode, .equals "is_used" .no, .later "expired_at" .now] =
      (v.id == id && (v.secretCode == secretCode && (v.isUsed == false && (now.before v.expiredAt && true)))) := rfl
  rw [Bool.and_true, beq_false] at hholds
  refine hholds.trans ?_
  rw [Verification.isUsableWith, Bool.and_assoc]
  rfl

end Update

end Clearing
