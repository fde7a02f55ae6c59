import Clearing.Event
import Clearing.Json.Reader
import Clearing.Json.Writer
import Clearing.Sql.Numeric

/-!
# Cells and rows

A row of a relational database lists named cells. Reading a cell fails if its column is missing, if it is null
where a value is due, if it is a numeric that is no amount, or if it is JSON that is nested too deeply: JSON comes
over the connection as text and is read again. The first fault in a row is the one reported.
-/

namespace Clearing.Sql

/-- A value of a relational database. -/
inductive Cell where
  | null
  | uuid (u : Uuid)
  | text (s : String)
  | numeric (n : Numeric)
  | notANumber
  | integer (n : Int)
  | boolean (b : Bool)
  | json (v : Json)
  | timestamp (t : Instant)

/-- Named cells. -/
abbrev Row := List (String × Cell)

/-! ## Writing -/

/-- Types with a database value. -/
class ToCell (α : Type) where
  /-- The database value of a value. -/
  cell : α → Cell

export ToCell (cell)

instance : ToCell Uuid := ⟨.uuid⟩
instance : ToCell String := ⟨.text⟩
instance : ToCell Decimal := ⟨fun a => .numeric (Numeric.ofAmount a)⟩
instance : ToCell Int := ⟨.integer⟩
instance : ToCell Int32 := ⟨fun n => .integer n.toInt⟩
instance : ToCell Bool := ⟨.boolean⟩
instance : ToCell Json := ⟨.json⟩
instance : ToCell Instant := ⟨.timestamp⟩
instance (priority := low) {α : Type} [Named α] : ToCell α := ⟨fun a => .text (Named.name a)⟩

/-- An absent value is null. -/
def cellOfOption {α : Type} [ToCell α] : Option α → Cell
  | none => .null
  | some a => cell a

instance {α : Type} [ToCell α] : ToCell (Option α) := ⟨cellOfOption⟩

/-! ## Reading -/

/-- Why a cell cannot be read. -/
inductive CellFault where
  | missing
  | null
  | notANumber
  | numeric (fault : Numeric.Fault)
  | nesting (place : Nat)
  | mismatch
deriving DecidableEq

/-- The text of a cell that cannot be read. -/
def CellFault.text (column : String) : CellFault → String
  | .missing => s!"no column found for name: {column}"
  | .null => s!"error occurred while decoding column \"{column}\": " ++
      "unexpected null; try decoding as an `Option`"
  | .notANumber =>
    s!"error occurred while decoding column \"{column}\": Decimal does not support NaN values"
  | .numeric .notRepresentable => s!"error occurred while decoding column \"{column}\": " ++
      "value not representable as rust_decimal::Decimal"
  | .numeric .overflow =>
    s!"error occurred while decoding column \"{column}\": Multiplication overflowed"
  | .nesting place => s!"error occurred while decoding column \"{column}\": " ++
      s!"recursion limit exceeded at line 1 column {place}"
  | .mismatch => s!"error occurred while decoding column \"{column}\": mismatched types"

/-- Types that are read from a cell. -/
class OfCell (α : Type) where
  /-- The value of a cell. -/
  ofCell : Cell → Except CellFault α

export OfCell (ofCell)

instance : OfCell Uuid where
  ofCell
    | .uuid u => .ok u
    | .null => .error .null
    | _ => .error .mismatch

instance : OfCell String where
  ofCell
    | .text s => .ok s
    | .null => .error .null
    | _ => .error .mismatch

instance : OfCell Decimal where
  ofCell
    | .numeric n => n.amount.mapError .numeric
    | .notANumber => .error .notANumber
    | .null => .error .null
    | _ => .error .mismatch

instance : OfCell Int where
  ofCell
    | .integer n => .ok n
    | .null => .error .null
    | _ => .error .mismatch

instance : OfCell Int32 where
  ofCell
    | .integer n => if (Int32.ofInt n).toInt = n then .ok (Int32.ofInt n) else .error .mismatch
    | .null => .error .null
    | _ => .error .mismatch

instance : OfCell Bool where
  ofCell
    | .boolean b => .ok b
    | .null => .error .null
    | _ => .error .mismatch

instance : OfCell Json where
  ofCell
    | .json v =>
      match Json.ofText? v.compact with
      | some v => .ok v
      | none => .error (.nesting (Json.limitPlace v.compact.toList))
    | .null => .error .null
    | _ => .error .mismatch

instance : OfCell Instant where
  ofCell
    | .timestamp t => .ok t
    | .null => .error .null
    | _ => .error .mismatch

/-- Null is an absent value. -/
def optionOfCell {α : Type} [OfCell α] : Cell → Except CellFault (Option α)
  | .null => .ok none
  | c => (ofCell c).map some

instance {α : Type} [OfCell α] : OfCell (Option α) := ⟨optionOfCell⟩

/-- Why rows cannot be read. -/
inductive RowFault where
  | noRow
  | cell (column : String) (fault : CellFault)
  | unknownName (column text : String)
deriving DecidableEq

namespace RowFault

/-- The class of a fault in the rows of a statement about `what`. -/
def classify (what : String) : RowFault → StoreError
  | .noRow => .notFound what
  | .cell column fault => .internal s!"failed to read column '{column}': {fault.text column}"
  | .unknownName column text => .internal s!"invalid {column} value: {text}"

/-- What is logged of a fault: only a calculation that overflowed. -/
def events : RowFault → List Event
  | .cell _ (.numeric .overflow) => [.multiplicationOverflowed]
  | _ => []

end RowFault

namespace Row

/-- The cell of a column. -/
def cell? (row : Row) (column : String) : Option Cell := (row.find? (·.1 == column)).map (·.2)

/-- The value of a column, or why it cannot be read. -/
def value {α : Type} [OfCell α] (row : Row) (column : String) : Except CellFault α :=
  match cell? row column with
  | none => .error .missing
  | some c => ofCell c

/-- Reads a column. -/
def read {α : Type} [OfCell α] (row : Row) (column : String) : Except RowFault α :=
  (value row column).mapError (.cell column)

/-- Reads a column that holds one of several names. -/
def readName {α : Type} [Named α] (row : Row) (column : String) : Except RowFault α := do
  let text : String ← read row column
  match Named.ofName? text with
  | some a => .ok a
  | none => .error (.unknownName column text)

end Row
end Clearing.Sql
