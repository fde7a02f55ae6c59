import Clearing.Sql.Schema

/-!
# Statements

A statement is data: the table it is about, the conditions on its rows, and what it assigns to which column.
Values that come from outside are bound as numbered parameters, those of the conditions before those of the
assignments; everything else is written out.
-/

namespace Clearing.Sql

/-- What is compared with a column or assigned to it. -/
inductive Term where
  /-- A parameter. -/
  | bound (c : Cell)
  /-- A text that is written out. -/
  | text (s : String)
  | yes
  | no
  | null
  | now
  /-- One more than a column. -/
  | successor (column : String)
  /-- A text that is written out if a parameter is true, and a column otherwise. -/
  | choice (condition : Bool) (text column : String)

namespace Term

/-- The parameters of a term: at most one. -/
def parameters : Term → List Cell
  | .bound c => [c]
  | .choice condition _ _ => [.boolean condition]
  | _ => []

/-- A term whose parameter, if it has one, has number `n`. -/
def sql (n : Nat) : Term → String
  | .bound _ => s!"${n}"
  | .text s => s!"'{s}'"
  | .yes => "TRUE"
  | .no => "FALSE"
  | .null => "NULL"
  | .now => "NOW()"
  | .successor column => s!"{column} + 1"
  | .choice _ chosen column => s!"CASE WHEN ${n} THEN '{chosen}' ELSE {column} END"

end Term

/-- A condition on the rows a statement is about. -/
inductive Condition where
  | equals (column : String) (term : Term)
  | later (column : String) (term : Term)

namespace Condition

/-- What the column is compared with. -/
def term : Condition → Term
  | .equals _ t | .later _ t => t

/-- A condition whose parameter, if it has one, has number `n`. -/
def sql (n : Nat) : Condition → String
  | .equals column t => s!"{column} = {t.sql n}"
  | .later column t => s!"{column} > {t.sql n}"

end Condition

/-- What is assigned to a column. -/
structure Assignment where
  column : String
  term : Term

/-- An assignment whose parameter, if it has one, has number `n`. -/
def Assignment.sql (n : Nat) (a : Assignment) : String := s!"{a.column} = {a.term.sql n}"

/-- In which order rows are listed. -/
inductive RowOrder where
  | ascending (column : String)
  | descending (column : String)
deriving DecidableEq

/-- An order as it stands in a statement. -/
def RowOrder.sql : RowOrder → String
  | .ascending column => column
  | .descending column => s!"{column} DESC"

/-- How listed rows are locked. -/
inductive RowLock where
  /-- Waits for rows that others have locked. -/
  | waiting
  /-- Leaves out rows that others have locked. -/
  | skipping
deriving DecidableEq

/-- A lock as it stands in a statement. -/
def RowLock.sql : RowLock → String
  | .waiting => " FOR UPDATE"
  | .skipping => " FOR UPDATE SKIP LOCKED"

/-- A statement that lists rows. -/
structure Selection where
  relation : Relation
  conditions : List Condition := []
  order : List RowOrder := []
  limit : Option Int := none
  lock : Option RowLock := none

/-- What is sent to a database. -/
inductive Statement where
  | begin
  | commit
  | rollback
  /-- Asks for nothing but an answer. -/
  | probe
  | create (object : SchemaObject)
  | select (selection : Selection)
  /-- Writes a row and lists it. -/
  | insert (relation : Relation) (values : List (String × Cell))
  /-- Changes rows, and lists them if `returning`. -/
  | update (relation : Relation) (assignments : List Assignment) (conditions : List Condition)
      (returning : Bool)

/-! ## Text and parameters -/

/-- Conditions joined to one, parameters counted from `n`. -/
def conditionsSql (n : Nat) : List Condition → List String
  | [] => []
  | c :: rest => c.sql n :: conditionsSql (n + c.term.parameters.length) rest

/-- Assignments, parameters counted from `n`. -/
def assignmentsSql (n : Nat) : List Assignment → List String
  | [] => []
  | a :: rest => a.sql n :: assignmentsSql (n + a.term.parameters.length) rest

/-- The parameters of conditions. -/
def conditionParameters (conditions : List Condition) : List Cell :=
  conditions.flatMap fun c => c.term.parameters

/-- The clause that restricts a statement to the rows that fulfil all conditions. -/
def whereSql (conditions : List Condition) : String :=
  if conditions.isEmpty then "" else " WHERE " ++ " AND ".intercalate (conditionsSql 1 conditions)

namespace Selection

/-- The parameters of a selection; a limit comes last. -/
def parameters (s : Selection) : List Cell :=
  conditionParameters s.conditions ++ (s.limit.map Cell.integer).toList

/-- The text of a selection. -/
def sql (s : Selection) : String :=
  let order := if s.order.isEmpty then "" else " ORDER BY " ++ ", ".intercalate (s.order.map RowOrder.sql)
  let limit := match s.limit with
    | none => ""
    | some _ => " LIMIT $" ++ toString s.parameters.length
  let lock := (s.lock.map RowLock.sql).getD ""
  "SELECT " ++ ", ".intercalate s.relation.columnNames ++ " FROM " ++ s.relation.name ++
    whereSql s.conditions ++ order ++ limit ++ lock

end Selection

namespace Statement

/-- The clause that lists the rows of a table that a statement has written. -/
def returningSql (r : Relation) : String := " RETURNING " ++ ", ".intercalate r.columnNames

/-- The text of a statement. -/
def sql : Statement → String
  | .begin => "BEGIN"
  | .commit => "COMMIT"
  | .rollback => "ROLLBACK"
  | .probe => "SELECT 1"
  | .create object => object.sql
  | .select selection => selection.sql
  | .insert relation values =>
    "INSERT INTO " ++ relation.name ++ " (" ++ ", ".intercalate (values.map (·.1)) ++ ") VALUES (" ++
      ", ".intercalate ((List.range values.length).map fun i => "$" ++ toString (i + 1)) ++ ")" ++
      returningSql relation
  | .update relation assignments conditions returning =>
    "UPDATE " ++ relation.name ++ " SET " ++
      ", ".intercalate (assignmentsSql (1 + (conditionParameters conditions).length) assignments) ++
      whereSql conditions ++ if returning then returningSql relation else ""

/-- The parameters of a statement, in the order of their numbers. -/
def parameters : Statement → List Cell
  | .select selection => selection.parameters
  | .insert _ values => values.map (·.2)
  | .update _ assignments conditions _ =>
    conditionParameters conditions ++ assignments.flatMap fun a => a.term.parameters
  | _ => []

end Statement
end Clearing.Sql
