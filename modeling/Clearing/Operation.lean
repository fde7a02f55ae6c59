import Clearing.Work

/-!
# Operations

An operation checks its input, runs a unit of work in a transaction of its own, and reports success. The
transaction is committed when the work succeeds and rolled back when it fails; the work's error is passed on
unchanged, and a failed check opens no transaction.
-/

namespace Clearing

/-- A named unit of work with the check of its input and the report of its success. -/
structure Operation (α : Type) where
  name : String
  check : Except SettlementError Unit := .ok ()
  work : Work α
  report : α → List Event := fun _ => []

namespace Operation

/-- What is said of a transaction that could not be opened. -/
def beginContext : String := "failed to begin transaction"

/-- What is said of a transaction that could not be committed. -/
def commitContext : String := "failed to commit transaction"

end Operation

variable {σ κ α : Type} [Store σ] [Courier κ]

namespace World

/-- Ends the transaction of a unit of work that succeeded. -/
def conclude (operation : String) (a : α) (w : World σ κ) : Except SettlementError α × World σ κ :=
  match w.commit with
  | (.ok _, w) => (.ok a, w.note (.committed operation (Store.name σ)))
  | (.error e, w) => (.error (.store Operation.commitContext e), w)

/-- Ends the transaction of a unit of work that failed. -/
def abandon (operation : String) (e : SettlementError) (w : World σ κ) :
    Except SettlementError α × World σ κ :=
  match w.rollback with
  | (.ok _, w) => (.error e, w.note (.rolledBack operation e))
  | (.error r, w) => (.error e, (w.note (.rollbackFailed operation e r)).note (.rolledBack operation e))

/-- Runs a unit of work in a transaction of its own. -/
def transact (operation : String) (work : Work α) (w : World σ κ) :
    Except SettlementError α × World σ κ :=
  match w.begin with
  | (.error e, w) => (.error (.store Operation.beginContext e), w)
  | (.ok _, w) =>
    match work.run w with
    | (.ok a, w) => w.conclude operation a
    | (.error e, w) => w.abandon operation e

end World

namespace Operation

/-- Performs an operation. -/
def perform (o : Operation α) (w : World σ κ) : Except SettlementError α × World σ κ :=
  match o.check with
  | .error e => (.error e, w)
  | .ok _ =>
    match w.transact o.name o.work with
    | (.ok a, w) => (.ok a, w.noteAll (o.report a))
    | (.error e, w) => (.error e, w)

end Operation
end Clearing
