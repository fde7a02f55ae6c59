import Clearing.Event

/-!
# Failures of a database

A database refuses a statement with a state of five characters; a connection can fail in other ways. Failures
are classified for callers: contention and duplicates are told apart from everything else.
-/

namespace Clearing.Sql

/-- The kind of error that a database's state stands for. -/
def kindOfState (state : String) : ErrorKind :=
  if ["40001", "40P01", "55P03"].contains state then .conflict
  else if state = "23505" then .alreadyExists
  else .internal

/-- What a database says when it refuses a statement. -/
structure Refusal where
  state : Option String
  message : String
  constraint : Option String := none
deriving DecidableEq

/-- Why a statement gave no result. -/
inductive Failure where
  | rowNotFound
  | refused (refusal : Refusal)
  | poolTimedOut
  | poolClosed
  | workerCrashed
  | protocolBroken (detail : String)
  | columnNotFound (column : String)
deriving DecidableEq

namespace Failure

/-- The text of a failure. -/
def text : Failure → String
  | .rowNotFound => "no rows returned by a query that expected to return at least one row"
  | .refused refusal => "error returned from database: " ++ refusal.message
  | .poolTimedOut => "pool timed out while waiting for an open connection"
  | .poolClosed => "attempted to acquire a connection on a closed pool"
  | .workerCrashed => "attempted to communicate with a crashed background worker"
  | .protocolBroken detail => "encountered unexpected or invalid data: " ++ detail
  | .columnNotFound column => "no column found for name: " ++ column

/-- The class of a failure of a statement about `what`. -/
def classify (what : String) (f : Failure) : StoreError :=
  match f with
  | .rowNotFound => .notFound what
  | .refused refusal =>
    match refusal.state.map kindOfState with
    | some .conflict => .conflict refusal.message
    | some .alreadyExists => .alreadyExists (refusal.constraint.getD refusal.message)
    | _ => .internal f.text
  | _ => .internal f.text

/-- What is logged of a failure: only those that are neither contention, nor duplicates, nor missing rows. -/
def events (f : Failure) : List Event :=
  match f with
  | .rowNotFound => []
  | .refused refusal =>
    match refusal.state.map kindOfState with
    | some .conflict | some .alreadyExists => []
    | _ => [.databaseUnclassified refusal.state f.text]
  | _ => [.databaseFailed f.text]

end Failure
end Clearing.Sql
