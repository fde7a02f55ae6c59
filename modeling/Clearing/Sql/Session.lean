import Clearing.Sql.Failure
import Clearing.Sql.Statement
import Clearing.World

/-!
# Sessions with a database

A session sends statements over one connection. What the database answers is given in advance, as a script:
one answer for each statement other than those that begin and end transactions, and for those and for the
connection itself the refusals, if any. Once the script is used up, every statement is answered with no rows.
A session remembers what it sent. A transaction whose end is refused is rolled back by the pool behind the
connection, and from then on rolling back succeeds.
-/

namespace Clearing.Sql

/-- What a database answers to a statement: the rows listed, and how many rows were changed. -/
structure Answer where
  rows : List Row := []
  affected : Nat := 0

/-- A connection with its script, whether the end of a transaction was refused on it, what was sent over it, and
where new identifiers come from. -/
structure Session where
  script : List (Except Refusal Answer) := []
  onConnect : Option Refusal := none
  onBegin : Option Refusal := none
  onCommit : Option Refusal := none
  onRollback : Option Refusal := none
  endRefused : Bool := false
  sent : List Statement := []
  ids : IdSupply := {}

namespace Session

/-- Opens the connection, as one of a pool of at most this many. -/
def connect (maxConnections : Nat) (s : Session) : Step Session Failure Unit :=
  match s.onConnect with
  | none => { result := .ok (), state := s, events := [.poolOpened maxConnections] }
  | some refusal => { result := .error (.refused refusal), state := s }

/-- The answer of a statement that either succeeds without a result or is refused. -/
def plainAnswer : Option Refusal → Except Failure Answer
  | none => .ok {}
  | some refusal => .error (.refused refusal)

/-- The answer to the next statement of the script. -/
def scriptAnswer : List (Except Refusal Answer) → Except Failure Answer
  | [] => .ok {}
  | .ok answer :: _ => .ok answer
  | .error refusal :: _ => .error (.refused refusal)

/-- The answer to a statement. -/
def answer (s : Session) : Statement → Except Failure Answer
  | .begin => plainAnswer s.onBegin
  | .commit => plainAnswer s.onCommit
  | .rollback => if s.endRefused then .ok {} else plainAnswer s.onRollback
  | _ => scriptAnswer s.script

/-- What is left of the script after a statement. -/
def remaining (s : Session) : Statement → List (Except Refusal Answer)
  | .begin | .commit | .rollback => s.script
  | _ => s.script.drop 1

/-- Whether a statement is to end a transaction and is refused. -/
def refusesEnd (s : Session) : Statement → Bool
  | .commit => s.onCommit.isSome
  | .rollback => s.onRollback.isSome
  | _ => false

/-- The session after a statement was sent. -/
def sending (s : Session) (q : Statement) : Session :=
  { s with
    script := s.remaining q
    sent := s.sent ++ [q]
    endRefused := s.endRefused || s.refusesEnd q }

/-- Sends a statement. -/
def send (s : Session) (q : Statement) : Except Failure Answer × Session := (s.answer q, s.sending q)

/-- Whether the database answers at all. -/
def healthCheck (s : Session) : Except Failure Unit × Session :=
  let (answer, s) := s.send .probe
  (answer.map fun _ => (), s)

/-! ## Creating the schema -/

/-- What is said of an object of the schema that could not be created. -/
def notCreated (object : SchemaObject) (f : Failure) : String :=
  s!"Failed to create {object.name}: {f.text}"

/-- Creates objects one after the other, up to the first that fails. -/
def createAll : List SchemaObject → Session → Except String Unit × Session
  | [], s => (.ok (), s)
  | object :: rest, s =>
    match s.send (.create object) with
    | (.ok _, s) => createAll rest s
    | (.error f, s) => (.error (notCreated object f), s)

/-- Creates the schema where it is not there yet. -/
def initSchema (s : Session) : Step Session String Unit :=
  match createAll SchemaObject.all s with
  | (.ok _, s) => {
      result := .ok ()
      state := s
      events := [.schemaStarted, .schemaReady SchemaObject.all.length] }
  | (.error e, s) => { result := .error e, state := s, events := [.schemaStarted] }

end Session
end Clearing.Sql
