import Clearing.World

/-!
# Units of work

A unit of work is a program over a store and a courier: it asks queries, hands messages over, notes events,
and ends with a value or an error. A query that fails ends it, with the failing step as the error's context.
-/

namespace Clearing

/-- A program that runs in a transaction and gives an `α`. -/
inductive Work (α : Type) where
  | done (a : α)
  | fail (e : SettlementError)
  | ask (q : Query) (context : String) (next : q.Reply → Work α)
  | hand (m : OutboxMessage) (next : Except QueueUnavailable String → Work α)
  | note (e : Event) (next : Work α)

namespace Work

variable {α β σ κ : Type}

/-- Runs one unit of work and goes on with its value. -/
def bind : Work α → (α → Work β) → Work β
  | .done a, f => f a
  | .fail e, _ => .fail e
  | .ask q context next, f => .ask q context fun r => (next r).bind f
  | .hand m next, f => .hand m fun r => (next r).bind f
  | .note e next, f => .note e (next.bind f)

instance : Monad Work where
  pure := .done
  bind := bind

/-- Asks a query; a failure is reported with this context. -/
def query (q : Query) (context : String) : Work q.Reply := .ask q context .done

/-- Hands a message over; a failure is a value here. -/
def deliver (m : OutboxMessage) : Work (Except QueueUnavailable String) := .hand m .done

/-- Notes an event. -/
def report (e : Event) : Work Unit := .note e (.done ())

/-- Goes on with the value of a check, or ends with its error. -/
def ofExcept : Except SettlementError α → Work α
  | .ok a => .done a
  | .error e => .fail e

/-- Ends with an error unless a condition holds. -/
def require (condition : Bool) (e : SettlementError) : Work Unit :=
  if condition then .done () else .fail e

/-- The value that is there, or an error. -/
def ofOption (e : SettlementError) : Option α → Work α
  | some a => .done a
  | none => .fail e

/-- Runs a unit of work in a world whose store has a transaction open. -/
def run [Store σ] [Courier κ] : Work α → World σ κ → Except SettlementError α × World σ κ
  | .done a, w => (.ok a, w)
  | .fail e, w => (.error e, w)
  | .ask q context next, w =>
    match w.ask q with
    | (.ok r, w) => (next r).run w
    | (.error e, w) => (.error (.store context e), w)
  | .hand m next, w =>
    let (r, w) := w.hand m
    (next r).run w
  | .note e next, w => next.run (w.note e)

/-- Two units of work run one after the other; the second needs the first to succeed. -/
theorem run_bind [Store σ] [Courier κ] (x : Work α) (f : α → Work β) (w : World σ κ) :
    (x.bind f).run w = match x.run w with
      | (.ok a, w) => (f a).run w
      | (.error e, w) => (.error e, w) := by
  induction x generalizing w with
  | done a => rfl
  | fail e => rfl
  | ask q context next ih =>
    simp only [Work.bind, run]
    split
    · exact ih _ _
    · rfl
  | hand m next ih => exact ih _ _
  | note e next ih => exact ih _

end Work
end Clearing
