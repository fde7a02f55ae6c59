import Clearing.Event
import Clearing.Store.Query

/-!
# Stores, couriers and the log

A store opens transactions and answers queries in them; a courier hands tasks to the queue. Both are values
with a state, and report what they want logged. The world of an operation is a store, a courier and the log so
far.
-/

namespace Clearing

/-- What a store or courier does in one step: a result, its next state, and the events to log. -/
structure Step (σ ε α : Type) where
  result : Except ε α
  state : σ
  events : List Event := []

/-- Stores whose state is `σ`. -/
class Store (σ : Type) where
  /-- The name a store goes by in the log. -/
  name : String
  /-- Opens a transaction. -/
  begin : σ → Step σ StoreError Unit
  /-- Ends a transaction and keeps what it wrote. -/
  commit : σ → Step σ StoreError Unit
  /-- Ends a transaction and drops what it wrote. -/
  rollback : σ → Step σ StoreError Unit
  /-- Answers a query within a transaction. -/
  ask : (q : Query) → σ → Step σ StoreError q.Reply

/-- Couriers whose state is `κ`. -/
class Courier (κ : Type) where
  /-- The name a courier goes by in the log. -/
  name : κ → String
  /-- Hands a message to the queue, which answers with the task's identifier. -/
  hand : OutboxMessage → κ → Step κ QueueUnavailable String

/-- One of two couriers. -/
instance {κ₁ κ₂ : Type} [Courier κ₁] [Courier κ₂] : Courier (κ₁ ⊕ κ₂) where
  name
    | .inl c => Courier.name c
    | .inr c => Courier.name c
  hand m
    | .inl c =>
      let s := Courier.hand m c
      { result := s.result, state := .inl s.state, events := s.events }
    | .inr c =>
      let s := Courier.hand m c
      { result := s.result, state := .inr s.state, events := s.events }

/-- What an operation acts on. -/
structure World (σ κ : Type) where
  store : σ
  courier : κ
  log : List Event := []

namespace World

variable {σ κ ε α : Type}

/-- Appends an event to the log. -/
def note (w : World σ κ) (e : Event) : World σ κ := { w with log := w.log ++ [e] }

/-- Appends events to the log. -/
def noteAll (w : World σ κ) (es : List Event) : World σ κ := { w with log := w.log ++ es }

/-- The world after a step of the store, with the step's result. -/
def afterStore (w : World σ κ) (s : Step σ ε α) : Except ε α × World σ κ :=
  (s.result, { w with store := s.state, log := w.log ++ s.events })

/-- The world after a step of the courier, with the step's result. -/
def afterCourier (w : World σ κ) (s : Step κ ε α) : Except ε α × World σ κ :=
  (s.result, { w with courier := s.state, log := w.log ++ s.events })

/-- Opens a transaction. -/
def begin [Store σ] (w : World σ κ) : Except StoreError Unit × World σ κ :=
  w.afterStore (Store.begin w.store)

/-- Commits the open transaction. -/
def commit [Store σ] (w : World σ κ) : Except StoreError Unit × World σ κ :=
  w.afterStore (Store.commit w.store)

/-- Rolls the open transaction back. -/
def rollback [Store σ] (w : World σ κ) : Except StoreError Unit × World σ κ :=
  w.afterStore (Store.rollback w.store)

/-- Asks the store. -/
def ask [Store σ] (w : World σ κ) (q : Query) : Except StoreError q.Reply × World σ κ :=
  w.afterStore (Store.ask q w.store)

/-- Hands a message to the queue. -/
def hand [Courier κ] (w : World σ κ) (m : OutboxMessage) : Except QueueUnavailable String × World σ κ :=
  w.afterCourier (Courier.hand m w.courier)

end World
end Clearing
