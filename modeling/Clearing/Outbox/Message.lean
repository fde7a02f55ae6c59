import Clearing.Json.Codec

/-!
# Outbox messages

A task for the queue is first written as an outbox row, in the transaction that calls for it. The row is
pending until it has been handed over, or until handing it over has failed too often.
-/

namespace Clearing

/-- What has become of an outbox row. -/
inductive OutboxStatus where
  | pending
  | published
  | failed
deriving DecidableEq

instance : Named OutboxStatus where
  all := [.pending, .published, .failed]
  name
    | .pending => "pending"
    | .published => "published"
    | .failed => "failed"

/-- A task to be written to the outbox. -/
structure OutboxTask where
  taskType : String
  payload : Json
  queue : String
  maxRetry : Int32
  delaySecs : Int

/-- A row of the outbox. -/
structure OutboxMessage where
  id : Int
  taskType : String
  payload : Json
  queue : String
  maxRetry : Int32
  delaySecs : Int
  status : OutboxStatus
  attempts : Int32
  lastError : Option String
  createdAt : Instant
  publishedAt : Option Instant

namespace OutboxTask

/-- The pending row of a task. -/
def toMessage (t : OutboxTask) (id : Int) (now : Instant) : OutboxMessage where
  id := id
  taskType := t.taskType
  payload := t.payload
  queue := t.queue
  maxRetry := t.maxRetry
  delaySecs := t.delaySecs
  status := .pending
  attempts := 0
  lastError := none
  createdAt := now
  publishedAt := none

instance : Encode OutboxTask where
  json t := .object [
    ("task_type", json t.taskType), ("payload", t.payload), ("queue", json t.queue),
    ("max_retry", json t.maxRetry), ("delay_secs", json t.delaySecs)]

end OutboxTask

namespace OutboxMessage

/-- The row after it has been handed over. -/
def published (m : OutboxMessage) (now : Instant) : OutboxMessage :=
  { m with status := .published, publishedAt := some now, lastError := none }

/-- The row after handing it over has failed; giving up makes that final. -/
def failing (m : OutboxMessage) (error : String) (giveUp : Bool) : OutboxMessage :=
  { m with
    attempts := m.attempts + 1
    lastError := some error
    status := if giveUp then .failed else m.status }

/-- The names of the fields, in order. -/
def fieldNames : List String :=
  ["id", "task_type", "payload", "queue", "max_retry", "delay_secs", "status", "attempts",
   "last_error", "created_at", "published_at"]

instance : Encode OutboxMessage where
  json m := .object [
    ("id", json m.id), ("task_type", json m.taskType), ("payload", m.payload),
    ("queue", json m.queue), ("max_retry", json m.maxRetry), ("delay_secs", json m.delaySecs),
    ("status", json m.status), ("attempts", json m.attempts), ("last_error", json m.lastError),
    ("created_at", json m.createdAt), ("published_at", json m.publishedAt)]

instance : Decode OutboxMessage where
  ofJson? v := do
    let ms ← Json.fullRecord? fieldNames v
    some {
      id := ← Json.fieldWith? Json.int64? ms "id"
      taskType := ← Json.field? ms "task_type"
      payload := ← Json.field? ms "payload"
      queue := ← Json.field? ms "queue"
      maxRetry := ← Json.field? ms "max_retry"
      delaySecs := ← Json.fieldWith? Json.int64? ms "delay_secs"
      status := ← Json.field? ms "status"
      attempts := ← Json.field? ms "attempts"
      lastError := ← Json.optional? ms "last_error"
      createdAt := ← Json.field? ms "created_at"
      publishedAt := ← Json.optional? ms "published_at" }

end OutboxMessage
end Clearing
