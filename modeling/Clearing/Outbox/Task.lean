import Clearing.Document
import Clearing.Duration
import Clearing.Outbox.Message

/-!
# Tasks for the queue

A task carries how often it may be retried, how long it waits, and the queue it goes to. Registering a user
enqueues one task, whose payload is the address to be verified.
-/

namespace Clearing

/-- The type of the task that mails a verification code. -/
def verifyEmailTaskType : String := "task:send_verify_email"

/-- The payload of a verification mail. -/
structure VerifyEmailPayload where
  email : String
deriving DecidableEq

namespace VerifyEmailPayload

/-- The names of the fields, in order. -/
def fieldNames : List String := ["email"]

instance : Encode VerifyEmailPayload where
  json p := .object [("email", json p.email)]

instance : Decode VerifyEmailPayload where
  ofJson? v := do
    let ms ← Json.fullRecord? fieldNames v
    some { email := ← Json.field? ms "email" }

end VerifyEmailPayload

/-- How a task is to be delivered. -/
structure TaskOptions where
  maxRetry : Int32 := 10
  delay : Duration := Duration.ofSeconds 10
  queue : String := "critical"
deriving DecidableEq

namespace TaskOptions

/-- The longest delay a task can carry, in seconds. -/
def longestDelay : Nat := 0x7fffffffffffffff

/-- The outbox task of a type and payload with these options; the delay counts whole seconds. -/
def message (o : TaskOptions) (taskType : String) (payload : Json) : OutboxTask where
  taskType := taskType
  payload := payload
  queue := o.queue
  maxRetry := o.maxRetry
  delaySecs := min o.delay.seconds longestDelay

/-- The names of the fields, in order. -/
def fieldNames : List String := ["max_retry", "delay", "queue"]

/-- Reads options from a document; all fields have to be there. -/
def read? {δ : Type} [Document δ] (v : δ) : Option TaskOptions := do
  let ms ← Document.members? fieldNames fieldNames.length v
  some {
    maxRetry := ← Document.field? Document.int32? ms "max_retry"
    delay := Duration.ofSeconds (← Document.field? Document.nat64? ms "delay")
    queue := ← Document.field? Document.text? ms "queue" }

instance : Encode TaskOptions where
  json o := .object [
    ("max_retry", json o.maxRetry), ("delay", json o.delay.seconds), ("queue", json o.queue)]

instance : Decode TaskOptions := ⟨read?⟩

end TaskOptions
end Clearing
