import Clearing.World

/-!
# A courier in memory

A mailbox keeps every message it accepts and numbers them. It can be told to fail a number of times before it
accepts the next message.
-/

namespace Clearing

/-- Accepted messages, failures to come, and how often a message was handed over. -/
structure Mailbox where
  delivered : List OutboxMessage := []
  failNext : Nat := 0
  calls : Nat := 0

namespace Mailbox

/-- What is said of a failure that was asked for. -/
def injectedFailure : QueueUnavailable := { reason := "injected failure" }

/-- Takes a message, unless failures are to come. -/
def hand (m : OutboxMessage) (b : Mailbox) : Step Mailbox QueueUnavailable String :=
  match b.failNext with
  | left + 1 => {
      result := .error injectedFailure
      state := { b with failNext := left, calls := b.calls + 1 } }
  | 0 => {
      result := .ok s!"mem-{b.delivered.length + 1}"
      state := { b with delivered := b.delivered ++ [m], calls := b.calls + 1 } }

instance : Courier Mailbox where
  name _ := "memory"
  hand := hand

end Mailbox
end Clearing
