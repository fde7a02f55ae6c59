import Clearing.Json.Writer
import Clearing.World

/-!
# A courier that appends to streams

Every queue has a stream of its own on a server, named by a common word and the queue. A message becomes one
entry of its stream, with the task's type, payload, outbox number and retries, and the time at which the task
is due. The server answers with the entry's identifier, or refuses.
-/

namespace Clearing

/-- What a stream server answers to a command. -/
inductive StreamReply where
  /-- A text; for an appended entry, its identifier. -/
  | text (s : String)
  /-- A refusal: a code, and perhaps a blank and an explanation. -/
  | refusal (line : String)
  /-- A number. -/
  | number (n : Int)
deriving DecidableEq

namespace StreamReply

/-- What a refusal with a well-known code is called. -/
def refusalKind? : String → Option String
  | "ERR" => some "ResponseError"
  | "LOADING" => some "BusyLoadingError"
  | "READONLY" => some "ReadOnly"
  | "EXECABORT" => some "ExecAbortError"
  | "NOSCRIPT" => some "NoScriptError"
  | "MOVED" => some "Moved"
  | "ASK" => some "Ask"
  | "TRYAGAIN" => some "TryAgain"
  | "CLUSTERDOWN" => some "ClusterDown"
  | "CROSSSLOT" => some "CrossSlot"
  | "MASTERDOWN" => some "MasterDown"
  | "NOTBUSY" => some "NotBusy"
  | _ => none

/-- A refusal's code, and its explanation if there is one. -/
def splitRefusal (line : List Char) : String × Option String :=
  let code := String.ofList (line.takeWhile (· != ' '))
  match line.dropWhile (· != ' ') with
  | [] => (code, none)
  | _ :: explanation => (code, some (String.ofList explanation))

/-- The text of a refusal. -/
def refusalText (line : String) : String :=
  let (code, explanation) := splitRefusal line.toList
  match refusalKind? code, explanation with
  | some kind, some detail => s!"An error was signalled by the server - {kind}: {detail}"
  | some kind, none => s!"An error was signalled by the server- {kind}"
  | none, some detail => s!"{code}: {detail}"
  | none, none => s!"{code}: Unknown extension error encountered"

/-- The text of an answer that is a number where an identifier is due. -/
def numberText (n : Int) : String :=
  "Response was of incompatible type - TypeError: \"Response type not string compatible.\" " ++
    s!"(response was int({n}))"

/-- The identifier of the appended entry, or why there is none. -/
def entryId : StreamReply → Except QueueUnavailable String
  | .text s => .ok s
  | .refusal line => .error { reason := refusalText line }
  | .number n => .error { reason := numberText n }

end StreamReply

/-! ## Entries -/

/-- The largest number of seconds a due time can have. -/
def latestDue : Int := 0x7fffffffffffffff

/-- When a task is due that is handed over at `now`: never before `now`, and never past the latest time. -/
def dueTime (now delaySecs : Int) : Int := min (now + max delaySecs 0) latestDue

/-- A command that appends an entry to a stream. -/
structure StreamAppend where
  stream : String
  taskType : String
  payload : String
  outboxId : Int
  maxRetry : Int32
  dueAt : Int
deriving DecidableEq

namespace StreamAppend

/-- The words of the command; the server is to choose the entry's identifier. -/
def words (a : StreamAppend) : List String :=
  ["XADD", a.stream, "*", "type", a.taskType, "payload", a.payload, "outbox_id", toString a.outboxId,
   "max_retry", toString a.maxRetry, "process_at", toString a.dueAt]

end StreamAppend

/-! ## The courier -/

/-- A connection to a stream server, as a script: the answers it will give, and what was sent to it. -/
structure StreamCourier where
  streamPrefix : String
  now : Int
  replies : List StreamReply := []
  sent : List StreamAppend := []

namespace StreamCourier

/-- The stream of a queue. -/
def streamOf (c : StreamCourier) (queue : String) : String := s!"{c.streamPrefix}:{queue}"

/-- The command that appends a message. -/
def command (c : StreamCourier) (m : OutboxMessage) : StreamAppend where
  stream := c.streamOf m.queue
  taskType := m.taskType
  payload := m.payload.compact
  outboxId := m.id
  maxRetry := m.maxRetry
  dueAt := dueTime c.now m.delaySecs

/-- The identifier a server chooses whose script has come to its end, by the number of entries so far. -/
def defaultId (n : Nat) : String := s!"{n}-0"

/-- The server's answer to the next command. -/
def nextReply (c : StreamCourier) : StreamReply :=
  c.replies.head?.getD (.text (defaultId (c.sent.length + 1)))

/-- The connection after a command was sent. -/
def sending (c : StreamCourier) (a : StreamAppend) : StreamCourier :=
  { c with replies := c.replies.drop 1, sent := c.sent ++ [a] }

/-- Appends a message to its queue's stream. -/
def hand (m : OutboxMessage) (c : StreamCourier) : Step StreamCourier QueueUnavailable String :=
  let command := c.command m
  match c.nextReply.entryId with
  | .ok id => {
      result := .ok id
      state := c.sending command
      events := [.taskAppended command.stream id m.id] }
  | .error e => { result := .error e, state := c.sending command }

instance : Courier StreamCourier where
  name _ := "redis"
  hand := hand

/-- What is said when a connection has been made. -/
def connected (c : StreamCourier) : Event := .streamConnected c.streamPrefix

end StreamCourier

/-! ## Addresses of servers -/

/-- The beginnings of addresses that name a stream server. -/
def streamSchemes : List String := ["redis:", "rediss:", "redis+unix:", "unix:"]

/-- Whether a text starts like the address of a stream server. -/
def isStreamAddress (url : String) : Bool := streamSchemes.any fun scheme => scheme.isPrefixOf url

/-- What is said of a text that is no address of a stream server. -/
def badAddress : QueueUnavailable := { reason := "Redis URL did not parse- InvalidClientConfig" }

end Clearing
