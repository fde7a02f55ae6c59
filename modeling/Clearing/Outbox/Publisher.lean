import Clearing.Operation

/-!
# Publishing the outbox

A batch claims pending rows, oldest first, hands each to the courier, and records the outcome before the next
row is handed over, all in one transaction. A row that cannot be handed over is tried again by a later batch,
until it has failed as often as allowed. The publisher runs one batch after another until it is told to stop.
-/

namespace Clearing

namespace PublisherConfig

/-- Hands one row over and records the outcome. -/
def publishRow (c : PublisherConfig) (r : BatchReport) (m : OutboxMessage) : Work BatchReport := do
  match ← Work.deliver m with
  | .ok taskId =>
    Work.query (.markPublished m.id) "failed to mark outbox row published"
    Work.report (.rowPublished m.id taskId)
    return { r with published := r.published + 1 }
  | .error e =>
    let giveUp : Bool := c.maxAttempts ≤ m.attempts + 1
    Work.query (.recordFailure m.id e.message giveUp) "failed to record outbox failure"
    if giveUp then
      Work.report (.rowGivenUp m.id m.taskType (m.attempts + 1) e)
      return { r with gaveUp := r.gaveUp + 1 }
    else
      Work.report (.rowFailed m.id (m.attempts + 1) e)
      return { r with failed := r.failed + 1 }

/-- Hands rows over one after the other. -/
def publishRows (c : PublisherConfig) : BatchReport → List OutboxMessage → Work BatchReport
  | r, [] => .done r
  | r, m :: rest => do c.publishRows (← c.publishRow r m) rest

/-- The unit of work of one batch. -/
def batchWork (c : PublisherConfig) : Work BatchReport := do
  let rows ← Work.query (.claimOutbox c.batchSize) "failed to claim outbox rows"
  c.publishRows BatchReport.empty rows

/-- Claims, hands over and records one batch of rows. -/
def batch (c : PublisherConfig) : Operation BatchReport where
  name := "publish_outbox"
  work := c.batchWork
  report r := if r = BatchReport.empty then [] else [.batchDone r]

/-! ## The loop -/

/-- What wakes a publisher between two batches. -/
inductive Signal where
  /-- The poll interval is over. -/
  | elapsed
  /-- The stop flag has been given a value. -/
  | flagged (stop : Bool)
  /-- Nobody is left to set the stop flag. -/
  | abandoned
deriving DecidableEq

/-- Whether a publisher has stopped or waits for a signal. -/
inductive Standing where
  | stopped
  | waiting
deriving DecidableEq

variable {σ κ : Type} [Store σ] [Courier κ]

/-- Runs one batch; a failure is logged and does not stop the publisher. -/
def runBatch (c : PublisherConfig) (w : World σ κ) : World σ κ :=
  match c.batch.perform w with
  | (.ok _, w) => w
  | (.error e, w) => w.note (.batchFailed e)

/-- Runs batches, looking at the stop flag before each and waiting for a signal after each. -/
def loop (c : PublisherConfig) : (stop : Bool) → List Signal → World σ κ → Standing × World σ κ
  | true, _, w => (.stopped, w)
  | false, [], w => (.waiting, c.runBatch w)
  | false, .elapsed :: rest, w => c.loop false rest (c.runBatch w)
  | false, .flagged stop :: rest, w => c.loop stop rest (c.runBatch w)
  | false, .abandoned :: _, w => (.stopped, c.runBatch w)

/-- Runs the publisher from a value of the stop flag through a series of signals. -/
def run (c : PublisherConfig) (stop : Bool) (signals : List Signal) (w : World σ κ) :
    Standing × World σ κ :=
  match c.loop stop signals (w.note (.publisherStarted c (Courier.name w.courier))) with
  | (.stopped, w) => (.stopped, w.note .publisherStopped)
  | (.waiting, w) => (.waiting, w)

end PublisherConfig
end Clearing
