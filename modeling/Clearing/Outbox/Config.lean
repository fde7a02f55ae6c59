import Clearing.Duration

/-!
# The publisher's numbers

How often the outbox is looked at, how many rows a batch claims, and after how many failures a row is given
up; and what a batch did.
-/

namespace Clearing

/-- How the outbox is drained. -/
structure PublisherConfig where
  pollInterval : Duration := Duration.ofSeconds 1
  batchSize : Int := 100
  maxAttempts : Int32 := 10
deriving DecidableEq

/-- How many rows of a batch were handed over, failed for now, and were given up. -/
structure BatchReport where
  published : Nat := 0
  failed : Nat := 0
  gaveUp : Nat := 0
deriving DecidableEq

/-- The report of a batch without rows. -/
def BatchReport.empty : BatchReport := {}

end Clearing
