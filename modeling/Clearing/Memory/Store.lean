import Clearing.Memory.Tables
import Clearing.World

/-!
# The store in memory

A transaction works on a draft of the committed rows: committing makes the draft the committed rows, rolling
back drops it. Between transactions the draft is the committed rows. Failures can be queued at each place
where a store may fail; each is used once, the oldest at its place first. The store counts how its
transactions end and remembers the order in which wallets were locked.
-/

namespace Clearing

/-- A store whose rows are kept in memory. -/
structure MemoryStore where
  committed : Tables := {}
  draft : Tables := committed
  faults : List (FaultPoint × StoreError) := []
  lockTrace : List Uuid := []
  commits : Nat := 0
  rollbacks : Nat := 0
  ids : IdSupply := {}
  now : Instant

namespace MemoryStore

/-! ## Queued failures -/

/-- Queues a failure at a place. -/
def injectFault (s : MemoryStore) (point : FaultPoint) (e : StoreError) : MemoryStore :=
  { s with faults := s.faults ++ [(point, e)] }

/-- The oldest failure queued at a place, and the others. -/
def takeFault (point : FaultPoint) :
    List (FaultPoint × StoreError) → Option (StoreError × List (FaultPoint × StoreError))
  | [] => none
  | (other, e) :: rest =>
    if other = point then some (e, rest)
    else (takeFault point rest).map fun (found, left) => (found, (other, e) :: left)

/-- The failure that strikes at a place, and the store without it. -/
def fault? (s : MemoryStore) (point : FaultPoint) : Option (StoreError × MemoryStore) :=
  (takeFault point s.faults).map fun (e, left) => (e, { s with faults := left })

/-! ## Transactions -/

/-- Drops the draft. -/
def discard (s : MemoryStore) : MemoryStore := { s with draft := s.committed }

/-- Drops the draft and counts a rollback. -/
def rolledBack (s : MemoryStore) : MemoryStore :=
  { s.discard with rollbacks := s.rollbacks + 1 }

/-- Makes the draft the committed rows and counts a commit. -/
def committing (s : MemoryStore) : MemoryStore :=
  { s with committed := s.draft, commits := s.commits + 1 }

/-- The wallet that a query locks. -/
def lockedBy : Query → List Uuid
  | .lockWallet id => [id]
  | _ => []

/-- Answers a query from the draft. A new row takes the next identifier. -/
def answer (q : Query) (s : MemoryStore) : Step MemoryStore StoreError q.Reply :=
  match s.draft.reply s.ids.next s.now q with
  | .error e => { result := .error e, state := s }
  | .ok (r, draft) => {
      result := .ok r
      state := { s with
        draft := draft
        lockTrace := s.lockTrace ++ lockedBy q
        ids := if q.drawsId then s.ids.advance else s.ids } }

/-- Answers a query, unless a failure is queued at its place. -/
def ask (q : Query) (s : MemoryStore) : Step MemoryStore StoreError q.Reply :=
  match q.faultPoint? with
  | none => s.answer q
  | some point =>
    match s.fault? point with
    | none => s.answer q
    | some (e, s) => { result := .error e, state := s, events := [.faultInjected point e] }

instance : Store MemoryStore where
  name := "memory"
  begin s :=
    match s.fault? .begin with
    | none => { result := .ok (), state := s.discard }
    | some (e, s) => { result := .error e, state := s, events := [.faultInjected .begin e] }
  commit s :=
    match s.fault? .commit with
    | none => { result := .ok (), state := s.committing }
    | some (e, s) => { result := .error e, state := s.rolledBack, events := [.faultInjected .commit e] }
  rollback s := { result := .ok (), state := s.rolledBack }
  ask := ask

end MemoryStore
end Clearing
