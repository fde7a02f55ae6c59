import Clearing.Proofs.Atomicity

/-!
# Parts of the tables

The tables fall into parts that are written together: the books of the exchange, the journal of postings, the users
with their verifications, and the outbox. A command, whether it succeeds or fails, writes in no part but its own.
-/

namespace Clearing

/-! ## Tables that have a part in common -/

/-- The rows on which trades, fills and balances rest, before and after a command. -/
structure SameBooks (t t' : Tables) : Prop where
  orders : t'.orders = t.orders
  markets : t'.markets = t.markets
  wallets : t'.wallets = t.wallets
  trades : t'.trades = t.trades

/-- Ledger and fees are the same. -/
structure SameJournal (t t' : Tables) : Prop where
  ledger : t'.ledger = t.ledger
  fees : t'.fees = t.fees

/-- Users and verifications are the same. -/
structure SameUsers (t t' : Tables) : Prop where
  users : t'.users = t.users
  verifications : t'.verifications = t.verifications
  next : t'.nextVerificationId = t.nextVerificationId

/-- The outbox is as it was, and so is the number that its next row takes. -/
structure SameOutbox (t t' : Tables) : Prop where
  outbox : t'.outbox = t.outbox
  next : t'.nextOutboxId = t.nextOutboxId

/-- The parts of the tables. -/
inductive Part where
  | books | journal | users | outbox

namespace Part

/-- Two tables have a part in common. -/
def Same : Part → Tables → Tables → Prop
  | .books => SameBooks
  | .journal => SameJournal
  | .users => SameUsers
  | .outbox => SameOutbox

theorem same_of_eq (p : Part) {t t' : Tables} (h : t' = t) : p.Same t t' := by
  subst h
  cases p <;> constructor <;> rfl

end Part

/-! ## What a command writes -/

variable {κ : Type} [Courier κ]

theorem PublisherConfig.handRows_rows (c : PublisherConfig) (now : Instant) (rows : List OutboxMessage) (k : κ)
    (t : Tables) (r : BatchReport) :
    ∃ outbox, (c.handRows now rows k t r).2.1 = { t with outbox := outbox } := by
  induction rows generalizing k t r with
  | nil => exact ⟨t.outbox, rfl⟩
  | cons m rest ih =>
      obtain ⟨outbox, h⟩ := ih (Courier.hand m k).state
        (t.putOutbox (c.recorded now m (Courier.hand m k).result)) (c.counted m r (Courier.hand m k).result)
      exact ⟨outbox, h⟩

namespace Command

/-- Whether a command writes in a part of the tables. -/
def writes : Command → Part → Bool
  | .settleTrade _, .books | .updateFill _, .books => true
  | .postTransfer .., .journal | .moveEntry .., .journal => true
  | .registerUser _, .users | .registerUser _, .outbox | .verifyEmail .., .users => true
  | .publishBatch _, .outbox => true
  | _, _ => false

variable {s : Service} {w w' : World MemoryStore κ}

/-- A batch writes the rows of the outbox, and not even the number that the next one takes. -/
theorem Effect.batch_rows {config : PublisherConfig} {r : BatchReport}
    (h : Effect s w w' (.publishBatch config) r) :
    ∃ outbox, w'.store.committed = { w.store.committed with outbox := outbox } := by
  obtain ⟨outbox, hrows⟩ := config.handRows_rows w.store.now (w.store.committed.pending config.batchSize) w.courier
    w.store.committed .empty
  exact ⟨outbox, (congrArg (fun x => x.2.1) h).trans hrows⟩

theorem Effect.same {c : Command} {r : c.Result} (h : c.Effect s w w' r) {p : Part} (hp : c.writes p = false) :
    p.Same w.store.committed w'.store.committed := by
  -- Each part is either written, which `hp` excludes, or not mentioned in the rows that the command leaves.
  cases c with
  | settleTrade e =>
      obtain ⟨-, -, hrows⟩ := h
      rw [hrows]
      cases p with
      | books => cases hp
      | journal | users | outbox => constructor <;> rfl
  | updateFill request =>
      obtain ⟨o, hfilled⟩ := h
      rw [hfilled.rows]
      cases p with
      | books => cases hp
      | journal | users | outbox => constructor <;> rfl
  | postTransfer transfer rates =>
      rw [h.rows]
      cases p with
      | journal => cases hp
      | books | users | outbox => constructor <;> rfl
  | moveEntry id status =>
      obtain ⟨e, hmoved⟩ := h
      rw [hmoved.rows]
      cases p with
      | journal => cases hp
      | books | users | outbox => constructor <;> rfl
  | registerUser registration =>
      rw [h.rows]
      cases p with
      | users | outbox => cases hp
      | books | journal => constructor <;> rfl
  | verifyEmail id code =>
      rw [h.rows]
      cases p with
      | users => cases hp
      | books | journal | outbox => constructor <;> rfl
  | checkCurrencies userId base quote => exact p.same_of_eq h.2.2
  | publishBatch config =>
      obtain ⟨outbox, hrows⟩ := Effect.batch_rows h
      rw [hrows]
      cases p with
      | outbox => cases hp
      | books | journal | users => constructor <;> rfl

end Command

namespace Service

theorem committed_perform (s : Service) (c : Command) (w : World MemoryStore κ) :
    (s.perform c w).2.store.committed = w.store.committed ∨
      (s.operation c).check = .ok () ∧ ∃ r, c.Effect s w (s.perform c w).2 r := by
  cases h : s.perform c w with
  | mk result w' =>
      cases result with
      | error e => exact .inl (counts_of_error h).1
      | ok r => exact .inr ⟨(Operation.perform_ok h).1, r, Command.effect_of_perform h⟩

/-- A command, whether it succeeds or fails, leaves the parts alone in which it does not write. -/
theorem same_perform (s : Service) {c : Command} (p : Part) (hp : c.writes p = false) (w : World MemoryStore κ) :
    p.Same w.store.committed (s.perform c w).2.store.committed := by
  rcases s.committed_perform c w with hsame | ⟨-, r, heffect⟩
  · exact p.same_of_eq hsame
  · exact heffect.same hp

end Service
end Clearing
