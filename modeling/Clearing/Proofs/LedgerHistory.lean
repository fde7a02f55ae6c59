import Clearing.Proofs.Constraints
import Clearing.Proofs.History

/-!
# The history of the ledger

A posting appends one ledger entry and one fee row, in one transaction. Nothing else writes fee rows, and of an entry
nothing changes but the status, once at most and out of the pending state. So the two tables stay in step: the rows at
one position are those of one posting.
-/

namespace Clearing

variable {κ : Type}

/-! ## Entries that move on -/

theorem TransferStatus.pending_of_mayBecome {status status' : TransferStatus} (h : status.mayBecome status' = true) :
    status = .pending ∧ (status' = .completed ∨ status' = .failed) := by
  cases status <;> cases status' <;> simp [mayBecome] at h ⊢

namespace LedgerEntry

/-- What an entry may have become: it is as it was, or it has left the pending state. -/
inductive Later (e : LedgerEntry) : LedgerEntry → Prop where
  | same : Later e e
  | moved {status : TransferStatus} (pending : e.status = .pending)
      (terminal : status = .completed ∨ status = .failed) : Later e { e with status := status }

namespace Later

variable {e e' e'' : LedgerEntry}

theorem trans (h : e.Later e') (h' : e'.Later e'') : e.Later e'' := by
  cases h with
  | same => exact h'
  | moved pending terminal =>
      cases h' with
      | same => exact .moved pending terminal
      | moved pending' => rcases terminal with rfl | rfl <;> cases pending'

theorem eq_of_terminal (h : e.Later e') (hterminal : e.status.isTerminal = true) : e' = e := by
  cases h with
  | same => rfl
  | moved pending terminal => rw [pending] at hterminal; cases hterminal

theorem terminal_of_ne (h : e.Later e') (hne : e.status ≠ e'.status) : e'.status.isTerminal = true := by
  cases h with
  | same => exact absurd rfl hne
  | moved pending terminal => rcases terminal with rfl | rfl <;> rfl

theorem of_mayBecome {status : TransferStatus} (h : e.status.mayBecome status = true) :
    e.Later { e with status := status } :=
  .moved (TransferStatus.pending_of_mayBecome h).1 (TransferStatus.pending_of_mayBecome h).2

end Later

/-- Every entry of a ledger is found at its position in another one, perhaps moved on. -/
def Kept (entries entries' : List LedgerEntry) : Prop :=
  ∀ (i : Nat) (e : LedgerEntry), entries[i]? = some e → ∃ e', entries'[i]? = some e' ∧ e.Later e'

namespace Kept

variable {entries entries' entries'' : List LedgerEntry}

theorem refl (entries : List LedgerEntry) : Kept entries entries := fun _ e h => ⟨e, h, .same⟩

theorem trans (h : Kept entries entries') (h' : Kept entries' entries'') : Kept entries entries'' := by
  intro i e he
  obtain ⟨e', he', hlater⟩ := h i e he
  obtain ⟨e'', he'', hlater'⟩ := h' i e' he'
  exact ⟨e'', he'', hlater.trans hlater'⟩

theorem append (entries more : List LedgerEntry) : Kept entries (entries ++ more) := by
  intro i e he
  exact ⟨e, List.getElem?_append_left (List.getElem?_eq_some_iff.mp he).1 ▸ he, .same⟩

theorem moveEntry {id : Uuid} {status : TransferStatus} {e : LedgerEntry} (hfind : entries.find? (·.id = id) = some e)
    (hmay : e.status.mayBecome status = true) : Kept entries (Tables.moveEntry id status entries) := by
  induction entries with
  | nil => cases hfind
  | cons first rest ih =>
      rw [Tables.moveEntry]
      intro i x hx
      by_cases hid : first.id = id
      · rw [List.find?_cons_of_pos (by simpa using hid)] at hfind
        obtain rfl := Option.some.inj hfind
        rw [if_pos hid]
        cases i with
        | zero =>
            obtain rfl := Option.some.inj hx
            exact ⟨_, rfl, .of_mayBecome hmay⟩
        | succ i => exact ⟨x, hx, .same⟩
      · rw [List.find?_cons_of_neg (by simpa using hid)] at hfind
        rw [if_neg hid]
        cases i with
        | zero => exact ⟨x, hx, .same⟩
        | succ i => exact ih hfind i x hx

end Kept

theorem length_moveEntry (id : Uuid) (status : TransferStatus) (entries : List LedgerEntry) :
    (Tables.moveEntry id status entries).length = entries.length := by
  induction entries with
  | nil => rfl
  | cons e rest ih =>
      rw [Tables.moveEntry]
      split
      · rfl
      · rw [List.length_cons, List.length_cons, ih]

end LedgerEntry

/-! ## Postings and their rows -/

/-- A call that posts a transfer, and what it gives. -/
structure PostingCall where
  sizing : SizingPolicy
  transfer : Transfer
  rates : FeeRates
  posting : Posting

namespace PostingCall

/-- An entry and a fee row are those of a call: they carry its parameters, and of what it has given at most the
status of the entry has changed since. -/
structure Wrote (c : PostingCall) (e : LedgerEntry) (f : FeeSchedule) : Prop where
  transfer : (c.transfer.toEntry e.amount e.id e.createdAt).Later e
  rates : f = c.rates.toSchedule f.id f.createdAt
  entry : c.posting.entry.Later e
  fee : f = c.posting.fee
  requested_pos : 0 < e.requestedAmount.value
  amount_nonneg : 0 ≤ e.amount.value
  amount_eq : c.transfer.kind = .deposit ∨ c.sizing = .accountBalance → e.amount = e.requestedAmount

theorem Wrote.later {c : PostingCall} {e e' : LedgerEntry} {f : FeeSchedule} (h : c.Wrote e f) (hlater : e.Later e') :
    c.Wrote e' f := by
  have hentry := h.entry.trans hlater
  have htransfer := h.transfer.trans hlater
  cases hlater with
  | same => exact h
  | moved => exact { h with transfer := htransfer, entry := hentry }

end PostingCall

theorem Transfer.Posted.wrote {transfer : Transfer} {sizing : SizingPolicy} {rates : FeeRates} {ids : IdSupply}
    {now : Instant} {t t' : Tables} {p : Posting} (h : transfer.Posted sizing rates ids now t p t')
    (hcheck : transfer.check rates = .ok ()) :
    (PostingCall.mk sizing transfer rates p).Wrote p.entry p.fee := by
  have hrequested : p.entry.requestedAmount = transfer.amount := by rw [h.entry]; rfl
  have hentry : transfer.toEntry p.entry.amount p.entry.id p.entry.createdAt = p.entry := by
    conv_rhs => rw [h.entry]
    congr 1 <;> rw [h.entry] <;> rfl
  refine ⟨?_, ?_, .same, rfl, ?_, ?_, ?_⟩
  · rw [hentry]
    exact .same
  · rw [h.fee]
    rfl
  · rw [hrequested]
    exact (check_ok hcheck).1
  · have hnonneg := h.nonneg
    rwa [Decimal.le_iff_value, Decimal.value_zero] at hnonneg
  · intro hexact
    rw [hrequested]
    have hsized := h.sized
    generalize p.entry.amount = amount at hsized
    cases hsized with
    | deposit => rfl
    | fromLargest kind =>
        rcases hexact with hdeposit | hsizing
        · exact absurd (hdeposit.symm.trans kind) TransferKind.noConfusion
        · exact absurd hsizing SizingPolicy.noConfusion
    | fromAccount => rfl

/-! ## What an action does to ledger and fees -/

variable [Courier κ]

/-- The postings that an action brings about. -/
def Action.postings (w : World MemoryStore κ) : Action κ → List PostingCall
  | .perform s (.postTransfer transfer rates) =>
    match (s.perform (.postTransfer transfer rates) w).1 with
    | .ok posting => [⟨s.sizing, transfer, rates, posting⟩]
    | .error _ => []
  | _ => []

/-- The ways in which an action changes ledger and fees. -/
inductive Journaled (w : World MemoryStore κ) (a : Action κ) (t : Tables) : Prop where
  | same (rows : SameJournal w.store.committed t) (postings : a.postings w = [])
  | posted {c : PostingCall} (wrote : c.Wrote c.posting.entry c.posting.fee)
      (rows : t = (w.store.committed.addEntry c.posting.entry).addFee c.posting.fee) (postings : a.postings w = [c])
  | moved {id : Uuid} {status : TransferStatus} {e : LedgerEntry} (entry : w.store.committed.entry? id = some e)
      (mayBecome : e.status.mayBecome status = true)
      (rows : t = { w.store.committed with ledger := Tables.moveEntry id status w.store.committed.ledger })
      (postings : a.postings w = [])

namespace Action

variable {w : World MemoryStore κ}

theorem journaled_post (s : Service) (transfer : Transfer) (rates : FeeRates) :
    Journaled w (.perform s (.postTransfer transfer rates))
      (s.perform (.postTransfer transfer rates) w).2.store.committed := by
  cases hperform : s.perform (.postTransfer transfer rates) w with
  | mk result w' =>
      cases result with
      | error e =>
          refine .same (Part.journal.same_of_eq (Service.counts_of_error hperform).1) ?_
          simp only [postings, hperform]
      | ok p =>
          have hposted := Command.effect_of_perform hperform
          have hcheck : transfer.check rates = .ok () := (Operation.perform_ok hperform).1
          refine .posted (c := ⟨s.sizing, transfer, rates, p⟩) (hposted.wrote hcheck) hposted.rows ?_
          simp only [postings, hperform]

theorem journaled_move (s : Service) (id : Uuid) (status : TransferStatus) :
    Journaled w (.perform s (.moveEntry id status)) (s.perform (.moveEntry id status) w).2.store.committed := by
  rcases s.committed_perform (.moveEntry id status) w with hsame | ⟨-, r, e, hmoved⟩
  · exact .same (Part.journal.same_of_eq hsame) rfl
  · have hallowed := hmoved.allowed
    rw [LedgerEntry.checkMove] at hallowed
    split at hallowed
    · next hmay => exact .moved hmoved.entry hmay hmoved.rows rfl
    · cases hallowed

theorem journaled (w : World MemoryStore κ) (a : Action κ) : Journaled w a (a.apply w).store.committed := by
  cases a with
  | seedUser username email | seedWallet userId currency balance | seedMarket base quote
  | seedOrder userId marketId side price amount | seedVerification username email secretCode seconds
  | injectFault point e | setIds ids | setClock now | setCourier courier => exact .same ⟨rfl, rfl⟩ rfl
  | perform s c =>
      cases c with
      | postTransfer transfer rates => exact journaled_post s transfer rates
      | moveEntry id status => exact journaled_move s id status
      | settleTrade | updateFill | registerUser | verifyEmail | checkCurrencies | publishBatch =>
          exact .same (s.same_perform .journal rfl w) rfl

end Action

/-! ## Runs -/

/-- The rows at each position are those of the posting at that position, and there are no others. -/
structure Tables.Journal (t : Tables) (calls : List PostingCall) : Prop where
  ledger : t.ledger.length = calls.length
  fees : t.fees.length = calls.length
  wrote : ∀ (i : Nat) (c : PostingCall), calls[i]? = some c →
    ∃ e f, t.ledger[i]? = some e ∧ t.fees[i]? = some f ∧ c.Wrote e f

namespace Tables.Journal

variable {t t' : Tables} {calls : List PostingCall}

theorem empty : Journal {} [] := ⟨rfl, rfl, fun i c hc => by simp at hc⟩

theorem keep (h : t.Journal calls) (hkept : LedgerEntry.Kept t.ledger t'.ledger)
    (hlength : t'.ledger.length = t.ledger.length) (hfees : t'.fees = t.fees) : t'.Journal calls := by
  refine ⟨hlength.trans h.ledger, by rw [hfees, h.fees], fun i c hc => ?_⟩
  obtain ⟨e, f, he, hf, hwrote⟩ := h.wrote i c hc
  obtain ⟨e', he', hlater⟩ := hkept i e he
  exact ⟨e', f, he', by rw [hfees, hf], hwrote.later hlater⟩

theorem post {c : PostingCall} (h : t.Journal calls) (hwrote : c.Wrote c.posting.entry c.posting.fee) :
    ((t.addEntry c.posting.entry).addFee c.posting.fee).Journal (calls ++ [c]) := by
  refine ⟨?_, ?_, fun i d hd => ?_⟩
  · simp [addEntry, addFee, h.ledger]
  · simp [addEntry, addFee, h.fees]
  · rcases Nat.lt_or_ge i calls.length with hlt | hge
    · rw [List.getElem?_append_left hlt] at hd
      obtain ⟨e, f, he, hf, hwrote⟩ := h.wrote i d hd
      refine ⟨e, f, ?_, ?_, hwrote⟩
      · exact List.getElem?_append_left (h.ledger ▸ hlt) ▸ he
      · exact List.getElem?_append_left (h.fees ▸ hlt) ▸ hf
    · obtain rfl : i = calls.length := by
        have := (List.getElem?_eq_some_iff.mp hd).1
        rw [List.length_append, List.length_singleton] at this
        omega
      rw [List.getElem?_concat_length] at hd
      obtain rfl := Option.some.inj hd
      refine ⟨c.posting.entry, c.posting.fee, ?_, ?_, hwrote⟩
      · rw [← h.ledger]
        exact List.getElem?_concat_length
      · rw [← h.fees]
        exact List.getElem?_concat_length

end Tables.Journal

namespace Journaled

variable {w : World MemoryStore κ} {a : Action κ} {t : Tables} {calls : List PostingCall}

theorem kept (h : Journaled w a t) : LedgerEntry.Kept w.store.committed.ledger t.ledger := by
  cases h with
  | same rows => rw [rows.ledger]; exact .refl _
  | posted wrote rows => rw [rows]; exact .append _ _
  | moved entry mayBecome rows => rw [rows]; exact .moveEntry entry mayBecome

theorem fees_kept (h : Journaled w a t) : w.store.committed.fees <+: t.fees := by
  cases h with
  | same rows => rw [rows.fees]
  | posted wrote rows => rw [rows]; exact List.prefix_append ..
  | moved entry mayBecome rows => rw [rows]

theorem journal (h : Journaled w a t) (hj : w.store.committed.Journal calls) :
    t.Journal (calls ++ a.postings w) := by
  have hkept := h.kept
  cases h with
  | same rows postings =>
      rw [postings, List.append_nil]
      exact hj.keep hkept (congrArg _ rows.ledger) rows.fees
  | posted wrote rows postings =>
      rw [postings, rows]
      exact hj.post wrote
  | moved entry mayBecome rows postings =>
      rw [postings, List.append_nil]
      refine hj.keep hkept ?_ (by rw [rows])
      rw [rows]
      exact LedgerEntry.length_moveEntry ..

end Journaled

namespace World

variable {w : World MemoryStore κ} {actions : List (Action κ)}

theorem journal_after (hempty : w.store.committed = {}) (actions : List (Action κ)) :
    (w.after actions).store.committed.Journal (w.gather Action.postings actions) := by
  induction actions using List.reverseRecOn with
  | nil =>
      rw [after, List.foldl_nil, hempty]
      exact .empty
  | append_singleton actions a ih =>
      rw [after_concat, gather_concat]
      exact (a.journaled (w.after actions)).journal ih

/-- From then on, entries and fee rows are found where they were. -/
theorem ledger_kept {m n : Nat} (hmn : m ≤ n) :
    LedgerEntry.Kept (w.stateAt actions m).store.committed.ledger (w.stateAt actions n).store.committed.ledger ∧
      (w.stateAt actions m).store.committed.fees <+: (w.stateAt actions n).store.committed.fees := by
  have halways : w.Along (fun _ _ => True) actions := fun _ _ _ _ => trivial
  refine halways.between (I := fun _ => True) (R := fun v x =>
    LedgerEntry.Kept v.store.committed.ledger x.store.committed.ledger ∧
      v.store.committed.fees <+: x.store.committed.fees) trivial ?_ ?_ ?_ hmn
  · exact fun v a _ _ => ⟨trivial, (a.journaled v).kept, (a.journaled v).fees_kept⟩
  · exact fun v => ⟨.refl _, List.prefix_rfl⟩
  · exact fun u v x h h' => ⟨h.1.trans h'.1, h.2.trans h'.2⟩

/-- One action of a run changes the status of the entry at a position. -/
def MovesEntry (w : World MemoryStore κ) (actions : List (Action κ)) (i k : Nat) : Prop :=
  ∃ e e', (w.stateAt actions k).store.committed.ledger[i]? = some e ∧
    (w.stateAt actions (k + 1)).store.committed.ledger[i]? = some e' ∧ e.status ≠ e'.status

theorem MovesEntry.not_lt {i k l : Nat} (hk : w.MovesEntry actions i k) (hl : w.MovesEntry actions i l) : ¬ k < l := by
  intro hlt
  obtain ⟨e, e', he, he', hne⟩ := hk
  obtain ⟨x, x', hx, hx', hne'⟩ := hl
  have hterminal : e'.status.isTerminal = true := by
    obtain ⟨y, hy, hlater⟩ := (ledger_kept (Nat.le_succ k)).1 i e he
    obtain rfl : e' = y := Option.some.inj (he'.symm.trans hy)
    exact hlater.terminal_of_ne hne
  -- The entry is over when the first change has happened, and stays as it is.
  have hover : ∀ {n : Nat} {y : LedgerEntry}, k + 1 ≤ n →
      (w.stateAt actions n).store.committed.ledger[i]? = some y → y = e' := by
    intro n y hn hy
    obtain ⟨y', hy', hlater⟩ := (ledger_kept hn).1 i e' he'
    obtain rfl : y = y' := Option.some.inj (hy.symm.trans hy')
    exact hlater.eq_of_terminal hterminal
  rw [hover hlt hx, hover (Nat.le_succ_of_le hlt) hx'] at hne'
  exact hne' rfl

end World

/-- In every state of a run, ledger and fees have as many rows as there were successful postings, and the rows at each
position are those of the posting at that position. From any state to any later one, entries stay at their positions
and change in nothing but the status, which leaves the pending state once and for all; fee rows do not change. -/
theorem World.ledger_history {w : World MemoryStore κ} (hempty : w.store.committed = {}) (actions : List (Action κ)) :
    (∀ n, (w.stateAt actions n).store.committed.Journal (w.gather Action.postings (actions.take n))) ∧
    (∀ m n, m ≤ n →
      LedgerEntry.Kept (w.stateAt actions m).store.committed.ledger (w.stateAt actions n).store.committed.ledger ∧
        (w.stateAt actions m).store.committed.fees <+: (w.stateAt actions n).store.committed.fees) ∧
    ∀ i k l, w.MovesEntry actions i k → w.MovesEntry actions i l → k = l := by
  refine ⟨fun n => w.journal_after hempty (actions.take n), fun m n hmn => ledger_kept hmn, fun i k l hk hl => ?_⟩
  exact Nat.le_antisymm (Nat.le_of_not_lt (hl.not_lt hk)) (Nat.le_of_not_lt (hk.not_lt hl))

/-- A run in which postings are sized in both ways, one of them fails at its fee row, and the first entry is completed
and cannot be given up afterwards. -/
def ledgerRun : List (Action Mailbox) :=
  let rates : FeeRates := { marketId := .ofNat 7, makerFee := .ofCoeff 1 3, takerFee := .ofCoeff 2 3 }
  let deposit : Transfer :=
    { userId := .ofNat 8, kind := .deposit, currency := "USD", amount := .ofCoeff 50 0, status := .pending,
      address := none, txHash := none }
  let withdrawal : Transfer := { deposit with kind := .withdrawal, amount := .ofCoeff 30 0 }
  [.seedWallet (.ofNat 8) "USD" (.ofCoeff 100 0),
   .perform {} (.postTransfer deposit rates),
   .injectFault .insertFee (.internal "disk full"),
   .perform {} (.postTransfer deposit rates),
   .perform { sizing := .accountBalance } (.postTransfer withdrawal rates),
   .perform {} (.postTransfer { withdrawal with status := .completed } rates),
   .perform {} (.moveEntry (IdSupply.numbered 2) .completed),
   .perform {} (.moveEntry (IdSupply.numbered 2) .failed)]

theorem World.ledgerRun_history :
    emptyWorld.store.committed = {} ∧
    (emptyWorld.gather Action.postings ledgerRun).length = 3 ∧
    (emptyWorld.after ledgerRun).store.committed.ledger.length = 3 ∧
    (emptyWorld.after ledgerRun).store.committed.fees.length = 3 ∧
    (emptyWorld.after ledgerRun).store.committed.ledger.map (·.amount)
      = [.ofCoeff 50 0, .ofCoeff 30 0, .ofCoeff 70 0] ∧
    (emptyWorld.after ledgerRun).store.committed.ledger.map (·.status) = [.completed, .pending, .completed] ∧
    ∀ k, emptyWorld.MovesEntry ledgerRun 0 k ↔ k = 6 := by
  have hstart : emptyWorld.store.committed = {} := rfl
  obtain ⟨hjournal, -, honce⟩ := ledger_history hstart ledgerRun
  have hcalls : (emptyWorld.gather Action.postings ledgerRun).length = 3 := by decide +kernel
  have hj := hjournal ledgerRun.length
  rw [stateAt, List.take_length] at hj
  have hbefore : (emptyWorld.stateAt ledgerRun 6).store.committed.ledger[0]?.map (·.status) = some .pending := by
    decide +kernel
  have hafter : (emptyWorld.stateAt ledgerRun 7).store.committed.ledger[0]?.map (·.status) = some .completed := by
    decide +kernel
  obtain ⟨e, he, hpending⟩ := Option.map_eq_some_iff.mp hbefore
  obtain ⟨e', he', hcompleted⟩ := Option.map_eq_some_iff.mp hafter
  have hmoves : emptyWorld.MovesEntry ledgerRun 0 6 :=
    ⟨e, e', he, he', by rw [hpending, hcompleted]; exact TransferStatus.noConfusion⟩
  exact ⟨hstart, hcalls, hj.ledger.trans hcalls, hj.fees.trans hcalls, by decide +kernel, by decide +kernel,
    fun k => ⟨fun hk => honce 0 k 6 hk hmoves, fun hk => hk ▸ hmoves⟩⟩

end Clearing
