import Clearing.Proofs.Lemmas.RowByRow
import Mathlib.Data.List.Perm.Basic

/-!
# Patches

A patch is what a command writes: rows in place of others, rows that are added, and ledger entries that are given a
status. Two patches that write different rows can be applied in either order. Only the order of the added rows tells
the results apart, and the stamps that the rows carry: the identifiers drawn for them and the times.
-/

namespace Clearing

/-! ## Writing several rows -/

namespace Table

variable {ρ : Type} [Keyed ρ] {t t' : Table ρ} {r s : ρ} {rows rows' : List ρ}

theorem insertRow_comm (h : Keyed.key r ≠ Keyed.key s) (rows : List ρ) :
    insertRow s (insertRow r rows) = insertRow r (insertRow s rows) := by
  induction rows with
  | nil => grind [insertRow]
  | cons x rest ih => grind [insertRow]

theorem insert_comm (h : Keyed.key r ≠ Keyed.key s) : (t.insert r).insert s = (t.insert s).insert r := by
  simp only [insert, insertRow_comm h]

/-- Writes rows, one after the other. -/
def insertAll (t : Table ρ) (rows : List ρ) : Table ρ := rows.foldl insert t

theorem insertAll_insert (h : ∀ x ∈ rows, Keyed.key x ≠ Keyed.key r) :
    (t.insert r).insertAll rows = (t.insertAll rows).insert r := by
  induction rows generalizing t with
  | nil => rfl
  | cons x rest ih =>
      obtain ⟨hx, hrest⟩ := List.forall_mem_cons.mp h
      show ((t.insert r).insert x).insertAll rest = ((t.insert x).insertAll rest).insert r
      rw [insert_comm hx.symm, ih hrest]

theorem insertAll_comm (h : ∀ x ∈ rows, ∀ y ∈ rows', Keyed.key x ≠ Keyed.key y) :
    (t.insertAll rows).insertAll rows' = (t.insertAll rows').insertAll rows := by
  induction rows generalizing t with
  | nil => rfl
  | cons x rest ih =>
      obtain ⟨hx, hrest⟩ := List.forall_mem_cons.mp h
      show ((t.insert x).insertAll rest).insertAll rows' = ((t.insertAll rows').insert x).insertAll rest
      rw [ih hrest, insertAll_insert fun y hy => (hx y hy).symm]

theorem map_insertAll {f : ρ → ρ} (hkey : ∀ r, Keyed.key (f r) = Keyed.key r)
    (ht : t'.rows.map f = t.rows.map f) (hrows : rows'.map f = rows.map f) :
    (t'.insertAll rows').rows.map f = (t.insertAll rows).rows.map f := by
  induction rows generalizing rows' t t' with
  | nil =>
      obtain rfl := List.map_eq_nil_iff.mp hrows
      exact ht
  | cons x rest ih =>
      obtain ⟨y, rest', rfl, hy, hrest⟩ := List.map_eq_cons_iff.mp hrows
      have hsame : SameKey fun r r' : ρ => f r' = f r := fun r r' h => by rw [← hkey r', h, hkey]
      have hfirst : (t'.insert y).rows.map f = (t.insert x).rows.map f :=
        ((rowByRow_of_map_eq ht).insert hsame hy).map_eq fun _ _ h => h
      have hall := ih hfirst hrest
      exact hall

end Table

/-! ## Moving ledger entries -/

namespace Tables

variable {id id' : Uuid} {status status' : TransferStatus} {entries more : List LedgerEntry}

theorem map_id_moveEntry (id : Uuid) (status : TransferStatus) (entries : List LedgerEntry) :
    (moveEntry id status entries).map (·.id) = entries.map (·.id) := by
  induction entries with
  | nil => rfl
  | cons e rest ih =>
      rw [moveEntry]
      split
      · rfl
      · rw [List.map_cons, List.map_cons, ih]

theorem moveEntry_comm (h : id ≠ id') (entries : List LedgerEntry) :
    moveEntry id' status' (moveEntry id status entries) = moveEntry id status (moveEntry id' status' entries) := by
  induction entries with
  | nil => rfl
  | cons e rest ih => grind [moveEntry]

theorem moveEntry_append (h : id ∈ entries.map (·.id)) (more : List LedgerEntry) :
    moveEntry id status (entries ++ more) = moveEntry id status entries ++ more := by
  induction entries with
  | nil => cases h
  | cons e rest ih =>
      rw [List.cons_append, moveEntry, moveEntry]
      by_cases hid : e.id = id
      · rw [if_pos hid, if_pos hid, List.cons_append]
      · have hmem : id ∈ rest.map (·.id) := (List.mem_cons.mp h).resolve_left (Ne.symm hid)
        rw [if_neg hid, if_neg hid, ih hmem, List.cons_append]

/-- Gives an entry a status, if one is named. -/
def moved (move? : Option (Uuid × TransferStatus)) (entries : List LedgerEntry) : List LedgerEntry :=
  move?.elim entries fun m => moveEntry m.1 m.2 entries

variable {move? other? : Option (Uuid × TransferStatus)}

theorem map_id_moved (move? : Option (Uuid × TransferStatus)) (entries : List LedgerEntry) :
    (moved move? entries).map (·.id) = entries.map (·.id) := by
  cases move? with
  | none => rfl
  | some m => exact map_id_moveEntry ..

theorem length_moved (move? : Option (Uuid × TransferStatus)) (entries : List LedgerEntry) :
    (moved move? entries).length = entries.length := by
  simpa using congrArg List.length (map_id_moved move? entries)

theorem moved_append (h : ∀ m ∈ move?, m.1 ∈ entries.map (·.id)) (more : List LedgerEntry) :
    moved move? (entries ++ more) = moved move? entries ++ more := by
  cases move? with
  | none => rfl
  | some m => exact moveEntry_append (h m rfl) more

theorem moved_comm (h : ∀ m ∈ move?, ∀ m' ∈ other?, m.1 ≠ m'.1) (entries : List LedgerEntry) :
    moved other? (moved move? entries) = moved move? (moved other? entries) := by
  cases move? with
  | none => rfl
  | some m =>
      cases other? with
      | none => rfl
      | some m' => exact moveEntry_comm (h m rfl m' rfl) entries

end Tables

/-! ## Stamps

A store stamps rows with the time, and those that are appended with an identifier as well.
-/

def Order.unstamped (o : Order) : Order := { o with updatedAt := .epoch }

def Trade.unstamped (x : Trade) : Trade := { x with id := default, createdAt := .epoch }

def FeeSchedule.unstamped (f : FeeSchedule) : FeeSchedule := { f with id := default, createdAt := .epoch }

def LedgerEntry.unstamped (e : LedgerEntry) : LedgerEntry := { e with id := default, createdAt := .epoch }

/-- Two lists that begin with the same rows, this many, and go on with rows that differ in their order and stamps
only. -/
def Regrown {ρ : Type} (unstamped : ρ → ρ) (n : Nat) (rows rows' : List ρ) : Prop :=
  rows'.take n = rows.take n ∧ ((rows'.drop n).map unstamped).Perm ((rows.drop n).map unstamped)

theorem regrown_append {ρ : Type} {unstamped : ρ → ρ} {kept a a' b b' : List ρ}
    (ha : a'.map unstamped = a.map unstamped) (hb : b'.map unstamped = b.map unstamped) :
    Regrown unstamped kept.length (kept ++ a ++ b') (kept ++ b ++ a') := by
  rw [List.append_assoc, List.append_assoc]
  refine ⟨by rw [List.take_left, List.take_left], ?_⟩
  rw [List.drop_left, List.drop_left, List.map_append, List.map_append, ha, hb]
  exact List.perm_append_comm

/-- Rows that differ from each other as little as those that two calls leave in one order and in the other: trades, fee
rows and ledger entries that were there before stand where they stood. -/
structure Tables.Reordered (before t t' : Tables) : Prop where
  users : t'.users = t.users
  wallets : t'.wallets = t.wallets
  markets : t'.markets = t.markets
  orders : t'.orders.rows.map Order.unstamped = t.orders.rows.map Order.unstamped
  verifications : t'.verifications = t.verifications
  outbox : t'.outbox = t.outbox
  trades : Regrown Trade.unstamped before.trades.length t.trades t'.trades
  fees : Regrown FeeSchedule.unstamped before.fees.length t.fees t'.fees
  ledger : Regrown LedgerEntry.unstamped before.ledger.length t.ledger t'.ledger
  nextVerificationId : t'.nextVerificationId = t.nextVerificationId
  nextOutboxId : t'.nextOutboxId = t.nextOutboxId

/-! ## Patches -/

/-- Rows to be written, rows to be added, and an entry to be given a status. -/
structure Patch where
  users : List User := []
  wallets : List Wallet := []
  orders : List Order := []
  verifications : List Verification := []
  trades : List Trade := []
  fees : List FeeSchedule := []
  entries : List LedgerEntry := []
  move? : Option (Uuid × TransferStatus) := none

namespace Patch

/-- Two patches write different rows. -/
structure Apart (p q : Patch) : Prop where
  users : ∀ u ∈ p.users, ∀ v ∈ q.users, Keyed.key u ≠ Keyed.key v
  wallets : ∀ u ∈ p.wallets, ∀ v ∈ q.wallets, Keyed.key u ≠ Keyed.key v
  orders : ∀ u ∈ p.orders, ∀ v ∈ q.orders, Keyed.key u ≠ Keyed.key v
  verifications : ∀ u ∈ p.verifications, ∀ v ∈ q.verifications, Keyed.key u ≠ Keyed.key v
  move? : ∀ m ∈ p.move?, ∀ n ∈ q.move?, m.1 ≠ n.1

def unstamped (p : Patch) : Patch :=
  { p with
    orders := p.orders.map Order.unstamped
    trades := p.trades.map Trade.unstamped
    fees := p.fees.map FeeSchedule.unstamped
    entries := p.entries.map LedgerEntry.unstamped }

end Patch

namespace Tables

def patched (t : Tables) (p : Patch) : Tables :=
  { t with
    users := t.users.insertAll p.users
    wallets := t.wallets.insertAll p.wallets
    orders := t.orders.insertAll p.orders
    verifications := t.verifications.insertAll p.verifications
    trades := t.trades ++ p.trades
    fees := t.fees ++ p.fees
    ledger := moved p.move? t.ledger ++ p.entries }

variable {t : Tables} {p q p' q' : Patch}

theorem patched_empty (t : Tables) : t.patched {} = t := by
  simp only [patched, Table.insertAll, List.foldl_nil, List.append_nil, moved, Option.elim_none]

/-- Two patches that write different rows, applied in one order and, with other stamps, in the other one. -/
theorem patched_comm (hapart : p.Apart q) (hp : p'.unstamped = p.unstamped) (hq : q'.unstamped = q.unstamped)
    (hmove : ∀ m ∈ p.move?, m.1 ∈ t.ledger.map (·.id)) (hmove' : ∀ m ∈ q.move?, m.1 ∈ t.ledger.map (·.id)) :
    t.Reordered ((t.patched p).patched q') ((t.patched q).patched p') := by
  obtain ⟨users, wallets, orders, verifications, trades, fees, entries, move?⟩ := p'
  obtain ⟨users', wallets', orders', verifications', trades', fees', entries', move?'⟩ := q'
  -- All that is left to tell the patches of one call apart are the stamps.
  simp only [Patch.unstamped, Patch.mk.injEq] at hp hq
  obtain ⟨rfl, rfl, horders, rfl, htrades, hfees, hentries, rfl⟩ := hp
  obtain ⟨rfl, rfl, horders', rfl, htrades', hfees', hentries', rfl⟩ := hq
  refine { users := ?_, wallets := ?_, markets := rfl, orders := ?_, verifications := ?_, outbox := rfl, trades := ?_
           fees := ?_, ledger := ?_, nextVerificationId := rfl, nextOutboxId := rfl }
  · exact Table.insertAll_comm fun u hu v hv => (hapart.users v hv u hu).symm
  · exact Table.insertAll_comm fun u hu v hv => (hapart.wallets v hv u hu).symm
  · have hkey : ∀ o : Order, Keyed.key o.unstamped = Keyed.key o := fun _ => rfl
    calc ((t.orders.insertAll q.orders).insertAll orders).rows.map Order.unstamped
        = ((t.orders.insertAll q.orders).insertAll p.orders).rows.map Order.unstamped :=
          Table.map_insertAll hkey rfl horders
      _ = ((t.orders.insertAll p.orders).insertAll q.orders).rows.map Order.unstamped := by
          rw [Table.insertAll_comm hapart.orders]
      _ = ((t.orders.insertAll p.orders).insertAll orders').rows.map Order.unstamped :=
          (Table.map_insertAll hkey rfl horders').symm
  · exact Table.insertAll_comm fun u hu v hv => (hapart.verifications v hv u hu).symm
  · exact regrown_append htrades htrades'
  · exact regrown_append hfees hfees'
  -- An entry that one patch moves was there before, so it is not among those that the other one adds.
  · show Regrown _ t.ledger.length
      (moved q.move? (moved p.move? t.ledger ++ p.entries) ++ entries')
      (moved p.move? (moved q.move? t.ledger ++ q.entries) ++ entries)
    rw [moved_append (by rwa [map_id_moved]), moved_append (by rwa [map_id_moved]), moved_comm hapart.move?]
    have hlength : t.ledger.length = (moved p.move? (moved q.move? t.ledger)).length := by
      rw [length_moved, length_moved]
    rw [hlength]
    exact regrown_append hentries hentries'

end Tables
end Clearing
