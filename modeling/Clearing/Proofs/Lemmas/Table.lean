import Clearing.Memory.Tables
import Mathlib.Algebra.BigOperators.Group.List.Basic
import Mathlib.Algebra.Order.Ring.Rat
import Mathlib.Data.List.Nodup
import Mathlib.Tactic.Abel

/-!
# Rows found, rows written

A row is found under its key, and writing a row changes a sum over the rows by what the new row counts and what
the row in its place has counted.
-/

namespace Clearing

namespace Table

variable {ρ : Type} [Keyed ρ] {t : Table ρ} {r x : ρ}

/-! ## Finding rows -/

theorem mem_of_get? {key : Int} (h : t.get? key = some r) : r ∈ t.rows ∧ Keyed.key r = key :=
  ⟨List.mem_of_find?_eq_some h, by simpa using List.find?_some h⟩

theorem mem_of_find? {condition : ρ → Bool} (h : t.find? condition = some r) :
    r ∈ t.rows ∧ condition r = true :=
  ⟨List.mem_of_find?_eq_some h, List.find?_some h⟩

theorem eq_of_key_eq (hr : r ∈ t.rows) (hx : x ∈ t.rows) (h : Keyed.key r = Keyed.key x) : r = x := by
  have hnodup : (t.rows.map Keyed.key).Nodup :=
    List.pairwise_map.mpr (t.sorted.imp fun hlt => hlt.ne)
  exact List.inj_on_of_nodup_map hnodup hr hx h

theorem get?_of_mem (h : r ∈ t.rows) : t.get? (Keyed.key r) = some r := by
  cases hf : t.get? (Keyed.key r) with
  | none => exact absurd (List.find?_eq_none.mp hf r h) (by simp)
  | some x =>
      obtain ⟨hx, hk⟩ := mem_of_get? hf
      rw [eq_of_key_eq hx h hk]

theorem get?_eq_some_iff {key : Int} : t.get? key = some r ↔ r ∈ t.rows ∧ Keyed.key r = key := by
  constructor
  · exact mem_of_get?
  · rintro ⟨hmem, rfl⟩
    exact get?_of_mem hmem

theorem get?_eq_none {key : Int} (h : ∀ x ∈ t.rows, Keyed.key x ≠ key) : t.get? key = none := by
  cases hf : t.get? key with
  | none => rfl
  | some x =>
      obtain ⟨hx, hk⟩ := mem_of_get? hf
      exact absurd hk (h x hx)

/-- Among rows that fulfil a condition one is found under a key if the row under that key fulfils it. -/
theorem find?_key_and {key : Int} {condition : ρ → Bool} :
    t.rows.find? (fun r => Keyed.key r == key && condition r) = (t.get? key).filter condition := by
  cases hget : t.get? key with
  | none =>
      refine List.find?_eq_none.mpr fun x hx => ?_
      have hne := List.find?_eq_none.mp hget x hx
      simp [hne]
  | some r =>
      obtain ⟨hr, rfl⟩ := mem_of_get? hget
      cases hcondition : condition r with
      | true =>
          rw [Option.filter_some_pos hcondition]
          cases hfind : t.rows.find? fun x => Keyed.key x == Keyed.key r && condition x with
          | none =>
              have hnot := List.find?_eq_none.mp hfind r hr
              simp [hcondition] at hnot
          | some x =>
              obtain ⟨hx, hboth⟩ := mem_of_find? hfind
              rw [eq_of_key_eq hx hr (beq_iff_eq.mp (Bool.and_eq_true_iff.mp hboth).1)]
      | false =>
          rw [Option.filter_some_neg hcondition]
          refine List.find?_eq_none.mpr fun x hx hboth => ?_
          obtain ⟨hkey, hx'⟩ := Bool.and_eq_true_iff.mp hboth
          rw [eq_of_key_eq hx hr (beq_iff_eq.mp hkey), hcondition] at hx'
          cases hx'

/-! ## Writing rows -/

theorem get?_insert_self : (t.insert r).get? (Keyed.key r) = some r := by
  rw [get?_insert, if_pos rfl]

theorem mem_insert_iff : x ∈ (t.insert r).rows ↔ x = r ∨ x ∈ t.rows ∧ Keyed.key x ≠ Keyed.key r := by
  constructor
  · intro hx
    by_cases hk : Keyed.key r = Keyed.key x
    · have hget := get?_of_mem hx
      rw [get?_insert, if_pos hk] at hget
      exact .inl (Option.some.inj hget).symm
    · rcases mem_of_mem_insertRow hx with rfl | hmem
      · exact .inl rfl
      · exact .inr ⟨hmem, Ne.symm hk⟩
  · rintro (rfl | ⟨hmem, hk⟩)
    · exact (mem_of_get? get?_insert_self).1
    · have hget : (t.insert r).get? (Keyed.key x) = some x := by
        rw [get?_insert, if_neg hk.symm, get?_of_mem hmem]
      exact (mem_of_get? hget).1

theorem mem_insert_self : r ∈ (t.insert r).rows := mem_insert_iff.mpr (.inl rfl)

theorem mem_insert_of_ne (hx : x ∈ t.rows) (h : Keyed.key x ≠ Keyed.key r) : x ∈ (t.insert r).rows :=
  mem_insert_iff.mpr (.inr ⟨hx, h⟩)

/-- A row outlives the writing of another one in the place of `r`, unless it is `r` itself. -/
theorem eq_or_mem_insert (r' : ρ) (hx : x ∈ t.rows) (hr : r ∈ t.rows) (hkey : Keyed.key r' = Keyed.key r) :
    x = r ∨ x ∈ (t.insert r').rows := by
  by_cases h : Keyed.key x = Keyed.key r
  · exact .inl (eq_of_key_eq hx hr h)
  · exact .inr (mem_insert_of_ne hx fun heq => h (heq.trans hkey))

theorem forall_mem_insert {P : ρ → Prop} (hr : P r) (h : ∀ x ∈ t.rows, P x) : ∀ x ∈ (t.insert r).rows, P x := by
  intro x hx
  rcases mem_insert_iff.mp hx with rfl | ⟨hx, -⟩
  · exact hr
  · exact h x hx

theorem insertRow_insertRow (rows : List ρ) : insertRow r (insertRow r rows) = insertRow r rows := by
  induction rows with
  | nil => simp [insertRow]
  | cons s rest ih =>
      by_cases hlt : Keyed.key r < Keyed.key s
      · simp [insertRow, hlt]
      · by_cases heq : Keyed.key r = Keyed.key s
        · simp [insertRow, heq]
        · simp [insertRow, hlt, heq, ih]

/-- Writing a row again changes nothing. -/
theorem insert_insert : (t.insert r).insert r = t.insert r := by
  simp only [insert, insertRow_insertRow]

theorem insertRow_of_lt {rows : List ρ} (h : ∀ x ∈ rows, Keyed.key x < Keyed.key r) :
    insertRow r rows = rows ++ [r] := by
  induction rows with
  | nil => rfl
  | cons s rest ih =>
      have hs := h s (List.mem_cons_self ..)
      rw [insertRow, if_neg hs.not_gt, if_neg hs.ne', ih fun x hx => h x (List.mem_cons_of_mem _ hx)]
      rfl

/-- A row with a new largest key comes last. -/
theorem rows_insert_of_lt (h : ∀ x ∈ t.rows, Keyed.key x < Keyed.key r) : (t.insert r).rows = t.rows ++ [r] :=
  insertRow_of_lt h

theorem map_insertRow {β : Type} {f : ρ → β} {rows : List ρ}
    (hsorted : rows.Pairwise fun a b => Keyed.key a < Keyed.key b) (hx : x ∈ rows)
    (hkey : Keyed.key r = Keyed.key x) (hf : f r = f x) : (insertRow r rows).map f = rows.map f := by
  induction rows with
  | nil => cases hx
  | cons s rest ih =>
      obtain ⟨hs, hrest⟩ := List.pairwise_cons.mp hsorted
      rcases List.mem_cons.mp hx with rfl | hmem
      · rw [insertRow, if_neg (by omega), if_pos hkey, List.map_cons, List.map_cons, hf]
      · have hlt := hs x hmem
        rw [insertRow, if_neg (by omega), if_neg (by omega), List.map_cons, List.map_cons, ih hrest hmem]

/-- What the new row has in common with the row in whose place it is written, no row loses. -/
theorem map_rows_insert {β : Type} {f : ρ → β} (hx : x ∈ t.rows) (hkey : Keyed.key r = Keyed.key x)
    (hf : f r = f x) : (t.insert r).rows.map f = t.rows.map f :=
  map_insertRow t.sorted hx hkey hf

/-! ## Sums over the rows -/

section Sums

variable {M : Type} [AddCommMonoid M] (f : ρ → M)

theorem sum_insertRow {rows : List ρ}
    (h : rows.Pairwise fun a b => Keyed.key a < Keyed.key b) :
    ((insertRow r rows).map f).sum + (rows.find? (Keyed.key · == Keyed.key r)).elim 0 f
      = (rows.map f).sum + f r := by
  induction rows with
  | nil => simp [insertRow]
  | cons s rest ih =>
      obtain ⟨hs, hrest⟩ := List.pairwise_cons.mp h
      by_cases hlt : Keyed.key r < Keyed.key s
      · -- The new row comes first, and no later row has its key.
        have hnone : (s :: rest).find? (Keyed.key · == Keyed.key r) = none := by
          rw [List.find?_eq_none]
          intro x hx
          rcases List.mem_cons.mp hx with rfl | hx
          · simpa using hlt.ne'
          · simpa using (hlt.trans (hs x hx)).ne'
        simp only [hnone, insertRow, hlt, ↓reduceIte, List.map_cons, List.sum_cons, Option.elim_none, add_zero]
        exact add_comm _ _
      · by_cases heq : Keyed.key r = Keyed.key s
        · simp only [insertRow, heq, lt_irrefl, ↓reduceIte, List.map_cons, List.sum_cons, beq_self_eq_true,
            List.find?_cons_of_pos, Option.elim_some]
          abel
        · have hne : ¬ Keyed.key s = Keyed.key r := fun hk => heq hk.symm
          have hstep : (s :: rest).find? (Keyed.key · == Keyed.key r)
              = rest.find? (Keyed.key · == Keyed.key r) := by
            rw [List.find?_cons_of_neg (by simpa using hne)]
          simp only [hstep, insertRow, hlt, heq, ↓reduceIte, List.map_cons, List.sum_cons]
          rw [add_assoc, ih hrest, add_assoc]

/-- A row counts in place of the row with its key. -/
theorem sum_insert :
    ((t.insert r).rows.map f).sum + (t.get? (Keyed.key r)).elim 0 f = (t.rows.map f).sum + f r :=
  sum_insertRow f t.sorted

end Sums

end Table

/-! ## Rows by their identifiers -/

theorem Uuid.value_cast_inj {a b : Uuid} : ((a.value : Int) = b.value) ↔ a = b := by
  obtain ⟨m, hm⟩ := a
  obtain ⟨n, hn⟩ := b
  simp only [Uuid.mk.injEq, Int.natCast_inj]

namespace Tables

variable {t : Tables}

theorem order?_eq_some {id : Uuid} {o : Order} : t.order? id = some o ↔ o ∈ t.orders.rows ∧ o.id = id :=
  Table.get?_eq_some_iff.trans (and_congr_right' Uuid.value_cast_inj)

theorem wallet?_eq_some {id : Uuid} {w : Wallet} :
    t.wallet? id = some w ↔ w ∈ t.wallets.rows ∧ w.id = id :=
  Table.get?_eq_some_iff.trans (and_congr_right' Uuid.value_cast_inj)

theorem walletOf?_eq_some {userId : Uuid} {currency : String} {w : Wallet}
    (h : t.walletOf? userId currency = some w) :
    w ∈ t.wallets.rows ∧ w.userId = userId ∧ w.currency = currency := by
  obtain ⟨hmem, hc⟩ := Table.mem_of_find? h
  exact ⟨hmem, by simpa using hc⟩

theorem order?_putOrder {o : Order} {id : Uuid} :
    (t.putOrder o).order? id = if o.id = id then some o else t.order? id := by
  rw [order?, putOrder, Table.get?_insert]
  exact if_congr Uuid.value_cast_inj rfl rfl

theorem market?_putMarket {m : Market} {id : Uuid} :
    (t.putMarket m).market? id = if m.id = id then some m else t.market? id := by
  rw [market?, putMarket, Table.get?_insert]
  exact if_congr Uuid.value_cast_inj rfl rfl

theorem wallet?_putWallet {w : Wallet} {id : Uuid} :
    (t.putWallet w).wallet? id = if w.id = id then some w else t.wallet? id := by
  rw [wallet?, putWallet, Table.get?_insert]
  exact if_congr Uuid.value_cast_inj rfl rfl

theorem outboxRow?_putOutbox {m : OutboxMessage} {id : Int} :
    (t.putOutbox m).outboxRow? id = if m.id = id then some m else t.outboxRow? id :=
  Table.get?_insert ..

theorem putWallet_putWallet {w : Wallet} : (t.putWallet w).putWallet w = t.putWallet w := by
  simp only [putWallet, Table.insert_insert]

end Tables
end Clearing
