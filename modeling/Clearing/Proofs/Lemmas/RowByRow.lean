import Clearing.Proofs.Lemmas.Table
import Mathlib.Data.List.Forall2

/-!
# Tables row by row

Two tables whose rows correspond to each other one by one, in order and under the same keys. Lookups find
corresponding rows, and writing corresponding rows keeps the correspondence.
-/

namespace Clearing

theorem forall₂_find? {α : Type} {R : α → α → Prop} {rows rows' : List α} {condition condition' : α → Bool}
    (h : List.Forall₂ R rows rows') (hcondition : ∀ r r', R r r' → condition' r' = condition r) :
    Option.Rel R (rows.find? condition) (rows'.find? condition') := by
  induction h with
  | nil => exact .none
  | @cons r r' rest rest' hr hrest ih =>
      rw [List.find?_cons, List.find?_cons, hcondition r r' hr]
      cases condition r with
      | true => exact .some hr
      | false => exact ih

theorem map_eq_of_forall₂ {α β : Type} {R : α → α → Prop} {f : α → β} {rows rows' : List α}
    (h : List.Forall₂ R rows rows') (hf : ∀ r r', R r r' → f r' = f r) : rows'.map f = rows.map f := by
  induction h with
  | nil => rfl
  | cons hr hrest ih => rw [List.map_cons, List.map_cons, hf _ _ hr, ih]

namespace Table

variable {ρ : Type} [Keyed ρ]

/-- The rows of two tables correspond to each other, in order. -/
def RowByRow (R : ρ → ρ → Prop) (t t' : Table ρ) : Prop := List.Forall₂ R t.rows t'.rows

/-- Rows that correspond to each other have the same key. -/
def SameKey (R : ρ → ρ → Prop) : Prop := ∀ r r', R r r' → Keyed.key r' = Keyed.key r

variable {R : ρ → ρ → Prop} {t t' : Table ρ} {r r' x : ρ}

theorem RowByRow.refl (hrefl : ∀ r, R r r) (t : Table ρ) : t.RowByRow R t :=
  List.forall₂_same.mpr fun r _ => hrefl r

theorem rowByRow_of_map_eq {β : Type} {f : ρ → β} (h : t'.rows.map f = t.rows.map f) :
    t.RowByRow (fun r r' => f r' = f r) t' := by
  have heq : List.Forall₂ (· = ·) (t.rows.map f) (t'.rows.map f) := List.forall₂_eq_eq_eq ▸ h.symm
  rw [List.forall₂_map_left_iff, List.forall₂_map_right_iff] at heq
  exact heq.imp fun _ _ hr => hr.symm

/-! ## Rows found -/

theorem RowByRow.find? {condition condition' : ρ → Bool} (h : t.RowByRow R t')
    (hcondition : ∀ r r', R r r' → condition' r' = condition r) :
    Option.Rel R (t.find? condition) (t'.find? condition') := forall₂_find? h hcondition

theorem RowByRow.get? (h : t.RowByRow R t') (hkey : SameKey R) (key : Int) :
    Option.Rel R (t.get? key) (t'.get? key) :=
  forall₂_find? h fun r r' hr => by rw [hkey r r' hr]

theorem RowByRow.map_eq {β : Type} {f : ρ → β} (h : t.RowByRow R t') (hf : ∀ r r', R r r' → f r' = f r) :
    t'.rows.map f = t.rows.map f := map_eq_of_forall₂ h hf

theorem RowByRow.forall_key {P : Int → Prop} (h : t.RowByRow R t') (hkey : SameKey R)
    (hP : ∀ r ∈ t.rows, P (Keyed.key r)) : ∀ r ∈ t'.rows, P (Keyed.key r) := by
  intro r hr
  have hmem : Keyed.key r ∈ t'.rows.map Keyed.key := List.mem_map_of_mem hr
  rw [h.map_eq hkey] at hmem
  obtain ⟨x, hx, hk⟩ := List.mem_map.mp hmem
  exact hk ▸ hP x hx

/-! ## Rows written -/

theorem forall₂_insertRow {rows rows' : List ρ} (h : List.Forall₂ R rows rows') (hkey : SameKey R) (hr : R r r') :
    List.Forall₂ R (insertRow r rows) (insertRow r' rows') := by
  induction h with
  | nil => exact .cons hr .nil
  | cons hx hrest ih =>
      rw [insertRow, insertRow, hkey _ _ hr, hkey _ _ hx]
      split
      · exact .cons hr (.cons hx hrest)
      · split
        · exact .cons hr hrest
        · exact .cons hx ih

theorem RowByRow.insert (h : t.RowByRow R t') (hkey : SameKey R) (hr : R r r') :
    (t.insert r).RowByRow R (t'.insert r') := forall₂_insertRow h hkey hr

theorem forall₂_insertRow_right {rows rows' : List ρ} (h : List.Forall₂ R rows rows') (hkey : SameKey R)
    (hsorted : rows.Pairwise fun a b => Keyed.key a < Keyed.key b) (hx : x ∈ rows) (hr : R x r) :
    List.Forall₂ R rows (insertRow r rows') := by
  induction h with
  | nil => cases hx
  | @cons y y' rest rest' hy hrest ih =>
      obtain ⟨hlt, hsorted⟩ := List.pairwise_cons.mp hsorted
      have hyk := hkey y y' hy
      have hrk := hkey x r hr
      rcases List.mem_cons.mp hx with rfl | hmem
      · rw [insertRow, if_neg (by omega), if_pos (by omega)]
        exact .cons hr hrest
      · have hyx := hlt x hmem
        rw [insertRow, if_neg (by omega), if_neg (by omega)]
        exact .cons hy (ih hsorted hmem)

theorem RowByRow.write (h : t.RowByRow R t') (hkey : SameKey R) (hx : x ∈ t.rows) (hr : R x r) :
    t.RowByRow R (t'.insert r) := forall₂_insertRow_right h hkey t.sorted hx hr

/-! ## Rows added -/

/-- This row has been added, and the others are as they were. -/
def Gains (t : Table ρ) (r : ρ) (t' : Table ρ) : Prop :=
  ∃ before after, t.rows = before ++ after ∧ t'.rows = before ++ r :: after

theorem insertRow_of_new {rows : List ρ} (h : ∀ x ∈ rows, Keyed.key x ≠ Keyed.key r) :
    ∃ before after, rows = before ++ after ∧ insertRow r rows = before ++ r :: after := by
  induction rows with
  | nil => exact ⟨[], [], rfl, rfl⟩
  | cons s rest ih =>
      by_cases hlt : Keyed.key r < Keyed.key s
      · rw [insertRow, if_pos hlt]
        exact ⟨[], s :: rest, rfl, rfl⟩
      · obtain ⟨before, after, hrest, hinsert⟩ := ih fun x hx => h x (List.mem_cons_of_mem _ hx)
        rw [insertRow, if_neg hlt, if_neg (h s (List.mem_cons_self ..)).symm, hinsert, hrest]
        exact ⟨s :: before, after, rfl, rfl⟩

theorem gains_insert (h : t.get? (Keyed.key r) = none) : t.Gains r (t.insert r) := by
  apply insertRow_of_new
  intro x hx
  simpa using List.find?_eq_none.mp h x hx

theorem Gains.sublist (h : t.Gains r t') : t.rows.Sublist t'.rows := by
  obtain ⟨before, after, hrows, hrows'⟩ := h
  rw [hrows, hrows']
  exact (List.Sublist.refl before).append (List.sublist_cons_self ..)

theorem Gains.mem (h : t.Gains r t') (hx : x ∈ t'.rows) : x = r ∨ x ∈ t.rows := by
  obtain ⟨before, after, hrows, hrows'⟩ := h
  rw [hrows', List.mem_append, List.mem_cons] at hx
  rw [hrows, List.mem_append]
  tauto

end Table
end Clearing
