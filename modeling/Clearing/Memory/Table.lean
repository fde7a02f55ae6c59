/-!
# Tables

A table lists its rows in ascending order of their keys, one row a key. Writing a row puts it in the place of
the row with its key, or between its neighbours; no row is ever removed.
-/

namespace Clearing

/-- Rows that a whole number tells apart. -/
class Keyed (ρ : Type) where
  /-- The key of a row. -/
  key : ρ → Int

/-- Rows in ascending order of their keys. -/
structure Table (ρ : Type) [Keyed ρ] where
  rows : List ρ
  sorted : rows.Pairwise fun a b => Keyed.key a < Keyed.key b

namespace Table

variable {ρ : Type} [Keyed ρ]

/-- The table without rows. -/
def empty : Table ρ where
  rows := []
  sorted := .nil

instance : Inhabited (Table ρ) := ⟨empty⟩

/-- Writes a row into a sorted list of rows. -/
def insertRow (r : ρ) : List ρ → List ρ
  | [] => [r]
  | s :: rest =>
    if Keyed.key r < Keyed.key s then r :: s :: rest
    else if Keyed.key r = Keyed.key s then r :: rest
    else s :: insertRow r rest

theorem mem_of_mem_insertRow {r x : ρ} {rows : List ρ} :
    x ∈ insertRow r rows → x = r ∨ x ∈ rows := by
  induction rows with
  | nil => simp [insertRow]
  | cons s rest ih =>
    unfold insertRow
    split
    · simp
    · split
      · simp only [List.mem_cons]
        rintro (h | h)
        · exact .inl h
        · exact .inr (.inr h)
      · simp only [List.mem_cons]
        rintro (h | h)
        · exact .inr (.inl h)
        · exact (ih h).imp_right .inr

theorem pairwise_insertRow (r : ρ) {rows : List ρ}
    (h : rows.Pairwise fun a b => Keyed.key a < Keyed.key b) :
    (insertRow r rows).Pairwise fun a b => Keyed.key a < Keyed.key b := by
  induction rows with
  | nil => simp [insertRow]
  | cons s rest ih =>
    obtain ⟨hs, hrest⟩ := List.pairwise_cons.1 h
    unfold insertRow
    split
    next hlt =>
      refine List.pairwise_cons.2 ⟨fun x hx => ?_, h⟩
      rcases List.mem_cons.1 hx with rfl | hx
      · exact hlt
      · exact Int.lt_trans hlt (hs x hx)
    next hlt =>
      split
      next heq => exact List.pairwise_cons.2 ⟨fun x hx => heq ▸ hs x hx, hrest⟩
      next hne =>
        refine List.pairwise_cons.2 ⟨fun x hx => ?_, ih hrest⟩
        rcases mem_of_mem_insertRow hx with rfl | hx
        · omega
        · exact hs x hx

/-- Writes a row: in place of the row with its key, or as a new row. -/
def insert (t : Table ρ) (r : ρ) : Table ρ where
  rows := insertRow r t.rows
  sorted := pairwise_insertRow r t.sorted

/-- The row with this key. -/
def get? (t : Table ρ) (key : Int) : Option ρ := t.rows.find? (Keyed.key · == key)

theorem find?_insertRow (r : ρ) (key : Int) (rows : List ρ) :
    (insertRow r rows).find? (Keyed.key · == key)
      = if Keyed.key r = key then some r else rows.find? (Keyed.key · == key) := by
  induction rows with
  | nil =>
    by_cases h : Keyed.key r = key
    · simp [insertRow, h]
    · simp [insertRow, List.find?_cons_of_neg, h]
  | cons s rest ih =>
    unfold insertRow
    split
    · by_cases h : Keyed.key r = key
      · simp [h]
      · simp [List.find?_cons_of_neg, h]
    · split
      next heq =>
        by_cases h : Keyed.key r = key
        · simp [h]
        · simp [List.find?_cons_of_neg, h, ← heq]
      next hne =>
        by_cases h : Keyed.key s = key
        · simp [h, show ¬ Keyed.key r = key from fun hr => hne (hr.trans h.symm)]
        · simp [List.find?_cons_of_neg, h, ih]

/-- Writing a row changes what is found under its key, and under no other. -/
theorem get?_insert (t : Table ρ) (r : ρ) (key : Int) :
    (t.insert r).get? key = if Keyed.key r = key then some r else t.get? key :=
  find?_insertRow r key t.rows

/-- The row of smallest key that fulfils a condition. -/
def find? (t : Table ρ) (condition : ρ → Bool) : Option ρ := t.rows.find? condition

/-- The rows that fulfil a condition, in order. -/
def filter (t : Table ρ) (condition : ρ → Bool) : List ρ := t.rows.filter condition

end Table
end Clearing
