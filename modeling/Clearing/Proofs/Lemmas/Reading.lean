import Clearing.Decimal.Text
import Clearing.Proofs.Lemmas.Rounding

/-!
# Amounts that are read

An amount that is read from text has at most 28 fraction digits, in the plain form as well as with an exponent.
-/

namespace Clearing.Decimal

variable {cs : List Char} {a b : Decimal}

/-! ## The plain form -/

theorem scale_roundOff_le {coeff scale m s : Nat} {dropped : Char}
    (h : roundOff coeff scale dropped cs = some (m, s)) : s ≤ scale := by
  rw [roundOff] at h
  split at h
  · cases h
  · split at h
    · cases h
      exact le_rfl
    · split at h
      · cases h
        exact le_rfl
      · split at h
        · cases h
        · cases h
          exact Nat.sub_le ..

theorem scale_scanBeyond_le {coeff scale m s : Nat} (h : scanBeyond coeff scale cs = some (m, s)) : s ≤ scale := by
  induction cs with
  | nil =>
      cases h
      exact le_rfl
  | cons c rest ih =>
      rw [scanBeyond] at h
      split at h
      · exact ih h
      · split at h
        · exact scale_roundOff_le h
        · cases h

theorem scale_scanEnd_le {wide : Bool} {coeff scale m s : Nat}
    (h : scanEnd wide coeff scale cs = some (m, s)) : s ≤ scale := by
  rw [scanEnd] at h
  split at h
  · split at h
    · cases h
      exact le_rfl
    · cases h
  · exact scale_scanBeyond_le h

/-- The last place ends the reading, so that the scale never passes it. -/
theorem scale_scan_le {coeff scale m s : Nat} {point digit : Bool}
    (h : scan coeff scale point digit cs = some (m, s)) (hs : scale < maxScale) : s ≤ maxScale := by
  induction cs generalizing coeff scale point digit with
  | nil =>
      rw [scan] at h
      split at h
      · cases h
        exact hs.le
      · cases h
  | cons c rest ih =>
      simp only [scan] at h
      split at h
      · split at h
        · split at h
          · exact (scale_roundOff_le h).trans hs.le
          · split at h
            · next hnext => exact ih h hnext
            · exact (scale_scanEnd_le h).trans hs
        · split at h
          · exact ih h hs
          · cases h
      · split at h
        · split at h
          · cases h
          · exact ih h hs
        · split at h
          · exact ih h hs
          · cases h

theorem scale_readPlain?_le (h : readPlain? cs = some a) : a.scale ≤ maxScale := by
  rw [readPlain?] at h
  obtain ⟨⟨m, s⟩, hscan, hnarrow⟩ := Option.bind_eq_some_iff.mp h
  rw [(narrow_eq_some hnarrow).2]
  exact scale_scan_le hscan (by decide)

/-! ## Exponents -/

theorem scale_of_ofParts? {negative : Bool} {m s : Nat} (h : ofParts? negative m s = some a) : a.scale = s := by
  rw [ofParts?] at h
  split at h
  · cases h
    rfl
  · cases h

theorem scale_shiftRight?_le {k : Nat} (h : a.shiftRight? k = some b) : b.scale ≤ maxScale := by
  rw [shiftRight?] at h
  split at h
  · cases h
  · split at h
    · next hfits => exact (scale_of_ofParts? h).trans_le hfits
    · obtain ⟨c, -, hc⟩ := Option.bind_eq_some_iff.mp h
      exact (scale_of_ofParts? hc).le

theorem scale_trimZeros_le (m s : Nat) : (trimZeros m s).2 ≤ s := by
  induction s generalizing m with
  | zero => exact le_rfl
  | succ s ih =>
      rw [trimZeros]
      split
      · exact (ih _).trans (Nat.le_succ s)
      · exact le_rfl

theorem scale_trimmed?_le (h : a.trimmed? = some b) : b.scale ≤ a.scale := by
  rw [(narrow_eq_some h).2]
  exact scale_trimZeros_le ..

theorem scale_raise?_le {k : Nat} (h : a.raise? k = some b) : b.scale ≤ maxScale := by
  have hlast : ∀ (c : Decimal) (left : Nat),
      ((powerOfTen? left).bind fun power => (c.mul? power).bind trimmed?) = some b → b.scale ≤ maxScale := by
    intro c left h
    obtain ⟨power, -, h⟩ := Option.bind_eq_some_iff.mp h
    obtain ⟨d, hproduct, htrimmed⟩ := Option.bind_eq_some_iff.mp h
    exact (scale_trimmed?_le htrimmed).trans (scale_mul?_le hproduct)
  rw [raise?] at h
  obtain ⟨step, -, h⟩ := Option.bind_eq_some_iff.mp h
  dsimp only at h
  split at h
  · obtain ⟨⟨c, left⟩, -, h⟩ := Option.bind_eq_some_iff.mp h
    exact hlast c left h
  · exact hlast a k h

theorem scale_shiftLeft?_le {k : Nat} (h : a.shiftLeft? k = some b) (ha : a.scale ≤ maxScale) :
    b.scale ≤ maxScale := by
  rw [shiftLeft?] at h
  split at h
  · rw [scale_of_ofParts? h]
    exact (Nat.sub_le ..).trans ha
  · split at h
    · cases h
    · exact scale_raise?_le h

theorem scale_readScientific?_le (h : readScientific? cs = some a) : a.scale ≤ maxScale := by
  rw [readScientific?] at h
  obtain ⟨base, hbase, h⟩ := Option.bind_eq_some_iff.mp h
  split at h
  · cases h
  · obtain ⟨k, -, hk⟩ := Option.bind_eq_some_iff.mp h
    exact scale_shiftRight?_le hk
  · obtain ⟨k, -, hk⟩ := Option.bind_eq_some_iff.mp h
    exact scale_shiftLeft?_le hk (scale_readPlain?_le hbase)

theorem scale_ofText?_le {text : String} (h : ofText? text = some a) : a.scale ≤ maxScale := by
  rw [ofText?, ofChars?, Option.or_eq_some_iff] at h
  rcases h with h | ⟨-, h⟩
  · exact scale_readPlain?_le h
  · exact scale_readScientific?_le h

end Clearing.Decimal
