import Clearing.Proofs.Lemmas.Rounding

/-!
# The sign of a difference

The difference of two amounts that are not negative is always in range. Rounding may change it, but not whether it
is negative, at any scale.
-/

namespace Clearing.Decimal

/-- From the 29th on fraction digits are zeros, so an amount stands for the same number without them. -/
theorem exists_short (a : Decimal) : ∃ d : Decimal, d.scale = min a.scale maxScale ∧ d.value = a.value := by
  rcases Nat.le_total a.scale maxScale with hle | hge
  · exact ⟨a, (min_eq_left hle).symm, rfl⟩
  · obtain ⟨q, hq⟩ := a.dvd_coeff
    rw [Nat.pow_eq] at hq
    have hlt : q < coeffBound := by
      refine lt_of_le_of_lt ?_ a.coeff_lt
      rw [hq]
      exact Nat.le_mul_of_pos_left q (by positivity)
    obtain ⟨d, -, -, hscale, hvalue⟩ := narrow_eq a.negative hlt le_rfl
    refine ⟨d, hscale.trans (min_eq_right hge).symm, ?_⟩
    have hp : (10 : ℚ) ^ a.scale = 10 ^ maxScale * 10 ^ (a.scale - maxScale) := by
      rw [← pow_add, Nat.add_sub_cancel' hge]
    rw [hvalue, value, signed_eq_signedBy, hq, Nat.mul_comm, signedBy_mul, hp]
    push_cast
    field_simp

/-- An amount at a larger scale ends with zeros behind the 28th place. -/
theorem dvd_alignedTo (a : Decimal) {s : Nat} (h : a.scale ≤ s) : (10 : ℤ) ^ (s - maxScale) ∣ a.alignedTo s := by
  have hcoeff : (10 : ℤ) ^ (a.scale - maxScale) ∣ a.signed := by
    rw [← Int.dvd_natAbs, natAbs_signed]
    exact_mod_cast a.dvd_coeff
  have hpow : (10 : ℤ) ^ (s - maxScale) ∣ 10 ^ (a.scale - maxScale) * 10 ^ (s - a.scale) := by
    rw [← pow_add]
    exact pow_dvd_pow 10 (by omega)
  rw [alignedTo, Nat.pow_eq]
  push_cast
  exact hpow.trans (mul_dvd_mul_right hcoeff _)

/-! ## What rounding leaves of a number that is not zero -/

theorem le_half_of_roundHalfEven {m d : Nat} (h : roundHalfEven m d = 0) : 2 * m ≤ 10 ^ d := by
  have hm := Nat.div_add_mod m (10 ^ d)
  simp only [roundHalfEven, Nat.pow_eq] at h
  split at h
  · rw [h, Nat.mul_zero, Nat.zero_add] at hm
    omega
  · split at h
    · cases h
    · rw [(Nat.add_eq_zero_iff.mp h).1, Nat.mul_zero, Nat.zero_add] at hm
      omega

/-- A coefficient that is too large still has a digit once its last one is rounded away. -/
theorem roundHalfEven_succ_ne_zero {m d : Nat} (h : coeffBound ≤ roundHalfEven m d) : roundHalfEven m (d + 1) ≠ 0 := by
  intro hzero
  have hm := le_half_of_roundHalfEven hzero
  have hle : roundHalfEven m d ≤ 5 := by
    apply roundHalfEven_le
    rw [pow_succ] at hm
    omega
  exact absurd (h.trans hle) (by decide)

/-- Fitting a number that is not zero at the first scale does not give zero. -/
theorem coeff_ne_zero_of_fitFrom {negative : Bool} {m s t : Nat} {c : Decimal} (ht : t ≤ maxScale)
    (hts : t ≤ s) (hm : roundHalfEven m (s - t) ≠ 0) (h : fitFrom negative m s t = some c) : c.value ≠ 0 := by
  have hnarrow : ∀ {k : Nat}, k ≤ maxScale → roundHalfEven m (s - k) ≠ 0 →
      narrow negative (roundHalfEven m (s - k)) k = some c → c.value ≠ 0 := by
    intro k hk hround hc
    obtain ⟨c', hc', hcoeff, -, -⟩ := narrow_eq negative (narrow_eq_some hc).1 hk
    obtain rfl : c' = c := Option.some.inj (hc'.symm.trans hc)
    rw [Ne, ← isZero_iff_value, isZero, hcoeff, beq_iff_eq]
    exact hround
  induction t with
  | zero => exact hnarrow ht hm h
  | succ t ih =>
      rw [fitFrom, Option.or_eq_some_iff] at h
      rcases h with h | ⟨hnone, h⟩
      · exact hnarrow ht hm h
      · refine ih (by omega) (by omega) ?_ h
        rw [show s - t = s - (t + 1) + 1 by omega]
        apply roundHalfEven_succ_ne_zero
        by_contra hlt
        obtain ⟨c', hc', -⟩ := narrow_eq negative (not_le.mp hlt) ht
        cases hnone.symm.trans hc'

/-! ## The sign -/

/-- Fitting a number that is smaller than some amount, and has only zeros behind the 28th place, keeps its sign. -/
theorem fitSigned_sign {z : ℤ} {s : Nat} {d : Decimal} (hd : d.scale ≤ s) (hz : (z.natAbs : ℚ) / 10 ^ s ≤ d.value)
    (hdvd : (10 : ℤ) ^ (s - maxScale) ∣ z) : ∃ c, fitSigned z s = some c ∧ (0 ≤ c.value ↔ 0 ≤ z) := by
  obtain ⟨d', hscale, hvalue⟩ := d.exists_short
  rw [← hvalue] at hz
  have hle : d'.scale ≤ min s maxScale := by
    rw [hscale]
    exact min_le_min_right _ hd
  obtain ⟨c, -, -, hc, hcv⟩ := fit_of_le (decide (z < 0)) hle hz
  refine ⟨c, hc, ?_⟩
  by_cases hneg : z < 0
  · rw [iff_false_right (not_le.mpr hneg), not_le]
    have hround : roundHalfEven z.natAbs (s - min s maxScale) ≠ 0 := by
      obtain ⟨q, rfl⟩ := hdvd
      have hexp : s - min s maxScale = s - maxScale := by omega
      rw [Int.natAbs_mul, Int.natAbs_pow, Nat.mul_comm, hexp]
      show roundHalfEven (q.natAbs * 10 ^ (s - maxScale)) (s - maxScale) ≠ 0
      rw [roundHalfEven_mul]
      rintro hq
      rw [Int.natAbs_eq_zero] at hq
      simp [hq] at hneg
    refine lt_of_le_of_ne ?_ (coeff_ne_zero_of_fitFrom (Nat.min_le_right ..) (Nat.min_le_left ..) hround hc)
    rw [hcv, decide_eq_true hneg, signedBy, if_pos rfl]
    push_cast
    rw [neg_div]
    exact neg_nonpos.mpr (by positivity)
  · refine iff_of_true ?_ (not_lt.mp hneg)
    rw [hcv, decide_eq_false hneg, signedBy, if_neg (by decide)]
    positivity

theorem signedBy_nonneg_iff {z : ℤ} (s : Nat) :
    0 ≤ (signedBy (decide (z < 0)) z.natAbs : ℚ) / 10 ^ s ↔ 0 ≤ z := by
  have hp : (0 : ℚ) < 10 ^ s := by positivity
  rw [signedBy_natAbs, le_div_iff₀ hp, zero_mul, Int.cast_nonneg_iff]

/-- The sum of numbers of opposite signs is in range, and is rounded to one of its own sign. -/
theorem sumOver?_sign {x y : ℤ} {s : Nat} {d : Decimal} (hd : d.scale ≤ s)
    (hz : ((x + y).natAbs : ℚ) / 10 ^ s ≤ d.value) (hdvd : (10 : ℤ) ^ (s - maxScale) ∣ x + y) :
    ∃ c, sumOver? x y s = some c ∧ (0 ≤ c.value ↔ 0 ≤ x + y) := by
  rw [sumOver?]
  split
  · exact fitSigned_sign hd hz hdvd
  · next hfits =>
      have hbound : (x + y).natAbs < coeffBound := by omega
      have hkept : ∀ k, 10 ^ (k - maxScale) ∣ (x + y).natAbs →
          ∃ c, narrow (decide (x + y < 0)) (x + y).natAbs k = some c ∧ (0 ≤ c.value ↔ 0 ≤ x + y) := by
        intro k hk
        obtain ⟨c, hc, -, -, hv⟩ := narrow_of_dvd (decide (x + y < 0)) hbound hk
        exact ⟨c, hc, by rw [hv, signedBy_nonneg_iff]⟩
      refine hkept _ ?_
      split
      · rw [← Int.dvd_natAbs] at hdvd
        exact_mod_cast hdvd
      · have hmod : s % (maxScale + 1) ≤ maxScale := Nat.le_of_lt_succ (Nat.mod_lt s (Nat.succ_pos maxScale))
        rw [Nat.sub_eq_zero_of_le hmod]
        exact Nat.one_dvd _

section Sign

variable {a b : Decimal} (ha : 0 ≤ a.value) (hb : 0 ≤ b.value)
include ha hb

theorem sumOver?_aligned_sign {s : Nat} (has : a.scale ≤ s) (hbs : b.scale ≤ s) :
    ∃ c, sumOver? (a.alignedTo s) (-b.alignedTo s) s = some c ∧ (0 ≤ c.value ↔ b.value ≤ a.value) := by
  have hp : (0 : ℚ) < 10 ^ s := by positivity
  have hx := alignedTo_eq a has
  have hy := alignedTo_eq b hbs
  have hdvd := (dvd_alignedTo a has).add ((dvd_alignedTo b hbs).neg_right)
  have hsign : 0 ≤ a.alignedTo s + -b.alignedTo s ↔ b.value ≤ a.value := by
    rw [← sub_eq_add_neg, sub_nonneg, ← Int.cast_le (R := ℚ), hx, hy, mul_le_mul_iff_left₀ hp]
  have hsum : ((a.alignedTo s + -b.alignedTo s : ℤ) : ℚ) / 10 ^ s = a.value - b.value := by
    push_cast
    rw [hx, hy, div_eq_iff hp.ne']
    ring
  rw [← hsign]
  rcases le_total b.value a.value with hle | hle
  · refine sumOver?_sign has ?_ hdvd
    rw [Nat.cast_natAbs, Int.cast_abs, ← abs_of_pos hp, ← abs_div, hsum, abs_of_nonneg (sub_nonneg.mpr hle)]
    linarith
  · refine sumOver?_sign hbs ?_ hdvd
    rw [Nat.cast_natAbs, Int.cast_abs, ← abs_of_pos hp, ← abs_div, hsum, abs_of_nonpos (sub_nonpos.mpr hle)]
    linarith

/-- The difference of amounts that are not negative is in range, and not negative exactly if nothing more is taken
away than there is. -/
theorem sub?_sign : ∃ c, a.sub? b = some c ∧ (0 ≤ c.value ↔ b.value ≤ a.value) := by
  by_cases hza : a.isZero = true
  · have hva := value_of_isZero hza
    by_cases hzb : b.isZero = true
    · have hvb := value_of_isZero hzb
      exact ⟨b, by simp only [sub?, hza, hzb, ↓reduceIte], by rw [hva, hvb]⟩
    · refine ⟨-b, by simp only [sub?, hza, hzb, Bool.false_eq_true, ↓reduceIte], ?_⟩
      rw [value_neg, hva, Left.nonneg_neg_iff]
  · by_cases hzb : b.isZero = true
    · have hvb := value_of_isZero hzb
      exact ⟨a, by simp only [sub?, hza, hzb, Bool.false_eq_true, ↓reduceIte], by rw [hvb]⟩
    · simp only [sub?, hza, hzb, Bool.false_eq_true, ↓reduceIte]
      exact sumOver?_aligned_sign ha hb (le_max_left ..) (le_max_right ..)

end Sign

end Clearing.Decimal
