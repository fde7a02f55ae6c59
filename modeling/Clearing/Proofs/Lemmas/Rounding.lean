import Clearing.Proofs.Lemmas.Decimal

/-!
# Which numbers arithmetic keeps

An amount with at most 28 fraction digits represents its number. Sums, differences and products give a
representable number as it is; any other number is rounded. A product or sum of amounts with few places is
representable as long as it is not too large.
-/

namespace Clearing.Decimal

/-- A number that an amount with at most 28 fraction digits stands for. -/
def Representable (x : ℚ) : Prop := ∃ d : Decimal, d.scale ≤ maxScale ∧ d.value = x

theorem Representable.intro {d : Decimal} (h : d.scale ≤ maxScale) : Representable d.value := ⟨d, h, rfl⟩

theorem Representable.neg {x : ℚ} (h : Representable x) : Representable (-x) := by
  obtain ⟨d, hd, rfl⟩ := h
  exact ⟨-d, hd, value_neg d⟩

/-! ## Rounding a quotient -/

theorem roundHalfEven_mul (q d : Nat) : roundHalfEven (q * 10 ^ d) d = q := by
  have hp : 0 < 10 ^ d := by positivity
  simp only [roundHalfEven, Nat.pow_eq, Nat.mul_mod_left, Nat.mul_div_cancel _ hp, Nat.mul_zero, hp, ↓reduceIte]

/-- Rounding does not pass a whole number. -/
theorem roundHalfEven_le {m d k : Nat} (h : m ≤ k * 10 ^ d) : roundHalfEven m d ≤ k := by
  have hp : 0 < 10 ^ d := by positivity
  have hq : m / 10 ^ d ≤ k := Nat.div_le_of_le_mul (by rwa [Nat.mul_comm])
  rcases hq.lt_or_eq with hlt | heq
  · simp only [roundHalfEven, Nat.pow_eq]
    have := Nat.mod_lt (m / 10 ^ d) (by decide : 0 < 2)
    split
    · omega
    · split <;> omega
  · -- The quotient is already `k`, so nothing is left over.
    have hm := Nat.div_add_mod m (10 ^ d)
    rw [heq, Nat.mul_comm] at hm
    have hr : m % 10 ^ d = 0 := by omega
    simp only [roundHalfEven, Nat.pow_eq, hr, heq, Nat.mul_zero, hp, ↓reduceIte, le_refl]

/-! ## Fitting -/

/-- The amount that `narrow` gives, if the coefficient is in range and ends with zeros behind the 28th place. -/
theorem narrow_of_dvd (negative : Bool) {m s : Nat} (hm : m < coeffBound) (hd : 10 ^ (s - maxScale) ∣ m) :
    ∃ c, narrow negative m s = some c ∧ c.coeff = m ∧ c.scale = s ∧
      c.value = signedBy negative m / 10 ^ s := by
  rw [← Nat.pow_eq] at hd
  refine ⟨⟨negative && m != 0, m, s, hm, hd⟩, ?_, rfl, rfl, ?_⟩
  · simp only [narrow, ofParts?, hm, hd, and_self, ↓reduceDIte]
  · rw [value, signed_eq_signedBy, signedBy_and_ne_zero]

theorem narrow_eq (negative : Bool) {m s : Nat} (hm : m < coeffBound) (hs : s ≤ maxScale) :
    ∃ c, narrow negative m s = some c ∧ c.coeff = m ∧ c.scale = s ∧
      c.value = signedBy negative m / 10 ^ s := by
  refine narrow_of_dvd negative hm ?_
  rw [Nat.sub_eq_zero_of_le hs]
  exact Nat.one_dvd m

/-- The amount `m / 10 ^ s`, or `0` if that is out of range. -/
def ofCoeff (m s : Nat) : Decimal := (narrow false m s).getD zero

theorem value_ofCoeff {m s : Nat} (hm : m < coeffBound) (hs : s ≤ maxScale) :
    (ofCoeff m s).value = m / 10 ^ s := by
  obtain ⟨c, hc, -, -, hv⟩ := narrow_eq false hm hs
  rw [ofCoeff, hc, Option.getD_some, hv]
  rfl

theorem narrow_eq_some {negative : Bool} {m s : Nat} {c : Decimal} (h : narrow negative m s = some c) :
    m < coeffBound ∧ c.scale = s := by
  simp only [narrow, ofParts?] at h
  split at h
  · next hb => cases h; exact ⟨hb.1, rfl⟩
  · cases h

/-- A scale at which the coefficient fits bounds the scale that is chosen from below. -/
theorem fitFrom_eq (negative : Bool) {m s k t : Nat} (hkt : k ≤ t) (ht : t ≤ maxScale)
    (hk : roundHalfEven m (s - k) < coeffBound) :
    ∃ j c, k ≤ j ∧ j ≤ t ∧ fitFrom negative m s t = some c ∧ c.scale = j ∧
      c.value = signedBy negative (roundHalfEven m (s - j)) / 10 ^ j := by
  induction t with
  | zero =>
      obtain rfl : k = 0 := by omega
      obtain ⟨c, hc, -, hs, hv⟩ := narrow_eq negative hk ht
      exact ⟨0, c, le_refl 0, le_refl 0, hc, hs, hv⟩
  | succ t ih =>
      by_cases hfit : roundHalfEven m (s - (t + 1)) < coeffBound
      · obtain ⟨c, hc, -, hs, hv⟩ := narrow_eq negative hfit ht
        exact ⟨t + 1, c, hkt, le_refl _, by rw [fitFrom, hc, Option.some_or], hs, hv⟩
      · have hne : k ≠ t + 1 := by
          rintro rfl
          exact hfit hk
        have hnone : narrow negative (roundHalfEven m (s - (t + 1))) (t + 1) = none := by
          cases h : narrow negative (roundHalfEven m (s - (t + 1))) (t + 1) with
          | none => rfl
          | some c => exact absurd (narrow_eq_some h).1 hfit
        obtain ⟨j, c, hkj, hjt, hc, hs, hv⟩ := ih (by omega) (by omega)
        exact ⟨j, c, hkj, by omega, by rw [fitFrom, hnone, Option.none_or]; exact hc, hs, hv⟩

theorem scale_fitFrom_le {negative : Bool} {m s t : Nat} {c : Decimal}
    (h : fitFrom negative m s t = some c) : c.scale ≤ t := by
  induction t with
  | zero => exact (narrow_eq_some h).2.le
  | succ t ih =>
      rw [fitFrom, Option.or_eq_some_iff] at h
      rcases h with h | ⟨-, h⟩
      · exact (narrow_eq_some h).2.le
      · exact (ih h).trans (Nat.le_succ t)

theorem scale_fit_le {negative : Bool} {m s : Nat} {c : Decimal} (h : fit negative m s = some c) :
    c.scale ≤ maxScale :=
  (scale_fitFrom_le h).trans (Nat.min_le_right ..)

theorem scale_fitSigned_le {m : ℤ} {s : Nat} {c : Decimal} (h : fitSigned m s = some c) :
    c.scale ≤ maxScale :=
  scale_fit_le h

theorem representable_of_natAbs_lt {z : ℤ} {s : Nat} (hz : z.natAbs < coeffBound) (hs : s ≤ maxScale) :
    Representable (z / 10 ^ s) := by
  obtain ⟨c, -, -, hcs, hv⟩ := narrow_eq (decide (z < 0)) hz hs
  rw [signedBy_natAbs] at hv
  exact ⟨c, hcs.trans_le hs, hv⟩

/-- A representable number has a coefficient in range at some scale that fitting tries. -/
theorem Representable.exists_coeff {negative : Bool} {m s : Nat}
    (h : Representable (signedBy negative m / 10 ^ s)) :
    ∃ k c, k ≤ min s maxScale ∧ c < coeffBound ∧ m = c * 10 ^ (s - k) := by
  obtain ⟨d, hd, hv⟩ := h
  have hs : (10 : ℚ) ^ s ≠ 0 := by positivity
  have hds : (10 : ℚ) ^ d.scale ≠ 0 := by positivity
  have hcross : d.coeff * 10 ^ s = m * 10 ^ d.scale := by
    rw [value, div_eq_div_iff hds hs] at hv
    have hz : d.signed * 10 ^ s = signedBy negative m * 10 ^ d.scale := by exact_mod_cast hv
    have := congrArg Int.natAbs hz
    rwa [Int.natAbs_mul, Int.natAbs_mul, natAbs_signed, natAbs_signedBy, Int.natAbs_pow,
      Int.natAbs_pow] at this
  rcases Nat.le_total d.scale s with hle | hle
  · refine ⟨d.scale, d.coeff, le_min hle hd, d.coeff_lt, ?_⟩
    have hp : 0 < 10 ^ d.scale := by positivity
    apply Nat.eq_of_mul_eq_mul_right hp
    rw [← hcross, Nat.mul_assoc, ← pow_add, Nat.sub_add_cancel hle]
  · refine ⟨s, m, le_min le_rfl (hle.trans hd), ?_, by simp⟩
    have hp : 0 < 10 ^ s := by positivity
    have hc : d.coeff = m * 10 ^ (d.scale - s) := by
      apply Nat.eq_of_mul_eq_mul_right hp
      rw [hcross, Nat.mul_assoc, ← pow_add, Nat.sub_add_cancel hle]
    have hm : m ≤ d.coeff := by
      rw [hc]
      exact Nat.le_mul_of_pos_right m (by positivity)
    exact hm.trans_lt d.coeff_lt

/-- Fitting keeps a representable number as it is. -/
theorem fit_of_representable {negative : Bool} {m s : Nat}
    (h : Representable (signedBy negative m / 10 ^ s)) :
    ∃ c, fit negative m s = some c ∧ c.value = signedBy negative m / 10 ^ s := by
  obtain ⟨k, n, hk, hn, hm⟩ := h.exists_coeff
  have hround : ∀ j, k ≤ j → j ≤ s → roundHalfEven m (s - j) = n * 10 ^ (j - k) := by
    intro j hkj hjs
    rw [hm, show s - k = (j - k) + (s - j) by omega, pow_add, ← Nat.mul_assoc]
    exact roundHalfEven_mul ..
  have hks : k ≤ s := hk.trans (Nat.min_le_left ..)
  obtain ⟨j, c, hkj, hj, hc, -, hv⟩ := fitFrom_eq negative (m := m) (s := s) hk
    (Nat.min_le_right ..) (by rw [hround k le_rfl hks]; simpa using hn)
  have hjs : j ≤ s := hj.trans (Nat.min_le_left ..)
  refine ⟨c, hc, ?_⟩
  rw [hv, hround j hkj hjs, hm]
  have hpk : (10 : ℚ) ^ (s - k) = 10 ^ (j - k) * 10 ^ (s - j) := by
    rw [← pow_add]
    congr 1
    omega
  have hps : (10 : ℚ) ^ s = 10 ^ j * 10 ^ (s - j) := by
    rw [← pow_add]
    congr 1
    omega
  rw [signedBy_mul, signedBy_mul]
  push_cast
  rw [hpk, hps]
  field_simp

theorem fitSigned_of_representable {m : ℤ} {s : Nat} (h : Representable (m / 10 ^ s)) :
    ∃ c, fitSigned m s = some c ∧ c.value = m / 10 ^ s := by
  rw [← signedBy_natAbs m] at h
  obtain ⟨c, hc, hv⟩ := fit_of_representable h
  exact ⟨c, hc, by rw [hv, signedBy_natAbs]⟩

/-- A number that an amount bounds is rounded to a coefficient that the amount's bounds. -/
theorem roundHalfEven_le_coeff {m s j : Nat} {a : Decimal} (hm : (m : ℚ) / 10 ^ s ≤ a.value)
    (haj : a.scale ≤ j) (hjs : j ≤ s) : roundHalfEven m (s - j) ≤ a.coeff * 10 ^ (j - a.scale) := by
  apply roundHalfEven_le
  have hp : (0 : ℚ) < 10 ^ s := by positivity
  rw [div_le_iff₀ hp, value_mul_pow a (haj.trans hjs)] at hm
  have hz : (m : ℤ) ≤ a.signed * 10 ^ (s - a.scale) := by exact_mod_cast hm
  have hn : m ≤ a.coeff * 10 ^ (s - a.scale) := by
    have := hz.trans Int.le_natAbs
    rw [Int.natAbs_mul, natAbs_signed, Int.natAbs_pow] at this
    exact_mod_cast this
  calc m ≤ a.coeff * 10 ^ (s - a.scale) := hn
    _ = a.coeff * 10 ^ (j - a.scale) * 10 ^ (s - j) := by
        rw [Nat.mul_assoc, ← pow_add]
        congr 2
        omega

/-- Such a number keeps at least the places of the amount. -/
theorem fit_of_le (negative : Bool) {m s : Nat} {a : Decimal} (ha : a.scale ≤ min s maxScale)
    (hm : (m : ℚ) / 10 ^ s ≤ a.value) :
    ∃ c, a.scale ≤ c.scale ∧ c.scale ≤ s ∧ fit negative m s = some c ∧
      c.value = signedBy negative (roundHalfEven m (s - c.scale)) / 10 ^ c.scale := by
  have has : a.scale ≤ s := ha.trans (Nat.min_le_left ..)
  have hcoeff : roundHalfEven m (s - a.scale) ≤ a.coeff := by
    simpa using roundHalfEven_le_coeff hm le_rfl has
  obtain ⟨j, c, haj, hj, hc, rfl, hv⟩ := fitFrom_eq negative ha (Nat.min_le_right ..)
    (hcoeff.trans_lt a.coeff_lt)
  exact ⟨c, haj, hj.trans (Nat.min_le_left ..), hc, hv⟩

/-- Fitting a difference that is not negative does not pass an amount that bounds it. -/
theorem fit_le {m s : Nat} {a : Decimal} (ha : a.scale ≤ min s maxScale) (hm : (m : ℚ) / 10 ^ s ≤ a.value) :
    ∃ c, fit false m s = some c ∧ 0 ≤ c.value ∧ c.value ≤ a.value := by
  obtain ⟨c, hac, hcs, hc, hv⟩ := fit_of_le false ha hm
  have hsigned : signedBy false (roundHalfEven m (s - c.scale)) = roundHalfEven m (s - c.scale) := rfl
  rw [hsigned] at hv
  refine ⟨c, hc, ?_, ?_⟩
  · rw [hv]
    positivity
  · have h0 : 0 ≤ a.value := le_trans (by positivity) hm
    have hp : (0 : ℚ) < 10 ^ c.scale := by positivity
    have hs : a.signed = a.coeff := by
      have : 0 ≤ a.signed := by
        have hq : (0 : ℚ) < 10 ^ a.scale := by positivity
        rw [value, le_div_iff₀ hq, zero_mul] at h0
        exact_mod_cast h0
      rw [← Int.natAbs_of_nonneg this, natAbs_signed]
    rw [hv, div_le_iff₀ hp, value_mul_pow a hac, hs]
    exact_mod_cast roundHalfEven_le_coeff hm hac hcs

/-! ## Sums and differences -/

theorem alignedTo_eq (a : Decimal) {s : Nat} (h : a.scale ≤ s) : (a.alignedTo s : ℚ) = a.value * 10 ^ s := by
  rw [value_mul_pow a h, alignedTo]
  push_cast [Nat.pow_eq]
  rfl

theorem sumOver?_of_le (x y : ℤ) {s : Nat} (h : s ≤ maxScale) : sumOver? x y s = fitSigned (x + y) s := by
  simp only [sumOver?, h, true_or, ↓reduceIte]

section Sums

variable {a b : Decimal} (ha : a.scale ≤ maxScale) (hb : b.scale ≤ maxScale)
include ha hb

theorem scale_add?_le_max {c : Decimal} (h : a.add? b = some c) : c.scale ≤ max a.scale b.scale := by
  simp only [add?] at h
  split at h
  · cases h; exact le_max_right ..
  · split at h
    · cases h; exact le_max_left ..
    · rw [sumOver?_of_le _ _ (max_le ha hb)] at h
      exact (scale_fitFrom_le h).trans (Nat.min_le_left ..)

theorem scale_add?_le {c : Decimal} (h : a.add? b = some c) : c.scale ≤ maxScale :=
  (scale_add?_le_max ha hb h).trans (max_le ha hb)

theorem scale_sub?_le {c : Decimal} (h : a.sub? b = some c) : c.scale ≤ maxScale := by
  simp only [sub?] at h
  split at h
  · split at h <;> cases h <;> exact hb
  · split at h
    · cases h; exact ha
    · rw [sumOver?_of_le _ _ (max_le ha hb)] at h
      exact scale_fitSigned_le h

theorem add?_aligned (hza : a.isZero = false) (hzb : b.isZero = false) :
    ∃ z : ℤ, a.add? b = fitSigned z (max a.scale b.scale) ∧
      (z : ℚ) / 10 ^ max a.scale b.scale = a.value + b.value := by
  have hp : (10 : ℚ) ^ max a.scale b.scale ≠ 0 := by positivity
  refine ⟨a.alignedTo (max a.scale b.scale) + b.alignedTo (max a.scale b.scale), ?_, ?_⟩
  · simp only [add?, hza, hzb, Bool.false_eq_true, ↓reduceIte]
    rw [sumOver?_of_le _ _ (max_le ha hb)]
  · rw [Int.cast_add, alignedTo_eq a (le_max_left ..), alignedTo_eq b (le_max_right ..), ← add_mul,
      mul_div_cancel_right₀ _ hp]

/-- A sum that is representable is given as it is. -/
theorem add?_of_representable (h : Representable (a.value + b.value)) :
    ∃ c, a.add? b = some c ∧ c.value = a.value + b.value := by
  by_cases hza : a.isZero = true
  · exact ⟨b, by simp only [add?, hza, ↓reduceIte], by rw [value_of_isZero hza, zero_add]⟩
  by_cases hzb : b.isZero = true
  · exact ⟨a, by simp only [add?, hza, hzb, Bool.false_eq_true, ↓reduceIte],
      by rw [value_of_isZero hzb, add_zero]⟩
  obtain ⟨z, hz, hv⟩ := add?_aligned ha hb (Bool.eq_false_iff.mpr hza) (Bool.eq_false_iff.mpr hzb)
  rw [← hv] at h
  obtain ⟨c, hc, hcv⟩ := fitSigned_of_representable h
  exact ⟨c, hz.trans hc, hcv.trans hv⟩

theorem sub?_aligned (hza : a.isZero = false) (hzb : b.isZero = false) :
    ∃ z : ℤ, a.sub? b = fitSigned z (max a.scale b.scale) ∧
      (z : ℚ) / 10 ^ max a.scale b.scale = a.value - b.value := by
  have hp : (10 : ℚ) ^ max a.scale b.scale ≠ 0 := by positivity
  refine ⟨a.alignedTo (max a.scale b.scale) + -b.alignedTo (max a.scale b.scale), ?_, ?_⟩
  · simp only [sub?, hza, hzb, Bool.false_eq_true, ↓reduceIte]
    rw [sumOver?_of_le _ _ (max_le ha hb)]
  · rw [Int.cast_add, Int.cast_neg, alignedTo_eq a (le_max_left ..), alignedTo_eq b (le_max_right ..),
      ← sub_eq_add_neg, ← sub_mul, mul_div_cancel_right₀ _ hp]

/-- A difference that is representable is given as it is. -/
theorem sub?_of_representable (h : Representable (a.value - b.value)) :
    ∃ c, a.sub? b = some c ∧ c.value = a.value - b.value := by
  by_cases hza : a.isZero = true
  · by_cases hzb : b.isZero = true
    · exact ⟨b, by simp only [sub?, hza, hzb, ↓reduceIte],
        by rw [value_of_isZero hza, value_of_isZero hzb, sub_zero]⟩
    · exact ⟨-b, by simp only [sub?, hza, hzb, Bool.false_eq_true, ↓reduceIte],
        by rw [value_of_isZero hza, value_neg, zero_sub]⟩
  by_cases hzb : b.isZero = true
  · exact ⟨a, by simp only [sub?, hza, hzb, Bool.false_eq_true, ↓reduceIte],
      by rw [value_of_isZero hzb, sub_zero]⟩
  obtain ⟨z, hz, hv⟩ := sub?_aligned ha hb (Bool.eq_false_iff.mpr hza) (Bool.eq_false_iff.mpr hzb)
  rw [← hv] at h
  obtain ⟨c, hc, hcv⟩ := fitSigned_of_representable h
  exact ⟨c, hz.trans hc, hcv.trans hv⟩

/-- What is left of an amount lies between zero and the amount, rounded or not. -/
theorem sub?_between (h0 : 0 ≤ b.value) (hba : b.value ≤ a.value) :
    ∃ c, a.sub? b = some c ∧ 0 ≤ c.value ∧ c.value ≤ a.value := by
  by_cases hzb : b.isZero = true
  · refine ⟨if a.isZero then b else a, ?_, ?_, ?_⟩
    · by_cases hza : a.isZero = true <;> simp [sub?, hza, hzb]
    · split <;> linarith
    · split
      · exact hba
      · exact le_rfl
  have hza : a.isZero = false := by
    by_contra hza
    have := value_of_isZero (by simpa using hza : a.isZero = true)
    exact hzb (isZero_iff_value.mpr (le_antisymm (by linarith) h0))
  obtain ⟨z, hz, hv⟩ := sub?_aligned ha hb hza (Bool.eq_false_iff.mpr hzb)
  have hp : (0 : ℚ) < 10 ^ max a.scale b.scale := by positivity
  have hz0 : 0 ≤ z := by
    have : (0 : ℚ) ≤ (z : ℚ) / 10 ^ max a.scale b.scale := by rw [hv]; linarith
    rw [le_div_iff₀ hp, zero_mul] at this
    exact_mod_cast this
  have hfit : fitSigned z (max a.scale b.scale) = fit false z.natAbs (max a.scale b.scale) := by
    rw [fitSigned, decide_eq_false (not_lt.mpr hz0)]
  have hn : ((z.natAbs : ℕ) : ℚ) = z := by rw [Nat.cast_natAbs, abs_of_nonneg hz0]
  obtain ⟨c, hc, hc0, hca⟩ := fit_le (m := z.natAbs) (le_min (le_max_left a.scale b.scale) ha)
    (by rw [hn, hv]; linarith)
  exact ⟨c, by rw [hz, hfit, hc], hc0, hca⟩

end Sums

/-! ## Products -/

/-- A representable number other than zero has a digit within the first 28 places. -/
theorem Representable.one_le {x : ℚ} (h : Representable x) (hx : x ≠ 0) : 1 ≤ |x| * 10 ^ maxScale := by
  obtain ⟨d, hd, rfl⟩ := h
  refine (one_le_abs_value_mul hx).trans ?_
  exact mul_le_mul_of_nonneg_left (pow_le_pow_right₀ (by norm_num) hd) (abs_nonneg _)

theorem scale_mul?_le {a b c : Decimal} (h : a.mul? b = some c) : c.scale ≤ maxScale := by
  simp only [mul?] at h
  split at h
  · cases h; exact Nat.zero_le _
  · split at h
    · cases h; exact Nat.zero_le _
    · exact scale_fit_le h

theorem value_mul_value (a b : Decimal) :
    a.value * b.value
      = signedBy (a.negative != b.negative) (a.coeff * b.coeff) / 10 ^ (a.scale + b.scale) := by
  rw [value, value, div_mul_div_comm, ← pow_add, signed_eq_signedBy, signed_eq_signedBy, ← Int.cast_mul,
    signedBy_mul_signedBy]

/-- The product of two short numbers with many places is smaller than any representable number but zero. -/
theorem value_mul_value_eq_zero {a b : Decimal} (ha : a.coeff < UInt32.size) (hb : b.coeff < UInt32.size)
    (hs : 47 < a.scale + b.scale) (h : Representable (a.value * b.value)) : a.value * b.value = 0 := by
  by_contra hne
  have hone := h.one_le hne
  have hprod : ((a.coeff * b.coeff : ℕ) : ℚ) < 10 ^ 20 := by
    have hlt : a.coeff * b.coeff < UInt32.size * UInt32.size := Nat.mul_lt_mul_of_lt_of_le ha hb.le (by decide)
    have hsize : UInt32.size * UInt32.size < 10 ^ 20 := by decide
    exact_mod_cast hlt.trans hsize
  have habs : |a.value * b.value| * 10 ^ (a.scale + b.scale) = ((a.coeff * b.coeff : ℕ) : ℚ) := by
    have hp : (0 : ℚ) < 10 ^ (a.scale + b.scale) := by positivity
    rw [value_mul_value, abs_div, abs_of_pos hp, div_mul_cancel₀ _ hp.ne', ← Int.cast_abs,
      Int.abs_eq_natAbs, natAbs_signedBy]
    rfl
  have hpow : (10 : ℚ) ^ maxScale * 10 ^ 20 ≤ 10 ^ (a.scale + b.scale) := by
    rw [← pow_add]
    exact pow_le_pow_right₀ (by norm_num) hs
  have hscaled := mul_le_mul_of_nonneg_left hpow (abs_nonneg (a.value * b.value))
  rw [habs, ← mul_assoc] at hscaled
  linarith

/-- A product that is representable is given as it is. -/
theorem mul?_of_representable {a b : Decimal} (h : Representable (a.value * b.value)) :
    ∃ c, a.mul? b = some c ∧ c.value = a.value * b.value := by
  by_cases hz : (a.isZero || b.isZero) = true
  · refine ⟨zero, by simp only [mul?, hz, ↓reduceIte], ?_⟩
    rcases Bool.or_eq_true_iff.mp hz with hz | hz
    · rw [value_of_isZero hz, value_zero, zero_mul]
    · rw [value_of_isZero hz, value_zero, mul_zero]
  by_cases htiny : a.coeff < UInt32.size ∧ b.coeff < UInt32.size ∧ 47 < a.scale + b.scale
  · have hzero := value_mul_value_eq_zero htiny.1 htiny.2.1 htiny.2.2 h
    rw [mul_eq_zero, ← isZero_iff_value, ← isZero_iff_value, ← Bool.or_eq_true_iff] at hzero
    exact absurd hzero hz
  · rw [value_mul_value] at h
    obtain ⟨c, hc, hcv⟩ := fit_of_representable h
    refine ⟨c, ?_, by rw [value_mul_value, hcv]⟩
    simp only [mul?, hz, htiny, Bool.false_eq_true, ↓reduceIte]
    exact hc

/-! ## Numbers with few places -/

/-- A number with at most `n` fraction digits. -/
def Places (n : Nat) (x : ℚ) : Prop := ∃ k : ℤ, x * 10 ^ n = k

theorem places_of_scale_le (a : Decimal) {n : Nat} (h : a.scale ≤ n) : Places n a.value :=
  ⟨a.signed * 10 ^ (n - a.scale), by rw [value_mul_pow a h]; push_cast; rfl⟩

namespace Places

variable {m n : Nat} {x y : ℚ}

theorem add (hx : Places n x) (hy : Places n y) : Places n (x + y) := by
  obtain ⟨j, hj⟩ := hx
  obtain ⟨k, hk⟩ := hy
  exact ⟨j + k, by rw [add_mul, hj, hk, Int.cast_add]⟩

theorem neg (hx : Places n x) : Places n (-x) := by
  obtain ⟨j, hj⟩ := hx
  exact ⟨-j, by rw [neg_mul, hj, Int.cast_neg]⟩

theorem sub (hx : Places n x) (hy : Places n y) : Places n (x - y) := by
  rw [sub_eq_add_neg]
  exact hx.add hy.neg

theorem mul (hx : Places m x) (hy : Places n y) : Places (m + n) (x * y) := by
  obtain ⟨j, hj⟩ := hx
  obtain ⟨k, hk⟩ := hy
  exact ⟨j * k, by rw [pow_add, mul_mul_mul_comm, hj, hk, Int.cast_mul]⟩

theorem ite (hx : Places n x) (c : Prop) [Decidable c] : Places n (if c then x else 0) := by
  split
  · exact hx
  · exact ⟨0, by rw [zero_mul, Int.cast_zero]⟩

/-- A number with few places is representable unless it is too large. -/
theorem representable (hx : Places n x) (hn : n ≤ maxScale) (hbound : |x| * 10 ^ n < coeffBound) :
    Representable x := by
  obtain ⟨k, hk⟩ := hx
  have hp : (0 : ℚ) < 10 ^ n := by positivity
  have hb : k.natAbs < coeffBound := by
    rw [← abs_of_pos hp, ← abs_mul, hk, ← Int.cast_abs, Int.abs_eq_natAbs] at hbound
    exact_mod_cast hbound
  have hrep := representable_of_natAbs_lt hb hn
  rwa [← hk, mul_div_cancel_right₀ _ hp.ne'] at hrep

end Places

/-! ## Sums within a sum -/

/-- Rounding keeps a number that has no more places than are kept. -/
theorem fitted_eq_of_places {z : ℤ} {s j : Nat} (hjs : j ≤ s) (h : Places j ((z : ℚ) / 10 ^ s)) :
    (signedBy (decide (z < 0)) (roundHalfEven z.natAbs (s - j)) : ℚ) / 10 ^ j = z / 10 ^ s := by
  obtain ⟨q, hq⟩ := h
  have hs : (10 : ℚ) ^ s = 10 ^ j * 10 ^ (s - j) := by
    rw [← pow_add, Nat.add_sub_cancel' hjs]
  have hz : z = q * 10 ^ (s - j) := by
    have hp : (10 : ℚ) ^ j ≠ 0 := by positivity
    have hd : (10 : ℚ) ^ (s - j) ≠ 0 := by positivity
    rw [hs] at hq
    field_simp at hq
    rw [mul_comm] at hq
    exact_mod_cast hq
  have hm : z.natAbs = q.natAbs * 10 ^ (s - j) := by
    rw [hz, Int.natAbs_mul, Int.natAbs_pow]
    rfl
  have hsign : z < 0 ↔ q < 0 := by
    have hp : (0 : ℤ) < 10 ^ (s - j) := by positivity
    rw [hz, mul_neg_iff]
    constructor
    · rintro (⟨-, h⟩ | ⟨h, -⟩)
      · exact absurd h hp.not_gt
      · exact h
    · intro h
      exact .inr ⟨h, hp⟩
  rw [hm, roundHalfEven_mul, decide_eq_decide.mpr hsign, signedBy_natAbs, hz, hs]
  push_cast
  field_simp

/-- A number is in range if an amount with at least as many places is not smaller. -/
theorem coeff_lt_of_le {m s : Nat} {d : Decimal} (hm : (m : ℚ) / 10 ^ s ≤ d.value) (hs : s ≤ d.scale) :
    m < coeffBound := by
  have hp : (0 : ℚ) < 10 ^ s := by positivity
  have hd : 0 ≤ d.value := le_trans (by positivity) hm
  have hpow : (10 : ℚ) ^ s ≤ 10 ^ d.scale := pow_le_pow_right₀ (by norm_num) hs
  rw [div_le_iff₀ hp] at hm
  have hle := hm.trans (mul_le_mul_of_nonneg_left hpow hd)
  rw [value_mul_pow d le_rfl, Nat.sub_self, pow_zero, mul_one] at hle
  have hz : (m : ℤ) ≤ d.signed := by exact_mod_cast hle
  have hn := hz.trans Int.le_natAbs
  rw [natAbs_signed] at hn
  exact lt_of_le_of_lt (by exact_mod_cast hn) d.coeff_lt

/-- A sum that is not positive is exact once taking it from an amount that covers it is. -/
theorem add?_exact_of_covered {a b c d e : Decimal} (ha : a.scale ≤ maxScale) (hb : b.scale ≤ maxScale)
    (hd : d.scale ≤ maxScale) (hc : a.add? b = some c) (he : d.add? c = some e)
    (hcovered : -(a.value + b.value) ≤ d.value) (hneg : a.value + b.value ≤ 0)
    (hexact : e.value = d.value + (a.value + b.value)) : c.value = a.value + b.value := by
  by_cases hza : a.isZero = true
  · simp only [add?, hza, ↓reduceIte, Option.some.injEq] at hc
    rw [← hc, value_of_isZero hza, zero_add]
  by_cases hzb : b.isZero = true
  · simp only [add?, hza, hzb, Bool.false_eq_true, ↓reduceIte, Option.some.injEq] at hc
    rw [← hc, value_of_isZero hzb, add_zero]
  obtain ⟨z, hz, hv⟩ := add?_aligned ha hb (Bool.eq_false_iff.mpr hza) (Bool.eq_false_iff.mpr hzb)
  have hs := max_le ha hb
  have hcs := scale_add?_le ha hb hc
  generalize max a.scale b.scale = s at hz hv hs
  rw [← hv] at hcovered hneg hexact ⊢
  have hp : (0 : ℚ) < 10 ^ s := by positivity
  have hm : (z.natAbs : ℚ) / 10 ^ s ≤ d.value := by
    have habs : (z.natAbs : ℚ) = -z := by
      rw [div_le_iff₀ hp, zero_mul] at hneg
      rw [Nat.cast_natAbs, abs_of_nonpos (by exact_mod_cast hneg)]
      push_cast
      rfl
    rwa [habs, neg_div]
  rcases Nat.lt_or_ge s d.scale with hlt | hge
  · -- The covering amount has more places, so the sum fits with all of its own.
    have hrep := representable_of_natAbs_lt (coeff_lt_of_le hm hlt.le) hs
    obtain ⟨c', hc', hval⟩ := fitSigned_of_representable hrep
    obtain rfl : c' = c := Option.some.inj (hc'.symm.trans (hz.symm.trans hc))
    exact hval
  · -- What is left has no more places than the rounded sum, so neither has the sum.
    obtain ⟨c', hdc, hcs', hfit, hval⟩ := fit_of_le (decide (z < 0)) (le_min hge hd) hm
    obtain rfl : c' = c := Option.some.inj (hfit.symm.trans (hz.symm.trans hc))
    have hplaces : Places c'.scale (e.value - d.value) :=
      (places_of_scale_le e ((scale_add?_le_max hd hcs he).trans (max_le hdc le_rfl))).sub
        (places_of_scale_le d hdc)
    rw [hexact, add_sub_cancel_left] at hplaces
    rw [hval]
    exact fitted_eq_of_places hcs' hplaces

end Clearing.Decimal
