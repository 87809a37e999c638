/-
# How far apart different numbers are

The relative difference exists for all doubles: what the difference is divided by is never zero. It
does not change if the two numbers change places or change their signs, and it tells different
numbers apart, because it cannot be too small to see. Two doubles lie apart by a power of two that
is at least the `2 ^ 53`rd part of the larger one, neither the subtraction nor the division rounds
below such a bound, and next to the smallest normal number a difference counts for more than that.

* `exists_twoPow_le_abs_sub` is the distance of two different numbers;
* `comparisonScale` is what the difference is divided by;
* `relativeDifference_comm` and `relativeDifference_neg` are the symmetries;
* `relativeDifference_separates` puts them together with the values that there are.
-/
import MissingSamples.Proofs.Comparison.Close

namespace MissingSamples

open Double

open FloatFormat (binary64)

/-! ## The distance of two magnitudes -/

lemma le_sub_of_dvd {d m n : Nat} (hm : d ∣ m) (hn : d ∣ n) (h : n < m) : d ≤ m - n :=
  Nat.le_of_dvd (Nat.sub_pos_of_lt h) (Nat.dvd_sub hm hn)

/-- The magnitudes below a power of two lie apart from it by the quantum below it. -/
lemma twoPow_sub_le_twoPow_sub {k n : Nat} (hn : binary64.Holds n) (h : n < twoPow k) :
    twoPow (k - 53) ≤ twoPow k - n := by
  rcases Nat.lt_or_ge k 54 with hk | hk
  · have hone : twoPow (k - 53) = 1 := by
      rw [Nat.sub_eq_zero_of_le (by omega)]
      rfl
    omega
  · have hhalf : twoPow k = twoPow (k - 1) + twoPow (k - 1) := by
      rw [← Nat.two_mul, ← Nat.mul_comm, ← twoPow_sub_mul (show 1 ≤ k by omega)]
      rfl
    by_cases hlow : n < twoPow (k - 1)
    · have hle : twoPow (k - 53) ≤ twoPow (k - 1) := twoPow_le_twoPow (by omega)
      omega
    · -- the power before this one is the leading bit of the number, and the quantum goes with it
      have hn0 : n ≠ 0 := (Nat.lt_of_lt_of_le (twoPow_pos _) (not_lt.1 hlow)).ne'
      have hlog : k - 1 ≤ n.log2 := (le_log2_iff hn0).2 (not_lt.1 hlow)
      have hquantum : k - 53 ≤ binary64.quantum n := by
        simp only [FloatFormat.quantum, binary64]
        omega
      exact le_sub_of_dvd (twoPow_dvd_twoPow (Nat.sub_le ..))
        ((twoPow_dvd_twoPow hquantum).trans (Nat.dvd_of_mod_eq_zero hn.2)) h

/-- Two different magnitudes lie apart by a power of two that is at least the `2 ^ 53`rd part of the
larger one. -/
lemma exists_twoPow_le_sub {m n : Nat} (hm : binary64.Holds m) (hn : binary64.Holds n)
    (h : n < m) : ∃ j, binary64.Holds (twoPow j) ∧ twoPow j ≤ m - n ∧ m ≤ twoPow (j + 53) := by
  have hm0 : m ≠ 0 := (Nat.zero_le n).trans_lt h |>.ne'
  have hlog : m.log2 < binary64.limit := (log2_lt_iff hm0).2 hm.1
  by_cases hpow : m = twoPow m.log2
  · refine ⟨m.log2 - 53, holds_twoPow (by omega), ?_, ?_⟩
    · rw [hpow] at h
      exact (twoPow_sub_le_twoPow_sub hn h).trans_eq (by rw [← hpow])
    · exact hpow.le.trans (twoPow_le_twoPow (by omega))
  · -- the leading power of two of the larger one and whatever is above it share its quantum
    have hlead : twoPow m.log2 < m := lt_of_le_of_ne (twoPow_log2_le hm0) (Ne.symm hpow)
    have hquantum : binary64.quantum m ≤ m.log2 := by
      simp only [FloatFormat.quantum, binary64]
      omega
    have hdvd : twoPow (binary64.quantum m) ∣ max n (twoPow m.log2) := by
      rcases le_total n (twoPow m.log2) with hle | hle
      · rw [max_eq_right hle]
        exact twoPow_dvd_twoPow hquantum
      · rw [max_eq_left hle]
        have hn0 : n ≠ 0 := (Nat.lt_of_lt_of_le (twoPow_pos _) hle).ne'
        have hlogn : m.log2 ≤ n.log2 := (le_log2_iff hn0).2 hle
        have hsame : binary64.quantum m ≤ binary64.quantum n := by
          simp only [FloatFormat.quantum, binary64]
          omega
        exact (twoPow_dvd_twoPow hsame).trans (Nat.dvd_of_mod_eq_zero hn.2)
    refine ⟨binary64.quantum m, holds_twoPow (by omega), ?_, (binary64.lt_twoPow_quantum m).le⟩
    calc twoPow (binary64.quantum m) ≤ m - max n (twoPow m.log2) :=
          le_sub_of_dvd (Nat.dvd_of_mod_eq_zero hm.2) hdvd (max_lt h hlead)
      _ ≤ m - n := Nat.sub_le_sub_left (le_max_left ..) m

/-- The leading power of two of a magnitude. -/
lemma exists_twoPow_le {m : Nat} (hm : binary64.Holds m) (h : m ≠ 0) :
    ∃ j, binary64.Holds (twoPow j) ∧ twoPow j ≤ m ∧ m ≤ twoPow (j + 53) := by
  refine ⟨m.log2, holds_twoPow ((log2_lt_iff h).2 hm.1), twoPow_log2_le h, ?_⟩
  exact (lt_twoPow_log2 m).le.trans (twoPow_le_twoPow (by omega))

/-! ## The distance of two numbers -/

lemma abs_signed_sub_signed (s : Bool) (m n : Nat) :
    |signed s m - signed s n| = |(m : Int) - n| := by
  cases s with
  | false => rfl
  | true =>
    simp only [signed, if_true]
    rw [← abs_neg]
    congr 1
    omega

/-- Numbers of different signs lie as far apart as they are large together. -/
lemma abs_signed_sub_of_ne {s t : Bool} (h : s ≠ t) (m n : Nat) :
    |signed s m - signed t n| = (m : Int) + n := by
  have ht : t = !s := by
    cases s <;> cases t <;> simp_all
  rw [ht, signed_not, sub_neg_eq_add]
  cases s with
  | false => exact abs_of_nonneg (Int.add_nonneg (Int.natCast_nonneg _) (Int.natCast_nonneg _))
  | true =>
    simp only [signed, if_true]
    rw [abs_of_nonpos (by omega)]
    omega

variable {a b : Double}

/-- Two different finite numbers lie apart by a power of two that is at least the `2 ^ 53`rd part of
the larger one. -/
theorem exists_twoPow_le_abs_sub (ha : a.isFinite = true) (hb : b.isFinite = true)
    (h : a.level ≠ b.level) :
    ∃ j, binary64.Holds (twoPow j) ∧ (twoPow j : Int) ≤ |a.level - b.level| ∧
      max |a.level| |b.level| ≤ twoPow (j + 53) := by
  cases a with
  | nan | infinite s => exact absurd ha Bool.false_ne_true
  | finite s m hm =>
    cases b with
    | nan | infinite t => exact absurd hb Bool.false_ne_true
    | finite t n hn =>
      simp only [level, abs_signed] at h ⊢
      by_cases hst : s = t
      · subst hst
        have hmn : m ≠ n := fun hmn => h (by rw [hmn])
        rw [abs_signed_sub_signed]
        rcases Nat.lt_or_gt_of_ne hmn with hlt | hlt
        · obtain ⟨j, hholds, hle, hmax⟩ := exists_twoPow_le_sub hn hm hlt
          refine ⟨j, hholds, ?_, ?_⟩
          · rw [abs_sub_comm, abs_of_nonneg (by omega)]
            omega
          · rw [max_eq_right (by omega)]
            exact_mod_cast hmax
        · obtain ⟨j, hholds, hle, hmax⟩ := exists_twoPow_le_sub hm hn hlt
          refine ⟨j, hholds, ?_, ?_⟩
          · rw [abs_of_nonneg (by omega)]
            omega
          · rw [max_eq_left (by omega)]
            exact_mod_cast hmax
      · rw [abs_signed_sub_of_ne hst]
        have hmax : binary64.Holds (max m n) := by
          rcases le_total m n with hle | hle
          · rwa [max_eq_right hle]
          · rwa [max_eq_left hle]
        have hne : max m n ≠ 0 := by
          intro h0
          rw [Nat.max_eq_zero_iff] at h0
          exact h (by rw [h0.1, h0.2, signed_zero, signed_zero])
        obtain ⟨j, hholds, hle, hpart⟩ := exists_twoPow_le hmax hne
        refine ⟨j, hholds, ?_, by exact_mod_cast hpart⟩
        have hsum : max m n ≤ m + n := by omega
        exact_mod_cast hle.trans hsum

/-- Nor are they closer when their difference is computed. -/
lemma exists_twoPow_le_level_abs_sub (ha : a.isFinite = true) (hb : b.isFinite = true)
    (h : a.level ≠ b.level) :
    ∃ j, (twoPow j : Int) ≤ (a - b).abs.level ∧ max |a.level| |b.level| ≤ twoPow (j + 53) := by
  obtain ⟨j, hholds, hle, hmax⟩ := exists_twoPow_le_abs_sub ha hb h
  refine ⟨j, ?_, hmax⟩
  rw [level_abs_sub ha hb, ← rounded_of_holds hholds]
  exact rounded_mono hle

/-! ## What the difference is divided by -/

namespace Double

/-- What the difference of two numbers is divided by: the larger of them, or the smallest normal
number next to zero and for a difference that is smaller still. -/
def comparisonScale (a b : Double) : Double :=
  if a.isZero || b.isZero || (a - b).abs.lt smallestNormal then smallestNormal
  else larger a.abs b.abs

@[simp] lemma isZero_abs (a : Double) : a.abs.isZero = a.isZero := by
  cases a <;> rfl

lemma comparisonScale_of_isZero (h : (a.isZero || b.isZero) = true) :
    comparisonScale a b = smallestNormal := by
  rw [comparisonScale, h, Bool.true_or, if_pos rfl]

/-- Nothing is ever divided by zero. -/
theorem isZero_comparisonScale (a b : Double) : (comparisonScale a b).isZero = false := by
  unfold comparisonScale
  split
  · decide +kernel
  · next htiny =>
    obtain ⟨⟨ha, hb⟩, -⟩ : (a.isZero = false ∧ b.isZero = false) ∧ _ := by
      simpa only [Bool.not_eq_true, Bool.or_eq_false_iff] using htiny
    rw [larger]
    split
    · rwa [isZero_abs]
    · rwa [isZero_abs]

/-- What a difference is divided by is a finite number above zero. -/
lemma comparisonScale_pos (ha : a.isFinite = true) (hb : b.isFinite = true) :
    (comparisonScale a b).isFinite = true ∧ 0 < (comparisonScale a b).level := by
  have hfinite : (comparisonScale a b).isFinite = true := by
    unfold comparisonScale
    split
    · exact level_smallestNormal.1
    · exact isFinite_larger_abs ha hb
  have hnonneg : 0 ≤ (comparisonScale a b).level := by
    unfold comparisonScale
    split
    · rw [level_smallestNormal.2]
      exact Int.natCast_nonneg _
    · rw [level_larger_abs ha hb]
      exact le_max_of_le_left (abs_nonneg _)
  refine ⟨hfinite, lt_of_le_of_ne hnonneg fun hzero => ?_⟩
  exact ne_true_of_eq_false (isZero_comparisonScale a b) ((level_eq_zero_iff hfinite).1 hzero.symm)

end Double

lemma relativeDifference_of_not_matching (h : a.matching b = false) :
    relativeDifference a b = (a - b).abs / comparisonScale a b := by
  simp only [relativeDifference, h, Bool.false_eq_true, if_false, comparisonScale]
  split <;> rfl

/-- Not-a-number has no difference from a number. -/
lemma relativeDifference_of_isNaN (hm : a.matching b = false) (h : (a.isNaN || b.isNaN) = true) :
    relativeDifference a b = nan := by
  rw [relativeDifference_of_not_matching hm, sub_eq_nan h]
  rfl

/-! ## Symmetries -/

namespace Double

lemma matching_comm (a b : Double) : b.matching a = a.matching b := by
  rw [Bool.eq_iff_iff, matching_iff, matching_iff, same_iff, same_iff]
  tauto

@[simp] lemma abs_neg (a : Double) : (neg a).abs = a.abs := by
  cases a <;> rfl

@[simp] lemma isZero_neg (a : Double) : (neg a).isZero = a.isZero := by
  cases a <;> rfl

lemma matching_neg_neg (a b : Double) : (neg a).matching (neg b) = a.matching b := by
  rw [Bool.eq_iff_iff, matching_iff, matching_iff, same_iff, same_iff]
  simp only [isNaN_neg, level_neg, neg_inj]

lemma add_comm (a b : Double) : a + b = b + a := by
  rw [add_eq, add_eq]
  cases a with
  | nan => cases b <;> rfl
  | infinite s =>
    cases b with
    | nan | finite t n hn => rfl
    | infinite t => cases s <;> cases t <;> rfl
  | finite s m hm =>
    cases b with
    | nan | infinite t => rfl
    | finite t n hn => simp only [add, Int.add_comm, Bool.and_comm]

/-- The magnitude of a sum of finite numbers is that of the exact sum, rounded. -/
lemma abs_add_finite {s t : Bool} {m n : Nat} (hm : binary64.Holds m) (hn : binary64.Holds n) :
    (finite s m hm + finite t n hn).abs = nearest false (signed s m + signed t n).natAbs 1 := by
  rw [add_eq, add]
  split_ifs with hzero
  · rw [hzero, Int.natAbs_zero, nearest_of_holds false FloatFormat.binary64.holds_zero]
    rfl
  · unfold nearest
    split <;> rfl

lemma abs_neg_add_neg (a b : Double) : (neg a + neg b).abs = (a + b).abs := by
  cases a with
  | nan => cases b <;> rfl
  | infinite s =>
    cases b with
    | nan | finite t n hn => rfl
    | infinite t => cases s <;> cases t <;> rfl
  | finite s m hm =>
    cases b with
    | nan | infinite t => rfl
    | finite t n hn =>
      rw [neg, neg, abs_add_finite, abs_add_finite, signed_not, signed_not, ← Int.neg_add,
        Int.natAbs_neg]

lemma abs_neg_sub_neg (a b : Double) : (neg a - neg b).abs = (a - b).abs := by
  rw [sub_eq, sub_eq, abs_neg_add_neg]

lemma abs_sub_swap (a b : Double) : (b - a).abs = (a - b).abs := by
  rw [← abs_neg_sub_neg, sub_eq, sub_eq, neg_neg, add_comm]

lemma abs_of_isZero (h : a.isZero = true) : a.abs = zero false := by
  cases a with
  | nan | infinite s => exact absurd h Bool.false_ne_true
  | finite s m hm =>
    obtain rfl : m = 0 := by simpa [isZero] using h
    rfl

/-- Magnitudes that stand in one place are the same double. -/
lemma abs_eq_abs (ha : a.isNaN = false) (hb : b.isNaN = false)
    (h : a.abs.level = b.abs.level) : a.abs = b.abs := by
  have hsame : a.abs.same b.abs = true := same_iff.2 ⟨by rwa [isNaN_abs], by rwa [isNaN_abs], h⟩
  rcases eq_or_zeros_of_same hsame with heq | ⟨s, t, hs, ht⟩
  · exact heq
  · have hza : a.isZero = true := by rw [← isZero_abs, hs]; rfl
    have hzb : b.isZero = true := by rw [← isZero_abs, ht]; rfl
    rw [abs_of_isZero hza, abs_of_isZero hzb]

lemma larger_abs_comm (ha : a.isNaN = false) (hb : b.isNaN = false) :
    larger b.abs a.abs = larger a.abs b.abs := by
  have ha' : a.abs.isNaN = false := by rwa [isNaN_abs]
  have hb' : b.abs.isNaN = false := by rwa [isNaN_abs]
  rw [larger, larger]
  rcases lt_trichotomy a.abs.level b.abs.level with hlt | heq | hlt
  · have hup : a.abs.lt b.abs = true := lt_iff.2 ⟨ha', hb', hlt⟩
    rw [if_pos hup, lt_eq_false_of_le (le_iff.2 ⟨ha', hb', hlt.le⟩), if_neg Bool.false_ne_true]
  · rw [abs_eq_abs ha hb heq]
  · have hup : b.abs.lt a.abs = true := lt_iff.2 ⟨hb', ha', hlt⟩
    rw [if_pos hup, lt_eq_false_of_le (le_iff.2 ⟨hb', ha', hlt.le⟩), if_neg Bool.false_ne_true]

lemma comparisonScale_comm (ha : a.isNaN = false) (hb : b.isNaN = false) :
    comparisonScale b a = comparisonScale a b := by
  rw [comparisonScale, comparisonScale, abs_sub_swap, larger_abs_comm ha hb,
    Bool.or_comm b.isZero a.isZero]

lemma comparisonScale_neg (a b : Double) :
    comparisonScale (neg a) (neg b) = comparisonScale a b := by
  simp only [comparisonScale, isZero_neg, abs_neg, abs_neg_sub_neg]

end Double

/-- The relative difference does not depend on which of the numbers comes first. -/
theorem relativeDifference_comm (a b : Double) :
    relativeDifference b a = relativeDifference a b := by
  cases hm : a.matching b with
  | true =>
    have hm' : b.matching a = true := by rw [matching_comm, hm]
    rw [relativeDifference, relativeDifference, if_pos hm, if_pos hm']
  | false =>
    have hm' : b.matching a = false := by rw [matching_comm, hm]
    by_cases hn : (a.isNaN || b.isNaN) = true
    · rw [relativeDifference_of_isNaN hm hn,
        relativeDifference_of_isNaN hm' (by rwa [Bool.or_comm])]
    · obtain ⟨ha, hb⟩ : a.isNaN = false ∧ b.isNaN = false := by simpa using hn
      rw [relativeDifference_of_not_matching hm, relativeDifference_of_not_matching hm',
        abs_sub_swap, comparisonScale_comm ha hb]

/-- The relative difference does not change with the signs of both numbers. -/
theorem relativeDifference_neg (a b : Double) :
    relativeDifference (neg a) (neg b) = relativeDifference a b := by
  cases hm : a.matching b with
  | true =>
    have hm' : (neg a).matching (neg b) = true := by rw [matching_neg_neg, hm]
    rw [relativeDifference, relativeDifference, if_pos hm, if_pos hm']
  | false =>
    have hm' : (neg a).matching (neg b) = false := by rw [matching_neg_neg, hm]
    rw [relativeDifference_of_not_matching hm, relativeDifference_of_not_matching hm',
      abs_neg_sub_neg, comparisonScale_neg]

/-! ## Values -/

namespace Double

/-- The number is an infinity of either sign. -/
def isInfinite : Double → Bool
  | infinite _ => true
  | _ => false

/-- The double `2 ^ -53`. -/
def leastPart : Double := 1 / ofInt (2 ^ 53)

lemma level_leastPart : leastPart.isNaN = false ∧ leastPart.level = twoPow 1021 := by
  decide +kernel

end Double

/-- Two numbers have no relative difference: exactly one of them is not-a-number, or they are
different numbers, one of them at least is an infinity, and neither is zero. -/
def Incomparable (a b : Double) : Prop :=
  a.isNaN ≠ b.isNaN ∨
    (a.same b = false ∧ (a.isInfinite = true ∨ b.isInfinite = true) ∧
      (a.isZero = false ∧ b.isZero = false) ∧ a.isNaN = false ∧ b.isNaN = false)

instance (a b : Double) : Decidable (Incomparable a b) := inferInstanceAs (Decidable (_ ∨ _))

/-- A quotient is at least `2 ^ -k` if the dividend is at least this part of the divisor. -/
lemma twoPow_le_level_div {k : Nat} (hk : k ≤ 1074) {d e : Double} (hd : d.isNaN = false)
    (he : e.isFinite = true) (hpos : 0 < e.level) (h : e.level ≤ d.level * twoPow k) :
    (d / e).isNaN = false ∧ (twoPow (1074 - k) : Int) ≤ (d / e).level := by
  have hlimit : 1074 - k < binary64.limit := (Nat.sub_le 1074 k).trans_lt (by decide)
  by_cases hfinite : d.isFinite = true
  · have hunit : unitsPerOne = twoPow k * twoPow (1074 - k) := by
      rw [← twoPow_add, Nat.add_sub_cancel' hk, unitsPerOne]
    have hpart : e.level * twoPow (1074 - k) ≤ d.level * unitsPerOne := by
      rw [hunit, Nat.cast_mul, ← mul_assoc]
      exact Int.mul_le_mul_of_nonneg_right h (Int.natCast_nonneg _)
    exact ⟨(level_div hfinite he hpos).1,
      le_level_div hfinite he hpos (holds_twoPow hlimit) hpart⟩
  · obtain ⟨s, rfl⟩ := eq_infinite_of_not_isFinite hd hfinite
    rw [infinite_div s he hpos]
    cases s with
    | false => exact ⟨rfl, Int.ofNat_le.2 (twoPow_le_twoPow hlimit.le)⟩
    | true =>
      have hneg : (infinite true).level * (twoPow k : Nat) ≤ 0 :=
        mul_nonpos_of_nonpos_of_nonneg (Int.neg_nonpos_of_nonneg (Int.natCast_nonneg _))
          (Int.natCast_nonneg _)
      exact absurd (hpos.trans_le (h.trans hneg)) (lt_irrefl 0)

/-- A quotient is at least `2 ^ -53` if the dividend is at least this part of the divisor. -/
lemma leastPart_le_div {d e : Double} (hd : d.isNaN = false) (he : e.isFinite = true)
    (hpos : 0 < e.level) (h : e.level ≤ d.level * twoPow 53) :
    leastPart.le (d / e) = true := by
  obtain ⟨hnan, hle⟩ := twoPow_le_level_div (by decide) hd he hpos h
  exact le_iff.2 ⟨level_leastPart.1, hnan, level_leastPart.2.trans_le hle⟩

/-- A quotient is not below the tolerance if the dividend is too large a part of the divisor. -/
lemma div_lt_tolerance_eq_false {k : Nat} (hk : k ≤ 16) {d e : Double} (hd : d.isNaN = false)
    (he : e.isFinite = true) (hpos : 0 < e.level) (h : e.level ≤ d.level * twoPow k) :
    (d / e).lt tolerance = false := by
  have htolerance : tolerance.level ≤ twoPow 1058 := by decide +kernel
  have hpart : (twoPow 1058 : Int) ≤ twoPow (1074 - k) :=
    Int.ofNat_le.2 (twoPow_le_twoPow (by omega))
  obtain ⟨-, hle⟩ := twoPow_le_level_div (by omega) hd he hpos h
  rw [Bool.eq_false_iff, ne_eq, lt_iff]
  rintro ⟨-, -, hlt⟩
  exact absurd ((htolerance.trans hpart).trans hle) (not_le.2 hlt)

/-- Different finite numbers have a relative difference of at least `2 ^ -53`. -/
lemma leastPart_le_of_isFinite (hm : a.matching b = false) (ha : a.isFinite = true)
    (hb : b.isFinite = true) : leastPart.le (relativeDifference a b) = true := by
  have hne : a.level ≠ b.level := fun h =>
    ne_true_of_eq_false hm ((matching_iff_level ha hb).2 h)
  obtain ⟨j, hj, hmax⟩ := exists_twoPow_le_level_abs_sub ha hb hne
  obtain ⟨hfinite, hpos⟩ := comparisonScale_pos ha hb
  have hnan : (a - b).abs.isNaN = false := by rw [isNaN_abs, isNaN_sub ha hb]
  have hone : (1 : Int) ≤ twoPow j := by exact_mod_cast twoPow_pos j
  have h52 : (twoPow 52 : Int) = 4503599627370496 := by decide +kernel
  have h53 : (twoPow 53 : Int) = 9007199254740992 := by decide +kernel
  rw [relativeDifference_of_not_matching hm]
  refine leastPart_le_div hnan hfinite hpos ?_
  unfold comparisonScale
  split
  · rw [level_smallestNormal.2, h52, h53]
    omega
  · rw [level_larger_abs ha hb]
    calc max |a.level| |b.level| ≤ (twoPow (j + 53) : Int) := hmax
      _ = twoPow j * twoPow 53 := by rw [twoPow_add, Nat.cast_mul]
      _ ≤ (a - b).abs.level * twoPow 53 :=
          Int.mul_le_mul_of_nonneg_right hj (Int.natCast_nonneg _)

/-! ### Infinities -/

lemma abs_infinite_sub {s : Bool} (hm : (infinite s).matching b = false) (hb : b.isNaN = false) :
    (infinite s - b).abs = infinite false := by
  cases b with
  | nan => exact absurd hb.symm Bool.false_ne_true
  | infinite t =>
    have hst : s ≠ t := by
      rintro rfl
      rw [matching_self] at hm
      exact Bool.false_ne_true hm.symm
    have ht : t = !s := by
      cases s <;> cases t <;> simp_all
    subst ht
    cases s <;> rfl
  | finite t n hn => rfl

lemma infinite_lt (x : Double) : (infinite false).lt x = false := by
  cases x <;> rfl

/-- An infinity and a different number have no relative difference, unless the number is zero. -/
lemma relativeDifference_infinite {s : Bool} (hm : (infinite s).matching b = false)
    (hb0 : b.isZero = false) : relativeDifference (infinite s) b = nan := by
  by_cases hb : b.isNaN = true
  · exact relativeDifference_of_isNaN hm (by rw [hb, Bool.or_true])
  · rw [Bool.not_eq_true] at hb
    have hscale : comparisonScale (infinite s) b = infinite false := by
      have hzero : (infinite s).isZero = false := rfl
      rw [comparisonScale, hzero, hb0, abs_infinite_sub hm hb, infinite_lt, Bool.or_self,
        Bool.or_self, if_neg Bool.false_ne_true, larger, Double.abs, infinite_lt,
        if_neg Bool.false_ne_true]
    rw [relativeDifference_of_not_matching hm, abs_infinite_sub hm hb, hscale]
    rfl

/-- An infinity lies infinitely far from zero. -/
lemma relativeDifference_infinite_of_isZero (s : Bool) (hb0 : b.isZero = true) :
    relativeDifference (infinite s) b = infinite false := by
  cases b with
  | nan | infinite t => exact absurd hb0 Bool.false_ne_true
  | finite t n hn =>
    have hm : (infinite s).matching (finite t n hn) = false := rfl
    have hpos : 0 < smallestNormal.level := by
      rw [level_smallestNormal.2]
      exact_mod_cast twoPow_pos 52
    rw [relativeDifference_of_not_matching hm, abs_infinite_sub hm rfl,
      comparisonScale_of_isZero (by rw [hb0, Bool.or_true]),
      infinite_div false level_smallestNormal.1 hpos]

/-! ### All cases -/

lemma matching_eq_false_of_incomparable (h : Incomparable a b) : a.matching b = false := by
  refine eq_false_of_ne_true fun hm => ?_
  rcases h with hnan | ⟨hsame, -, -, ha, -⟩
  · rcases matching_iff.1 hm with hs | ⟨ha, hb⟩
    · exact hnan ((same_iff.1 hs).1.trans (same_iff.1 hs).2.1.symm)
    · exact hnan (ha.trans hb.symm)
  · rcases matching_iff.1 hm with hs | ⟨ha', -⟩
    · exact Bool.false_ne_true (hsame.symm.trans hs)
    · exact Bool.false_ne_true (ha.symm.trans ha')

lemma eq_infinite_of_isInfinite (h : a.isInfinite = true) : ∃ s, a = infinite s := by
  cases a with
  | infinite s => exact ⟨s, rfl⟩
  | nan | finite s m hm => exact absurd h Bool.false_ne_true

lemma relativeDifference_of_incomparable (h : Incomparable a b) : relativeDifference a b = nan := by
  have hm := matching_eq_false_of_incomparable h
  rcases h with hnan | ⟨-, ha | hb, ⟨ha0, hb0⟩, -⟩
  · refine relativeDifference_of_isNaN hm ?_
    cases ha : a.isNaN <;> cases hb : b.isNaN <;> simp_all
  · obtain ⟨s, rfl⟩ := eq_infinite_of_isInfinite ha
    exact relativeDifference_infinite hm hb0
  · obtain ⟨t, rfl⟩ := eq_infinite_of_isInfinite hb
    rw [← relativeDifference_comm]
    exact relativeDifference_infinite (by rwa [matching_comm]) ha0

/-- What is neither the same nor incomparable is finite, or an infinity next to a zero. -/
lemma finite_or_zero_of_comparable (hm : a.matching b = false) (h : ¬Incomparable a b) :
    (a.isFinite = true ∧ b.isFinite = true) ∨ (a.isInfinite = true ∧ b.isZero = true) ∨
      (b.isInfinite = true ∧ a.isZero = true) := by
  cases a with
  | nan =>
    cases b with
    | nan => exact absurd hm.symm Bool.false_ne_true
    | infinite t | finite t n hn => exact absurd (Or.inl Bool.noConfusion) h
  | infinite s =>
    cases b with
    | nan => exact absurd (Or.inl Bool.noConfusion) h
    | infinite t =>
      have hsame : (infinite s).same (infinite t) = false := (Bool.or_eq_false_iff.1 hm).1
      exact absurd (Or.inr ⟨hsame, Or.inl rfl, ⟨rfl, rfl⟩, rfl, rfl⟩) h
    | finite t n hn =>
      refine Or.inr (Or.inl ⟨rfl, ?_⟩)
      by_contra hb0
      exact h (Or.inr ⟨rfl, Or.inl rfl, ⟨rfl, eq_false_of_ne_true hb0⟩, rfl, rfl⟩)
  | finite s m hm' =>
    cases b with
    | nan => exact absurd (Or.inl Bool.noConfusion) h
    | infinite t =>
      refine Or.inr (Or.inr ⟨rfl, ?_⟩)
      by_contra ha0
      exact h (Or.inr ⟨rfl, Or.inr rfl, ⟨eq_false_of_ne_true ha0, rfl⟩, rfl, rfl⟩)
    | finite t n hn => exact Or.inl ⟨rfl, rfl⟩

/-- Different numbers that have a relative difference have one of at least `2 ^ -53`. -/
lemma leastPart_le_relativeDifference (hm : a.matching b = false) (h : ¬Incomparable a b) :
    leastPart.le (relativeDifference a b) = true := by
  rcases finite_or_zero_of_comparable hm h with ⟨ha, hb⟩ | ⟨ha, hb0⟩ | ⟨hb, ha0⟩
  · exact leastPart_le_of_isFinite hm ha hb
  · obtain ⟨s, rfl⟩ := eq_infinite_of_isInfinite ha
    rw [relativeDifference_infinite_of_isZero s hb0]
    exact le_infinite level_leastPart.1
  · obtain ⟨t, rfl⟩ := eq_infinite_of_isInfinite hb
    rw [← relativeDifference_comm, relativeDifference_infinite_of_isZero t ha0]
    exact le_infinite level_leastPart.1

/-- The relative difference of any two doubles.

It is the difference of numbers that do not match, divided by something other than zero. It stays
the same if the numbers change places or both change their signs. It is zero exactly for the same
number and for two that are not-a-number, and not-a-number exactly for incomparable ones. In all
other cases it is at least `2 ^ -53`. -/
theorem relativeDifference_separates (a b : Double) :
    (relativeDifference a b
        = if a.matching b then 0 else (a - b).abs / comparisonScale a b) ∧
    (comparisonScale a b).isZero = false ∧
    relativeDifference b a = relativeDifference a b ∧
    relativeDifference (-a) (-b) = relativeDifference a b ∧
    (relativeDifference a b = 0 ↔ a.same b = true ∨ (a.isNaN = true ∧ b.isNaN = true)) ∧
    ((relativeDifference a b).isNaN = true ↔ Incomparable a b) ∧
    (relativeDifference a b = 0 ∨ (relativeDifference a b).isNaN = true ∨
      leastPart.le (relativeDifference a b) = true) := by
  have hzero : a.matching b = true → relativeDifference a b = 0 := fun hm => by
    rw [relativeDifference, if_pos hm]
  refine ⟨?_, isZero_comparisonScale a b, relativeDifference_comm a b, relativeDifference_neg a b,
    ?_, ?_, ?_⟩
  · cases hm : a.matching b with
    | true => exact hzero hm
    | false => exact relativeDifference_of_not_matching hm
  · rw [← matching_iff]
    refine ⟨fun h0 => ?_, hzero⟩
    by_contra hm
    rw [Bool.not_eq_true] at hm
    by_cases h : Incomparable a b
    · rw [relativeDifference_of_incomparable h] at h0
      exact absurd h0 (by decide +kernel)
    · have hle := leastPart_le_relativeDifference hm h
      rw [h0] at hle
      exact absurd hle (by decide +kernel)
  · constructor
    · intro hnan
      by_contra h
      cases hm : a.matching b with
      | true =>
        rw [hzero hm] at hnan
        exact absurd hnan (by decide +kernel)
      | false =>
        have hle := leastPart_le_relativeDifference hm h
        exact Bool.false_ne_true ((le_iff.1 hle).2.1.symm.trans hnan)
    · intro h
      rw [relativeDifference_of_incomparable h]
      rfl
  · cases hm : a.matching b with
    | true => exact Or.inl (hzero hm)
    | false =>
      by_cases h : Incomparable a b
      · rw [relativeDifference_of_incomparable h]
        exact Or.inr (Or.inl rfl)
      · exact Or.inr (Or.inr (leastPart_le_relativeDifference hm h))

/-- One and the double before it are as close as two doubles can be. -/
example : relativeDifference 1 (1 - leastPart) = leastPart := by decide +kernel

end MissingSamples
