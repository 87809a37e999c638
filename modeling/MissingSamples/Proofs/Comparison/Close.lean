/-
# Numbers that lie close together

Two numbers with all their significant bits are nearly equal if their distance, exactly taken, is a
small enough part of the larger of them. Three steps of the test may disturb the exact figures. The
subtraction rounds, but not beyond a double that bounds the distance. Next to zero, and for a
distance without all its significant bits, another scale is used, and neither occurs here. The
division rounds, but not beyond the power of two that bounds the exact quotient.

* `nearlyEqual_of_distance_le` is the law for two doubles;
* `nearlyEqual_narrow` says that a number at single precision is nearly equal to itself.
-/
import MissingSamples.Proofs.Binary.Narrowing
import MissingSamples.Proofs.Comparison

namespace MissingSamples

open Double

open FloatFormat (binary32 binary64)

variable {a b : Double}

lemma level_smallestNormal : smallestNormal.isFinite = true ∧ smallestNormal.level = twoPow 52 := by
  decide +kernel

lemma isZero_eq_false (ha : a.isFinite = true) (h : a.level ≠ 0) : a.isZero = false :=
  eq_false_of_ne_true fun hzero => h ((level_eq_zero_iff ha).2 hzero)

/-- Finite numbers match if they stand in one place. -/
lemma matching_iff_level (ha : a.isFinite = true) (hb : b.isFinite = true) :
    a.matching b = true ↔ a.level = b.level := by
  rw [matching_iff, same_iff, isNaN_of_isFinite ha, isNaN_of_isFinite hb]
  simp only [Bool.false_eq_true, false_and, or_false, true_and]

lemma matching_eq_false_of_level_ne (ha : a.isFinite = true) (hb : b.isFinite = true)
    (h : a.level ≠ b.level) : a.matching b = false :=
  eq_false_of_ne_true fun hmatching => h ((matching_iff_level ha hb).1 hmatching)

lemma isFinite_larger_abs (ha : a.isFinite = true) (hb : b.isFinite = true) :
    (larger a.abs b.abs).isFinite = true :=
  isFinite_larger (by rwa [isFinite_abs]) (by rwa [isFinite_abs])

lemma level_larger_abs (ha : a.isFinite = true) (hb : b.isFinite = true) :
    (larger a.abs b.abs).level = max |a.level| |b.level| := by
  rw [level_larger (by rw [isNaN_abs, isNaN_of_isFinite ha])
    (by rw [isNaN_abs, isNaN_of_isFinite hb]), level_abs, level_abs]

/-- The difference of two numbers next to the larger of them, where none of the exceptions for small
numbers applies. -/
lemma relativeDifference_eq_div (hm : a.matching b = false) (ha : a.isZero = false)
    (hb : b.isZero = false) (hnormal : (a - b).abs.lt smallestNormal = false) :
    relativeDifference a b = (a - b).abs / larger a.abs b.abs := by
  simp only [relativeDifference, hm, ha, hb, hnormal, Bool.or_self, Bool.false_eq_true, if_false]

/-- A bound on the exact distance, if it is a double, bounds the distance that is computed. -/
lemma level_abs_sub_le (ha : a.isFinite = true) (hb : b.isFinite = true) {n : Nat}
    (hn : binary64.Holds n) (hdistance : |a.level - b.level| ≤ n) :
    (a - b).abs.isFinite = true ∧ (a - b).abs.level ≤ n := by
  have hle : (a - b).abs.level ≤ n := by
    rw [level_abs_sub ha hb, ← rounded_of_holds hn]
    exact rounded_mono hdistance
  have hnonneg : 0 ≤ (a - b).abs.level := by
    rw [level_abs]
    exact abs_nonneg _
  have hnan : (a - b).abs.isNaN = false := by
    rw [isNaN_abs]
    exact isNaN_sub ha hb
  refine ⟨isFinite_of_abs_level_lt hnan ?_, hle⟩
  rw [abs_of_nonneg hnonneg]
  exact hle.trans_lt (by exact_mod_cast hn.1)

/-- A distance that has all its significant bits has them when it is computed. -/
lemma abs_sub_lt_smallestNormal (ha : a.isFinite = true) (hb : b.isFinite = true)
    (h : twoPow 52 ≤ |a.level - b.level|) : (a - b).abs.lt smallestNormal = false := by
  have hholds : binary64.Holds (twoPow 52) := by decide +kernel
  have hle : (twoPow 52 : Int) ≤ (a - b).abs.level := by
    rw [level_abs_sub ha hb, ← rounded_of_holds hholds]
    exact rounded_mono h
  rw [Bool.eq_false_iff, ne_eq, lt_iff, level_smallestNormal.2]
  omega

/-- What a part of a magnitude that is at most `2 ^ -17` makes of a quotient. -/
lemma div_lt_tolerance {d e : Double} (hd : d.isFinite = true) (he : e.isFinite = true)
    (hpos : 0 < e.level) (hsmall : d.level * twoPow 17 ≤ e.level) :
    (d / e).lt tolerance = true := by
  have hholds : binary64.Holds (twoPow 1057) := by decide +kernel
  have htolerance : (twoPow 1057 : Int) < tolerance.level := by decide +kernel
  have hunit : unitsPerOne = twoPow 17 * twoPow 1057 := twoPow_add 17 1057
  have hpart : d.level * unitsPerOne ≤ e.level * twoPow 1057 := by
    rw [hunit, Nat.cast_mul, ← mul_assoc]
    exact Int.mul_le_mul_of_nonneg_right hsmall (Int.natCast_nonneg _)
  exact lt_iff.2 ⟨(level_div hd he hpos).1, isNaN_of_isFinite isFinite_tolerance,
    (level_div_le hd he hpos hholds hpart).trans_lt htolerance⟩

/-- Numbers other than zero are nearly equal if they are the same number, or if their distance has
all its significant bits and is at most a double that is at most a `2 ^ 17`th part of the larger of
them. -/
theorem nearlyEqual_of_distance_le (ha : a.isFinite = true) (hb : b.isFinite = true)
    (ha0 : a.level ≠ 0) (hb0 : b.level ≠ 0) {n : Nat} (hn : binary64.Holds n)
    (hdistance : |a.level - b.level| ≤ n) (hsmall : (n : Int) * twoPow 17 ≤ |b.level|)
    (hnormal : a.level ≠ b.level → twoPow 52 ≤ |a.level - b.level|) :
    nearlyEqual a b = true := by
  by_cases hsame : a.level = b.level
  · exact nearlyEqual_of_matching ((matching_iff_level ha hb).2 hsame) zero_lt_tolerance
  · have hmatching : a.matching b = false := matching_eq_false_of_level_ne ha hb hsame
    obtain ⟨hfinite, hle⟩ := level_abs_sub_le ha hb hn hdistance
    have hlarger := level_larger_abs ha hb
    have hpos : 0 < (larger a.abs b.abs).level := by
      rw [hlarger]
      exact lt_max_of_lt_right (abs_pos.2 hb0)
    rw [nearlyEqual, relativeDifference_eq_div hmatching (isZero_eq_false ha ha0)
      (isZero_eq_false hb hb0) (abs_sub_lt_smallestNormal ha hb (hnormal hsame))]
    refine div_lt_tolerance hfinite (isFinite_larger_abs ha hb) hpos ?_
    calc (a - b).abs.level * twoPow 17 ≤ (n : Int) * twoPow 17 :=
          Int.mul_le_mul_of_nonneg_right hle (Int.natCast_nonneg _)
      _ ≤ |b.level| := hsmall
      _ ≤ (larger a.abs b.abs).level := by
          rw [hlarger]
          exact le_max_right _ _

/-! ## Single precision -/

lemma holds_twoPow {k : Nat} (h : k < binary64.limit) : binary64.Holds (twoPow k) := by
  refine ⟨twoPow_lt_twoPow h, FloatFormat.mod_twoPow_eq_zero (Nat.mod_self _) ?_⟩
  refine binary64.quantum_le (k := k) (twoPow_lt_twoPow ?_) (Nat.zero_le k)
  exact Nat.lt_add_of_pos_right binary64.precision_pos

namespace Double

/-- The number is zero, or it is at single precision a finite number with all its significant
bits. -/
def IsSingleNormal (x : Double) : Prop :=
  x.IsSingle ∧ (x.level = 0 ∨ binary32.smallestNormal ≤ x.level.natAbs)

instance (x : Double) : Decidable x.IsSingleNormal := inferInstanceAs (Decidable (_ ∧ _))

end Double

/-- Where the leading bit of a number is that has all its significant bits at single precision. -/
lemma le_log2_of_smallestNormal_le {n : Nat} (h : binary32.smallestNormal ≤ n) :
    n ≠ 0 ∧ 948 ≤ n.log2 := by
  have hne : n ≠ 0 := (Nat.lt_of_lt_of_le (twoPow_pos _) h).ne'
  exact ⟨hne, (le_log2_iff hne).2 h⟩

variable {x : Double}

lemma matching_narrow_of_level_eq_zero (h : x.IsSingle) (h0 : x.level = 0) :
    (x.narrow binary32).matching x = true := by
  obtain ⟨hfinite, hlevel⟩ := level_narrow h
  have hlevel0 : (x.narrow binary32).level = x.level := by
    rw [hlevel, h0, Int.natAbs_zero, FloatFormat.round_zero, signed_zero]
  exact matching_iff.2
    (Or.inl (same_iff.2 ⟨isNaN_of_isFinite hfinite, isNaN_of_isFinite h.1, hlevel0⟩))

/-- What narrowing moves a number by has all its significant bits as a double. -/
lemma twoPow_le_abs_level_narrow_sub (h : x.IsSingle)
    (hnormal : binary32.smallestNormal ≤ x.level.natAbs)
    (hne : (x.narrow binary32).level ≠ x.level) :
    twoPow 52 ≤ |(x.narrow binary32).level - x.level| := by
  have hquantum : 52 ≤ binary64.quantum x.level.natAbs := by
    have hlog := (le_log2_of_smallestNormal_le hnormal).2
    simp only [FloatFormat.quantum, binary64]
    omega
  have hdvd : twoPow (binary64.quantum x.level.natAbs)
      ∣ ((x.narrow binary32).level - x.level).natAbs :=
    Int.natCast_dvd.1 (twoPow_dvd_level_narrow_sub h)
  have hle := (twoPow_le_twoPow hquantum).trans
    (Nat.le_of_dvd (Int.natAbs_pos.2 (sub_ne_zero.2 hne)) hdvd)
  rw [Int.abs_eq_natAbs]
  exact_mod_cast hle

/-- A number that has all its significant bits at single precision is nearly equal to what it
becomes there. -/
theorem nearlyEqual_narrow (h : x.IsSingleNormal) : nearlyEqual (x.narrow binary32) x = true := by
  obtain ⟨hsingle, h0 | hnormal⟩ := h
  · exact nearlyEqual_of_matching (matching_narrow_of_level_eq_zero hsingle h0) zero_lt_tolerance
  · obtain ⟨hne0, hlog⟩ := le_log2_of_smallestNormal_le hnormal
    have hlimit : x.level.natAbs.log2 < binary64.limit := by
      refine (log2_lt_iff hne0).2 ?_
      have habs := abs_level_lt hsingle.1
      rw [Int.abs_eq_natAbs] at habs
      exact_mod_cast habs
    have hdistance := abs_level_narrow_sub_le hsingle hnormal
    -- the leading bit of the number is `2 ^ 24` times what it is moved by at most
    have hpart : (twoPow (x.level.natAbs.log2 - 24) : Int) * twoPow 24 ≤ |x.level| := by
      rw [Int.abs_eq_natAbs]
      exact_mod_cast (twoPow_sub_mul (by omega)).trans_le (twoPow_log2_le hne0)
    have hpos : (0 : Int) < twoPow (x.level.natAbs.log2 - 24) := by
      exact_mod_cast twoPow_pos _
    have h17 : (twoPow 17 : Int) = 131072 := by decide +kernel
    have h24 : (twoPow 24 : Int) = 16777216 := by decide +kernel
    rw [h24] at hpart
    refine nearlyEqual_of_distance_le (isFinite_narrow hsingle) hsingle.1 ?_ (by omega)
      (holds_twoPow (by omega)) hdistance ?_
      (twoPow_le_abs_level_narrow_sub hsingle hnormal)
    · intro hzero
      rw [hzero, zero_sub, abs_neg] at hdistance
      omega
    · rw [h17]
      omega

end MissingSamples
