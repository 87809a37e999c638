/-
# The tolerance test in both forms

The test for two numbers leaves early when they match; the test of one number among many computes
every quotient and patches matching numbers in afterwards. Numbers that do not match have one
quotient in both forms. Numbers that match have no difference, which one form still compares with
the tolerance and the other does not. So the forms agree, whatever the numbers are, as soon as the
tolerance is above zero.

* `nearTarget_eq_or` says what the bulk form tests;
* `nearTarget_eq_nearlyEqual_iff` says where the two forms agree, and `nearTarget_eq_nearlyEqual`
  that they do with a tolerance above zero;
* `nearlyEqual_of_matching` says that matching numbers are nearly equal;
* `nearlyEqual_congr` says that zeros of both signs are near the same numbers.
-/
import MissingSamples.Comparison
import MissingSamples.Proofs.Binary.Arithmetic

namespace MissingSamples

namespace Double

@[simp] lemma isNaN_abs (a : Double) : a.abs.isNaN = a.isNaN := by
  cases a <;> rfl

lemma eq_nan_of_isNaN {a : Double} (h : a.isNaN = true) : a = nan := by
  cases a <;> simp_all [isNaN]

/-- A difference with not-a-number is not-a-number. -/
lemma sub_eq_nan {a b : Double} (h : (a.isNaN || b.isNaN) = true) : a - b = nan := by
  rcases Bool.or_eq_true_iff.1 h with ha | hb
  · rw [eq_nan_of_isNaN ha]
    rfl
  · rw [eq_nan_of_isNaN hb]
    cases a <;> rfl

lemma maximum_eq_larger {a b : Double} (ha : a.isNaN = false) (hb : b.isNaN = false) :
    maximum a b = larger a b := by
  simp only [maximum, larger, ha, hb, Bool.false_eq_true, if_false]

/-- Matching numbers are the same number, or both are not-a-number. -/
lemma matching_iff {a b : Double} :
    a.matching b = true ↔ a.same b = true ∨ (a.isNaN = true ∧ b.isNaN = true) := by
  rw [matching, Bool.or_eq_true, Bool.and_eq_true]

lemma matching_comm_nan (a b : Double) :
    (a.same b || (b.isNaN && a.isNaN)) = a.matching b := by
  rw [matching, Bool.and_comm]

/-- Doubles that are the same number are equal or zeros. -/
lemma eq_or_zeros_of_same {a b : Double} (h : a.same b = true) :
    a = b ∨ (∃ s t, a = zero s ∧ b = zero t) := by
  cases a with
  | nan => simp [same] at h
  | infinite s =>
    cases b with
    | nan | finite t n hn => simp [same] at h
    | infinite t => exact Or.inl (by simpa [same] using h)
  | finite s m hm =>
    cases b with
    | nan | infinite t => simp [same] at h
    | finite t n hn =>
      have hst : signed s m = signed t n := by simpa [same] using h
      have hmn : m = n := by rw [← natAbs_signed s m, hst, natAbs_signed]
      subst hmn
      rcases Nat.eq_zero_or_pos m with rfl | hpos
      · exact Or.inr ⟨s, t, rfl, rfl⟩
      · left
        cases s <;> cases t <;> simp_all [signed]

/-- Matching doubles are equal or zeros. -/
lemma eq_or_zeros_of_matching {a b : Double} (h : a.matching b = true) :
    a = b ∨ (∃ s t, a = zero s ∧ b = zero t) := by
  rcases matching_iff.1 h with hsame | ⟨ha, hb⟩
  · exact eq_or_zeros_of_same hsame
  · exact Or.inl (by rw [eq_nan_of_isNaN ha, eq_nan_of_isNaN hb])

end Double

open Double

/-- The tolerance is a finite number above zero. -/
lemma zero_lt_tolerance : (0 : Double).lt tolerance = true := by
  decide +kernel

lemma isFinite_tolerance : tolerance.isFinite = true := by
  decide +kernel

/-- Matching numbers have no difference, and that is what is compared with the bound. -/
lemma nearlyEqual_eq_of_matching {a b : Double} (h : a.matching b = true) (bound : Double) :
    nearlyEqual a b bound = (0 : Double).lt bound := by
  rw [nearlyEqual, relativeDifference, if_pos h]

theorem nearlyEqual_of_matching {a b bound : Double} (h : a.matching b = true)
    (hb : (0 : Double).lt bound = true) : nearlyEqual a b bound = true := by
  rw [nearlyEqual_eq_of_matching h, hb]

lemma nearTarget_of_matching {target value : Double} (h : value.matching target = true)
    (bound : Double) : nearTarget target bound value = true := by
  simp only [nearTarget, matching_comm_nan, h, Bool.true_or]

/-- Numbers that do not match are compared by one quotient in both forms. -/
lemma nearTarget_of_not_matching {target value : Double} (h : value.matching target = false)
    (bound : Double) : nearTarget target bound value = nearlyEqual value target bound := by
  simp only [nearTarget, nearlyEqual, relativeDifference, matching_comm_nan, h, Bool.false_or,
    Bool.false_eq_true, if_false]
  by_cases hn : (value.isNaN || target.isNaN) = true
  · -- the difference is not-a-number on both sides, and so is every quotient of it
    rw [sub_eq_nan hn]
    generalize (value.isZero || target.isZero || nan.abs.lt smallestNormal) = tiny
    cases tiny <;> rfl
  · obtain ⟨hv, ht⟩ : value.isNaN = false ∧ target.isNaN = false := by simpa using hn
    rw [maximum_eq_larger (by rwa [isNaN_abs]) (by rwa [isNaN_abs])]
    split_ifs <;> rfl

/-- The bulk form of the test is the form for two numbers, with matching numbers added. -/
theorem nearTarget_eq_or (target bound value : Double) :
    nearTarget target bound value
      = (value.matching target || nearlyEqual value target bound) := by
  cases hm : value.matching target with
  | true => rw [nearTarget_of_matching hm, Bool.true_or]
  | false => rw [nearTarget_of_not_matching hm, Bool.false_or]

/-- The two forms of the test agree about numbers exactly if the bound is above zero or the numbers
do not match. -/
theorem nearTarget_eq_nearlyEqual_iff {target bound value : Double} :
    nearTarget target bound value = nearlyEqual value target bound ↔
      (0 : Double).lt bound = true ∨ value.matching target = false := by
  rw [nearTarget_eq_or]
  cases hm : value.matching target with
  | true =>
    rw [Bool.true_or, nearlyEqual_eq_of_matching hm]
    constructor
    · intro h
      exact Or.inl h.symm
    · rintro (h | h)
      · exact h.symm
      · exact absurd h.symm Bool.false_ne_true
  | false => exact iff_of_true (Bool.false_or _) (Or.inr rfl)

/-- With a bound above zero, the bulk form of the test agrees with the form for two numbers. -/
theorem nearTarget_eq_nearlyEqual (target value : Double) {bound : Double}
    (hb : (0 : Double).lt bound = true) :
    nearTarget target bound value = nearlyEqual value target bound :=
  nearTarget_eq_nearlyEqual_iff.2 (Or.inl hb)

/-! ## Room for the tolerance -/

lemma tolerance_level_nonneg : 0 ≤ tolerance.level := by
  decide +kernel

lemma sub_tolerance_le {a x : Double} (h : a.le x = true) : (a - tolerance).le x = true :=
  le_trans (sub_le_of_nonneg (le_iff.1 h).1 isFinite_tolerance tolerance_level_nonneg) h

lemma le_add_tolerance {x b : Double} (h : x.le b = true) : x.le (b + tolerance) = true :=
  le_trans h (le_add_of_nonneg (le_iff.1 h).2.1 isFinite_tolerance tolerance_level_nonneg)

/-- The ends of the finite numbers are too far out for the tolerance to move them. -/
lemma largest_add_tolerance : largest + tolerance = largest := by
  decide +kernel

lemma neg_largest_sub_tolerance : -largest - tolerance = -largest := by
  decide +kernel

/-! ## Zeros of both signs -/

lemma abs_zero_sub (s t : Bool) (c : Double) :
    (Double.zero s - c).abs = (Double.zero t - c).abs := by
  cases c with
  | nan => rfl
  | infinite u => rfl
  | finite u n hn =>
    change (add (Double.zero s) (finite (!u) n hn)).abs
      = (add (Double.zero t) (finite (!u) n hn)).abs
    simp only [Double.zero, add, signed_zero, Int.zero_add]
    split_ifs <;> rfl

lemma relativeDifference_zero (s t : Bool) (c : Double) :
    relativeDifference (Double.zero s) c = relativeDifference (Double.zero t) c := by
  have hm : (Double.zero s).matching c = (Double.zero t).matching c := by
    cases c with
    | nan | infinite u => rfl
    | finite u n hn => cases s <;> cases t <;> rfl
  have hz : ∀ r, (Double.zero r).isZero = true := fun r => rfl
  simp only [relativeDifference, hm, hz, Bool.true_or, if_true, abs_zero_sub s t c]

/-- What is near a number depends on the number alone, not on the sign of a zero. -/
theorem nearlyEqual_congr {a b : Double} (h : a.same b = true) (c bound : Double) :
    nearlyEqual a c bound = nearlyEqual b c bound := by
  rcases eq_or_zeros_of_same h with rfl | ⟨s, t, rfl, rfl⟩
  · rfl
  · rw [nearlyEqual, nearlyEqual, relativeDifference_zero s t c]

end MissingSamples
