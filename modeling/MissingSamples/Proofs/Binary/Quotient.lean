/-
# Magnitudes and quotients

The level of a quotient of finite doubles is that of the exact quotient, rounded, and the level of a
magnitude is the magnitude of the level. Rounding does not depend on how a quotient is written: what
divides both of its parts counts for nothing.

* `level_div`, `level_abs`, `level_larger` and `level_abs_sub` reduce operations to levels;
* `rounded_le_rounded` compares rounded quotients of different denominators;
* `le_level_div` and `level_div_le` bound a quotient by a double.
-/
import Mathlib.Tactic.Ring
import MissingSamples.Comparison
import MissingSamples.Proofs.Binary.Arithmetic

namespace MissingSamples

/-! ## Quotients with a common divisor -/

lemma divHalfEven_mul_left {c : Nat} (hc : 0 < c) (a d : Nat) :
    divHalfEven (c * a) (c * d) = divHalfEven a d := by
  have hmod : c * a % (c * d) = c * (a % d) := Nat.mul_mod_mul_left c a d
  have hlt : 2 * (c * (a % d)) < c * d ↔ 2 * (a % d) < d := by
    rw [Nat.mul_left_comm]
    exact Nat.mul_lt_mul_left hc
  have heq : 2 * (c * (a % d)) = c * d ↔ 2 * (a % d) = d := by
    rw [Nat.mul_left_comm]
    exact Nat.mul_right_inj hc.ne'
  unfold divHalfEven
  simp only [hmod, hlt, heq, Nat.mul_div_mul_left a d hc]

namespace FloatFormat

variable (f : FloatFormat)

lemma round_mul_mul {c : Nat} (hc : 0 < c) (num den : Nat) :
    f.round (c * num) (c * den) = f.round num den := by
  rw [round, round, Nat.mul_div_mul_left num den hc, Nat.mul_assoc, divHalfEven_mul_left hc]

end FloatFormat

namespace Double

open FloatFormat (binary64)

variable {a b : Double}

lemma div_eq (a b : Double) : a / b = div a b := rfl

lemma isNaN_of_isFinite (h : a.isFinite = true) : a.isNaN = false := by
  cases a <;> simp_all [isFinite, isNaN]

/-! ## Rounding levels -/

/-- Rounding leaves a whole number that the doubles hold. -/
lemma rounded_of_holds {n : Nat} (h : binary64.Holds n) : rounded n 1 = n := by
  have hlevel := rounded_level (a := finite false n h) rfl
  exact hlevel

lemma rounded_mul_mul {c : Nat} (hc : 0 < c) (i : Int) (den : Nat) :
    rounded (c * i) (c * den) = rounded i den := by
  have hneg : (c : Int) * i < 0 ↔ i < 0 := by
    have hc' : (0 : Int) < c := by exact_mod_cast hc
    rw [mul_neg_iff]
    constructor
    · rintro (⟨-, hi⟩ | ⟨hc0, -⟩)
      · exact hi
      · omega
    · exact fun hi => Or.inl ⟨hc', hi⟩
  simp only [rounded, Int.natAbs_mul, Int.natAbs_natCast, binary64.round_mul_mul hc, hneg]

/-- Quotients keep their order when they are rounded, also over different denominators. -/
theorem rounded_le_rounded {i j : Int} {b d : Nat} (hb : 0 < b) (hd : 0 < d)
    (h : d * i ≤ b * j) : rounded i b ≤ rounded j d := by
  calc rounded i b = rounded (d * i) (d * b) := (rounded_mul_mul hd i b).symm
    _ ≤ rounded (b * j) (d * b) := rounded_mono h
    _ = rounded j d := by rw [Nat.mul_comm d b, rounded_mul_mul hb]

lemma rounded_neg (i : Int) (den : Nat) : rounded (-i) den = -rounded i den := by
  rcases lt_trichotomy i 0 with hneg | rfl | hpos
  · have hnot : ¬-i < 0 := by omega
    simp only [rounded, signed, Int.natAbs_neg, hneg, hnot, decide_true, decide_false, if_true,
      Bool.false_eq_true, if_false, Int.neg_neg]
  · simp [rounded, signed]
  · have hnot : ¬i < 0 := by omega
    have hneg : -i < 0 := by omega
    simp only [rounded, signed, Int.natAbs_neg, hneg, hnot, decide_true, decide_false, if_true,
      Bool.false_eq_true, if_false]

lemma rounded_nonneg {i : Int} (h : 0 ≤ i) (den : Nat) : 0 ≤ rounded i den := by
  have hnot : ¬i < 0 := by omega
  simp only [rounded, signed, hnot, decide_false, Bool.false_eq_true, if_false]
  omega

lemma abs_rounded (i : Int) (den : Nat) : |rounded i den| = rounded |i| den := by
  rcases le_total 0 i with hpos | hneg
  · rw [abs_of_nonneg hpos, abs_of_nonneg (rounded_nonneg hpos den)]
  · have hneg' : 0 ≤ -i := by omega
    rw [abs_of_nonpos hneg, rounded_neg, abs_of_nonpos]
    have := rounded_nonneg hneg' den
    rw [rounded_neg] at this
    omega

/-! ## Operations -/

@[simp] lemma isFinite_abs (a : Double) : a.abs.isFinite = a.isFinite := by
  cases a <;> rfl

lemma level_abs (a : Double) : a.abs.level = |a.level| := by
  cases a with
  | nan => rfl
  | infinite s => exact (abs_signed s _).symm
  | finite s m hm => exact (abs_signed s m).symm

lemma level_larger (ha : a.isNaN = false) (hb : b.isNaN = false) :
    (larger a b).level = max a.level b.level := by
  rw [larger]
  split_ifs with hlt
  · exact (max_eq_right (lt_iff.1 hlt).2.2.le).symm
  · have hle : b.le a = true := le_of_lt_eq_false hb ha (eq_false_of_ne_true hlt)
    exact (max_eq_left (le_iff.1 hle).2.2).symm

lemma isFinite_larger (ha : a.isFinite = true) (hb : b.isFinite = true) :
    (larger a b).isFinite = true := by
  rw [larger]
  split_ifs
  · exact hb
  · exact ha

lemma isNaN_sub (ha : a.isFinite = true) (hb : b.isFinite = true) : (a - b).isNaN = false := by
  rw [sub_eq, isNaN_add (by rwa [isFinite_neg]), isNaN_of_isFinite ha]

/-- The magnitude of a difference is the exact one, rounded. -/
lemma level_abs_sub (ha : a.isFinite = true) (hb : b.isFinite = true) :
    (a - b).abs.level = rounded |a.level - b.level| 1 := by
  rw [level_abs, sub_eq, level_add ha (by rwa [isFinite_neg]), level_neg, abs_rounded]
  rfl

/-- A number that stands below the infinities is finite. -/
lemma isFinite_of_abs_level_lt (ha : a.isNaN = false)
    (h : |a.level| < twoPow binary64.limit) : a.isFinite = true := by
  by_contra hf
  obtain ⟨s, rfl⟩ := eq_infinite_of_not_isFinite ha hf
  rw [level, abs_signed] at h
  exact lt_irrefl _ h

lemma level_div (ha : a.isFinite = true) (hb : b.isFinite = true) (hpos : 0 < b.level) :
    (a / b).isNaN = false ∧
      (a / b).level = rounded (a.level * unitsPerOne) b.level.natAbs := by
  cases a with
  | nan | infinite s => simp [isFinite] at ha
  | finite s m hm =>
    cases b with
    | nan | infinite t => simp [isFinite] at hb
    | finite t n hn =>
      have hsigned : 0 < signed t n := hpos
      have hn0 : n ≠ 0 := by
        rintro rfl
        rw [signed_zero] at hsigned
        exact lt_irrefl _ hsigned
      have ht : t = false := by
        by_contra hne
        rw [Bool.not_eq_false] at hne
        rw [hne, signed, if_pos rfl] at hsigned
        omega
      subst ht
      rw [div_eq, div, if_neg hn0, Bool.bne_false]
      refine ⟨isNaN_nearest _ _ _, ?_⟩
      rw [level_nearest, level, level, natAbs_signed, signed_mul_natCast]

/-- A quotient is no smaller than a double that the divisor times it allows. -/
lemma le_level_div (ha : a.isFinite = true) (hb : b.isFinite = true) (hpos : 0 < b.level) {n : Nat}
    (hn : binary64.Holds n) (h : b.level * n ≤ a.level * unitsPerOne) : n ≤ (a / b).level := by
  rw [(level_div ha hb hpos).2, ← rounded_of_holds hn]
  refine rounded_le_rounded Nat.one_pos (Int.natAbs_pos.2 hpos.ne') ?_
  rwa [Int.natAbs_of_nonneg hpos.le, Nat.cast_one, Int.one_mul]

/-- A quotient is no larger than a double that the divisor times it allows. -/
lemma level_div_le (ha : a.isFinite = true) (hb : b.isFinite = true) (hpos : 0 < b.level) {n : Nat}
    (hn : binary64.Holds n) (h : a.level * unitsPerOne ≤ b.level * n) : (a / b).level ≤ n := by
  rw [(level_div ha hb hpos).2, ← rounded_of_holds hn]
  refine rounded_le_rounded (Int.natAbs_pos.2 hpos.ne') Nat.one_pos ?_
  rwa [Int.natAbs_of_nonneg hpos.le, Nat.cast_one, Int.one_mul]

/-- Quotients are in the order of their cross products. -/
lemma level_div_le_level_div {c d : Double} (ha : a.isFinite = true) (hb : b.isFinite = true)
    (hbpos : 0 < b.level) (hc : c.isFinite = true) (hd : d.isFinite = true) (hdpos : 0 < d.level)
    (h : a.level * d.level ≤ c.level * b.level) : (a / b).level ≤ (c / d).level := by
  rw [(level_div ha hb hbpos).2, (level_div hc hd hdpos).2]
  refine rounded_le_rounded (Int.natAbs_pos.2 hbpos.ne') (Int.natAbs_pos.2 hdpos.ne') ?_
  rw [Int.natAbs_of_nonneg hbpos.le, Int.natAbs_of_nonneg hdpos.le]
  calc d.level * (a.level * unitsPerOne) = a.level * d.level * unitsPerOne := by ring
    _ ≤ c.level * b.level * unitsPerOne := Int.mul_le_mul_of_nonneg_right h (Int.natCast_nonneg _)
    _ = b.level * (c.level * unitsPerOne) := by ring

lemma infinite_div (s : Bool) (hb : b.isFinite = true) (hpos : 0 < b.level) :
    infinite s / b = infinite s := by
  cases b with
  | nan | infinite t => exact absurd hb Bool.false_ne_true
  | finite t n hn =>
    cases t with
    | false => exact congrArg infinite (Bool.bne_false s)
    | true => exact absurd hpos (not_lt.2 (Int.neg_nonpos_of_nonneg (Int.natCast_nonneg n)))

end Double

end MissingSamples
