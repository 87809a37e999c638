/-
# The numbers near a sentinel

The numbers near a sentinel form an interval: what lies between the sentinel and a number near it is
near it as well. Around zero all differences are divided by one scale, and the order of the numbers
is that of the quotients. Around any other sentinel the scale moves with the numbers beyond it. The
exact quotients still grow with the distance, and rounding them keeps their order, but only if the
differences are exact too. They are: what is near the sentinel is at most half of it away, and the
difference of two doubles that close is a double.

The scale must not change between the two numbers, as it does where a difference falls below the
smallest normal number. Around sentinels beyond `2 ^ -970` no two doubles are that close.

* `FloatFormat.holds_sub` is about differences of close numbers;
* `two_mul_abs_level_sub_le` says that what is near a sentinel is at most half of it away;
* `nearlyEqual_of_between` is the interval.
-/
import MissingSamples.Policy
import MissingSamples.Proofs.Comparison.Separation

namespace MissingSamples

open Double

open FloatFormat (binary64)

/-! ## Exact differences -/

/-- The difference of two numbers of a format, the larger at most twice the smaller, is a number of
the format. -/
theorem FloatFormat.holds_sub (f : FloatFormat) {m n : Nat} (hm : f.Holds m) (hn : f.Holds n)
    (hle : n ≤ m) (hclose : m ≤ 2 * n) : f.Holds (m - n) := by
  -- both lie on the grid of the smaller one, and the difference is no larger than that
  have hdvd : twoPow (f.quantum n) ∣ m - n :=
    Nat.dvd_sub ((twoPow_dvd_twoPow (f.quantum_mono hle)).trans (Nat.dvd_of_mod_eq_zero hm.2))
      (Nat.dvd_of_mod_eq_zero hn.2)
  have hquantum : f.quantum (m - n) ≤ f.quantum n := f.quantum_mono (by omega)
  exact ⟨(Nat.sub_le m n).trans_lt hm.1,
    FloatFormat.mod_twoPow_eq_zero (Nat.mod_eq_zero_of_dvd hdvd) hquantum⟩

variable {t v w : Double}

lemma Double.holds_natAbs_level (h : v.isFinite = true) : binary64.Holds v.level.natAbs := by
  cases v with
  | nan | infinite s => exact absurd h Bool.false_ne_true
  | finite s m hm => rwa [level, natAbs_signed]

/-- The distance of a number from one that is at least twice as large is a double. -/
lemma holds_natAbs_level_sub (hv : v.isFinite = true) (ht : t.isFinite = true)
    (hclose : 2 * (v.level - t.level).natAbs ≤ t.level.natAbs) :
    binary64.Holds (v.level - t.level).natAbs := by
  have hholds := holds_natAbs_level hv
  have hholds' := holds_natAbs_level ht
  rcases le_total v.level.natAbs t.level.natAbs with hle | hle
  · have hsub : (v.level - t.level).natAbs = t.level.natAbs - v.level.natAbs := by omega
    rw [hsub]
    exact binary64.holds_sub hholds' hholds hle (by omega)
  · have hsub : (v.level - t.level).natAbs = v.level.natAbs - t.level.natAbs := by omega
    rw [hsub]
    exact binary64.holds_sub hholds hholds' hle (by omega)

/-- A distance that is a double is what is computed for it. -/
lemma level_abs_sub_of_holds (hv : v.isFinite = true) (ht : t.isFinite = true)
    (h : binary64.Holds (v.level - t.level).natAbs) :
    (v - t).abs.isFinite = true ∧ (v - t).abs.level = (v.level - t.level).natAbs := by
  have habs : |v.level - t.level| = ((v.level - t.level).natAbs : Int) := Int.abs_eq_natAbs _
  refine ⟨(level_abs_sub_le hv ht h habs.le).1, ?_⟩
  rw [level_abs_sub hv ht, habs, rounded_of_holds h]

/-! ## The scale of a comparison -/

lemma level_ne_zero_of_large (hlarge : (twoPow 104 : Int) < |t.level|) : t.level ≠ 0 :=
  abs_pos.1 ((Int.natCast_nonneg _).trans_lt hlarge)

/-- Beyond `2 ^ -970` two different numbers lie apart by the smallest normal number at least. -/
lemma twoPow_le_abs_level_sub (hv : v.isFinite = true) (ht : t.isFinite = true)
    (hne : v.level ≠ t.level) (hlarge : (twoPow 104 : Int) < |t.level|) :
    (twoPow 52 : Int) ≤ |v.level - t.level| := by
  obtain ⟨j, -, hle, hmax⟩ := exists_twoPow_le_abs_sub hv ht hne
  have hexponent : twoPow 104 < twoPow (j + 53) :=
    Int.ofNat_lt.1 (hlarge.trans_le ((le_max_right _ _).trans hmax))
  have hj : 52 ≤ j := by
    by_contra hlt
    exact absurd hexponent (not_lt.2 (twoPow_le_twoPow (by omega)))
  exact (Int.ofNat_le.2 (twoPow_le_twoPow hj)).trans hle

/-- Beyond `2 ^ -970` the difference of numbers other than zero is divided by the larger one. -/
lemma level_comparisonScale (hv : v.isFinite = true) (ht : t.isFinite = true)
    (hne : v.level ≠ t.level) (hlarge : (twoPow 104 : Int) < |t.level|) (hv0 : v.isZero = false) :
    (comparisonScale v t).level = max |v.level| |t.level| := by
  have ht0 : t.isZero = false := isZero_eq_false ht (level_ne_zero_of_large hlarge)
  rw [comparisonScale, hv0, ht0,
    abs_sub_lt_smallestNormal hv ht (twoPow_le_abs_level_sub hv ht hne hlarge), Bool.or_self,
    Bool.or_self, if_neg Bool.false_ne_true, level_larger_abs hv ht]

/-! ## What is near is close -/

lemma isFinite_of_nearlyEqual (ht : t.isFinite = true) (h : nearlyEqual w t = true) :
    w.isFinite = true := by
  cases t with
  | nan | infinite r => exact absurd ht Bool.false_ne_true
  | finite r n hn =>
    cases w with
    | nan =>
      have hincomparable : Incomparable nan (finite r n hn) := Or.inl Bool.noConfusion
      rw [nearlyEqual, relativeDifference_of_incomparable hincomparable] at h
      exact h
    | infinite s =>
      cases h0 : (finite r n hn).isZero with
      | true =>
        rw [nearlyEqual, relativeDifference_infinite_of_isZero s h0, infinite_lt] at h
        exact h
      | false =>
        have hincomparable : Incomparable (infinite s) (finite r n hn) :=
          Or.inr ⟨rfl, Or.inl rfl, ⟨rfl, h0⟩, rfl, rfl⟩
        rw [nearlyEqual, relativeDifference_of_incomparable hincomparable] at h
        exact h
    | finite s m hm => rfl

/-- Rounding does not take a third of a number below an eighth of it. -/
lemma le_rounded_mul {m n : Nat} (hm : m < twoPow binary64.limit) (h : m ≤ 3 * n) :
    (m : Int) ≤ rounded n 1 * twoPow 3 := by
  rcases Nat.eq_zero_or_pos m with rfl | hpos
  · exact mul_nonneg (rounded_nonneg (Int.natCast_nonneg n) 1) (Int.natCast_nonneg _)
  · have hlog : m.log2 < binary64.limit := (log2_lt_iff hpos.ne').2 hm
    -- a quarter of the leading power of two of the number is no more than the third of it
    have hpower : twoPow (m.log2 - 2) ≤ n := by
      rcases Nat.lt_or_ge m.log2 2 with hsmall | hlarge
      · have hone : twoPow (m.log2 - 2) = 1 := by
          rw [Nat.sub_eq_zero_of_le hsmall.le]
          rfl
        omega
      · have hquarter : twoPow (m.log2 - 2) * 4 ≤ m :=
          (twoPow_sub_mul hlarge).trans_le (twoPow_log2_le hpos.ne')
        omega
    have hrounded : (twoPow (m.log2 - 2) : Int) ≤ rounded n 1 := by
      rw [← rounded_of_holds (holds_twoPow ((Nat.sub_le _ 2).trans_lt hlog))]
      exact rounded_mono (Int.ofNat_le.2 hpower)
    calc (m : Int) ≤ (twoPow (m.log2 + 1) : Nat) := Int.ofNat_le.2 (lt_twoPow_log2 m).le
      _ ≤ (twoPow (m.log2 - 2 + 3) : Nat) := Int.ofNat_le.2 (twoPow_le_twoPow (by omega))
      _ = twoPow (m.log2 - 2) * twoPow 3 := by rw [twoPow_add, Nat.cast_mul]
      _ ≤ rounded n 1 * twoPow 3 := Int.mul_le_mul_of_nonneg_right hrounded (Int.natCast_nonneg _)

/-- A distance that is more than half of a number is computed as at least an eighth of the larger
number. -/
lemma max_le_level_abs_sub_mul (hv : v.isFinite = true) (ht : t.isFinite = true)
    (hfar : |t.level| < 2 * |v.level - t.level|) :
    max |v.level| |t.level| ≤ (v - t).abs.level * twoPow 3 := by
  rw [level_abs_sub hv ht]
  simp only [Int.abs_eq_natAbs, ← Nat.cast_max] at hfar ⊢
  refine le_rounded_mul ?_ (by omega)
  exact max_lt (holds_natAbs_level hv).1 (holds_natAbs_level ht).1

/-- What is near a number beyond `2 ^ -970` is at most half of it away. -/
theorem two_mul_abs_level_sub_le (ht : t.isFinite = true) (hlarge : (twoPow 104 : Int) < |t.level|)
    (hnear : nearlyEqual v t = true) : 2 * |v.level - t.level| ≤ |t.level| := by
  have hv := isFinite_of_nearlyEqual ht hnear
  by_contra hfar
  rw [not_le] at hfar
  have hne : v.level ≠ t.level := by
    intro heq
    rw [heq, sub_self, abs_zero, mul_zero] at hfar
    exact absurd hfar (not_lt.2 (abs_nonneg _))
  have hscale : (comparisonScale v t).level ≤ max |v.level| |t.level| := by
    cases hv0 : v.isZero with
    | true =>
      have hsmall : smallestNormal.level ≤ (twoPow 104 : Nat) := by decide +kernel
      rw [comparisonScale_of_isZero (by rw [hv0, Bool.true_or])]
      exact hsmall.trans (hlarge.le.trans (le_max_right _ _))
    | false => exact (level_comparisonScale hv ht hne hlarge hv0).le
  obtain ⟨hfinite, hpos⟩ := comparisonScale_pos hv ht
  have hnot : nearlyEqual v t = false := by
    rw [nearlyEqual, relativeDifference_of_not_matching (matching_eq_false_of_level_ne hv ht hne)]
    exact div_lt_tolerance_eq_false (by decide) (by rw [isNaN_abs, isNaN_sub hv ht]) hfinite hpos
      (hscale.trans (max_le_level_abs_sub_mul hv ht hfar))
  exact ne_true_of_eq_false hnot hnear

/-! ## Between a sentinel and what is near it -/

namespace Double

/-- The second number lies between the first and the third, or is one of them. -/
def Between (t v w : Double) : Prop :=
  (t.le v = true ∧ v.le w = true) ∨ (w.le v = true ∧ v.le t = true)

instance (t v w : Double) : Decidable (Between t v w) := inferInstanceAs (Decidable (_ ∨ _))

lemma Between.level (h : Between t v w) :
    t.level ≤ v.level ∧ v.level ≤ w.level ∨ w.level ≤ v.level ∧ v.level ≤ t.level := by
  rcases h with ⟨hlow, hhigh⟩ | ⟨hlow, hhigh⟩
  · exact Or.inl ⟨(le_iff.1 hlow).2.2, (le_iff.1 hhigh).2.2⟩
  · exact Or.inr ⟨(le_iff.1 hlow).2.2, (le_iff.1 hhigh).2.2⟩

lemma Between.isFinite (h : Between t v w) (ht : t.isFinite = true) (hw : w.isFinite = true) :
    v.isFinite = true := by
  have hnan : v.isNaN = false := by
    rcases h with ⟨-, hhigh⟩ | ⟨-, hhigh⟩
    · exact (le_iff.1 hhigh).1
    · exact (le_iff.1 hhigh).1
  have htlimit := abs_lt.1 (abs_level_lt ht)
  have hwlimit := abs_lt.1 (abs_level_lt hw)
  have hlevel := h.level
  refine isFinite_of_abs_level_lt hnan (abs_lt.2 ?_)
  omega

end Double

/-- Of two integers on one side of a third, apart from it by at most half of it, the nearer one is
apart by the smaller part of the larger number. -/
lemma natAbs_sub_mul_max_le {x y z : Int} (hbetween : z ≤ x ∧ x ≤ y ∨ y ≤ x ∧ x ≤ z)
    (hclose : 2 * (y - z).natAbs ≤ z.natAbs) :
    (x - z).natAbs * max y.natAbs z.natAbs ≤ (y - z).natAbs * max x.natAbs z.natAbs := by
  have hle : (x - z).natAbs ≤ (y - z).natAbs := by omega
  -- on the side of zero the third one is the larger number, on the other side the distance adds up
  have hside : (x.natAbs ≤ z.natAbs ∧ y.natAbs ≤ z.natAbs) ∨
      (x.natAbs = z.natAbs + (x - z).natAbs ∧ y.natAbs = z.natAbs + (y - z).natAbs) := by omega
  rcases hside with ⟨hx, hy⟩ | ⟨hx, hy⟩
  · rw [max_eq_right hx, max_eq_right hy]
    exact Nat.mul_le_mul_right _ hle
  · rw [max_eq_left (by omega), max_eq_left (by omega), hx, hy, Nat.mul_add, Nat.mul_add,
      Nat.mul_comm (x - z).natAbs (y - z).natAbs]
    exact Nat.add_le_add_right (Nat.mul_le_mul_right _ hle) _

section Near

variable (hv : v.isFinite = true) (hw : w.isFinite = true) (ht : t.isFinite = true)
  (hvt : v.level ≠ t.level) (hwt : w.level ≠ t.level) (hnear : nearlyEqual w t = true)
include hv hw ht hvt hwt hnear

/-- A number is near another if it lies apart by a smaller part of its scale than one that is near,
and the distances are exact. -/
lemma nearlyEqual_of_part_le (hvd : binary64.Holds (v.level - t.level).natAbs)
    (hwd : binary64.Holds (w.level - t.level).natAbs)
    (hpart : ((v.level - t.level).natAbs : Int) * (comparisonScale w t).level
      ≤ (w.level - t.level).natAbs * (comparisonScale v t).level) :
    nearlyEqual v t = true := by
  obtain ⟨hvfinite, hvlevel⟩ := level_abs_sub_of_holds hv ht hvd
  obtain ⟨hwfinite, hwlevel⟩ := level_abs_sub_of_holds hw ht hwd
  obtain ⟨hvscale, hvpos⟩ := comparisonScale_pos hv ht
  obtain ⟨hwscale, hwpos⟩ := comparisonScale_pos hw ht
  rw [nearlyEqual,
    relativeDifference_of_not_matching (matching_eq_false_of_level_ne hw ht hwt)] at hnear
  rw [nearlyEqual, relativeDifference_of_not_matching (matching_eq_false_of_level_ne hv ht hvt)]
  have hle : ((v - t).abs / comparisonScale v t).level
      ≤ ((w - t).abs / comparisonScale w t).level :=
    level_div_le_level_div hvfinite hvscale hvpos hwfinite hwscale hwpos
      (by rwa [hvlevel, hwlevel])
  obtain ⟨-, htolerance, hlt⟩ := lt_iff.1 hnear
  exact lt_iff.2 ⟨(level_div hvfinite hvscale hvpos).1, htolerance, hle.trans_lt hlt⟩

/-- Around zero the distances are the numbers themselves, and one scale serves them all. -/
lemma nearlyEqual_of_between_of_isZero (hzero : t.isZero = true) (hbetween : Between t v w) :
    nearlyEqual v t = true := by
  have h0 : t.level = 0 := (level_eq_zero_iff ht).2 hzero
  have hholds : ∀ x : Double, x.isFinite = true → binary64.Holds (x.level - t.level).natAbs := by
    intro x hx
    rw [h0, Int.sub_zero]
    exact holds_natAbs_level hx
  have hscale : ∀ x, comparisonScale x t = smallestNormal := fun x =>
    comparisonScale_of_isZero (by rw [hzero, Bool.or_true])
  refine nearlyEqual_of_part_le hv hw ht hvt hwt hnear (hholds v hv) (hholds w hw) ?_
  have hle : (v.level - t.level).natAbs ≤ (w.level - t.level).natAbs := by
    have hlevel := hbetween.level
    omega
  rw [hscale, hscale, level_smallestNormal.2]
  exact_mod_cast Nat.mul_le_mul_right _ hle

/-- Beyond `2 ^ -970` the distances are exact, for the numbers are close. -/
lemma nearlyEqual_of_between_of_large (hlarge : (twoPow 104 : Int) < |t.level|)
    (hbetween : Between t v w) : nearlyEqual v t = true := by
  have hlevel := hbetween.level
  have ht0 := level_ne_zero_of_large hlarge
  have hwclose : 2 * (w.level - t.level).natAbs ≤ t.level.natAbs := by
    have hclose := two_mul_abs_level_sub_le ht hlarge hnear
    rw [Int.abs_eq_natAbs, Int.abs_eq_natAbs] at hclose
    omega
  have hvclose : 2 * (v.level - t.level).natAbs ≤ t.level.natAbs := by omega
  have hv0 : v.isZero = false := isZero_eq_false hv (by omega)
  have hw0 : w.isZero = false := isZero_eq_false hw (by omega)
  refine nearlyEqual_of_part_le hv hw ht hvt hwt hnear (holds_natAbs_level_sub hv ht hvclose)
    (holds_natAbs_level_sub hw ht hwclose) ?_
  rw [level_comparisonScale hv ht hvt hlarge hv0, level_comparisonScale hw ht hwt hlarge hw0,
    Int.abs_eq_natAbs, Int.abs_eq_natAbs, Int.abs_eq_natAbs]
  exact_mod_cast natAbs_sub_mul_max_le hlevel hwclose

end Near

/-- Whatever lies between a sentinel and a number near it is near it too, if the sentinel is zero or
beyond `2 ^ -970`. -/
theorem nearlyEqual_of_between_near (ht : t.isFinite = true)
    (hsize : t.isZero = true ∨ (twoPow 104 : Int) < |t.level|) (hbetween : Between t v w)
    (hnear : nearlyEqual w t = true) : nearlyEqual v t = true := by
  have hw := isFinite_of_nearlyEqual ht hnear
  have hv := hbetween.isFinite ht hw
  by_cases hvt : v.level = t.level
  · exact nearlyEqual_of_matching ((matching_iff_level hv ht).2 hvt) zero_lt_tolerance
  · have hwt : w.level ≠ t.level := by
      have hlevel := hbetween.level
      omega
    rcases hsize with hzero | hlarge
    · exact nearlyEqual_of_between_of_isZero hv hw ht hvt hwt hnear hzero hbetween
    · exact nearlyEqual_of_between_of_large hv hw ht hvt hwt hnear hlarge hbetween

/-- The double `2 ^ -969`. Different doubles of this magnitude or more lie apart by the smallest
normal number at least. -/
def Double.sparseFrom : Double := 1 / ofInt (2 ^ 969)

lemma level_sparseFrom : sparseFrom.level = twoPow 105 := by
  decide +kernel

/-- Around half of this number the interval has a gap: a number below is near it, and the number half
way between the two is not. -/
example :
    nearlyEqual (sparseFrom / 2 - smallestNormal) (sparseFrom / 2) = true ∧
      nearlyEqual (sparseFrom / 2 - smallestNormal / 2) (sparseFrom / 2) = false := by
  decide +kernel

lemma isZero_or_large (h : t.isZero = true ∨ sparseFrom.le t.abs = true) :
    t.isZero = true ∨ (twoPow 104 : Int) < |t.level| := by
  refine h.imp_right fun hle => ?_
  have hlevel : sparseFrom.level ≤ t.abs.level := (le_iff.1 hle).2.2
  rw [level_sparseFrom, level_abs] at hlevel
  exact (Int.ofNat_lt.2 (twoPow_lt_twoPow (by decide))).trans_le hlevel

/-- Matching a sentinel accepts an interval: if a number is near a sentinel that is zero or at least
`2 ^ -969` large, so are all numbers between the two. -/
theorem nearlyEqual_of_between (ht : t.isFinite = true)
    (hsize : t.isZero = true ∨ sparseFrom.le t.abs = true) (hbetween : Between t v w)
    (hnear : nearlyEqual w t = true) : nearlyEqual v t = true :=
  nearlyEqual_of_between_near ht (isZero_or_large hsize) hbetween hnear

/-- A number that is near a million, and one that is closer. -/
theorem nearlyEqual_of_between_of_million :
    ((1000000 : Double).isFinite = true ∧ sparseFrom.le (1000000 : Double).abs = true ∧
        Between 1000000 1000004 1000009 ∧ nearlyEqual 1000009 1000000 = true) ∧
      nearlyEqual 1000004 1000000 = true := by
  have hfinite : (1000000 : Double).isFinite = true := by decide +kernel
  have hsize : sparseFrom.le (1000000 : Double).abs = true := by decide +kernel
  have hbetween : Between 1000000 1000004 1000009 := by decide +kernel
  have hnear : nearlyEqual 1000009 1000000 = true := by decide +kernel
  exact ⟨⟨hfinite, hsize, hbetween, hnear⟩,
    nearlyEqual_of_between hfinite (Or.inr hsize) hbetween hnear⟩

end MissingSamples
