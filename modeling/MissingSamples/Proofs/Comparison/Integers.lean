/-
# Whole numbers and the tolerance

The tolerance is no double: the double nearest to one part in a hundred thousand lies a little above
it, and a quotient is rounded before it is compared. Neither matters for whole numbers that doubles
hold. Two of them that differ by less than the hundred thousandth part of the larger one do so by at
least the part of one in it, and this keeps the quotient below the middle between the double of the
tolerance and the double before.

* `FloatFormat.round_lt_of_lt_middle` says what is rounded below a number of the format;
* `round_lt_tolerance_iff` compares the rounded quotient of whole numbers with the tolerance;
* `nearlyEqual_ofInt_iff` says which whole numbers are nearly equal.
-/
import Mathlib.Tactic.Ring
import MissingSamples.Proofs.Comparison.Separation
import MissingSamples.Proofs.Sample

namespace MissingSamples

open Double

open FloatFormat (binary64)

/-! ## The middle between two numbers of a format -/

/-- What lies below the middle between two whole numbers is not rounded up to the second. -/
lemma divHalfEven_lt {a b c : Nat} (h : 2 * a + b < 2 * c * b) : divHalfEven a b < c := by
  have hb : 0 < b := Nat.pos_of_ne_zero fun hb => by simp [hb] at h
  have hdiv : a / b * b + a % b = a := Nat.div_add_mod' a b
  unfold divHalfEven
  split_ifs with hdown
  · have hlt : a / b * b < c * b := by
      rw [Nat.mul_assoc] at h
      omega
    exact Nat.lt_of_mul_lt_mul_right hlt
  · have hlt : (a / b + 1) * b < c * b := by
      rw [Nat.mul_assoc] at h
      rw [Nat.add_mul, Nat.one_mul]
      omega
    exact Nat.lt_of_mul_lt_mul_right hlt

/-- What lies below the middle between a number with all significant bits and the number before it
is rounded below the number. -/
theorem FloatFormat.round_lt_of_lt_middle (f : FloatFormat) {num den c e : Nat}
    (hlow : twoPow (f.precision - 1) < c) (hhigh : c ≤ twoPow f.precision) (he : f.least ≤ e)
    (h : 2 * num + den * twoPow e < 2 * c * (den * twoPow e)) :
    f.round num den < c * twoPow e := by
  have hden : 0 < den := Nat.pos_of_ne_zero fun hden => by simp [hden] at h
  have hquotient : num / den < c * twoPow e := by
    refine Nat.div_lt_of_lt_mul ?_
    rw [Nat.mul_left_comm]
    rw [Nat.mul_assoc] at h
    omega
  have hquantum : f.quantum (num / den) ≤ e := by
    refine f.quantum_le (hquotient.trans_le ?_) he
    rw [Nat.add_comm, twoPow_add]
    exact Nat.mul_le_mul_right _ hhigh
  rcases Nat.lt_or_eq_of_le hquantum with hfine | hsame
  · -- on a finer grid the quotient has one leading bit less than the number
    have hp := f.precision_pos
    have hbelow : num / den < twoPow (f.precision - 1 + e) :=
      (f.lt_twoPow_quantum _).trans_le (twoPow_le_twoPow (by omega))
    calc f.round num den ≤ twoPow (f.precision - 1 + e) := f.round_le_twoPow hbelow (by omega)
      _ = twoPow (f.precision - 1) * twoPow e := twoPow_add _ _
      _ < c * twoPow e := Nat.mul_lt_mul_of_pos_right hlow (twoPow_pos e)
  · rw [FloatFormat.round, hsame]
    exact Nat.mul_lt_mul_of_pos_right (divHalfEven_lt h) (twoPow_pos e)

/-! ## Quotients next to the tolerance -/

/-- The significant bits of the tolerance and where they stand. -/
lemma level_tolerance : tolerance.level = (5902958103587057 * twoPow 1005 : Nat) := by
  decide +kernel

/-- The tolerance is the hundred thousandth part of one, rounded. -/
lemma level_tolerance_eq_round : tolerance.level = (binary64.round unitsPerOne 100000 : Nat) := by
  decide +kernel

/-- A quotient of whole numbers is rounded below the tolerance exactly if it is below the hundred
thousandth part of one. -/
theorem round_lt_tolerance_iff {k l : Nat} (hpos : 0 < l) (hl : l ≤ 2 ^ 53) :
    (binary64.round (k * unitsPerOne) l : Int) < tolerance.level ↔ 100000 * k < l := by
  constructor
  · intro hlt
    by_contra hge
    rw [Nat.not_lt] at hge
    refine absurd hlt (not_lt.2 ?_)
    rw [level_tolerance_eq_round, Int.ofNat_le]
    have hmul : l * unitsPerOne ≤ 100000 * (k * unitsPerOne) := by
      rw [← Nat.mul_assoc]
      exact Nat.mul_le_mul_right _ hge
    calc binary64.round unitsPerOne 100000
        = binary64.round (l * unitsPerOne) (l * 100000) := (binary64.round_mul_mul hpos _ _).symm
      _ ≤ binary64.round (100000 * (k * unitsPerOne)) (l * 100000) := binary64.round_mono _ hmul
      _ = binary64.round (k * unitsPerOne) l := by
          rw [Nat.mul_comm l, binary64.round_mul_mul (by decide)]
  · intro hlt
    have hunit : unitsPerOne = 590295810358705651712 * twoPow 1005 := by decide +kernel
    -- the quotient misses the hundred thousandth part of one by the part of one in `100000 * l`
    have hmiddle : 2 * (k * 590295810358705651712) + l < 2 * 5902958103587057 * l := by omega
    rw [level_tolerance, Int.ofNat_lt]
    refine binary64.round_lt_of_lt_middle (by decide +kernel) (by decide +kernel) (Nat.zero_le _) ?_
    calc 2 * (k * unitsPerOne) + l * twoPow 1005
        = (2 * (k * 590295810358705651712) + l) * twoPow 1005 := by
          rw [hunit]
          ring
      _ < 2 * 5902958103587057 * l * twoPow 1005 :=
          Nat.mul_lt_mul_of_pos_right hmiddle (twoPow_pos _)
      _ = 2 * 5902958103587057 * (l * twoPow 1005) := Nat.mul_assoc _ _ _

/-- A quotient of whole numbers, as doubles, is below the tolerance exactly if it is below the
hundred thousandth part of one. -/
theorem div_lt_tolerance_iff {d e : Double} (hd : d.isFinite = true) (he : e.isFinite = true)
    {k l : Nat} (hpos : 0 < l) (hl : l ≤ 2 ^ 53)
    (hdl : d.level = ((k * unitsPerOne : Nat) : Int))
    (hel : e.level = ((l * unitsPerOne : Nat) : Int)) :
    (d / e).lt tolerance = true ↔ 100000 * k < l := by
  have hepos : 0 < e.level := by
    rw [hel]
    exact_mod_cast Nat.mul_pos hpos unitsPerOne_pos
  obtain ⟨hnan, hlevel⟩ := level_div hd he hepos
  have hround : (d / e).level
      = ((min (binary64.round (k * unitsPerOne) l) (twoPow binary64.limit) : Nat) : Int) := by
    rw [hlevel, hdl, hel, ← Nat.cast_mul, Int.natAbs_natCast, Nat.mul_comm l,
      Nat.mul_comm (k * unitsPerOne), rounded, Int.natAbs_natCast,
      binary64.round_mul_mul unitsPerOne_pos, decide_eq_false (not_lt.2 (Int.natCast_nonneg _))]
    rfl
  have hlimit : tolerance.level < twoPow binary64.limit :=
    (le_abs_self _).trans_lt (abs_level_lt isFinite_tolerance)
  rw [← round_lt_tolerance_iff hpos hl, lt_iff, hround, Nat.cast_min, min_lt_iff]
  constructor
  · rintro ⟨-, -, hlt | hlt⟩
    · exact hlt
    · exact absurd (hlt.trans hlimit) (lt_irrefl _)
  · intro hlt
    exact ⟨hnan, isNaN_of_isFinite isFinite_tolerance, Or.inl hlt⟩

/-! ## Whole numbers as doubles -/

lemma holds_mul_unitsPerOne {n : Nat} (h : n ≤ 2 ^ 53) : binary64.Holds (n * unitsPerOne) := by
  have hunit : unitsPerOne = twoPow 1074 := rfl
  have h53 : 2 ^ 53 = twoPow 53 := rfl
  rw [h53] at h
  rw [hunit]
  rcases Nat.lt_or_eq_of_le h with hlt | rfl
  · have hbelow : n * twoPow 1074 < twoPow (1074 + 53) := by
      rw [Nat.add_comm, twoPow_add]
      exact Nat.mul_lt_mul_of_pos_right hlt (twoPow_pos _)
    exact ⟨hbelow.trans (twoPow_lt_twoPow (by decide)), FloatFormat.mod_twoPow_eq_zero
      (Nat.mul_mod_left n (twoPow 1074)) (binary64.quantum_le hbelow (Nat.zero_le _))⟩
  · rw [← twoPow_add]
    exact holds_twoPow (by decide)

variable {i m n : Int}

/-- A whole number of at most `2 ^ 53` is a double. -/
lemma level_ofInt_of_le (h : i.natAbs ≤ 2 ^ 53) :
    (ofInt i).isFinite = true ∧ (ofInt i).level = i * unitsPerOne := by
  have hholds := holds_mul_unitsPerOne h
  have hlevel : (ofInt i).level = i * unitsPerOne := by
    rw [level_ofInt]
    rcases Int.natAbs_eq i with hi | hi
    · conv_lhs => rw [hi, ← Nat.cast_mul, rounded_of_holds hholds, Nat.cast_mul, ← hi]
    · conv_lhs => rw [hi, Int.neg_mul, ← Nat.cast_mul, rounded_neg, rounded_of_holds hholds,
        Nat.cast_mul, ← Int.neg_mul, ← hi]
  refine ⟨isFinite_of_abs_level_lt (isNaN_ofInt i) ?_, hlevel⟩
  rw [hlevel, Int.abs_eq_natAbs, Int.natAbs_mul, Int.natAbs_natCast]
  exact_mod_cast hholds.1

/-- The distance of two whole numbers as doubles, before it is rounded. -/
lemma abs_level_ofInt_sub (hm : m.natAbs ≤ 2 ^ 53) (hn : n.natAbs ≤ 2 ^ 53) :
    |(ofInt m).level - (ofInt n).level| = (((m - n).natAbs * unitsPerOne : Nat) : Int) := by
  rw [(level_ofInt_of_le hm).2, (level_ofInt_of_le hn).2, ← Int.sub_mul, Int.abs_eq_natAbs,
    Int.natAbs_mul, Int.natAbs_natCast]

/-- What is left of the distance of two whole numbers when it is computed: all of it, or at least as
much as the numbers may have themselves. -/
lemma level_abs_ofInt_sub (hm : m.natAbs ≤ 2 ^ 53) (hn : n.natAbs ≤ 2 ^ 53) :
    (ofInt m - ofInt n).abs.isFinite = true ∧
      (((m - n).natAbs ≤ 2 ^ 53 ∧
          (ofInt m - ofInt n).abs.level = (((m - n).natAbs * unitsPerOne : Nat) : Int)) ∨
        (2 ^ 53 < (m - n).natAbs ∧
          ((2 ^ 53 * unitsPerOne : Nat) : Int) ≤ (ofInt m - ofInt n).abs.level)) := by
  have hmf := (level_ofInt_of_le hm).1
  have hnf := (level_ofInt_of_le hn).1
  have hlevel : (ofInt m - ofInt n).abs.level
      = rounded (((m - n).natAbs * unitsPerOne : Nat) : Int) 1 := by
    rw [level_abs_sub hmf hnf, abs_level_ofInt_sub hm hn]
  constructor
  · have hsum : (m - n).natAbs ≤ 2 ^ 54 := by omega
    have hbound : binary64.Holds (2 ^ 54 * unitsPerOne) := by decide +kernel
    refine (level_abs_sub_le hmf hnf hbound ?_).1
    rw [abs_level_ofInt_sub hm hn]
    exact_mod_cast Nat.mul_le_mul_right unitsPerOne hsum
  · rcases Nat.lt_or_ge (2 ^ 53) (m - n).natAbs with hfar | hnear
    · refine Or.inr ⟨hfar, ?_⟩
      rw [hlevel, ← rounded_of_holds (holds_mul_unitsPerOne le_rfl)]
      exact rounded_mono (by exact_mod_cast Nat.mul_le_mul_right unitsPerOne hfar.le)
    · refine Or.inl ⟨hnear, ?_⟩
      rw [hlevel, rounded_of_holds (holds_mul_unitsPerOne hnear)]

lemma matching_ofInt_eq_false (hm : m.natAbs ≤ 2 ^ 53) (hn : n.natAbs ≤ 2 ^ 53) (h : m ≠ n) :
    (ofInt m).matching (ofInt n) = false := by
  obtain ⟨hmf, hml⟩ := level_ofInt_of_le hm
  obtain ⟨hnf, hnl⟩ := level_ofInt_of_le hn
  refine matching_eq_false_of_level_ne hmf hnf fun hlevel => ?_
  rw [hml, hnl] at hlevel
  have hunit : (unitsPerOne : Int) ≠ 0 := by exact_mod_cast unitsPerOne_pos.ne'
  exact h (Int.eq_of_mul_eq_mul_right hunit hlevel)

/-! ## Nearly equal whole numbers -/

/-- Next to zero only zero is nearly equal. -/
lemma nearlyEqual_ofInt_of_zero (hm : m.natAbs ≤ 2 ^ 53) (hn : n.natAbs ≤ 2 ^ 53) (h : m ≠ n)
    (hzero : m = 0 ∨ n = 0) : nearlyEqual (ofInt m) (ofInt n) = false := by
  have hisZero : ((ofInt m).isZero || (ofInt n).isZero) = true := by
    have h0 : (ofInt 0).isZero = true := by decide +kernel
    rcases hzero with rfl | rfl
    · rw [h0, Bool.true_or]
    · rw [h0, Bool.or_true]
  have hone : 1 ≤ (m - n).natAbs := by omega
  have hunit : smallestNormal.level ≤ unitsPerOne := by decide +kernel
  have hpos : 0 < smallestNormal.level := by decide +kernel
  obtain ⟨hfinite, hlevel⟩ := level_abs_ofInt_sub hm hn
  have hle : (unitsPerOne : Int) ≤ (ofInt m - ofInt n).abs.level := by
    rcases hlevel with ⟨-, hlevel⟩ | ⟨-, hlevel⟩
    · rw [hlevel]
      exact_mod_cast Nat.le_mul_of_pos_left unitsPerOne hone
    · refine le_trans ?_ hlevel
      exact_mod_cast Nat.le_mul_of_pos_left unitsPerOne (by decide)
  rw [nearlyEqual, relativeDifference_of_not_matching (matching_ofInt_eq_false hm hn h),
    comparisonScale_of_isZero hisZero]
  exact div_lt_tolerance_eq_false (Nat.zero_le 16) (isNaN_of_isFinite hfinite)
    level_smallestNormal.1 hpos ((hunit.trans hle).trans_eq (mul_one _).symm)

/-- Other whole numbers are compared by the exact quotient. -/
lemma nearlyEqual_ofInt_of_ne_zero (hm : m.natAbs ≤ 2 ^ 53) (hn : n.natAbs ≤ 2 ^ 53) (h : m ≠ n)
    (hm0 : m ≠ 0) (hn0 : n ≠ 0) :
    nearlyEqual (ofInt m) (ofInt n) = true ↔
      100000 * (m - n).natAbs < max m.natAbs n.natAbs := by
  obtain ⟨hmf, hml⟩ := level_ofInt_of_le hm
  obtain ⟨hnf, hnl⟩ := level_ofInt_of_le hn
  obtain ⟨hfinite, hdistance⟩ := level_abs_ofInt_sub hm hn
  have hunit : (0 : Int) < unitsPerOne := by exact_mod_cast unitsPerOne_pos
  have hmax : max m.natAbs n.natAbs ≤ 2 ^ 53 := max_le hm hn
  have hmaxpos : 0 < max m.natAbs n.natAbs := lt_max_of_lt_left (Int.natAbs_pos.2 hm0)
  have hlarger : (larger (ofInt m).abs (ofInt n).abs).level
      = ((max m.natAbs n.natAbs * unitsPerOne : Nat) : Int) := by
    rw [level_larger_abs hmf hnf, hml, hnl, Int.abs_eq_natAbs, Int.abs_eq_natAbs, Int.natAbs_mul,
      Int.natAbs_mul, Int.natAbs_natCast, ← Nat.cast_max, Nat.mul_max_mul_right]
  have hpos : 0 < (larger (ofInt m).abs (ofInt n).abs).level := by
    rw [hlarger]
    exact_mod_cast Nat.mul_pos hmaxpos unitsPerOne_pos
  have hlf := isFinite_larger_abs hmf hnf
  have hnormal : (ofInt m - ofInt n).abs.lt smallestNormal = false := by
    refine abs_sub_lt_smallestNormal hmf hnf ?_
    rw [abs_level_ofInt_sub hm hn]
    have hone : 1 ≤ (m - n).natAbs := by omega
    have h52 : twoPow 52 ≤ unitsPerOne := twoPow_le_twoPow (by decide)
    exact_mod_cast h52.trans (Nat.le_mul_of_pos_left unitsPerOne hone)
  rw [nearlyEqual, relativeDifference_eq_div (matching_ofInt_eq_false hm hn h)
    (isZero_eq_false hmf (by rw [hml]; exact mul_ne_zero hm0 hunit.ne'))
    (isZero_eq_false hnf (by rw [hnl]; exact mul_ne_zero hn0 hunit.ne')) hnormal]
  rcases hdistance with ⟨hnear, hlevel⟩ | ⟨hfar, hlevel⟩
  · exact div_lt_tolerance_iff hfinite hlf hmaxpos hmax hlevel hlarger
  · have hle : (larger (ofInt m).abs (ofInt n).abs).level ≤ (ofInt m - ofInt n).abs.level := by
      rw [hlarger]
      refine le_trans ?_ hlevel
      exact_mod_cast Nat.mul_le_mul_right unitsPerOne hmax
    rw [div_lt_tolerance_eq_false (Nat.zero_le 16) (isNaN_of_isFinite hfinite) hlf hpos
      (hle.trans_eq (mul_one _).symm)]
    refine iff_of_false Bool.false_ne_true ?_
    omega

/-- Two whole numbers of at most `2 ^ 53` are nearly equal exactly if they are equal or differ by
less than the hundred thousandth part of the larger one. Up to a hundred thousand, only equal ones
are. -/
theorem nearlyEqual_ofInt_iff (hm : |m| ≤ 2 ^ 53) (hn : |n| ≤ 2 ^ 53) :
    (nearlyEqual (ofInt m) (ofInt n) = true ↔ m = n ∨ 100000 * |m - n| < max |m| |n|) ∧
      (|m| ≤ 100000 → |n| ≤ 100000 → (nearlyEqual (ofInt m) (ofInt n) = true ↔ m = n)) := by
  rw [Int.abs_eq_natAbs] at hm hn
  have hm' : m.natAbs ≤ 2 ^ 53 := by exact_mod_cast hm
  have hn' : n.natAbs ≤ 2 ^ 53 := by exact_mod_cast hn
  have hiff : nearlyEqual (ofInt m) (ofInt n) = true ↔
      m = n ∨ 100000 * (m - n).natAbs < max m.natAbs n.natAbs := by
    by_cases h : m = n
    · subst h
      exact iff_of_true (nearlyEqual_of_matching (matching_self _) zero_lt_tolerance) (Or.inl rfl)
    · by_cases hzero : m = 0 ∨ n = 0
      · rw [nearlyEqual_ofInt_of_zero hm' hn' h hzero]
        refine iff_of_false Bool.false_ne_true ?_
        omega
      · rw [not_or] at hzero
        rw [nearlyEqual_ofInt_of_ne_zero hm' hn' h hzero.1 hzero.2, or_iff_right h]
  simp only [Int.abs_eq_natAbs]
  refine ⟨hiff.trans (or_congr_right (by exact_mod_cast Iff.rfl)), fun hm5 hn5 => ?_⟩
  rw [hiff]
  constructor
  · rintro (h | h)
    · exact h
    · omega
  · exact Or.inl

/-- On both sides of the boundary next to `2 ^ 53`: a hundred thousand times the difference of the
first two numbers is less than the larger one, and more for the next number. -/
theorem nearlyEqual_ofInt_iff_at_boundary :
    (|9007199254740992| ≤ (2 ^ 53 : Int) ∧ |9007109182748445| ≤ (2 ^ 53 : Int) ∧
        nearlyEqual (ofInt 9007199254740992) (ofInt 9007109182748445) = true) ∧
      |9007109182748444| ≤ (2 ^ 53 : Int) ∧
        ¬nearlyEqual (ofInt 9007199254740992) (ofInt 9007109182748444) = true := by
  have hlarge : |9007199254740992| ≤ (2 ^ 53 : Int) := by decide
  have hnear : |9007109182748445| ≤ (2 ^ 53 : Int) := by decide
  have hfar : |9007109182748444| ≤ (2 ^ 53 : Int) := by decide
  refine ⟨⟨hlarge, hnear, ?_⟩, hfar, ?_⟩
  · exact (nearlyEqual_ofInt_iff hlarge hnear).1.2 (by decide)
  · rw [(nearlyEqual_ofInt_iff hlarge hfar).1]
    decide

end MissingSamples
