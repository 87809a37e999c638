/-
# Doubles at single precision

Rounding a number to a format moves it by at most half of the quantum there. The numbers of a
narrow format are doubles, so a double is narrowed by rounding it once, and a double within the
range of single precision stays finite. Where the narrow format has all its significant bits, half a
quantum is a fixed part of the number.

* `FloatFormat.two_mul_round_le` and `FloatFormat.two_mul_le_round` bound what rounding does;
* `Double.narrow_le_narrow` says that narrowing keeps order;
* `Double.two_mul_abs_level_narrow_sub_le` bounds what narrowing does, and
  `Double.abs_level_narrow_sub_le` bounds it next to the number.
-/
import MissingSamples.Proofs.Binary.Quotient

namespace MissingSamples

/-! ## How far rounding goes -/

/-- Halving to even goes up by at most half of the divisor. -/
lemma two_mul_divHalfEven_le (a d : Nat) : 2 * (divHalfEven a d * d) ≤ 2 * a + d := by
  have hdiv : a / d * d + a % d = a := Nat.div_add_mod' a d
  unfold divHalfEven
  split_ifs with hdown
  · omega
  · rw [Nat.add_mul, Nat.one_mul]
    omega

/-- Halving to even goes down by at most half of the divisor. -/
lemma two_mul_le_divHalfEven {a d : Nat} (hd : 0 < d) :
    2 * a ≤ 2 * (divHalfEven a d * d) + d := by
  have hdiv : a / d * d + a % d = a := Nat.div_add_mod' a d
  have hmod : a % d < d := Nat.mod_lt a hd
  unfold divHalfEven
  split_ifs with hdown
  · omega
  · rw [Nat.add_mul, Nat.one_mul]
    omega

namespace FloatFormat

variable (f : FloatFormat)

lemma round_one (n : Nat) :
    f.round n 1 = divHalfEven n (twoPow (f.quantum n)) * twoPow (f.quantum n) := by
  rw [round, Nat.div_one, Nat.one_mul]

theorem two_mul_round_le (n : Nat) : 2 * f.round n 1 ≤ 2 * n + twoPow (f.quantum n) := by
  rw [round_one]
  exact two_mul_divHalfEven_le n _

theorem two_mul_le_round (n : Nat) : 2 * n ≤ 2 * f.round n 1 + twoPow (f.quantum n) := by
  rw [round_one]
  exact two_mul_le_divHalfEven (twoPow_pos _)

lemma twoPow_quantum_dvd_round (n : Nat) : twoPow (f.quantum n) ∣ f.round n 1 := by
  rw [round_one]
  exact Nat.dvd_mul_left _ _

/-- How many units the smallest number with all its significant bits has. -/
def smallestNormal : Nat := twoPow (f.least + f.precision - 1)

/-- How many units the largest number has. -/
def largest : Nat := (twoPow f.precision - 1) * twoPow (f.limit - f.precision)

/-- From the smallest number with all significant bits on, the leading bit tells the quantum. -/
lemma quantum_of_smallestNormal_le {n : Nat} (h : f.smallestNormal ≤ n) :
    f.quantum n + f.precision = n.log2 + 1 := by
  have hn : n ≠ 0 := (Nat.lt_of_lt_of_le (twoPow_pos _) h).ne'
  have hlog : f.least + f.precision - 1 ≤ n.log2 := (le_log2_iff hn).2 h
  have hprecision := f.precision_pos
  unfold quantum
  omega

lemma holds_largest_binary32 : binary32.Holds binary32.largest := by
  decide +kernel

/-- The format has no more significant bits than doubles have, and ends no later. -/
def IsNarrow : Prop := f.precision ≤ binary64.precision ∧ f.limit ≤ binary64.limit

instance : Decidable f.IsNarrow := inferInstanceAs (Decidable (_ ∧ _))

lemma isNarrow_binary32 : binary32.IsNarrow := by
  decide

variable {f}

/-- Doubles are the finer grid everywhere. -/
lemma quantum_binary64_le (h : f.IsNarrow) (n : Nat) : binary64.quantum n ≤ f.quantum n := by
  have hprecision : f.precision ≤ 53 := h.1
  simp only [quantum, binary64]
  omega

/-- A number of a narrow format is a double. -/
lemma holds_binary64 (h : f.IsNarrow) {n : Nat} (hn : f.Holds n) : binary64.Holds n :=
  ⟨hn.1.trans_le (twoPow_le_twoPow h.2), mod_twoPow_eq_zero hn.2 (quantum_binary64_le h n)⟩

lemma round_le_largest {n : Nat} (h : n ≤ binary32.largest) :
    binary32.round n 1 ≤ binary32.largest :=
  (binary32.round_mono 1 h).trans_eq (round_of_holds _ holds_largest_binary32)

end FloatFormat

namespace Double

open FloatFormat (binary32 binary64)

/-- The number is finite, and at most as large as the largest number of single precision. -/
def IsSingle (x : Double) : Prop := x.isFinite = true ∧ x.level.natAbs ≤ binary32.largest

instance (x : Double) : Decidable x.IsSingle := inferInstanceAs (Decidable (_ ∧ _))

/-! ## Narrowing in range -/

lemma narrow_finite (s : Bool) {m : Nat} (hm : binary64.Holds m) (h : m ≤ binary32.largest) :
    ∃ hr, (finite s m hm).narrow binary32 = finite s (binary32.round m 1) hr := by
  have hlimit : binary32.round m 1 < twoPow binary32.limit :=
    (FloatFormat.round_le_largest h).trans_lt FloatFormat.holds_largest_binary32.1
  have hholds := FloatFormat.holds_binary64 FloatFormat.isNarrow_binary32
    (FloatFormat.holds_round _ hlimit)
  refine ⟨hholds, ?_⟩
  rw [narrow, if_pos hlimit, nearest_of_holds s hholds]

variable {x y : Double}

/-- The signed magnitude of a narrowed number. -/
lemma level_narrow (h : x.IsSingle) :
    (x.narrow binary32).isFinite = true ∧
      (x.narrow binary32).level
        = signed (decide (x.level < 0)) (binary32.round x.level.natAbs 1) := by
  cases x with
  | nan | infinite s => exact absurd h.1 Bool.false_ne_true
  | finite s m hm =>
    have hm' : m ≤ binary32.largest := by simpa [level, natAbs_signed] using h.2
    obtain ⟨hr, hnarrow⟩ := narrow_finite s hm hm'
    rw [hnarrow]
    refine ⟨rfl, ?_⟩
    rw [level, level, natAbs_signed]
    rcases Nat.eq_zero_or_pos m with rfl | hpos
    · rw [FloatFormat.round_zero, signed_zero, signed_zero]
    · have hs : decide (signed s m < 0) = s := by
        cases s <;> simp [signed, hpos]
      rw [hs]

lemma isFinite_narrow (h : x.IsSingle) : (x.narrow binary32).isFinite = true :=
  (level_narrow h).1

/-- Narrowing keeps order. -/
theorem narrow_le_narrow (hx : x.IsSingle) (hy : y.IsSingle) (h : x.le y = true) :
    (x.narrow binary32).le (y.narrow binary32) = true := by
  obtain ⟨hxfin, hxlevel⟩ := level_narrow hx
  obtain ⟨hyfin, hylevel⟩ := level_narrow hy
  have hle : x.level ≤ y.level := (le_iff.1 h).2.2
  refine le_iff.2 ⟨isNaN_of_isFinite hxfin, isNaN_of_isFinite hyfin, ?_⟩
  rw [hxlevel, hylevel]
  by_cases hxneg : x.level < 0 <;> by_cases hyneg : y.level < 0
  · have hround := binary32.round_mono 1 (show y.level.natAbs ≤ x.level.natAbs by omega)
    simp only [hxneg, hyneg, decide_true, signed, if_true]
    omega
  · simp only [hxneg, hyneg, decide_true, decide_false, signed, if_true, Bool.false_eq_true,
      if_false]
    omega
  · omega
  · have hround := binary32.round_mono 1 (show x.level.natAbs ≤ y.level.natAbs by omega)
    simp only [hxneg, hyneg, decide_false, signed, Bool.false_eq_true, if_false]
    omega

/-- Narrowing moves a number by the distance of the magnitudes. -/
lemma abs_level_narrow_sub (h : x.IsSingle) :
    |(x.narrow binary32).level - x.level|
      = |(binary32.round x.level.natAbs 1 : Int) - x.level.natAbs| := by
  rw [(level_narrow h).2]
  by_cases hneg : x.level < 0
  · simp only [hneg, decide_true, signed, if_true]
    rw [← abs_neg]
    congr 1
    omega
  · simp only [hneg, decide_false, signed, Bool.false_eq_true, if_false]
    congr 1
    omega

/-- Narrowing moves a number by at most half of the quantum. -/
theorem two_mul_abs_level_narrow_sub_le (h : x.IsSingle) :
    2 * |(x.narrow binary32).level - x.level| ≤ twoPow (binary32.quantum x.level.natAbs) := by
  have hup := binary32.two_mul_round_le x.level.natAbs
  have hdown := binary32.two_mul_le_round x.level.natAbs
  have hle : |(binary32.round x.level.natAbs 1 : Int) - x.level.natAbs|
      ≤ twoPow (binary32.quantum x.level.natAbs) / 2 := by
    rw [abs_le]
    omega
  rw [abs_level_narrow_sub h]
  omega

/-- A number with all significant bits is moved by at most half a quantum, which its leading bit
tells. -/
theorem abs_level_narrow_sub_le (h : x.IsSingle)
    (hnormal : binary32.smallestNormal ≤ x.level.natAbs) :
    |(x.narrow binary32).level - x.level| ≤ twoPow (x.level.natAbs.log2 - 24) := by
  have hhalf := two_mul_abs_level_narrow_sub_le h
  have hquantum := binary32.quantum_of_smallestNormal_le hnormal
  have hleast := binary32.least_le_quantum x.level.natAbs
  have hprecision : binary32.precision = 24 := rfl
  have hpositive : 0 < binary32.least := by decide
  have hsplit : binary32.quantum x.level.natAbs = 1 + (x.level.natAbs.log2 - 24) := by omega
  have htwo : twoPow 1 = 2 := rfl
  rw [hsplit, twoPow_add, htwo, Nat.cast_mul] at hhalf
  exact le_of_mul_le_mul_left hhalf two_pos

lemma dvd_signed {k n : Nat} (h : k ∣ n) (s : Bool) : (k : Int) ∣ signed s n := by
  have hcast : (k : Int) ∣ (n : Int) := Int.natCast_dvd_natCast.2 h
  cases s with
  | false => exact hcast
  | true => exact Int.dvd_neg.2 hcast

/-- A number and what becomes of it lie on the grid of doubles around the number. -/
lemma twoPow_dvd_level_narrow_sub (h : x.IsSingle) :
    ((twoPow (binary64.quantum x.level.natAbs) : Nat) : Int)
      ∣ (x.narrow binary32).level - x.level := by
  have hround : twoPow (binary64.quantum x.level.natAbs) ∣ binary32.round x.level.natAbs 1 :=
    (twoPow_dvd_twoPow (FloatFormat.quantum_binary64_le FloatFormat.isNarrow_binary32 _)).trans
      (binary32.twoPow_quantum_dvd_round _)
  have hlevel : twoPow (binary64.quantum x.level.natAbs) ∣ x.level.natAbs := by
    cases x with
    | nan | infinite s => exact absurd h.1 Bool.false_ne_true
    | finite s m hm =>
      rw [level, natAbs_signed]
      exact Nat.dvd_of_mod_eq_zero hm.2
  rw [(level_narrow h).2]
  refine Int.dvd_sub (dvd_signed hround _) ?_
  rw [← signed_natAbs x.level]
  exact dvd_signed (by rwa [signed_natAbs]) _

end Double

end MissingSamples
