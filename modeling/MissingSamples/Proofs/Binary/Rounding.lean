/-
# Rounding keeps order

The numbers of a format near `n` units are the multiples of the quantum there, and the quantum
grows with `n`. Two quotients that share a quantum are rounded on one grid, where halving to even
keeps their order. Two that do not share one are separated by a power of two that the grids of
both hold, and neither is rounded across it.

* `divHalfEven_mono` is the case of one grid;
* `FloatFormat.round_mono` is the general case.
-/
import Mathlib.Tactic.Linarith
import MissingSamples.Binary.Double

namespace MissingSamples

lemma le_log2_iff {n k : Nat} (h : n ≠ 0) : k ≤ n.log2 ↔ twoPow k ≤ n := Nat.le_log2 h

lemma twoPow_log2_le {n : Nat} (h : n ≠ 0) : twoPow n.log2 ≤ n :=
  (le_log2_iff h).1 le_rfl

lemma twoPow_sub_mul {k q : Nat} (h : q ≤ k) : twoPow (k - q) * twoPow q = twoPow k := by
  rw [← twoPow_add, Nat.sub_add_cancel h]

lemma divHalfEven_zero (d : Nat) : divHalfEven 0 d = 0 := by
  have h : 2 * (0 % d) < d ∨ (2 * (0 % d) = d ∧ 0 / d % 2 = 0) := by
    rcases Nat.eq_zero_or_pos d with rfl | hd
    · exact Or.inr ⟨rfl, rfl⟩
    · exact Or.inl (by rwa [Nat.zero_mod])
  rw [divHalfEven, if_pos h, Nat.zero_div]

lemma divHalfEven_mono {a b d : Nat} (h : a ≤ b) : divHalfEven a d ≤ divHalfEven b d := by
  have hq : a / d ≤ b / d := Nat.div_le_div_right h
  rcases Nat.lt_or_eq_of_le hq with hlt | heq
  · exact (divHalfEven_le a d).trans ((Nat.succ_le_of_lt hlt).trans (le_divHalfEven b d))
  · have hmod : a % d ≤ b % d := by
      have ha := Nat.div_add_mod a d
      have hb := Nat.div_add_mod b d
      rw [heq] at ha
      omega
    unfold divHalfEven
    rw [heq]
    split_ifs <;> omega

namespace FloatFormat

variable (f : FloatFormat)

lemma quantum_mono {m n : Nat} (h : m ≤ n) : f.quantum m ≤ f.quantum n :=
  f.quantum_le (h.trans_lt (f.lt_twoPow_quantum n)) (f.least_le_quantum n)

/-- A quotient below a power of two is not rounded beyond it. -/
lemma round_le_twoPow {num den k : Nat} (h : num / den < twoPow k)
    (hk : f.quantum (num / den) ≤ k) : f.round num den ≤ twoPow k := by
  unfold round
  generalize f.quantum (num / den) = q at hk ⊢
  have hlt : num / (den * twoPow q) < twoPow (k - q) := by
    rw [← Nat.div_div_eq_div_mul]
    apply Nat.div_lt_of_lt_mul
    rwa [Nat.mul_comm, twoPow_sub_mul hk]
  calc divHalfEven num (den * twoPow q) * twoPow q
      ≤ twoPow (k - q) * twoPow q :=
        Nat.mul_le_mul_right _ ((divHalfEven_le _ _).trans (Nat.succ_le_of_lt hlt))
    _ = twoPow k := twoPow_sub_mul hk

/-- A quotient above a power of two is not rounded below it. -/
lemma twoPow_le_round {num den k : Nat} (h : twoPow k ≤ num / den)
    (hk : f.quantum (num / den) ≤ k) : twoPow k ≤ f.round num den := by
  unfold round
  generalize f.quantum (num / den) = q at hk ⊢
  have hle : twoPow (k - q) ≤ num / (den * twoPow q) := by
    rw [← Nat.div_div_eq_div_mul, Nat.le_div_iff_mul_le (twoPow_pos q), twoPow_sub_mul hk]
    exact h
  calc twoPow k = twoPow (k - q) * twoPow q := (twoPow_sub_mul hk).symm
    _ ≤ divHalfEven num (den * twoPow q) * twoPow q :=
        Nat.mul_le_mul_right _ (hle.trans (le_divHalfEven _ _))

/-- Rounding over one denominator keeps order. -/
theorem round_mono (den : Nat) {a b : Nat} (h : a ≤ b) : f.round a den ≤ f.round b den := by
  have hab : a / den ≤ b / den := Nat.div_le_div_right h
  rcases Nat.lt_or_eq_of_le (f.quantum_mono hab) with hlt | heq
  · -- the grid is coarser at `b`, so the leading power of two of `b / den` lies between the two
    have hleast : f.least < f.quantum (b / den) := (f.least_le_quantum _).trans_lt hlt
    have hquantum : f.quantum (b / den) = (b / den).log2 + 1 - f.precision := by
      unfold quantum at hleast ⊢
      omega
    have hb : b / den ≠ 0 := by
      intro h0
      have := f.precision_pos
      rw [hquantum, h0, Nat.log2_zero] at hleast
      omega
    have hk : f.quantum (b / den) ≤ (b / den).log2 := by
      have := f.precision_pos
      omega
    have ha : a / den < twoPow (b / den).log2 := by
      by_contra hge
      have hle : twoPow (b / den).log2 ≤ a / den := Nat.le_of_not_lt hge
      have hne : a / den ≠ 0 := (Nat.lt_of_lt_of_le (twoPow_pos _) hle).ne'
      have hlog : (b / den).log2 ≤ (a / den).log2 := (le_log2_iff hne).2 hle
      have : (a / den).log2 + 1 - f.precision ≤ f.quantum (a / den) := Nat.le_max_left _ _
      omega
    exact (f.round_le_twoPow ha (hlt.le.trans hk)).trans
      (f.twoPow_le_round (twoPow_log2_le hb) hk)
  · unfold round
    rw [heq]
    exact Nat.mul_le_mul_right _ (divHalfEven_mono h)

@[simp] lemma round_zero (den : Nat) : f.round 0 den = 0 := by
  rw [round, divHalfEven_zero, Nat.zero_mul]

end FloatFormat

end MissingSamples
