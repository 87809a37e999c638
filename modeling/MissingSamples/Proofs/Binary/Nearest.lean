/-
# The nearest number of a format

What rounding has to find, said without the way in which it is found: the number of the format to
which no other is nearer, and of two equally near ones the even one. There is only one such number.

Next to `n` units the multiples of the quantum of `n` are numbers of the format. Numbers on finer
grids lie below the leading power of two of `n`, and those on coarser grids are multiples all the
same, so the two multiples around `n` have no number of the format between them.

* `FloatFormat.le_or_le_of_onGrid` says that nothing lies between these two;
* `FloatFormat.nearest_round` says that rounding finds the nearest number, and
  `FloatFormat.Nearest.eq_round` that there is no other;
* `Double.roundsTo_nearest` says the same of doubles, where numbers beyond the format are infinite.
-/
import MissingSamples.Proofs.Binary.Narrowing

namespace MissingSamples

namespace FloatFormat

variable (f : FloatFormat)

/-- The format, if it had no end, would hold so many units. -/
def OnGrid (n : Nat) : Prop := n % twoPow (f.quantum n) = 0

/-- Of all numbers of the format, had it no end, `m` is the nearest to `n` units. Of two equally
near ones it is the even one, as a multiple of the quantum there. -/
structure Nearest (n m : Nat) : Prop where
  onGrid : f.OnGrid m
  closest : ∀ k, f.OnGrid k → (n - m : Int).natAbs ≤ (n - k : Int).natAbs
  even : ∀ k, f.OnGrid k → k ≠ m → (n - k : Int).natAbs = (n - m : Int).natAbs →
    m / twoPow (f.quantum n) % 2 = 0

variable {f}

/-- No number of the format lies between the two multiples of the quantum around a number. -/
lemma le_or_le_of_onGrid (n : Nat) {k : Nat} (hk : f.OnGrid k) :
    k ≤ n / twoPow (f.quantum n) * twoPow (f.quantum n) ∨
      n / twoPow (f.quantum n) * twoPow (f.quantum n) + twoPow (f.quantum n) ≤ k := by
  have hpos := twoPow_pos (f.quantum n)
  rcases Nat.lt_or_ge (f.quantum k) (f.quantum n) with hfiner | hcoarser
  · -- a power of two that is a multiple of the quantum lies between `k` and `n`
    left
    have hleast := f.least_le_quantum k
    have hprecision := f.precision_pos
    have hk : k < twoPow (f.quantum n - 1 + f.precision) :=
      (f.lt_twoPow_quantum k).trans_le (twoPow_le_twoPow (by omega))
    have hn : twoPow (f.quantum n - 1 + f.precision) ≤ n := by
      by_contra hlt
      have hle := f.quantum_le (Nat.lt_of_not_le hlt) (by omega)
      omega
    have hmultiple : twoPow (f.quantum n) ∣ twoPow (f.quantum n - 1 + f.precision) :=
      twoPow_dvd_twoPow (by omega)
    calc k ≤ twoPow (f.quantum n - 1 + f.precision) := hk.le
      _ = twoPow (f.quantum n - 1 + f.precision) / twoPow (f.quantum n) * twoPow (f.quantum n) :=
        (Nat.div_mul_cancel hmultiple).symm
      _ ≤ n / twoPow (f.quantum n) * twoPow (f.quantum n) :=
        Nat.mul_le_mul_right _ (Nat.div_le_div_right hn)
  · obtain ⟨j, rfl⟩ : twoPow (f.quantum n) ∣ k :=
      (twoPow_dvd_twoPow hcoarser).trans (Nat.dvd_of_mod_eq_zero hk)
    rw [Nat.mul_comm]
    rcases Nat.lt_or_ge (n / twoPow (f.quantum n)) j with hlt | hge
    · right
      rw [← Nat.succ_mul]
      exact Nat.mul_le_mul_right _ hlt
    · exact Or.inl (Nat.mul_le_mul_right _ hge)

/-- Rounding finds the nearest number of the format. -/
theorem nearest_round (n : Nat) : f.Nearest n (f.round n 1) := by
  have hdiv := Nat.div_add_mod' n (twoPow (f.quantum n))
  have hmod := Nat.mod_lt n (twoPow_pos (f.quantum n))
  have hround := f.round_one n
  refine ⟨f.round_mod_quantum n 1, fun k hk => ?_, fun k hk hne htie => ?_⟩
  · have hbetween := le_or_le_of_onGrid n hk
    unfold divHalfEven at hround
    split_ifs at hround with hdown
    · omega
    · rw [Nat.add_mul, Nat.one_mul] at hround
      omega
  · have hbetween := le_or_le_of_onGrid n hk
    rw [hround, Nat.mul_div_cancel _ (twoPow_pos _)]
    unfold divHalfEven at hround ⊢
    split_ifs at hround ⊢ with hdown
    · omega
    · rw [Nat.add_mul, Nat.one_mul] at hround
      omega

/-- A number of the format is the nearest one to itself. -/
lemma Nearest.of_holds {n : Nat} (h : f.Holds n) : f.Nearest n n := by
  have hr := f.nearest_round n
  rwa [round_of_holds f h] at hr

/-- Rounding gives one of the two multiples of the quantum around a number. -/
lemma round_eq_or (n : Nat) :
    f.round n 1 = n / twoPow (f.quantum n) * twoPow (f.quantum n) ∨
      f.round n 1 = (n / twoPow (f.quantum n) + 1) * twoPow (f.quantum n) := by
  rw [round_one]
  unfold divHalfEven
  split_ifs
  · exact Or.inl rfl
  · exact Or.inr rfl

/-- A number has no other nearest number than the one that rounding finds. -/
theorem Nearest.eq_round {n m : Nat} (h : f.Nearest n m) : m = f.round n 1 := by
  by_contra hne
  have hr := f.nearest_round n
  have htie : (n - m : Int).natAbs = (n - f.round n 1 : Int).natAbs :=
    le_antisymm (h.closest _ hr.onGrid) (hr.closest _ h.onGrid)
  have hmeven := h.even _ hr.onGrid (Ne.symm hne) htie.symm
  have hreven := hr.even _ h.onGrid hne htie
  -- the two lie on both sides of `n`, so they are neighbours, and one of them is odd
  have hpos := twoPow_pos (f.quantum n)
  have hdiv := Nat.div_add_mod' n (twoPow (f.quantum n))
  have hmod := Nat.mod_lt n hpos
  have hbetween := le_or_le_of_onGrid n h.onGrid
  have hup := f.two_mul_round_le n
  have hdown := f.two_mul_le_round n
  rcases f.round_eq_or n with hround | hround
  · have hm : m = (n / twoPow (f.quantum n) + 1) * twoPow (f.quantum n) := by
      rw [Nat.add_mul, Nat.one_mul]
      omega
    rw [hm, Nat.mul_div_cancel _ hpos] at hmeven
    rw [hround, Nat.mul_div_cancel _ hpos] at hreven
    omega
  · have hm : m = n / twoPow (f.quantum n) * twoPow (f.quantum n) := by
      rw [Nat.add_mul, Nat.one_mul] at hround
      omega
    rw [hm, Nat.mul_div_cancel _ hpos] at hmeven
    rw [hround, Nat.mul_div_cancel _ hpos] at hreven
    omega

end FloatFormat

namespace Double

open FloatFormat (binary64)

variable {f : FloatFormat} {s : Bool} {n : Nat}

/-- The double is what a number of so many units with the sign becomes in the format: the nearest
number there, or an infinity if that lies beyond the end of the format. -/
inductive RoundsTo (f : FloatFormat) (s : Bool) (n : Nat) : Double → Prop
  /-- The nearest number lies within the format. -/
  | within {m : Nat} (nearest : f.Nearest n m) (fits : m < twoPow f.limit)
    (hm : binary64.Holds m) : RoundsTo f s n (.finite s m hm)
  /-- The nearest number lies beyond the format. -/
  | beyond {m : Nat} (nearest : f.Nearest n m) (tooLarge : twoPow f.limit ≤ m) :
    RoundsTo f s n (.infinite s)

/-- Rounding to a narrow format gives the double that the number becomes there. -/
theorem roundsTo_nearest (h : f.IsNarrow) (s : Bool) (n : Nat) :
    RoundsTo f s n
      (if f.round n 1 < twoPow f.limit then nearest s (f.round n 1) 1 else infinite s) := by
  split_ifs with hfits
  · rw [nearest_of_holds s (FloatFormat.holds_binary64 h (FloatFormat.holds_round f hfits))]
    exact .within (f.nearest_round n) hfits _
  · exact .beyond (f.nearest_round n) (Nat.le_of_not_lt hfits)

/-- It becomes one double and no other. -/
theorem RoundsTo.unique {x y : Double} (hx : RoundsTo f s n x) (hy : RoundsTo f s n y) : x = y := by
  cases hx with
  | within hm hfits =>
    cases hy with
    | within hm' => simp only [hm.eq_round, hm'.eq_round]
    | beyond hm' htooLarge =>
      rw [hm.eq_round] at hfits
      rw [hm'.eq_round] at htooLarge
      omega
  | beyond hm htooLarge =>
    cases hy with
    | within hm' hfits =>
      rw [hm.eq_round] at htooLarge
      rw [hm'.eq_round] at hfits
      omega
    | beyond => rfl

end Double

end MissingSamples
