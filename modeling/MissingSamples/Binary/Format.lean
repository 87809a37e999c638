/-
# Binary floating-point formats

Every magnitude in this library is a natural number of *units*, and one unit is `2 ^ -1074`, the
smallest positive double. A format then says which numbers of units it can hold: those with few
enough significant bits, coarse enough and small enough. The formats of this file share the unit,
so a number of a narrow format *is* a number of a wide one, and only narrowing rounds.

* `FloatFormat.round` takes a quotient to the nearest number of the format, ties to even, and
  knows no upper limit;
* `holds_round` says that what it returns is a number of the format as soon as it lies below the
  limit;
* `round_of_holds` says that a number of the format is rounded to itself.
-/
import MissingSamples.Binary.Power

namespace MissingSamples

/-- The natural number nearest to `a / b`; of two equally near ones, the even one. -/
def divHalfEven (a b : Nat) : Nat :=
  if 2 * (a % b) < b ∨ (2 * (a % b) = b ∧ a / b % 2 = 0) then a / b else a / b + 1

theorem divHalfEven_le (a b : Nat) : divHalfEven a b ≤ a / b + 1 := by
  unfold divHalfEven
  split <;> omega

theorem le_divHalfEven (a b : Nat) : a / b ≤ divHalfEven a b := by
  unfold divHalfEven
  split <;> omega

theorem divHalfEven_of_dvd {a b : Nat} (hb : 0 < b) (h : a % b = 0) :
    divHalfEven a b = a / b := by
  unfold divHalfEven
  rw [if_pos]
  left
  omega

/-- A binary floating-point format: how many significant bits its numbers have, how fine the
finest of them are, and where they end. -/
structure FloatFormat where
  /-- The number of significant bits. -/
  precision : Nat
  /-- The smallest positive number is `2 ^ least` units. -/
  least : Nat
  /-- Every finite number lies below `2 ^ limit` units. -/
  limit : Nat
  precision_pos : 0 < precision := by decide
deriving DecidableEq

namespace FloatFormat

/-- The format of doubles. -/
def binary64 : FloatFormat where
  precision := 53
  least := 0
  limit := 2098

/-- The format of single-precision numbers: the smallest is `2 ^ -149`. -/
def binary32 : FloatFormat where
  precision := 24
  least := 925
  limit := 1202

/-- The format of half-precision numbers: the smallest is `2 ^ -24`. -/
def binary16 : FloatFormat where
  precision := 11
  least := 1050
  limit := 1090

/-- Sixty-four significant bits, as extended numbers have them. Those lie finer than our units, so
magnitudes have to be counted in smaller ones before they are looked up here. -/
def extended : FloatFormat where
  precision := 64
  least := 0
  limit := 2162

/-- The numbers of the format near `n` units are the multiples of `2 ^ quantum n` units. -/
def quantum (f : FloatFormat) (n : Nat) : Nat := max (n.log2 + 1 - f.precision) f.least

/-- The format holds a number of exactly `n` units. -/
def Holds (f : FloatFormat) (n : Nat) : Prop := n < twoPow f.limit ∧ n % twoPow (f.quantum n) = 0

instance (f : FloatFormat) (n : Nat) : Decidable (f.Holds n) :=
  inferInstanceAs (Decidable (_ ∧ _))

/-- The number nearest to `num / den` units, ties to even, as if the format had no limit. -/
def round (f : FloatFormat) (num den : Nat) : Nat :=
  divHalfEven num (den * twoPow (f.quantum (num / den))) * twoPow (f.quantum (num / den))

variable (f : FloatFormat)

theorem least_le_quantum (n : Nat) : f.least ≤ f.quantum n := Nat.le_max_right _ _

theorem lt_twoPow_quantum (n : Nat) : n < twoPow (f.quantum n + f.precision) := by
  refine Nat.lt_of_lt_of_le (lt_twoPow_log2 n) (twoPow_le_twoPow ?_)
  have : n.log2 + 1 - f.precision ≤ f.quantum n := Nat.le_max_left _ _
  omega

theorem quantum_le {n k : Nat} (h : n < twoPow (k + f.precision)) (hk : f.least ≤ k) :
    f.quantum n ≤ k := by
  refine Nat.max_le.2 ⟨?_, hk⟩
  by_cases hn : n = 0
  · subst hn
    simp only [Nat.log2_zero]
    have := f.precision_pos
    omega
  · have := (log2_lt_iff hn).2 h
    omega

theorem mod_twoPow_eq_zero {n k l : Nat} (h : n % twoPow k = 0) (hl : l ≤ k) :
    n % twoPow l = 0 :=
  Nat.mod_eq_zero_of_dvd (Nat.dvd_trans (twoPow_dvd_twoPow hl) (Nat.dvd_of_mod_eq_zero h))

/-- The rounded number is a multiple of its own quantum. -/
theorem round_mod_quantum (num den : Nat) :
    f.round num den % twoPow (f.quantum (f.round num den)) = 0 := by
  unfold round
  generalize hk : f.quantum (num / den) = k
  generalize hq : divHalfEven num (den * twoPow k) = q
  have hq_le : q ≤ twoPow f.precision := by
    have h1 := divHalfEven_le num (den * twoPow k)
    have h2 : num / (den * twoPow k) < twoPow f.precision := by
      rw [← Nat.div_div_eq_div_mul]
      apply Nat.div_lt_of_lt_mul
      rw [← twoPow_add, ← hk]
      exact f.lt_twoPow_quantum _
    omega
  have hk_le : f.least ≤ k := hk ▸ f.least_le_quantum _
  rcases Nat.lt_or_eq_of_le hq_le with hlt | rfl
  · apply mod_twoPow_eq_zero (k := k) (Nat.mul_mod_left _ _)
    apply f.quantum_le _ hk_le
    rw [Nat.add_comm, twoPow_add]
    exact Nat.mul_lt_mul_of_pos_right hlt (twoPow_pos k)
  · rw [← twoPow_add]
    apply mod_twoPow_eq_zero (k := f.precision + k) (Nat.mod_self _)
    have := f.precision_pos
    refine Nat.le_trans (f.quantum_le (k := k + 1) ?_ (by omega)) (by omega)
    exact twoPow_lt_twoPow (by omega)

theorem holds_round {num den : Nat} (h : f.round num den < twoPow f.limit) :
    f.Holds (f.round num den) :=
  ⟨h, f.round_mod_quantum num den⟩

theorem round_of_holds {n : Nat} (h : f.Holds n) : f.round n 1 = n := by
  unfold round
  rw [Nat.div_one, Nat.one_mul, divHalfEven_of_dvd (twoPow_pos _) h.2]
  exact Nat.div_mul_cancel (Nat.dvd_of_mod_eq_zero h.2)

theorem holds_zero : f.Holds 0 := ⟨twoPow_pos _, Nat.zero_mod _⟩

end FloatFormat

end MissingSamples
