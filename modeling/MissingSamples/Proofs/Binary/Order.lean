/-
# Doubles in order

Where a double stands among the others is one integer, its *level*: the signed number of its
units, an infinity standing one step beyond all finite numbers. Comparing doubles is comparing
levels, and rounding a quotient to a double is a map on levels.

* `lt_iff`, `same_iff` and `le_iff` reduce comparisons to levels;
* `largest_lt_iff` says that nothing finite is above the largest finite number;
* `rounded` is rounding as it acts on levels, and `rounded_mono` says that it keeps order.
-/
import MissingSamples.Proofs.Binary.Rounding

namespace MissingSamples.Double

open FloatFormat (binary64)

/-- Where the number stands: its signed units, with the infinities beyond all finite numbers. -/
def level : Double → Int
  | nan => 0
  | infinite s => signed s (twoPow binary64.limit)
  | finite s m _ => signed s m

/-- The first number is at most the second. -/
def le (a b : Double) : Bool := a.lt b || a.same b

/-! ## Signs and levels -/

lemma signed_mul (s t : Bool) (m n : Nat) :
    signed s m * signed t n = signed (s != t) (m * n) := by
  cases s <;> cases t <;> simp [signed]

lemma signed_mul_natCast (s : Bool) (m n : Nat) : signed s (m * n) = signed s m * n := by
  cases s <;> simp [signed]

lemma natAbs_signed (s : Bool) (m : Nat) : (signed s m).natAbs = m := by
  cases s <;> simp [signed]

lemma signed_natAbs (i : Int) : signed (decide (i < 0)) i.natAbs = i := by
  by_cases h : i < 0 <;> simp only [signed, h, decide_true, decide_false, if_true,
    Bool.false_eq_true, if_false] <;> omega

lemma signed_not (s : Bool) (m : Nat) : signed (!s) m = -signed s m := by
  cases s <;> simp [signed]

@[simp] lemma signed_zero (s : Bool) : signed s 0 = 0 := by
  cases s <;> rfl

@[simp] lemma level_zero (s : Bool) : (zero s).level = 0 := signed_zero s

lemma abs_signed (s : Bool) (m : Nat) : |signed s m| = m := by
  cases s <;> simp [signed]

lemma abs_level_le (a : Double) : |a.level| ≤ twoPow binary64.limit := by
  cases a with
  | nan => exact abs_zero.trans_le (Int.natCast_nonneg _)
  | infinite s => exact (abs_signed s _).le
  | finite s m h =>
    rw [level, abs_signed]
    exact_mod_cast h.1.le

lemma abs_level_lt {a : Double} (h : a.isFinite = true) : |a.level| < twoPow binary64.limit := by
  cases a with
  | nan | infinite s => simp [isFinite] at h
  | finite s m hm =>
    rw [level, abs_signed]
    exact_mod_cast hm.1

/-! ## Comparisons -/

theorem lt_iff {a b : Double} :
    a.lt b = true ↔ a.isNaN = false ∧ b.isNaN = false ∧ a.level < b.level := by
  -- the level of an infinity is above zero and above all units, and no more is needed of it
  have hpos : (0 : Int) < twoPow binary64.limit := by exact_mod_cast twoPow_pos _
  cases a with
  | nan => simp [lt, isNaN]
  | infinite s =>
    cases b with
    | nan => simp [lt, isNaN]
    | infinite t =>
      simp only [lt, isNaN, level]
      generalize twoPow binary64.limit = top at hpos ⊢
      cases s <;> cases t <;> simp [signed]
      omega
    | finite t n hn =>
      have hlt : (n : Int) < twoPow binary64.limit := by exact_mod_cast hn.1
      simp only [lt, isNaN, level]
      generalize twoPow binary64.limit = top at hlt ⊢
      cases s <;> cases t <;> simp [signed] <;> omega
  | finite s m hm =>
    have hlt : (m : Int) < twoPow binary64.limit := by exact_mod_cast hm.1
    cases b with
    | nan => simp [lt, isNaN]
    | infinite t =>
      simp only [lt, isNaN, level]
      generalize twoPow binary64.limit = top at hlt ⊢
      cases s <;> cases t <;> simp [signed] <;> omega
    | finite t n hn => simp [lt, isNaN, level]

theorem same_iff {a b : Double} :
    a.same b = true ↔ a.isNaN = false ∧ b.isNaN = false ∧ a.level = b.level := by
  have hpos : (0 : Int) < twoPow binary64.limit := by exact_mod_cast twoPow_pos _
  cases a with
  | nan => simp [same, isNaN]
  | infinite s =>
    cases b with
    | nan => simp [same, isNaN]
    | infinite t =>
      simp only [same, isNaN, level]
      generalize twoPow binary64.limit = top at hpos ⊢
      cases s <;> cases t <;> simp [signed] <;> omega
    | finite t n hn =>
      have hlt : (n : Int) < twoPow binary64.limit := by exact_mod_cast hn.1
      simp only [same, isNaN, level]
      generalize twoPow binary64.limit = top at hlt ⊢
      cases s <;> cases t <;> simp [signed] <;> omega
  | finite s m hm =>
    have hlt : (m : Int) < twoPow binary64.limit := by exact_mod_cast hm.1
    cases b with
    | nan => simp [same, isNaN]
    | infinite t =>
      simp only [same, isNaN, level]
      generalize twoPow binary64.limit = top at hlt ⊢
      cases s <;> cases t <;> simp [signed] <;> omega
    | finite t n hn => simp [same, isNaN, level]

theorem le_iff {a b : Double} :
    a.le b = true ↔ a.isNaN = false ∧ b.isNaN = false ∧ a.level ≤ b.level := by
  rw [le, Bool.or_eq_true, lt_iff, same_iff, le_iff_lt_or_eq]
  tauto

lemma lt_congr_left {a b : Double} (h : a.same b = true) (c : Double) : a.lt c = b.lt c := by
  obtain ⟨ha, hb, hab⟩ := same_iff.1 h
  rw [Bool.eq_iff_iff, lt_iff, lt_iff, ha, hb, hab]

lemma lt_congr_right {a b : Double} (h : a.same b = true) (c : Double) : c.lt a = c.lt b := by
  obtain ⟨ha, hb, hab⟩ := same_iff.1 h
  rw [Bool.eq_iff_iff, lt_iff, lt_iff, ha, hb, hab]

lemma lt_eq_false_of_le {a b : Double} (h : a.le b = true) : b.lt a = false := by
  rw [le_iff] at h
  rw [Bool.eq_false_iff, ne_eq, lt_iff]
  omega

lemma le_of_lt_eq_false {a b : Double} (ha : a.isNaN = false) (hb : b.isNaN = false)
    (h : b.lt a = false) : a.le b = true := by
  rw [Bool.eq_false_iff, ne_eq, lt_iff] at h
  refine le_iff.2 ⟨ha, hb, ?_⟩
  by_contra hlt
  exact h ⟨hb, ha, not_le.1 hlt⟩

lemma le_trans {a b c : Double} (hab : a.le b = true) (hbc : b.le c = true) : a.le c = true := by
  rw [le_iff] at hab hbc ⊢
  exact ⟨hab.1, hbc.2.1, hab.2.2.trans hbc.2.2⟩

lemma lt_of_le_of_lt {a b c : Double} (hab : a.le b = true) (hbc : b.lt c = true) :
    a.lt c = true := by
  rw [le_iff] at hab
  rw [lt_iff] at hbc ⊢
  exact ⟨hab.1, hbc.2.1, hab.2.2.trans_lt hbc.2.2⟩

lemma lt_of_lt_of_le {a b c : Double} (hab : a.lt b = true) (hbc : b.le c = true) :
    a.lt c = true := by
  rw [le_iff] at hbc
  rw [lt_iff] at hab ⊢
  exact ⟨hab.1, hbc.2.1, hab.2.2.trans_le hbc.2.2⟩

lemma le_refl {a : Double} (h : a.isNaN = false) : a.le a = true :=
  le_iff.2 ⟨h, h, le_rfl⟩

lemma le_infinite {a : Double} (h : a.isNaN = false) : a.le (infinite false) = true :=
  le_iff.2 ⟨h, rfl, (abs_le.1 a.abs_level_le).2⟩

lemma infinite_le {a : Double} (h : a.isNaN = false) : (infinite true).le a = true :=
  le_iff.2 ⟨rfl, h, (abs_le.1 a.abs_level_le).1⟩

lemma eq_infinite_of_not_isFinite {a : Double} (h : a.isNaN = false)
    (hf : ¬a.isFinite = true) : ∃ s, a = infinite s := by
  cases a with
  | nan => simp [isNaN] at h
  | infinite s => exact ⟨s, rfl⟩
  | finite s m hm => exact absurd rfl hf

/-- Of two numbers in order, the lower is the least of all, or the upper is the greatest, or both
are finite. -/
lemma ends_or_finite_of_le {a b : Double} (h : a.le b = true) :
    a = infinite true ∨ b = infinite false ∨ (a.isFinite = true ∧ b.isFinite = true) := by
  obtain ⟨hna, hnb, hab⟩ := le_iff.1 h
  -- an infinity is no end only if it stands on the wrong side, and then the levels disagree
  have hpos : (0 : Int) < twoPow binary64.limit := by exact_mod_cast twoPow_pos _
  by_cases hb : b.isFinite = true
  · by_cases ha : a.isFinite = true
    · exact Or.inr (Or.inr ⟨ha, hb⟩)
    · obtain ⟨s, rfl⟩ := eq_infinite_of_not_isFinite hna ha
      have hb' := (abs_lt.1 (abs_level_lt hb)).2
      cases s with
      | true => exact Or.inl rfl
      | false => exact absurd (hab.trans_lt hb') (lt_irrefl _)
  · obtain ⟨t, rfl⟩ := eq_infinite_of_not_isFinite hnb hb
    cases t with
    | false => exact Or.inr (Or.inl rfl)
    | true =>
      left
      have hlow : ¬a.isFinite = true := fun ha =>
        absurd ((abs_lt.1 (abs_level_lt ha)).1.trans_le hab) (lt_irrefl _)
      obtain ⟨s, rfl⟩ := eq_infinite_of_not_isFinite hna hlow
      cases s with
      | true => rfl
      | false =>
        have : (twoPow binary64.limit : Int) ≤ -(twoPow binary64.limit : Int) := hab
        omega

/-! ## The largest finite number -/

/-- A magnitude of a double has at most as many units as the largest double. -/
lemma units_le_of_holds {m : Nat} (h : binary64.Holds m) : m ≤ (twoPow 53 - 1) * twoPow 2045 := by
  obtain ⟨hlimit, hmod⟩ := h
  by_contra hgt
  rw [Nat.not_le] at hgt
  -- above the largest, the numbers are multiples of its quantum, and the next is the limit
  have hle : twoPow 2097 ≤ m := by
    have hhalf : twoPow 52 ≤ twoPow 53 - 1 := by
      decide
    calc twoPow 2097 = twoPow 52 * twoPow 2045 := twoPow_add 52 2045
      _ ≤ (twoPow 53 - 1) * twoPow 2045 := Nat.mul_le_mul_right _ hhalf
      _ ≤ m := hgt.le
  have hne : m ≠ 0 := (Nat.lt_of_lt_of_le (twoPow_pos _) hle).ne'
  have hlow : 2097 ≤ m.log2 := (le_log2_iff hne).2 hle
  have hhigh : m.log2 < 2098 := (log2_lt_iff hne).2 hlimit
  have hquantum : binary64.quantum m = 2045 := by
    simp only [FloatFormat.quantum, binary64]
    omega
  have hfull : twoPow 2098 = twoPow 53 * twoPow 2045 := twoPow_add 53 2045
  replace hlimit : m < twoPow 53 * twoPow 2045 := hlimit.trans_eq hfull
  rw [hquantum] at hmod
  generalize twoPow 2045 = q at hgt hlimit hmod
  obtain ⟨k, rfl⟩ := Nat.dvd_of_mod_eq_zero hmod
  rw [Nat.mul_comm q k] at hgt hlimit
  have hlt : k < twoPow 53 := Nat.lt_of_mul_lt_mul_right hlimit
  have hlt' : twoPow 53 - 1 < k := Nat.lt_of_mul_lt_mul_right hgt
  omega

lemma largest_eq : ∃ h, largest = finite false ((twoPow 53 - 1) * twoPow 2045) h :=
  ⟨_, nearest_of_holds false (by decide +kernel)⟩

/-- Nothing but the upper infinity is above the largest finite number. -/
theorem largest_lt_iff {a : Double} : largest.lt a = true ↔ a = infinite false := by
  obtain ⟨hholds, hlargest⟩ := largest_eq
  rw [hlargest, lt_iff]
  constructor
  · rintro ⟨-, hnan, hlt⟩
    cases a with
    | nan => simp [isNaN] at hnan
    | infinite s =>
      cases s with
      | false => rfl
      | true =>
        have hneg : (infinite true).level ≤ 0 := Int.neg_nonpos_of_nonneg (Int.natCast_nonneg _)
        exact absurd hneg (not_le.2 ((Int.natCast_nonneg _).trans_lt hlt))
    | finite s m hm =>
      have hm' : (m : Int) ≤ ((twoPow 53 - 1) * twoPow 2045 : Nat) := by
        exact_mod_cast units_le_of_holds hm
      have hle : (finite s m hm).level ≤ m := (le_abs_self _).trans_eq (abs_signed s m)
      exact absurd (hle.trans hm') (not_le.2 hlt)
  · rintro rfl
    have hlimit : (((twoPow 53 - 1) * twoPow 2045 : Nat) : Int) < twoPow binary64.limit := by
      exact_mod_cast hholds.1
    exact ⟨rfl, rfl, hlimit⟩

/-! ## Rounding a level -/

/-- The level of the double nearest to `i / den` units. -/
def rounded (i : Int) (den : Nat) : Int :=
  signed (decide (i < 0)) (min (binary64.round i.natAbs den) (twoPow binary64.limit))

lemma isNaN_nearest (s : Bool) (num den : Nat) : (nearest s num den).isNaN = false := by
  unfold nearest
  split <;> rfl

lemma level_nearest (s : Bool) (num den : Nat) :
    (nearest s num den).level = rounded (signed s num) den := by
  have hlevel : (nearest s num den).level
      = signed s (min (binary64.round num den) (twoPow binary64.limit)) := by
    unfold nearest
    split
    · next h => rw [level, min_eq_left h.le]
    · next h => rw [level, min_eq_right (not_lt.1 h)]
  rw [hlevel, rounded, natAbs_signed]
  rcases Nat.eq_zero_or_pos num with rfl | hpos
  · rw [FloatFormat.round_zero, Nat.zero_min]
    cases s <;> simp [signed]
  · have hs : decide (signed s num < 0) = s := by
      cases s <;> simp [signed, hpos]
    rw [hs]

lemma rounded_mono {i j : Int} {den : Nat} (h : i ≤ j) : rounded i den ≤ rounded j den := by
  unfold rounded
  by_cases hi : i < 0 <;> by_cases hj : j < 0
  · have hround := binary64.round_mono den (show j.natAbs ≤ i.natAbs by omega)
    simp only [hi, hj, decide_true, signed, if_true]
    omega
  · simp only [hi, hj, decide_true, decide_false, signed, if_true, Bool.false_eq_true, if_false]
    omega
  · omega
  · have hround := binary64.round_mono den (show i.natAbs ≤ j.natAbs by omega)
    simp only [hi, hj, decide_false, signed, Bool.false_eq_true, if_false]
    omega

lemma rounded_level {a : Double} (h : a.isFinite = true) : rounded a.level 1 = a.level := by
  cases a with
  | nan | infinite s => simp [isFinite] at h
  | finite s m hm =>
    have hl := level_nearest s m 1
    rw [nearest_of_holds s hm] at hl
    exact hl.symm

end MissingSamples.Double
