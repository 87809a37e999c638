/-
# Arithmetic in order

The level of a sum or a product of finite doubles is that of the exact result, rounded. So
arithmetic with a fixed finite operand keeps order, or reverses it, as exact arithmetic does, and
overflow to an infinity is no exception.

* `add_le_add_right`, `mul_le_mul_right` and `mul_le_mul_right_of_neg` are the laws of order;
* `le_add_of_nonneg` and `sub_le_of_nonneg` say that widening by rounded arithmetic never goes
  inward.
-/
import MissingSamples.Proofs.Binary.Order

namespace MissingSamples.Double

open FloatFormat (binary64)

lemma add_eq (a b : Double) : a + b = add a b := rfl

lemma sub_eq (a b : Double) : a - b = a + neg b := rfl

lemma mul_eq (a b : Double) : a * b = mul a b := rfl

/-! ## Signs -/

@[simp] lemma isNaN_neg (a : Double) : (neg a).isNaN = a.isNaN := by
  cases a <;> rfl

@[simp] lemma isFinite_neg (a : Double) : (neg a).isFinite = a.isFinite := by
  cases a <;> rfl

@[simp] lemma level_neg (a : Double) : (neg a).level = -a.level := by
  cases a with
  | nan => rfl
  | infinite s => exact signed_not s _
  | finite s m _ => exact signed_not s m

@[simp] lemma neg_neg (a : Double) : neg (neg a) = a := by
  cases a <;> simp [neg]

lemma neg_le_neg {a b : Double} (h : a.le b = true) : (neg b).le (neg a) = true := by
  rw [le_iff] at h ⊢
  simp only [isNaN_neg, level_neg]
  exact ⟨h.2.1, h.1, by omega⟩

lemma neg_lt_neg (a b : Double) : (neg b).lt (neg a) = a.lt b := by
  rw [Bool.eq_iff_iff, lt_iff, lt_iff]
  simp only [isNaN_neg, level_neg]
  constructor
  · rintro ⟨hb, ha, hlt⟩
    exact ⟨ha, hb, by omega⟩
  · rintro ⟨ha, hb, hlt⟩
    exact ⟨hb, ha, by omega⟩

/-- Nothing but the lower infinity is below all finite numbers. -/
theorem lt_neg_largest_iff {a : Double} : a.lt (-largest) = true ↔ a = infinite true := by
  have hflip : a.lt (-largest) = largest.lt (neg a) := by
    rw [← neg_lt_neg]
    exact congrArg (Double.lt · _) (neg_neg largest)
  rw [hflip, largest_lt_iff]
  constructor
  · intro h
    rw [← neg_neg a, h]
    rfl
  · rintro rfl
    rfl

lemma level_eq_zero_iff {a : Double} (h : a.isFinite = true) : a.level = 0 ↔ a.isZero = true := by
  cases a with
  | nan | infinite s => simp [isFinite] at h
  | finite s m _ => cases s <;> simp [level, signed, isZero]

lemma neg_nearest (s : Bool) (num den : Nat) :
    neg (nearest s num den) = nearest (!s) num den := by
  unfold nearest
  split <;> rfl

/-! ## Sums -/

lemma level_add {a b : Double} (ha : a.isFinite = true) (hb : b.isFinite = true) :
    (a + b).level = rounded (a.level + b.level) 1 := by
  cases a with
  | nan | infinite s => simp [isFinite] at ha
  | finite s m hm =>
    cases b with
    | nan | infinite t => simp [isFinite] at hb
    | finite t n hn =>
      rw [add_eq, add]
      change _ = rounded (signed s m + signed t n) 1
      split_ifs with h
      · rw [h]
        cases s <;> cases t <;> simp [zero, level, rounded, signed]
      · rw [level_nearest, signed_natAbs]

lemma infinite_add (s : Bool) {c : Double} (hc : c.isFinite = true) :
    infinite s + c = infinite s := by
  cases c with
  | nan | infinite t => simp [isFinite] at hc
  | finite t n hn => rfl

lemma isNaN_add {a c : Double} (hc : c.isFinite = true) : (a + c).isNaN = a.isNaN := by
  cases a with
  | nan => rfl
  | infinite s => rw [infinite_add s hc]
  | finite s m hm =>
    cases c with
    | nan | infinite t => simp [isFinite] at hc
    | finite t n hn =>
      rw [add_eq, add]
      split_ifs
      · rfl
      · exact isNaN_nearest _ _ _

theorem add_le_add_right {a b c : Double} (hc : c.isFinite = true) (h : a.le b = true) :
    (a + c).le (b + c) = true := by
  have hac : (a + c).isNaN = false := by rw [isNaN_add hc, (le_iff.1 h).1]
  have hbc : (b + c).isNaN = false := by rw [isNaN_add hc, (le_iff.1 h).2.1]
  -- an infinity stays what it is, and stays at its end
  rcases ends_or_finite_of_le h with rfl | rfl | ⟨ha, hb⟩
  · rw [infinite_add _ hc]
    exact infinite_le hbc
  · rw [infinite_add _ hc]
    exact le_infinite hac
  · rw [le_iff, level_add ha hc, level_add hb hc]
    have := (le_iff.1 h).2.2
    exact ⟨hac, hbc, rounded_mono (by omega)⟩

/-- Adding a number that is not negative does not go down. -/
theorem le_add_of_nonneg {a t : Double} (ha : a.isNaN = false) (ht : t.isFinite = true)
    (hpos : 0 ≤ t.level) : a.le (a + t) = true := by
  cases a with
  | nan => simp [isNaN] at ha
  | infinite s =>
    rw [infinite_add s ht]
    exact le_refl rfl
  | finite s m hm =>
    have hfin : (finite s m hm).isFinite = true := rfl
    rw [le_iff, isNaN_add ht, level_add hfin ht]
    refine ⟨rfl, rfl, ?_⟩
    calc (finite s m hm).level = rounded (finite s m hm).level 1 := (rounded_level hfin).symm
      _ ≤ rounded ((finite s m hm).level + t.level) 1 := rounded_mono (by omega)

/-- Subtracting a number that is not negative does not go up. -/
theorem sub_le_of_nonneg {a t : Double} (ha : a.isNaN = false) (ht : t.isFinite = true)
    (hpos : 0 ≤ t.level) : (a - t).le a = true := by
  have hnt : (neg t).isFinite = true := by rwa [isFinite_neg]
  rw [sub_eq]
  cases a with
  | nan => simp [isNaN] at ha
  | infinite s =>
    rw [infinite_add s hnt]
    exact le_refl rfl
  | finite s m hm =>
    have hfin : (finite s m hm).isFinite = true := rfl
    rw [le_iff, isNaN_add hnt, level_add hfin hnt, level_neg]
    refine ⟨rfl, rfl, ?_⟩
    calc rounded ((finite s m hm).level + -t.level) 1
        ≤ rounded (finite s m hm).level 1 := rounded_mono (by omega)
      _ = (finite s m hm).level := rounded_level hfin

/-! ## Products -/

lemma level_mul {a b : Double} (ha : a.isFinite = true) (hb : b.isFinite = true) :
    (a * b).level = rounded (a.level * b.level) unitsPerOne := by
  cases a with
  | nan | infinite s => simp [isFinite] at ha
  | finite s m hm =>
    cases b with
    | nan | infinite t => simp [isFinite] at hb
    | finite t n hn =>
      rw [mul_eq, mul, level_nearest, level, level, signed_mul]

lemma infinite_mul (s : Bool) {c : Double} (hc : c.isFinite = true) (hpos : 0 < c.level) :
    infinite s * c = infinite s := by
  cases c with
  | nan | infinite t => simp [isFinite] at hc
  | finite t n hn =>
    have hsigned : 0 < signed t n := hpos
    have ht : t = false := by
      by_contra hne
      rw [Bool.not_eq_false] at hne
      rw [hne, signed, if_pos rfl] at hsigned
      omega
    have hn0 : n ≠ 0 := by
      rintro rfl
      cases t <;> simp [signed] at hsigned
    rw [mul_eq, mul, if_neg hn0, ht, Bool.bne_false]

lemma isNaN_mul {a c : Double} (hc : c.isFinite = true) (hpos : 0 < c.level) :
    (a * c).isNaN = a.isNaN := by
  cases a with
  | nan => rfl
  | infinite s => rw [infinite_mul s hc hpos]
  | finite s m hm =>
    cases c with
    | nan | infinite t => simp [isFinite] at hc
    | finite t n hn => exact isNaN_nearest _ _ _

theorem mul_le_mul_right {a b c : Double} (hc : c.isFinite = true) (hpos : 0 < c.level)
    (h : a.le b = true) : (a * c).le (b * c) = true := by
  have hac : (a * c).isNaN = false := by rw [isNaN_mul hc hpos, (le_iff.1 h).1]
  have hbc : (b * c).isNaN = false := by rw [isNaN_mul hc hpos, (le_iff.1 h).2.1]
  rcases ends_or_finite_of_le h with rfl | rfl | ⟨ha, hb⟩
  · rw [infinite_mul _ hc hpos]
    exact infinite_le hbc
  · rw [infinite_mul _ hc hpos]
    exact le_infinite hac
  · rw [le_iff, level_mul ha hc, level_mul hb hc]
    exact ⟨hac, hbc, rounded_mono (Int.mul_le_mul_of_nonneg_right (le_iff.1 h).2.2 hpos.le)⟩

lemma mul_neg (a c : Double) : a * neg c = neg (a * c) := by
  cases a with
  | nan => rfl
  | infinite s =>
    cases c with
    | nan => rfl
    | infinite t => simp [mul_eq, neg, mul]
    | finite t n hn =>
      by_cases h : n = 0 <;> simp [mul_eq, neg, mul, h]
  | finite s m hm =>
    cases c with
    | nan => rfl
    | infinite t => by_cases h : m = 0 <;> simp [mul_eq, neg, mul, h]
    | finite t n hn =>
      change nearest (s != !t) (m * n) unitsPerOne = neg (nearest (s != t) (m * n) unitsPerOne)
      rw [neg_nearest]
      cases s <;> cases t <;> rfl

theorem mul_le_mul_right_of_neg {a b c : Double} (hc : c.isFinite = true) (hneg : c.level < 0)
    (h : a.le b = true) : (b * c).le (a * c) = true := by
  have hle : (a * neg c).le (b * neg c) = true :=
    mul_le_mul_right (by rwa [isFinite_neg]) (by rw [level_neg]; omega) h
  rw [mul_neg, mul_neg] at hle
  simpa using neg_le_neg hle

end MissingSamples.Double
