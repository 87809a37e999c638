/-
# Unpacking keeps sameness and order

Samples and the thresholds for them are unpacked by one map, a product and a sum that are rounded
one after the other. Whatever scale and offset are, it takes matching numbers to matching ones, so
that a sample still is what it was compared with. If they are finite and the scale is not zero, it
keeps order, or reverses it where the scale is negative.

* `Scaling.result_applyValue` says that many numbers are unpacked one by one;
* `Scaling.matching_apply` is about sameness;
* `Scaling.apply_le_apply` and `Scaling.apply_le_apply_of_neg` are about order.
-/
import MissingSamples.Proofs.Comparison
import MissingSamples.Scaling

namespace MissingSamples

namespace Double

lemma zero_add_matching (s t : Bool) (c : Double) :
    (zero s + c).matching (zero t + c) = true := by
  cases c with
  | nan => rfl
  | infinite u => exact matching_self _
  | finite u n hn =>
    simp only [add_eq, zero, add, signed_zero, Int.zero_add]
    split_ifs
    · -- the sum is a zero, and its sign may differ
      cases s && u <;> cases t && u <;> rfl
    · exact matching_self _

lemma zero_mul_matching (s t : Bool) (c : Double) :
    (zero s * c).matching (zero t * c) = true := by
  cases c with
  | nan => rfl
  | infinite u => rfl
  | finite u n hn =>
    have hnan : ∀ r, (zero r * finite u n hn).isNaN = false := fun r => isNaN_nearest _ _ _
    have hlevel : ∀ r, (zero r * finite u n hn).level = rounded 0 unitsPerOne := by
      intro r
      rw [level_mul rfl rfl, level_zero, Int.zero_mul]
    rw [matching_iff, same_iff]
    exact Or.inl ⟨hnan s, hnan t, by rw [hlevel, hlevel]⟩

lemma add_matching {a b : Double} (h : a.matching b = true) (c : Double) :
    (a + c).matching (b + c) = true := by
  rcases eq_or_zeros_of_matching h with rfl | ⟨s, t, rfl, rfl⟩
  · exact matching_self _
  · exact zero_add_matching s t c

lemma mul_matching {a b : Double} (h : a.matching b = true) (c : Double) :
    (a * c).matching (b * c) = true := by
  rcases eq_or_zeros_of_matching h with rfl | ⟨s, t, rfl, rfl⟩
  · exact matching_self _
  · exact zero_mul_matching s t c

end Double

open Double

/-! ## Many numbers -/

lemma cast_of_numbers? {e : Elements Value} {xs : List Double} (h : e.numbers? = some xs) :
    e.cast = .ok xs := by
  have hnumbers := Elements.numbers_of_numbers? Value.number h
  cases e with
  | ints t is => exact hnumbers
  | floats t ys => exact hnumbers
  | _ => simp [Elements.numbers?] at h

namespace Scaling

variable (s : Scaling)

variable {s} in
/-- Where nothing is packed, every number is left as it is. -/
lemma apply_of_not_isPacked (h : s.isPacked = false) (x : Double) : s.apply x = x := by
  rw [apply, h, if_neg Bool.false_ne_true]

variable {s} in
lemma map_apply_of_not_isPacked (h : s.isPacked = false) (xs : List Double) :
    xs.map s.apply = xs := by
  rw [List.map_congr_left fun x _ => apply_of_not_isPacked h x, List.map_id']

/-- Unpacking a grid of numbers unpacks every one of them. -/
lemma result_applyValue {g : Grid Value} {xs : List Double}
    (h : g.elements.numbers? = some xs) :
    ∃ change, s.applyValue (.grid g) = .ok change ∧
      change.result g = .ofDoubles g.shape (xs.map s.apply) := by
  have hdoubles : (Value.grid g).asDoubles = .ok (g.shape, xs) := by
    simp only [Value.asDoubles, Value.grid?, cast_of_numbers? h, bind, Except.bind, pure,
      Except.pure]
  simp only [Scaling.applyValue, hdoubles, bind, Except.bind, pure, Except.pure]
  by_cases hkept : g.type = .float64 ∧ (!s.isPacked) = true
  · refine ⟨.kept, if_pos hkept, ?_⟩
    obtain ⟨ht, hs⟩ := hkept
    rw [Bool.not_eq_true'] at hs
    obtain ⟨shape, elements⟩ := g
    cases elements with
    | floats t ys =>
      obtain rfl : ys = xs := by simpa [Elements.numbers?] using h
      obtain rfl : t = .float64 := by
        simpa [Grid.type, Elements.type, ElementType.float64] using ht
      rw [Change.result_kept, map_apply_of_not_isPacked hs, Grid.ofDoubles]
    | _ => simp [Grid.type, Elements.type, ElementType.float64] at ht
  · refine ⟨.made (.ofDoubles g.shape (s.applyEach xs)), if_neg hkept, ?_⟩
    rw [Change.result_made, s.applyEach_eq_map]

/-! ## Sameness and order -/

theorem matching_apply {x y : Double} (h : x.matching y = true) :
    (s.apply x).matching (s.apply y) = true := by
  unfold apply
  split_ifs
  · exact add_matching (mul_matching h s.scale) s.offset
  · exact h

theorem apply_le_apply (hscale : s.scale.isFinite = true) (hpos : 0 < s.scale.level)
    (hoffset : s.offset.isFinite = true) {x y : Double} (h : x.le y = true) :
    (s.apply x).le (s.apply y) = true := by
  unfold apply
  split_ifs
  · exact add_le_add_right hoffset (mul_le_mul_right hscale hpos h)
  · exact h

theorem apply_le_apply_of_neg (hscale : s.scale.isFinite = true) (hneg : s.scale.level < 0)
    (hoffset : s.offset.isFinite = true) (hpacked : s.isPacked = true) {x y : Double}
    (h : x.le y = true) : (s.apply y).le (s.apply x) = true := by
  unfold apply
  rw [if_pos hpacked, if_pos hpacked]
  exact add_le_add_right hoffset (mul_le_mul_right_of_neg hscale hneg h)

end Scaling

end MissingSamples
