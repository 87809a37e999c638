/-
# The valid range of a policy

A policy looks at both ends of its widened range, also where only one bound was declared or none.
An end for which no bound was declared stands at the end of the finite numbers, and widening takes
it nowhere: so no finite sample is invalid there. But the infinity beyond it is. It is called
invalid by a policy whose variable declares no bound on that side, or no bound at all.

* `Policy.isInvalid_of_between` says that what lies between the bounds is valid;
* `Policy.isInvalid_iff_of_unset` says what is invalid where bounds are left out;
* `Policy.unset_bound_may_invalidate` is an infinity that no declared bound excludes.
-/
import MissingSamples.Policy
import MissingSamples.Proofs.Comparison

namespace MissingSamples

open Double

namespace Declaration

variable {d : Declaration} {x : Double}

lemma lt_fuzzyMin_eq_false (h : d.validMin.le x = true) : x.lt d.fuzzyMin = false :=
  lt_eq_false_of_le (sub_tolerance_le h)

lemma fuzzyMax_lt_eq_false (h : x.le d.validMax = true) : d.fuzzyMax.lt x = false :=
  lt_eq_false_of_le (le_add_tolerance h)

/-- Bounds that were not declared stand at the ends of the finite numbers. -/
structure UnsetAtEnds (d : Declaration) : Prop where
  /-- The lower bound is declared or the lowest finite number. -/
  lower : d.hasValidMin = false → d.validMin = -largest
  /-- The upper bound is declared or the greatest finite number. -/
  upper : d.hasValidMax = false → d.validMax = largest

/-- Below the lower end lies what is below the declared bound, or the infinity if there is none. -/
lemma lt_fuzzyMin_iff (h : d.UnsetAtEnds) :
    x.lt d.fuzzyMin = true ↔ (d.hasValidMin = true ∧ x.lt d.fuzzyMin = true) ∨
      (d.hasValidMin = false ∧ x = infinite true) := by
  cases hhas : d.hasValidMin with
  | true => simp
  | false =>
    have hend : d.fuzzyMin = -largest := by
      rw [fuzzyMin, h.lower hhas, neg_largest_sub_tolerance]
    simp [hend, lt_neg_largest_iff]

/-- Above the upper end lies what is above the declared bound, or the infinity if there is none. -/
lemma fuzzyMax_lt_iff (h : d.UnsetAtEnds) :
    d.fuzzyMax.lt x = true ↔ (d.hasValidMax = true ∧ d.fuzzyMax.lt x = true) ∨
      (d.hasValidMax = false ∧ x = infinite false) := by
  cases hhas : d.hasValidMax with
  | true => simp
  | false =>
    have hend : d.fuzzyMax = largest := by
      rw [fuzzyMax, h.upper hhas, largest_add_tolerance]
    simp [hend, largest_lt_iff]

end Declaration

namespace Policy

/-- What lies between the bounds is valid. -/
lemma isInvalid_of_between {flags : ModeFlags} {d : Declaration} {x : Double}
    (hmin : d.validMin.le x = true) (hmax : x.le d.validMax = true) :
    (make flags d).isInvalid x = false := by
  have hnan : x.isNaN = false := (le_iff.1 hmin).2.1
  simp only [isInvalid, make, hnan, Declaration.lt_fuzzyMin_eq_false hmin,
    Declaration.fuzzyMax_lt_eq_false hmax, Bool.or_self]

/-- Where bounds that were not declared stand at the ends of the finite numbers, not-a-number is
invalid, and what lies beyond a declared bound, and the infinity on a side where none was declared.
Nothing else is. -/
theorem isInvalid_iff_of_unset {p : Policy} (h : p.declared.UnsetAtEnds) (x : Double) :
    p.isInvalid x = true ↔
      (x.isNaN = true ∨ (p.declared.hasValidMin = true ∧ x.lt p.fuzzyMin = true) ∨
        (p.declared.hasValidMax = true ∧ p.fuzzyMax.lt x = true)) ∨
      (p.declared.hasValidMin = false ∧ x = infinite true) ∨
      (p.declared.hasValidMax = false ∧ x = infinite false) := by
  have hlow := Declaration.lt_fuzzyMin_iff (x := x) h
  have hhigh := Declaration.fuzzyMax_lt_iff (x := x) h
  rw [← p.fuzzyMin_eq] at hlow
  rw [← p.fuzzyMax_eq] at hhigh
  rw [isInvalid, Bool.or_eq_true, Bool.or_eq_true]
  constructor
  · rintro ((hnan | habove) | hbelow)
    · exact Or.inl (Or.inl hnan)
    · rcases hhigh.1 habove with hbound | hend
      · exact Or.inl (Or.inr (Or.inr hbound))
      · exact Or.inr (Or.inr hend)
    · rcases hlow.1 hbelow with hbound | hend
      · exact Or.inl (Or.inr (Or.inl hbound))
      · exact Or.inr (Or.inl hend)
  · rintro ((hnan | hbound | hbound) | hend | hend)
    · exact Or.inl (Or.inl hnan)
    · exact Or.inr hbound.2
    · exact Or.inl (Or.inr hbound.2)
    · exact Or.inr (hlow.2 (Or.inr hend))
    · exact Or.inl (Or.inr (hhigh.2 (Or.inr hend)))

/-- A lower bound of zero and no upper one. -/
def fromZeroOn : Policy := make {} { hasValidMin := true, validMin := 0 }

/-- With a lower bound of zero alone, the greatest finite number is valid and the upper infinity is
not. -/
theorem isInvalid_iff_of_unset_of_fromZeroOn :
    fromZeroOn.isInvalid largest = false ∧ fromZeroOn.isInvalid (infinite false) = true := by
  have h : fromZeroOn.declared.UnsetAtEnds := ⟨nofun, fun _ => rfl⟩
  refine ⟨?_, (isInvalid_iff_of_unset h _).2 (Or.inr (Or.inr ⟨rfl, rfl⟩))⟩
  rw [Bool.eq_false_iff, ne_eq, isInvalid_iff_of_unset h]
  decide +kernel

/-- The upper infinity is invalid where no bound was declared, and missing where there is a lower
bound only, although neither excludes it. -/
theorem unset_bound_may_invalidate :
    (make {} {}).isInvalid (infinite false) = true ∧
      fromZeroOn.isMissing (infinite false) = true ∧
      ¬∀ (p : Policy) (x : Double), p.declared.UnsetAtEnds →
        (p.isInvalid x = true ↔
          x.isNaN = true ∨ (p.declared.hasValidMin = true ∧ x.lt p.fuzzyMin = true) ∨
            (p.declared.hasValidMax = true ∧ p.fuzzyMax.lt x = true)) := by
  have hinvalid : (make {} {}).isInvalid (infinite false) = true := by decide +kernel
  refine ⟨hinvalid, by decide +kernel, fun hall => ?_⟩
  have hunset : (make {} {}).declared.UnsetAtEnds := ⟨fun _ => rfl, fun _ => rfl⟩
  rcases (hall (make {} {}) (infinite false) hunset).1 hinvalid with h | ⟨h, -⟩ | ⟨h, -⟩
  · exact Bool.false_ne_true h
  · exact Bool.false_ne_true h
  · exact Bool.false_ne_true h

end Policy

end MissingSamples
