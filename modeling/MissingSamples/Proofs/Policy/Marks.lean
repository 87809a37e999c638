/-
# Marks are the test of one sample, sample by sample

The marks of many samples come rule by rule: every rule that is on makes a list of marks, and the
lists are joined. The test of one sample asks the rules in turn and stops at the first that holds.
Joining lists that are made sample by sample is itself done sample by sample, so the two agree.

* `Policy.marks_eq_map` is the agreement on lists;
* `Policy.maskValue_elementwise` is the agreement on whole values, shape included.
-/
import MissingSamples.Proofs.Comparison.Many

namespace MissingSamples

/-! ## Joining marks -/

section Joining

variable {α : Type} (xs : List α)

lemma eitherMarked_map (f g : α → Bool) :
    eitherMarked (xs.map f) (xs.map g) = xs.map fun x => f x || g x := by
  induction xs with
  | nil => rfl
  | cons x rest ih =>
    simp only [eitherMarked, List.map_cons, List.zipWith_cons_cons] at ih ⊢
    rw [ih]

/-- Joining the marks of one test after the other marks what passes any of them. -/
lemma foldl_eitherMarked_map {β : Type} (test : α → β → Bool) (bs : List β) (f : α → Bool) :
    bs.foldl (fun marked b => eitherMarked marked (xs.map (test · b))) (xs.map f)
      = xs.map fun x => f x || bs.any (test x) := by
  induction bs generalizing f with
  | nil => simp only [List.foldl_nil, List.any_nil, Bool.or_false]
  | cons b rest ih =>
    rw [List.foldl_cons, eitherMarked_map, ih]
    simp only [List.any_cons, Bool.or_assoc]

/-- A rule adds its marks if it is on. -/
lemma ite_map_or (on : Bool) (f g : α → Bool) :
    (if on = true then xs.map (fun x => f x || g x) else xs.map f)
      = xs.map fun x => f x || (on && g x) := by
  cases on <;> simp

end Joining

namespace Policy

lemma isMissing_eq_or (p : Policy) (x : Double) :
    p.isMissing x = (((x.isNaN
      || (p.flags.missingData && p.hasMissingValue && p.missingValues.any (nearlyEqual x)))
      || (p.flags.fillValue && p.declared.hasFillValue && nearlyEqual x p.declared.fillValue))
      || (p.flags.invalidData && p.hasValidData && (p.fuzzyMax.lt x || x.lt p.fuzzyMin))) := by
  unfold isMissing isMissingValue isFillValue isInvalid
  cases x.isNaN
  · cases p.declared.hasFillValue <;> simp
  · simp

theorem marks_eq_map (p : Policy) (xs : List Double) : p.marks xs = xs.map p.isMissing := by
  have hlisted := foldl_eitherMarked_map xs (fun x v => nearlyEqual x v) p.missingValues
    Double.isNaN
  simp only [marks, nearlyEqualEach_eq_map]
  rw [hlisted, ite_map_or, eitherMarked_map, ite_map_or, eitherMarked_map, ite_map_or]
  exact List.map_congr_left fun x _ => (p.isMissing_eq_or x).symm

lemma missingMask_of_numbers? (p : Policy) {α : Type} {g : Grid α} {xs : List Double}
    (h : g.elements.numbers? = some xs) :
    p.missingMask g = ⟨g.shape, .bools (xs.map p.isMissing)⟩ := by
  simp only [missingMask, h, marks_eq_map]

/-- The mask of a value with numeric elements has its shape, and every mark in it says whether the
policy calls the double of the element in that place missing. -/
theorem maskValue_elementwise (p : Policy) {v : Value} {g : Grid Value} {xs : List Double}
    (hv : v.asGrid = .ok g) (hx : g.elements.numbers? = some xs) :
    ∃ m, p.maskValue v = .ok m ∧ m.grid? = some ⟨g.shape, .bools (xs.map p.isMissing)⟩ := by
  have hnumeric : g.type.isNumeric = true := by
    rw [Grid.type, ← Elements.isSome_numbers?, hx]
    rfl
  refine ⟨markValue (p.missingMask g), ?_, ?_⟩
  · simp only [maskValue, hv, bind, Except.bind, hnumeric, if_true, pure, Except.pure]
  · rw [grid?_markValue, missingMask_of_numbers? p hx]

/-- A value below the lower bound and one that is a missing value are marked. -/
theorem maskValue_elementwise_of_integers :
    ∃ m, (make {} { hasValidMin := true, validMin := 0, candidates := some [5] }).maskValue
        (.grid ⟨[2, 2], .ints ⟨true, .w16, .big⟩ [0, -1, 5, 300]⟩) = .ok m ∧
      m.grid? = some ⟨[2, 2], .bools [false, true, true, false]⟩ := by
  have hmarks : ([0, -1, 5, 300].map Double.ofInt).map
      (make {} { hasValidMin := true, validMin := 0, candidates := some [5] }).isMissing
        = [false, true, true, false] := by
    decide +kernel
  have hnumbers : (.ints ⟨true, .w16, .big⟩ [0, -1, 5, 300] : Elements Value).numbers?
      = some ([0, -1, 5, 300].map Double.ofInt) := rfl
  rw [← hmarks]
  exact maskValue_elementwise _ (g := ⟨[2, 2], _⟩) rfl hnumbers

end Policy

end MissingSamples
