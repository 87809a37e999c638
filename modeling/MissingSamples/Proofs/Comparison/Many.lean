/-
# Many numbers next to one target

Comparing many numbers with a target gives one mark for each of them, in the shape that they have.
A mark is what the bulk form of the test says of its number, so it may differ from the test of two
numbers: a number that matches the target is marked even where the bound leaves no room for any
difference, as zero, numbers below zero and not-a-number do.

* `nearlyEqualEach_eq_map` says that marks by the tolerance are the test of two numbers;
* `nearlyEqualValue_agrees_iff` says for every bound which marks are;
* `nearlyEqualValue_may_disagree` is a number next to itself with a bound of zero.
-/
import MissingSamples.Policy.Bulk
import MissingSamples.Proofs.Comparison

namespace MissingSamples

open Double

lemma nearlyEqualEach_eq_map (xs : List Double) (target : Double) :
    nearlyEqualEach xs target = xs.map fun x => nearlyEqual x target :=
  List.map_congr_left fun x _ => nearTarget_eq_nearlyEqual target x zero_lt_tolerance

lemma getElem?_nearlyEqualEach {xs : List Double} {i : Nat} {x : Double} (h : xs[i]? = some x)
    (target bound : Double) :
    (nearlyEqualEach xs target bound)[i]? = some (nearTarget target bound x) := by
  rw [nearlyEqualEach, List.getElem?_map, h, Option.map_some]

lemma grid?_markValue (g : Grid Value) : (markValue g).grid? = some g := by
  unfold markValue
  split <;> rfl

/-- Comparing the numbers of a value with a target gives a mark for every one of them, in the shape
of the value. The mark of a number is what the test of the two numbers says exactly if the bound is
above zero or the number does not match the target. -/
theorem nearlyEqualValue_agrees_iff {v : Value} {shape : List Nat} {xs : List Double}
    (hv : v.asDoubles = .ok (shape, xs)) (target bound : Double) :
    ∃ m marks, nearlyEqualValue v target bound = .ok m ∧
      m.grid? = some ⟨shape, .bools marks⟩ ∧ marks.length = xs.length ∧
      ∀ (i : Nat) (x : Double), xs[i]? = some x →
        (marks[i]? = some (nearlyEqual x target bound) ↔
          (0 : Double).lt bound = true ∨ x.matching target = false) := by
  refine ⟨markValue ⟨shape, .bools (nearlyEqualEach xs target bound)⟩,
    nearlyEqualEach xs target bound, ?_, grid?_markValue _,
    length_nearlyEqualEach xs target bound, fun i x hi => ?_⟩
  · simp only [nearlyEqualValue, hv, bind, Except.bind, pure, Except.pure]
  · rw [getElem?_nearlyEqualEach hi, Option.some.injEq, nearTarget_eq_nearlyEqual_iff]

/-- With a bound of zero, the number that is the target itself has another mark, and the other
number has the mark that it should have. -/
theorem nearlyEqualValue_agrees_iff_of_zero_bound :
    ∃ m marks, nearlyEqualValue (.grid ⟨[2], .floats .float64 [1, 3]⟩) 1 0 = .ok m ∧
      m.grid? = some ⟨[2], .bools marks⟩ ∧ marks[0]? ≠ some (nearlyEqual 1 1 0) ∧
      marks[1]? = some (nearlyEqual 3 1 0) := by
  have hv : (Value.grid ⟨[2], .floats .float64 [1, 3]⟩).asDoubles = .ok ([2], [1, 3]) := rfl
  obtain ⟨m, marks, hm, hgrid, -, hmarks⟩ := nearlyEqualValue_agrees_iff hv 1 0
  refine ⟨m, marks, hm, hgrid, ?_, ?_⟩
  · intro hfirst
    have hagrees : (0 : Double).lt 0 = true ∨ (1 : Double).matching 1 = false :=
      (hmarks 0 1 rfl).1 hfirst
    exact absurd hagrees (by decide +kernel)
  · exact (hmarks 1 3 rfl).2 (Or.inr (by decide +kernel))

/-- One is marked as nearly equal to itself with a bound of zero, and the test of two numbers denies
it. -/
theorem nearlyEqualValue_may_disagree :
    ¬∀ (shape : List Nat) (xs : List Double) (target bound : Double),
      ∃ m, nearlyEqualValue (.grid ⟨shape, .floats .float64 xs⟩) target bound = .ok m ∧
        m.grid? = some ⟨shape, .bools (xs.map fun x => nearlyEqual x target bound)⟩ := by
  intro h
  obtain ⟨m, hm, hgrid⟩ := h [1] [1] 1 0
  have hmarked : nearlyEqualValue (.grid ⟨[1], .floats .float64 [1]⟩) 1 0
      = .ok (.grid ⟨[1], .bools [nearTarget 1 0 1]⟩) := rfl
  obtain rfl := Except.ok.inj (hmarked.symm.trans hm)
  have hagree : nearTarget 1 0 1 = nearlyEqual 1 1 0 := by simpa [Value.grid?] using hgrid
  exact absurd hagree (by decide +kernel)

end MissingSamples
