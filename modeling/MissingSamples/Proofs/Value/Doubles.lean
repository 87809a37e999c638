/-
# Collections of doubles

A collection of doubles makes the grid that one expects: of one dimension, of doubles, with the
members in order.

* `Value.asGrid_tuple_floats` is this grid;
* `candidateNumbers_tuple_floats` reads such a collection as candidates.
-/
import MissingSamples.Policy.Inputs
import MissingSamples.Proofs.Value.Rows

namespace MissingSamples

lemma typeOfLeaves_floats (xs : List Double) :
    typeOfLeaves (xs.map Value.float) = .float64 := by
  cases xs with
  | nil => rfl
  | cons x rest =>
    exact typeOfLeaves_of_forall rfl (by simp) (List.forall_mem_map.2 fun _ _ => rfl)

/-- Doubles in a row are a grid of one dimension. -/
theorem Value.asGrid_tuple_floats (xs : List Double) :
    (Value.tuple (xs.map .float)).asGrid = .ok ⟨[xs.length], .floats .float64 xs⟩ := by
  have hsingle : ∀ m ∈ xs.map Value.float, m.IsSingle :=
    List.forall_mem_map.2 fun _ _ => ⟨rfl, rfl, rfl⟩
  have helements : Elements.ofLeaves (typeOfLeaves (xs.map Value.float)) (xs.map Value.float)
      = .ok (.floats .float64 xs) := by
    have hdoubles : (xs.map Value.float).mapM leafDoubles = .ok (xs.map fun x => [x]) := by
      rw [List.mapM_map]
      exact mapM_eq_ok fun x _ => rfl
    have hflatten : (xs.map fun x => [x]).flatten = xs := by
      rw [← List.flatMap_def, List.flatMap_singleton']
    simp only [typeOfLeaves_floats, Elements.ofLeaves, ElementType.float64, hdoubles, bind,
      Except.bind, pure, Except.pure, hflatten]
  rw [asGrid_of_isRow .tuple hsingle helements, List.length_map]

/-- Doubles in a row are read as candidates as they stand. -/
lemma candidateNumbers_tuple_floats (xs : List Double) :
    candidateNumbers (.tuple (xs.map .float)) = .ok (some xs) := by
  rw [candidateNumbers, Value.asGrid_tuple_floats]
  · rfl
  · simp

end MissingSamples
