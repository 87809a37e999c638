/-
# Values as conditions

Which values count as true. Nothing, zero and whatever is empty are false. A grid is asked for its
only element, and a grid with fewer or more elements has no truth.

* `require` turns a condition that does not hold into a failure.
-/
import MissingSamples.Value.Number

namespace MissingSamples

/-- The truth of the only element. -/
def truthOfOnly {α : Type} (truth : α → Bool) : List α → Except Failure Bool
  | [x] => .ok (truth x)
  | _ => .error .ambiguousTruth

/-- A number other than zero is true. -/
def Double.truth (x : Double) : Bool := !x.isZero

/-- A complex number with a part other than zero is true. -/
def complexTruth (z : Double × Double) : Bool := z.1.truth || z.2.truth

/-- The truth of an element by itself. -/
def Scalar.truth : Scalar → Bool
  | bool b => b
  | int _ i => i != 0
  | float _ x => x.truth
  | complex _ re im => complexTruth (re, im)
  | bytes xs => !xs.isEmpty
  | text s => !s.isEmpty
  | time _ count => count != 0

mutual

/-- The truth of a value. -/
def Value.truth : Value → Except Failure Bool
  | .null => .ok false
  | .bool b => .ok b
  | .int i => .ok (i != 0)
  | .float x => .ok x.truth
  | .text s => .ok (!s.isEmpty)
  | .bytes xs => .ok (!xs.isEmpty)
  | .list xs | .tuple xs | .set xs => .ok (!xs.isEmpty)
  | .mapping entries => .ok (!entries.isEmpty)
  | .date _ | .moment _ | .elementType _ => .ok true
  | .grid g => truthOfGrid g
  | .scalar s => .ok s.truth

/-- The truth of a grid: of its only element. -/
def truthOfGrid : Grid Value → Except Failure Bool
  | ⟨_, elements⟩ => truthOfElements elements

/-- The truth of the only one of some elements. -/
def truthOfElements : Elements Value → Except Failure Bool
  | .bools xs => truthOfOnly id xs
  | .ints _ xs => truthOfOnly (· != 0) xs
  | .floats _ xs => truthOfOnly Double.truth xs
  | .complexes _ xs => truthOfOnly complexTruth xs
  | .bytes _ xs => truthOfOnly (fun b => !b.isEmpty) xs
  | .texts _ _ xs => truthOfOnly (fun s => !s.isEmpty) xs
  | .times _ xs => truthOfOnly (· != 0) xs
  | .objects xs => truthOfValues xs

/-- The truth of the only one of some values. -/
def truthOfValues : List Value → Except Failure Bool
  | [x] => x.truth
  | _ => .error .ambiguousTruth

end

/-- Lets the caller pass if the condition is true, and fails with the message if it is false. -/
def require (condition : Value) (message : String) (family : FailureFamily := .validation) :
    Except Failure Unit := do
  if ← condition.truth then return () else throw (.required family message)

end MissingSamples
