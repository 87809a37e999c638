/-
# Scale and offset

Packed samples are stored multiplied and shifted; a `Scaling` takes them back to the units that
were meant. It comes from the attributes for scale and offset, and it knows the wider of their
types. Without either attribute nothing is packed and every number is left as it is.

* `Scaling.apply` unpacks one number and `Scaling.applyEach` many; `applyEach_eq_map` says that
  they do the same.
-/
import MissingSamples.Attributes
import MissingSamples.Value.Gather

namespace MissingSamples

namespace Grid

/-- The number of the element at a place of a grid of one dimension. With more dimensions there is
no number at a place, only a smaller grid. -/
def numberAt (g : Grid Value) (i : Nat) : Except Failure Double :=
  match g.shape with
  | [n] =>
    if i < n then do
      match ← (g.elements.slice i (i + 1)).numbers Value.number with
      | x :: _ => return x
      | [] => throw .noElement
    else .error .noElement
  | n :: _ => if i < n then .error .notNumber else .error .noElement
  | [] => .error .notNumber

/-- The numbers of all elements of a grid of one dimension, in order. -/
def numbers (g : Grid Value) : Except Failure (List Double) :=
  match g.shape with
  | [_] => g.elements.numbers Value.number
  | 0 :: _ => .ok []
  | _ => .error .notNumber

end Grid

/-- How packed numbers are unpacked. -/
structure Scaling where
  /-- What they are multiplied by. -/
  scale : Double := 1
  /-- What is added to the product. -/
  offset : Double := 0
  /-- The wider type of the two attributes; none if nothing is packed. -/
  type : Option ElementType := none
deriving DecidableEq

namespace Scaling

/-- Numbers are packed. -/
def isPacked (s : Scaling) : Bool := s.type.isSome

/-- The number unpacked. -/
def apply (s : Scaling) (x : Double) : Double := if s.isPacked then x * s.scale + s.offset else x

/-- Many numbers unpacked: all are multiplied, then all are shifted. -/
def applyEach (s : Scaling) (xs : List Double) : List Double :=
  if s.isPacked then (xs.map (· * s.scale)).map (· + s.offset) else xs

/-- A grid of doubles of the value's samples unpacked. A grid of doubles of this machine comes back
itself if nothing is packed. -/
def applyValue (s : Scaling) (v : Value) : Except Failure (Change (Grid Value)) := do
  let (shape, xs) ← v.asDoubles
  match v with
  | .grid g =>
    if g.type = .float64 ∧ !s.isPacked then return .kept
    else return .made (.ofDoubles shape (s.applyEach xs))
  | _ => return .made (.ofDoubles shape (s.applyEach xs))

/-- The first number of an attribute and the type of its elements. -/
def factor (v : Value) : Except Failure (Double × ElementType) := do
  let g := (← v.asGrid).atLeastOneDim
  return (← g.numberAt 0, g.type)

/-- The scaling that attributes declare. Texts do not count. -/
def ofAttributes (a : Attributes) : Except Failure Scaling := do
  let scaled ← match a.numeric? .scaleFactor with
    | none => pure {}
    | some v =>
      let (scale, type) ← factor v
      pure { scale, type := some type }
  match a.numeric? .addOffset with
  | none => return scaled
  | some v =>
    let (offset, type) ← factor v
    return { scaled with offset, type := ElementType.larger scaled.type (some type) }

theorem applyEach_eq_map (s : Scaling) (xs : List Double) : s.applyEach xs = xs.map s.apply := by
  unfold applyEach
  by_cases h : s.isPacked = true
  · have : s.apply = (· + s.offset) ∘ (· * s.scale) := by
      funext x
      simp only [apply, h, if_true, Function.comp]
    rw [if_pos h, List.map_map, this]
  · have : s.apply = id := by
      funext x
      simp only [apply, h, Bool.false_eq_true, if_false, id]
    rw [if_neg h, this, List.map_id]

end Scaling

end MissingSamples
