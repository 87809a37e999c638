/-
# Policies on many samples

The bulk form of a policy works on whole lists of samples, one rule after the other: each rule that
is on marks its samples, and the marks add up. A conversion then puts not-a-number in place of the
marked samples.

* `Policy.missingMask` marks the missing samples of a grid;
* `Policy.convertMissing` gives back the very grid when it has nothing to do, and otherwise a new
  one, in which integers have become doubles;
* `Policy.convertInto` does the same into a grid that the caller brings. The marks come from the
  samples as they were, before anything is written.
-/
import MissingSamples.Policy
import MissingSamples.Value.Gather

namespace MissingSamples

/-- Marks where either list has one. -/
def eitherMarked (a b : List Bool) : List Bool := List.zipWith (· || ·) a b

/-- An integer rounded once to a format. -/
def Double.ofIntIn (f : FloatFormat) (i : Int) : Double :=
  let units := f.round (i.natAbs * unitsPerOne) 1
  if units < twoPow f.limit then nearest (decide (i < 0)) units 1 else infinite (decide (i < 0))

/-- A floating number stored at another width; at its own width it stays as it is. -/
def FloatWidth.store (source target : FloatWidth) (x : Double) : Double :=
  if source = target then x else x.narrow target.format

namespace Policy

/-- Marks of the missing ones among many samples. -/
def marks (p : Policy) (xs : List Double) : List Bool :=
  let none := xs.map Double.isNaN
  let listed :=
    if p.flags.missingData && p.hasMissingValue then
      p.missingValues.foldl (fun marked v => eitherMarked marked (nearlyEqualEach xs v)) none
    else none
  let filled :=
    if p.flags.fillValue && p.declared.hasFillValue then
      eitherMarked listed (nearlyEqualEach xs p.declared.fillValue)
    else listed
  if p.flags.invalidData && p.hasValidData then
    eitherMarked filled (xs.map fun x => p.fuzzyMax.lt x || x.lt p.fuzzyMin)
  else filled

variable {α : Type}

/-- A grid of marks for the missing samples; elements that are no numbers are never missing. -/
def missingMask (p : Policy) (g : Grid α) : Grid α :=
  match g.elements.numbers? with
  | some xs => ⟨g.shape, .bools (p.marks xs)⟩
  | none => ⟨g.shape, .bools (List.replicate g.size false)⟩

/-- Not-a-number where marked, and the number elsewhere. -/
def blank (marked : List Bool) (xs : List Double) : List Double :=
  List.zipWith (fun m x => if m then .nan else x) marked xs

/-- The samples without the missing ones. Floating samples keep their type and integers become
doubles; elements that are no numbers have no such form. -/
def converted? (p : Policy) : Elements α → Option (Elements α)
  | .ints _ xs =>
    let numbers := xs.map Double.ofInt
    some (.floats .float64 (blank (p.marks numbers) numbers))
  | .floats t xs => some (.floats t (blank (p.marks xs) xs))
  | _ => none

/-- The samples as floating numbers of another width; elements that are no numbers have none. -/
def storedAs (width : FloatWidth) : Elements α → List Double
  | .ints _ xs => xs.map (Double.ofIntIn width.format)
  | .floats t xs => xs.map (t.width.store width)
  | _ => []

/-- The grid with not-a-number in place of the missing samples. The grid itself comes back if its
elements are no numbers or no sample could be missing. -/
def convertMissing (p : Policy) (g : Grid α) : Change (Grid α) :=
  if p.hasMissing then
    match p.converted? g.elements with
    | some elements => .made ⟨g.shape, elements⟩
    | none => .kept
  else .kept

/-- What the destination holds after the conversion, or that the grid itself comes back and the
destination stays as it was. -/
def convertInto (p : Policy) (g : Grid Value) (out : Value) :
    Except Failure (Change (Grid Value)) :=
  match g.elements.numbers? with
  | none => .ok .kept
  | some xs =>
    if p.hasMissing then
      match out with
      | .grid o =>
        if o.shape = g.shape then
          match o.elements with
          | .floats t _ =>
            .ok (.made ⟨g.shape, .floats t (blank (p.marks xs) (storedAs t.width g.elements))⟩)
          | _ => .error (.outNotFloating o.type)
        else .error (.outShape o.shape g.shape)
      | _ => .error .outNotArray
    else .ok .kept

end Policy

/-- A mark by itself for a grid of no dimensions, and the grid otherwise. -/
def markValue : Grid Value → Value
  | ⟨[], .bools [b]⟩ => .scalar (.bool b)
  | g => .grid g

namespace Policy

/-- The marks of a value's samples. A number by itself gets a mark by itself. -/
def maskValue (p : Policy) (v : Value) : Except Failure Value := do
  let g ← v.asGrid
  return if g.type.isNumeric then markValue (p.missingMask g) else .grid (p.missingMask g)

/-- The conversion of the samples of a value, into a destination if there is one. -/
def convertValue (p : Policy) (v : Value) (out : Option Value) :
    Except Failure (Change (Grid Value)) := do
  let g ← v.asGrid
  match out with
  | none => return p.convertMissing g
  | some o => p.convertInto g o

end Policy

/-- Which samples of a value are nearly equal to the target. A number by itself gets a mark by
itself. -/
def nearlyEqualValue (v : Value) (target bound : Double) : Except Failure Value := do
  let (shape, xs) ← v.asDoubles
  return markValue ⟨shape, .bools (nearlyEqualEach xs target bound)⟩

end MissingSamples
