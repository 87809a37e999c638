/-
# Values as grids

Lists of values of one shape make a grid whose element type is common to all of them.

* `Value.asGrid` is the grid that a value makes;
* `Value.asDoubles` is the grid of doubles that it makes, where texts have to spell numbers and
  nothing becomes not-a-number;
* `Value.memberNumber_of_number` says that values which are numbers are the same numbers there.
-/
import MissingSamples.ElementType.Common
import MissingSamples.Value.Display

namespace MissingSamples

/-- A text as an element of fixed size keeps it: cut off, and without zero characters at its
end. -/
def storedText (size : Nat) (s : String) : String :=
  String.ofList ((s.toList.take size).reverse.dropWhile (· == Char.ofNat 0)).reverse

/-- Octets as an element of fixed size keeps them: cut off, and without zeros at their end. -/
def storedBytes (size : Nat) (xs : List UInt8) : List UInt8 :=
  ((xs.take size).reverse.dropWhile (· == 0)).reverse

/-- The dimensions that a grid may have. -/
def maxDims : Nat := 64

/-- The shape of a list whose members have these shapes, which must all be the same. -/
def stackedShape : List (List Nat) → Except Failure (List Nat)
  | [] => .ok [0]
  | s :: rest =>
    if rest.all (· == s) && s.length < maxDims then .ok ((rest.length + 1) :: s)
    else .error .ragged

mutual

/-- The shape of the grid that a value makes. -/
def Value.shape : Value → Except Failure (List Nat)
  | .list xs => shapes xs >>= stackedShape
  | .tuple xs => shapes xs >>= stackedShape
  | .grid g => .ok g.shape
  | _ => .ok []

/-- The shapes of the grids that values make. -/
def shapes : List Value → Except Failure (List (List Nat))
  | [] => .ok []
  | x :: xs => do
    let s ← x.shape
    let rest ← shapes xs
    return s :: rest

end

mutual

/-- The members of a list, of the lists in it, and so on. -/
def Value.leaves : Value → List Value
  | .list xs => leavesOfAll xs
  | .tuple xs => leavesOfAll xs
  | v => [v]

/-- The members of some values, one value after the other. -/
def leavesOfAll : List Value → List Value
  | [] => []
  | x :: xs => x.leaves ++ leavesOfAll xs

end

/-- The elements one by one. -/
def Elements.items : Elements Value → List Value
  | .bools xs => xs.map fun b => .scalar (.bool b)
  | .ints t xs => xs.map fun i => .scalar (.int t i)
  | .floats t xs => xs.map fun x => .scalar (.float t x)
  | .complexes t xs => xs.map fun z => .scalar (.complex t z.1 z.2)
  | .bytes _ xs => xs.map fun b => .scalar (.bytes b)
  | .texts _ _ xs => xs.map fun s => .scalar (.text s)
  | .times t xs => xs.map fun i => .scalar (.time t i)
  | .objects xs => xs

/-- The type that an integer without one takes: eight octets, with sign if that will do, and none
if it is longer. -/
def typeOfInt (i : Int) : ElementType :=
  if IntType.int64.least ≤ i ∧ i ≤ IntType.int64.greatest then .int .int64
  else if 0 ≤ i ∧ i ≤ IntType.uint64.greatest then .int .uint64
  else .object

/-- The type that a leaf has by itself. -/
def Value.leafType : Value → ElementType
  | .int i => typeOfInt i
  | .bool _ => .bool
  | .float _ => .float64
  | .text s => .text (max 1 s.length) .little
  | .bytes xs => .bytes (max 1 xs.length)
  | .grid g => g.type
  | .scalar s => s.type
  | _ => .object

/-- The type of the grid that leaves make: common to all, and doubles if there is none. -/
def typeOfLeaves (leaves : List Value) : ElementType :=
  match leaves.map Value.leafType with
  | [] => .float64
  | t :: rest => rest.foldl ElementType.common t.native

namespace Value

/-- A leaf as a truth value. -/
def toBool : Value → Bool
  | bool b | scalar (.bool b) => b
  | _ => false

/-- A leaf as an integer. -/
def toInt : Value → Int
  | bool b | scalar (.bool b) => if b then 1 else 0
  | int i | scalar (.int _ i) => i
  | _ => 0

/-- A leaf as a complex number. -/
def toComplex : Value → Double × Double
  | scalar (.complex _ re im) => (re, im)
  | bool b | scalar (.bool b) => (.ofBool b, 0)
  | int i | scalar (.int _ i) => (.ofInt i, 0)
  | float x | scalar (.float _ x) => (x, 0)
  | _ => (0, 0)

/-- A leaf as a count of time of the type. Integers are counts themselves. -/
def toCount (t : TimeType) : Value → Int
  | scalar (.time source count) => source.recount t count
  | v => v.toInt

/-- A leaf as text. Octets have to be ASCII. -/
def toText : Value → Except Failure String
  | bytes xs | scalar (.bytes xs) =>
    if xs.all (·.toNat < 0x80) then .ok (Ascii.decode xs) else .error .notAscii
  | v => .ok v.shown

/-- A leaf as octets. -/
def toBytes : Value → List UInt8
  | bytes xs | scalar (.bytes xs) => xs
  | v => v.shown.toUTF8.toList

/-- The double that a value becomes in an array of doubles: nothing is not-a-number there. -/
def memberNumber (v : Value) : Except Failure Double :=
  match v.number with
  | .ok x => .ok x
  | .error f =>
    match v with
    | null => .ok .nan
    | list _ | tuple _ | grid _ => .error .sequenceElement
    | _ => .error f

end Value

/-- The elements of a grid as values outside an array. -/
def Elements.values : Elements Value → List Value
  | .objects xs => xs
  | elements => elements.items.map Value.item

/-- The elements as doubles of an array, where times are their counts. -/
def Elements.cast : Elements Value → Except Failure (List Double)
  | .times _ xs => .ok (xs.map Double.ofInt)
  | .objects xs => xs.mapM Value.memberNumber
  | elements => elements.numbers Value.number

namespace Value

/-- The elements of a leaf. -/
def leafItems : Value → List Value
  | grid g => g.elements.items
  | v => [v]

/-- A leaf as values of any kind. A grid of no dimensions stays what it is. -/
def leafValues : Value → List Value
  | grid ⟨[], elements⟩ => [grid ⟨[], elements⟩]
  | grid g => g.elements.values
  | v => [v]

/-- A leaf as doubles of an array. -/
def leafDoubles : Value → Except Failure (List Double)
  | grid g => g.elements.cast
  | scalar s => s.elements.cast
  | v => return [← v.memberNumber]

end Value

/-- Leaves as elements of a type that is common to them. -/
def Elements.ofLeaves (t : ElementType) (leaves : List Value) :
    Except Failure (Elements Value) :=
  let items := leaves.flatMap Value.leafItems
  match t with
  | .bool => .ok (.bools (items.map Value.toBool))
  | .int t => .ok (.ints t (items.map Value.toInt))
  | .float t => return .floats t (← leaves.mapM Value.leafDoubles).flatten
  | .complex t => .ok (.complexes t (items.map Value.toComplex))
  | .bytes size => .ok (.bytes size (items.map fun v => storedBytes size v.toBytes))
  | .text size order => return .texts size order ((← items.mapM Value.toText).map (storedText size))
  | .time t => .ok (.times t (items.map (Value.toCount t)))
  | .void _ | .object => .ok (.objects (leaves.flatMap Value.leafValues))

namespace Value

/-- The grid that a value makes. -/
def asGrid (v : Value) : Except Failure (Grid Value) :=
  match v.grid? with
  | some g => .ok g
  | none => do
    let shape ← v.shape
    let elements ← Elements.ofLeaves (typeOfLeaves v.leaves) v.leaves
    return ⟨shape, elements⟩

/-- The grid of doubles that a value makes. -/
def asDoubles (v : Value) : Except Failure (List Nat × List Double) :=
  match v.grid? with
  | some g => return (g.shape, ← g.elements.cast)
  | none => do
    let shape ← v.shape
    return (shape, (← v.leaves.mapM leafDoubles).flatten)

theorem asGrid_grid (g : Grid Value) : (grid g).asGrid = .ok g := rfl

theorem memberNumber_of_number {v : Value} {x : Double} (h : v.number = .ok x) :
    v.memberNumber = .ok x := by
  simp only [memberNumber, h]

end Value

end MissingSamples
