/-
# Elements of one type

`Elements` is a list of elements of one type, and a `Grid` is such a list laid out in a shape, row
after row. A grid of no dimensions has one element. Where elements may be anything, they are
values of the type `α`.

* `Elements.numbers?` is the view that comparing samples needs: integers and floating numbers as
  doubles, and nothing for elements of any other type;
* `Elements.toUnsigned` reads signed integers as unsigned ones of the same width.
-/
import MissingSamples.Binary.Double
import MissingSamples.Change
import MissingSamples.ElementType

namespace MissingSamples

/-- A list of elements of one type. -/
inductive Elements (α : Type) where
  /-- Truth values. -/
  | bools (xs : List Bool)
  /-- Integers. -/
  | ints (t : IntType) (xs : List Int)
  /-- Floating numbers. -/
  | floats (t : FloatType) (xs : List Double)
  /-- Complex numbers. -/
  | complexes (t : FloatType) (xs : List (Double × Double))
  /-- Octet strings. -/
  | bytes (size : Nat) (xs : List (List UInt8))
  /-- Texts. -/
  | texts (size : Nat) (order : ByteOrder) (xs : List String)
  /-- Points or spans of time, as counts of their unit. -/
  | times (t : TimeType) (xs : List Int)
  /-- Values of any kind. -/
  | objects (xs : List α)

instance {α : Type} : Inhabited (Elements α) := ⟨.objects []⟩

/-- Elements of one type in a shape, row after row. -/
structure Grid (α : Type) where
  /-- The length of every dimension. -/
  shape : List Nat
  /-- The elements. -/
  elements : Elements α

namespace Elements

variable {α : Type}

/-- The type of the elements. -/
def type : Elements α → ElementType
  | bools _ => .bool
  | ints t _ => .int t
  | floats t _ => .float t
  | complexes t _ => .complex t
  | bytes size _ => .bytes size
  | texts size order _ => .text size order
  | times t _ => .time t
  | objects _ => .object

/-- How many elements there are. -/
def length : Elements α → Nat
  | bools xs => xs.length
  | ints _ xs => xs.length
  | floats _ xs => xs.length
  | complexes _ xs => xs.length
  | bytes _ xs => xs.length
  | texts _ _ xs => xs.length
  | times _ xs => xs.length
  | objects xs => xs.length

/-- The elements in another order, some perhaps left out, as a function on lists says. -/
def rearrange (f : {β : Type} → List β → List β) : Elements α → Elements α
  | bools xs => bools (f xs)
  | ints t xs => ints t (f xs)
  | floats t xs => floats t (f xs)
  | complexes t xs => complexes t (f xs)
  | bytes size xs => bytes size (f xs)
  | texts size order xs => texts size order (f xs)
  | times t xs => times t (f xs)
  | objects xs => objects (f xs)

/-- The first `n` elements without the first `m`. -/
def slice (m n : Nat) (e : Elements α) : Elements α := e.rearrange fun xs => (xs.take n).drop m

/-- Integers and floating numbers as doubles. -/
def numbers? : Elements α → Option (List Double)
  | ints _ xs => some (xs.map Double.ofInt)
  | floats _ xs => some xs
  | _ => none

/-- The integer of the unsigned type that has the same octets. -/
def unsignedOf (width : IntWidth) (i : Int) : Int := i % (twoPow width.bits : Int)

/-- Signed integers read as unsigned ones of the same width, if that is wanted. -/
def toUnsigned (unsigned : Bool) : Elements α → Change (Elements α)
  | ints t xs =>
    if unsigned && t.signed then .made (ints t.unsignedOf (xs.map (unsignedOf t.width))) else .kept
  | _ => .kept

theorem isSome_numbers? (e : Elements α) : e.numbers?.isSome = e.type.isNumeric := by
  cases e <;> rfl

theorem length_numbers? {e : Elements α} {xs : List Double} (h : e.numbers? = some xs) :
    xs.length = e.length := by
  cases e <;> simp_all [numbers?, length]
  subst h
  simp

theorem toUnsigned_false (e : Elements α) : e.toUnsigned false = .kept := by
  cases e <;> rfl

end Elements

namespace Grid

variable {α : Type}

/-- The type of the elements. -/
def type (g : Grid α) : ElementType := g.elements.type

/-- How many elements there are. -/
def size (g : Grid α) : Nat := g.elements.length

/-- The grid with at least one dimension. -/
def atLeastOneDim (g : Grid α) : Grid α :=
  match g.shape with
  | [] => { g with shape := [1] }
  | _ => g

/-- Signed integers read as unsigned ones of the same width, if that is wanted. -/
def toUnsigned (unsigned : Bool) (g : Grid α) : Change (Grid α) :=
  match g.elements.toUnsigned unsigned with
  | .kept => .kept
  | .made elements => .made { g with elements }

/-- Doubles in a shape. -/
def ofDoubles (shape : List Nat) (xs : List Double) : Grid α := ⟨shape, .floats .float64 xs⟩

end Grid

end MissingSamples
