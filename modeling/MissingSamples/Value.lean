/-
# Values

The values that attributes, settings and documents have: nothing, truth values, numbers, texts,
octets, lists and mappings of values, dates, grids of elements, single elements and element types.
-/
import MissingSamples.Value.Elements

namespace MissingSamples

/-- One element by itself, with its type. Numbers are in the order of this machine. -/
inductive Scalar where
  /-- A truth value. -/
  | bool (b : Bool)
  /-- An integer. -/
  | int (t : IntType) (i : Int)
  /-- A floating number. -/
  | float (t : FloatType) (x : Double)
  /-- A complex number. -/
  | complex (t : FloatType) (re im : Double)
  /-- An octet string. -/
  | bytes (xs : List UInt8)
  /-- A text. -/
  | text (s : String)
  /-- A point or a span of time. -/
  | time (t : TimeType) (count : Int)
deriving DecidableEq

/-- A day of the calendar. -/
structure Date where
  /-- The year, from 1 to 9999. -/
  year : Nat
  /-- The month, from 1 to 12. -/
  month : Nat
  /-- The day of the month. -/
  day : Nat
deriving DecidableEq, Repr

/-- A time of a day, with its distance from universal time where that is known. -/
structure Moment where
  /-- The day. -/
  date : Date
  /-- The hour. -/
  hour : Nat
  /-- The minute. -/
  minute : Nat
  /-- The second. -/
  second : Nat
  /-- Millionths of a second. -/
  micro : Nat
  /-- How many seconds the clock is ahead of universal time. -/
  offset : Option Int
deriving DecidableEq, Repr

/-- A value. -/
inductive Value where
  /-- Nothing. -/
  | null
  /-- A truth value. -/
  | bool (b : Bool)
  /-- An integer of any size. -/
  | int (i : Int)
  /-- A double. -/
  | float (x : Double)
  /-- A text. -/
  | text (s : String)
  /-- Octets. -/
  | bytes (xs : List UInt8)
  /-- A list. -/
  | list (xs : List Value)
  /-- A list that cannot grow. -/
  | tuple (xs : List Value)
  /-- A collection without order. -/
  | set (xs : List Value)
  /-- Keys and what they stand for, in order. -/
  | mapping (entries : List (Value × Value))
  /-- A day. -/
  | date (d : Date)
  /-- A time of a day. -/
  | moment (m : Moment)
  /-- Elements of one type in a shape. -/
  | grid (g : Grid Value)
  /-- One element. -/
  | scalar (s : Scalar)
  /-- An element type. -/
  | elementType (t : ElementType)

instance : Inhabited Value := ⟨.null⟩

namespace Scalar

/-- The element as the only one of its type. -/
def elements : Scalar → Elements Value
  | bool b => .bools [b]
  | int t i => .ints t [i]
  | float t x => .floats t [x]
  | complex t re im => .complexes t [(re, im)]
  | bytes xs => .bytes (max 1 xs.length) [xs]
  | text s => .texts (max 1 s.length) .little [s]
  | time t count => .times t [count]

/-- The grid of no dimensions that holds the element. -/
def grid (s : Scalar) : Grid Value := ⟨[], s.elements⟩

/-- The type of the element. -/
def type (s : Scalar) : ElementType := s.elements.type

end Scalar

namespace Value

/-- The grid that a value is, an element by itself being one of no dimensions. -/
def grid? : Value → Option (Grid Value)
  | grid g => some g
  | scalar s => some s.grid
  | _ => none

/-- The value is a text, octets, or elements of such a type. -/
def isString : Value → Bool
  | text _ | bytes _ => true
  | grid g => g.type.isChar
  | scalar s => s.type.isChar
  | _ => false

end Value

end MissingSamples
