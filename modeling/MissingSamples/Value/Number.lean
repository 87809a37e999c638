/-
# Values as numbers

What number a value is. Truth values count as zero and one, texts and octets have to spell a
number, and a grid of no dimensions is what its element is.

* `Value.number` is the number of a value by itself;
* `Elements.numbers` are the numbers of elements one by one, and `Elements.numbers_of_numbers?` says
  that they are those with which samples are compared.
-/
import MissingSamples.ElementType.Time
import MissingSamples.Failure
import MissingSamples.Text.Numeral
import MissingSamples.Value

namespace MissingSamples

/-- Zero or one. -/
def Double.ofBool (b : Bool) : Double := if b then 1 else 0

/-- The number that a text spells. -/
def numberOfText (s : String) : Except Failure Double :=
  match Numeral.read s with
  | some x => .ok x
  | none => .error .badNumeral

/-- The number that octets spell. -/
def numberOfBytes (xs : List UInt8) : Except Failure Double :=
  match Numeral.readBytes xs with
  | some x => .ok x
  | none => .error .badNumeral

/-- An integer as a double, if it lies among them. -/
def numberOfInt (i : Int) : Except Failure Double :=
  if (Double.ofInt i).isFinite then .ok (.ofInt i) else .error .numberTooLarge

namespace TimeType

/-- The count that stands for no time at all. -/
def noTime : Int := -9223372036854775808

/-- So many of a unit of fixed length in units of another, rounded down; nothing for others. -/
def whole? (count : Int) (u v : TimeUnit) : Option Int :=
  match u.attoseconds?, v.attoseconds? with
  | some x, some y => some (count * x / y)
  | _, _ => none

/-- The point in time lies in the years 1 to 9999. -/
def inCalendar (count : Int) (unit : TimeUnit) : Bool :=
  match unit with
  | .year => 1 - 1970 ≤ count && count ≤ 9999 - 1970
  | .month => 12 * (1 - 1970) ≤ count && count < 12 * (10000 - 1970)
  | _ => (whole? count unit .second).any fun s => -62135596800 ≤ s && s < 253402300800

/-- The span of time has fewer than a milliard of days. -/
def isSpan (count : Int) (unit : TimeUnit) : Bool :=
  (whole? count unit .day).any fun days => -999999999 ≤ days && days ≤ 999999999

/-- A count of time stands for itself where there is no other value for it: in units shorter than a
millionth of a second, outside the calendar, and for spans in units of no fixed length or of more
days than can be told. -/
def isBareCount (t : TimeType) (count : Int) : Bool :=
  match t.step with
  | none => !t.isPoint
  | some (n, unit) =>
    if unit ∈ [TimeUnit.nano, .pico, .femto, .atto] then true
    else if t.isPoint then !inCalendar (count * n) unit
    else !isSpan (count * n) unit

/-- The number of a time by itself. -/
def number (t : TimeType) (count : Int) : Except Failure Double :=
  if count ≠ noTime ∧ t.isBareCount count then .ok (.ofInt count) else .error .notNumber

end TimeType

namespace Scalar

/-- The number of an element by itself. -/
def number : Scalar → Except Failure Double
  | bool b => .ok (.ofBool b)
  | int _ i => .ok (.ofInt i)
  | float _ x => .ok x
  | complex _ re _ => .ok re
  | bytes xs => numberOfBytes xs
  | text s => numberOfText s
  | time t count => t.number count

end Scalar

/-- The numbers of elements one by one, given those of the values among them. -/
def Elements.numbers {α : Type} (number : α → Except Failure Double) :
    Elements α → Except Failure (List Double)
  | bools xs => .ok (xs.map Double.ofBool)
  | ints _ xs => .ok (xs.map Double.ofInt)
  | floats _ xs => .ok xs
  | complexes _ xs => .ok (xs.map (·.1))
  | bytes _ xs => xs.mapM numberOfBytes
  | texts _ _ xs => xs.mapM numberOfText
  | times t xs => xs.mapM t.number
  | objects xs => xs.mapM number

theorem Elements.numbers_of_numbers? {α : Type} (number : α → Except Failure Double)
    {e : Elements α} {xs : List Double} (h : e.numbers? = some xs) :
    e.numbers number = .ok xs := by
  cases e <;> simp_all [numbers?, numbers]

/-- The number of the first of some elements. -/
def numberOfFirst {α : Type} (number : α → Except Failure Double) : List α → Except Failure Double
  | x :: _ => number x
  | [] => .error .noElement

mutual

/-- The number of a value. -/
def Value.number : Value → Except Failure Double
  | .bool b => .ok (.ofBool b)
  | .int i => numberOfInt i
  | .float x => .ok x
  | .text s => numberOfText s
  | .bytes xs => numberOfBytes xs
  | .scalar s => s.number
  | .grid g => numberOfGrid g
  | _ => .error .notNumber

/-- The number of a grid: of its element, if it has no dimensions. -/
def numberOfGrid : Grid Value → Except Failure Double
  | ⟨[], elements⟩ => numberOfItem elements
  | _ => .error .notNumber

/-- The number of the element of a grid of no dimensions. A complex one has none. -/
def numberOfItem : Elements Value → Except Failure Double
  | .bools xs => numberOfFirst (fun b => .ok (.ofBool b)) xs
  | .ints _ xs => numberOfFirst (fun i => .ok (.ofInt i)) xs
  | .floats _ xs => numberOfFirst .ok xs
  | .complexes .. => .error .notNumber
  | .bytes _ xs => numberOfFirst numberOfBytes xs
  | .texts _ _ xs => numberOfFirst numberOfText xs
  | .times t xs => numberOfFirst t.number xs
  | .objects xs => numberOfObject xs

/-- The number of the first of some values. -/
def numberOfObject : List Value → Except Failure Double
  | v :: _ => v.number
  | [] => .error .noElement

end

end MissingSamples
