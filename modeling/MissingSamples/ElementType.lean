/-
# Element types

What a stored variable holds: truth values, integers of four widths with or without sign, floating
numbers of four widths, pairs of them, octet strings, text, points and spans of time, raw octets,
or anything at all. Numbers have a byte order; where an element is a single octet it is `little`.

* `ElementType.code` is the short form in which a type is written;
* `ElementType.name` is the form that messages show;
* `ElementType.rank` orders the types of numbers by width, every float above every integer.
-/
import MissingSamples.Binary.Format

namespace MissingSamples

/-- The order of the octets of a number. -/
inductive ByteOrder where
  /-- Least significant octet first: the order of this machine. -/
  | little
  /-- Most significant octet first. -/
  | big
deriving DecidableEq, Repr

/-- The widths of integers. -/
inductive IntWidth where
  /-- One octet. -/
  | w8
  /-- Two octets. -/
  | w16
  /-- Four octets. -/
  | w32
  /-- Eight octets. -/
  | w64
deriving DecidableEq, Repr

/-- The octets of an integer. -/
def IntWidth.octets : IntWidth → Nat
  | .w8 => 1
  | .w16 => 2
  | .w32 => 4
  | .w64 => 8

/-- The bits of an integer. -/
def IntWidth.bits (w : IntWidth) : Nat := 8 * w.octets

/-- A type of integers. -/
structure IntType where
  /-- Negative numbers are among them. -/
  signed : Bool
  /-- How wide they are. -/
  width : IntWidth
  /-- How their octets are ordered. -/
  order : ByteOrder
deriving DecidableEq, Repr

namespace IntType

/-- The least integer of the type. -/
def least (t : IntType) : Int :=
  if t.signed then -(twoPow (t.width.bits - 1) : Int) else 0

/-- The greatest integer of the type. -/
def greatest (t : IntType) : Int :=
  if t.signed then (twoPow (t.width.bits - 1) : Int) - 1 else (twoPow t.width.bits : Int) - 1

/-- The signed type of the same width, in the order of this machine. -/
def signedOf (t : IntType) : IntType := ⟨true, t.width, .little⟩

/-- The unsigned type of the same width, in the order of this machine. -/
def unsignedOf (t : IntType) : IntType := ⟨false, t.width, .little⟩

/-- Eight octets with sign. -/
def int64 : IntType := ⟨true, .w64, .little⟩

/-- Eight octets without sign. -/
def uint64 : IntType := ⟨false, .w64, .little⟩

end IntType

/-- The widths of floating numbers. -/
inductive FloatWidth where
  /-- Two octets. -/
  | half
  /-- Four octets. -/
  | single
  /-- Eight octets. -/
  | double
  /-- Sixteen octets. Of these numbers the library tells only those that doubles hold. -/
  | extended
deriving DecidableEq, Repr

/-- The octets of a floating number. -/
def FloatWidth.octets : FloatWidth → Nat
  | .half => 2
  | .single => 4
  | .double => 8
  | .extended => 16

/-- The format to which floating numbers of the width are rounded. Extended numbers are rounded as
doubles are, since no others are told: an integer that is no double loses digits here for which
sixteen octets would have room. -/
def FloatWidth.format : FloatWidth → FloatFormat
  | .half => .binary16
  | .single => .binary32
  | .double | .extended => .binary64

/-- A type of floating numbers. -/
structure FloatType where
  /-- How wide they are. -/
  width : FloatWidth
  /-- How their octets are ordered. -/
  order : ByteOrder
deriving DecidableEq, Repr

/-- Doubles in the order of this machine. -/
def FloatType.float64 : FloatType := ⟨.double, .little⟩

/-- The units of calendar time. -/
inductive TimeUnit where
  /-- Years. -/
  | year
  /-- Months. -/
  | month
  /-- Weeks. -/
  | week
  /-- Days. -/
  | day
  /-- Hours. -/
  | hour
  /-- Minutes. -/
  | minute
  /-- Seconds. -/
  | second
  /-- Thousandths of a second. -/
  | milli
  /-- Millionths of a second. -/
  | micro
  /-- Billionths of a second. -/
  | nano
  /-- `10 ^ -12` seconds. -/
  | pico
  /-- `10 ^ -15` seconds. -/
  | femto
  /-- `10 ^ -18` seconds. -/
  | atto
deriving DecidableEq, Repr

/-- The symbol of a unit of time. -/
def TimeUnit.symbol : TimeUnit → String
  | .year => "Y"
  | .month => "M"
  | .week => "W"
  | .day => "D"
  | .hour => "h"
  | .minute => "m"
  | .second => "s"
  | .milli => "ms"
  | .micro => "us"
  | .nano => "ns"
  | .pico => "ps"
  | .femto => "fs"
  | .atto => "as"

/-- Every unit of time. -/
def TimeUnit.all : List TimeUnit :=
  [.year, .month, .week, .day, .hour, .minute, .second, .milli, .micro, .nano, .pico, .femto, .atto]

/-- A type of points or spans of time. -/
structure TimeType where
  /-- The type holds points in time; otherwise spans. -/
  isPoint : Bool
  /-- What is counted: so many of a unit, or nothing in particular. -/
  step : Option (Nat × TimeUnit)
  /-- How the octets of the count are ordered. -/
  order : ByteOrder
deriving DecidableEq, Repr

/-- The type of the elements of a variable. -/
inductive ElementType where
  /-- Truth values. -/
  | bool
  /-- Integers. -/
  | int (t : IntType)
  /-- Floating numbers. -/
  | float (t : FloatType)
  /-- Complex numbers with parts of the type. -/
  | complex (t : FloatType)
  /-- Strings of `size` octets. -/
  | bytes (size : Nat)
  /-- Text of `size` characters. -/
  | text (size : Nat) (order : ByteOrder)
  /-- Points or spans of time. -/
  | time (t : TimeType)
  /-- Blocks of `size` octets without a meaning. -/
  | void (size : Nat)
  /-- Values of any kind. -/
  | object
deriving DecidableEq, Repr

/-- The mark of an order in a code. -/
def ByteOrder.mark : ByteOrder → String
  | .little => "<"
  | .big => ">"

/-- The unit of a type of time, in brackets. -/
def TimeType.stepText (t : TimeType) : String :=
  match t.step with
  | none => ""
  | some (1, u) => "[" ++ u.symbol ++ "]"
  | some (n, u) => "[" ++ toString n ++ u.symbol ++ "]"

namespace ElementType

/-- Doubles. -/
def float64 : ElementType := .float .float64

/-- The short form of a type: order, kind and size. -/
def code : ElementType → String
  | .bool => "|b1"
  | .int t =>
    (if t.width = .w8 then "|" else t.order.mark) ++ (if t.signed then "i" else "u")
      ++ toString t.width.octets
  | .float t => t.order.mark ++ "f" ++ toString t.width.octets
  | .complex t => t.order.mark ++ "c" ++ toString (2 * t.width.octets)
  | .bytes size => "|S" ++ toString size
  | .text size order => order.mark ++ "U" ++ toString size
  | .time t => t.order.mark ++ (if t.isPoint then "M8" else "m8") ++ t.stepText
  | .void size => "|V" ++ toString size
  | .object => "|O"

/-- The order of the octets, where there is one. -/
def order : ElementType → ByteOrder
  | .int t => t.order
  | .float t => t.order
  | .complex t => t.order
  | .text _ order => order
  | .time t => t.order
  | _ => .little

/-- The form of a type that messages show: a name for a type of this machine, else its code. -/
def name (t : ElementType) : String :=
  if t.order = .big then t.code
  else
    match t with
    | .bool => "bool"
    | .int t => (if t.signed then "int" else "uint") ++ toString t.width.bits
    | .float t => "float" ++ toString (8 * t.width.octets)
    | .complex t => "complex" ++ toString (16 * t.width.octets)
    | .time t => (if t.isPoint then "datetime64" else "timedelta64") ++ t.stepText
    | .object => "object"
    | other => other.code

/-- The type holds integers or floating numbers, with which samples are compared. -/
def isNumeric : ElementType → Bool
  | .int _ | .float _ => true
  | _ => false

/-- The type holds integers with a sign. -/
def isSignedInt : ElementType → Bool
  | .int t => t.signed
  | _ => false

/-- The type holds text or octet strings. -/
def isChar : ElementType → Bool
  | .bytes _ | .text .. => true
  | _ => false

/-- The type that samples have once missing ones may be not-a-number: floats keep theirs. -/
def converted : ElementType → ElementType
  | .float t => .float t
  | _ => .float64

/-- The place of a type among the types of numbers; types of anything else come before all. -/
def rank : ElementType → Int
  | .int t =>
    match t.width with
    | .w8 => 0
    | .w16 => 1
    | .w32 => 2
    | .w64 => 3
  | .float t =>
    match t.width with
    | .half | .single => 4
    | .double | .extended => 5
  | _ => -1

/-- The place of a type that may be absent; an absent one comes before all. -/
def rank? : Option ElementType → Int
  | none => -1
  | some t => t.rank

/-- The type of higher rank; of two of one rank, the first. -/
def larger : Option ElementType → Option ElementType → Option ElementType
  | none, b => b
  | some a, none => some a
  | some a, some b => if b.rank ≤ a.rank then some a else some b

theorem larger_self (t : Option ElementType) : larger t t = t := by
  cases t <;> simp [larger]

end ElementType

end MissingSamples
