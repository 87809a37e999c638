/-
# Default fill values

The value that fills samples never written, where a variable declares none: one for every type of
numbers that can be stored, zero for characters, and not-a-number for anything else.
-/
import MissingSamples.Value.Number

namespace MissingSamples

/-- The stored types with a default fill value of their own. -/
inductive StoredType where
  /-- One octet with sign. -/
  | byte
  /-- A character. -/
  | char
  /-- Two octets with sign. -/
  | short
  /-- Four octets with sign. -/
  | int
  /-- Eight octets with sign. -/
  | int64
  /-- Single-precision numbers. -/
  | float
  /-- Doubles. -/
  | double
  /-- One octet. -/
  | ubyte
  /-- Two octets. -/
  | ushort
  /-- Four octets. -/
  | uint
  /-- Eight octets. -/
  | uint64
deriving DecidableEq, Repr

namespace StoredType

/-- The default fill value of floating numbers. -/
def floatFill : Double := .ofDecimal false 99692099683868690 20

/-- The default fill value: near an end of the range, so that it is unlikely as a sample. -/
def fill : StoredType → Value
  | byte => .int (-127)
  | char => .int 0
  | short => .int (-32767)
  | int => .int (-2147483647)
  | int64 => .int (-9223372036854775806)
  | float => .float floatFill
  | double => .float floatFill
  | ubyte => .int 255
  | ushort => .int 65535
  | uint => .int 4294967295
  | uint64 => .int 18446744073709551614

/-- The stored type of integers. -/
def ofInt (signed : Bool) : IntWidth → StoredType
  | .w8 => if signed then byte else ubyte
  | .w16 => if signed then short else ushort
  | .w32 => if signed then int else uint
  | .w64 => if signed then int64 else uint64

/-- The stored type of elements, integers being unsigned if that is how they are meant. -/
def ofElementType? (unsigned : Bool) : ElementType → Option StoredType
  | .bytes _ | .text .. => some char
  | .int t => some (ofInt (t.signed && !unsigned) t.width)
  | .float ⟨.single, _⟩ => some float
  | .float ⟨.double, _⟩ => some double
  | _ => none

/-- The default fill value as a double. -/
def fillNumber (t : StoredType) : Double :=
  match t.fill with
  | .int i => .ofInt i
  | .float x => x
  | _ => .nan

end StoredType

/-- The default fill value of elements of the type. -/
def ElementType.defaultFill (t : ElementType) (unsigned : Bool := false) : Double :=
  match StoredType.ofElementType? unsigned t with
  | some stored => stored.fillNumber
  | none => .nan

end MissingSamples
