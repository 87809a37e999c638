/-
# Attributes

The attributes of a variable: names and what they stand for. Eight names say which samples are
missing and how samples are packed; `Convention` lists them.

An attribute that stands for nothing counts as absent, see `Attributes.given?`.

* `find?_merge`, `find?_only` and `find?_without` say what stands under a name after attributes are
  put together or taken apart.
-/
import MissingSamples.Entries
import MissingSamples.Value.Display

namespace MissingSamples

/-- The attributes that say which samples are missing and how samples are packed. -/
inductive Convention where
  /-- The lower and the upper bound of valid samples. -/
  | validRange
  /-- The lower bound of valid samples. -/
  | validMin
  /-- The upper bound of valid samples. -/
  | validMax
  /-- The value that fills samples never written. -/
  | fillValue
  /-- The values that stand for missing samples. -/
  | missingValue
  /-- What packed samples are multiplied by. -/
  | scaleFactor
  /-- What is added to packed samples once they are multiplied. -/
  | addOffset
  /-- Whether signed integers are meant to be unsigned. -/
  | unsigned
deriving DecidableEq, Repr

namespace Convention

/-- The name of the attribute. -/
def name : Convention → String
  | validRange => "valid_range"
  | validMin => "valid_min"
  | validMax => "valid_max"
  | fillValue => "_FillValue"
  | missingValue => "missing_value"
  | scaleFactor => "scale_factor"
  | addOffset => "add_offset"
  | unsigned => "_Unsigned"

/-- The attributes that say how samples are packed. -/
def packing : List Convention := [scaleFactor, addOffset, unsigned]

/-- The attributes that may stand in an encoding instead. -/
def encoded : List Convention := [fillValue, missingValue, scaleFactor, addOffset, unsigned]

theorem name_injective {a b : Convention} (h : a.name = b.name) : a = b := by
  cases a <;> cases b <;> simp_all [name]

end Convention

/-- Names and what they stand for, in order. -/
structure Attributes where
  /-- The entries. A name stands once. -/
  entries : List (String × Value) := []

namespace Attributes

/-- What a name stands for. -/
def find? (a : Attributes) (name : String) : Option Value := a.entries.lookup name

/-- What a name stands for, unless it is nothing. -/
def given? (a : Attributes) (c : Convention) : Option Value :=
  match a.find? c.name with
  | some .null => none
  | found => found

/-- What a name stands for, unless it is nothing or a text. -/
def numeric? (a : Attributes) (c : Convention) : Option Value :=
  (a.given? c).filter fun v => !v.isString

/-- The name is there. -/
def has (a : Attributes) (name : String) : Bool := (a.find? name).isSome

/-- The attributes with a name standing for the value. A name that is there keeps its place. -/
def insert (a : Attributes) (name : String) (v : Value) : Attributes :=
  ⟨Entries.put a.entries name v⟩

/-- The first attributes with all of the second inserted: a name of the first keeps its place, and
the names that only the second have follow. -/
def merge (a b : Attributes) : Attributes :=
  ⟨(a.entries.map fun e => (e.1, (b.find? e.1).getD e.2))
    ++ b.entries.filter fun e => !a.has e.1⟩

/-- The attributes under the given names. -/
def only (a : Attributes) (names : List String) : Attributes :=
  ⟨a.entries.filter fun e => names.contains e.1⟩

/-- The attributes under other names than the given. -/
def without (a : Attributes) (names : List String) : Attributes :=
  ⟨a.entries.filter fun e => !names.contains e.1⟩

@[simp] theorem find?_insert_self (a : Attributes) (name : String) (v : Value) :
    (a.insert name v).find? name = some v :=
  Entries.lookup_put_self a.entries name v

theorem find?_insert_of_ne (a : Attributes) {name other : String} (h : other ≠ name) (v : Value) :
    (a.insert name v).find? other = a.find? other :=
  Entries.lookup_put_of_ne a.entries h v

theorem find?_merge (a b : Attributes) (name : String) :
    (a.merge b).find? name = (b.find? name).or (a.find? name) := by
  simp only [find?, merge, List.lookup_append]
  rw [Entries.lookup_map fun e => (b.entries.lookup e.1).getD e.2,
    Entries.lookup_filter fun k => !a.has k]
  cases ha : a.entries.lookup name <;> cases hb : b.entries.lookup name <;>
    simp [has, find?, ha, hb]

theorem find?_only (a : Attributes) (names : List String) (name : String) :
    (a.only names).find? name = if names.contains name then a.find? name else none :=
  Entries.lookup_filter names.contains name a.entries

theorem find?_without (a : Attributes) (names : List String) (name : String) :
    (a.without names).find? name = if !names.contains name then a.find? name else none :=
  Entries.lookup_filter (fun k => !names.contains k) name a.entries

theorem has_eq_false_iff {a : Attributes} {name : String} :
    a.has name = false ↔ a.find? name = none := by
  rw [has, Option.isSome_eq_false_iff, Option.isNone_iff_eq_none]

@[simp] theorem has_insert_self (a : Attributes) (name : String) (v : Value) :
    (a.insert name v).has name = true := by
  simp [has]

end Attributes

namespace Value

/-- A key and its value, if the key is a text. -/
def textEntry? : Value × Value → Option (String × Value)
  | (.text k, v) => some (k, v)
  | _ => none

/-- The attributes that a value is. -/
def attributes? : Value → Option Attributes
  | mapping entries => some ⟨entries.filterMap textEntry?⟩
  | _ => none

/-- The kind of a value, as messages name it. -/
def kind : Value → String
  | null => "NoneType"
  | bool _ => "bool"
  | int _ => "int"
  | float _ => "float"
  | text _ => "str"
  | bytes _ => "bytes"
  | list _ => "list"
  | tuple _ => "tuple"
  | set _ => "set"
  | mapping _ => "dict"
  | date _ => "date"
  | moment _ => "datetime"
  | grid _ => "ndarray"
  | scalar (.bytes _) => "bytes_"
  | scalar (.text _) => "str_"
  | scalar (.time t _) => if t.isPoint then "datetime64" else "timedelta64"
  | scalar (.float ⟨.extended, _⟩ _) => "longdouble"
  | scalar (.complex ⟨.extended, _⟩ _ _) => "clongdouble"
  | scalar s => s.type.name
  | elementType t =>
    match t with
    | .bool => "BoolDType"
    | .int t => (if t.signed then "Int" else "UInt") ++ toString t.width.bits ++ "DType"
    | .float t =>
      if t.width = .extended then "LongDoubleDType"
      else "Float" ++ toString (8 * t.width.octets) ++ "DType"
    | .complex t =>
      if t.width = .extended then "CLongDoubleDType"
      else "Complex" ++ toString (16 * t.width.octets) ++ "DType"
    | .bytes _ => "BytesDType"
    | .text .. => "StrDType"
    | .time t => if t.isPoint then "DateTime64DType" else "TimeDelta64DType"
    | .void _ => "VoidDType"
    | .object => "ObjectDType"

end Value

end MissingSamples
