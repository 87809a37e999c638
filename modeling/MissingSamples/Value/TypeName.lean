/-
# Element types that values name

A value may name an element type: nothing names doubles, a text is read, and a single element names
the type that it has. A list of named types joins them, and a pair repeats a type.

* `Value.namedType` is the type that a value names;
* `Value.namedType_elementType` says that a type names itself.
-/
import MissingSamples.ElementType.Joined
import MissingSamples.Text.Utf8
import MissingSamples.Value

namespace MissingSamples.Value

/-- A number as the length of a dimension, or how often something is repeated. -/
def length? : Value → Option Nat
  | .int i => if 0 ≤ i then some i.toNat else none
  | _ => none

/-- What a value says about repetition. -/
def repeat? : Value → Option ElementType.Repeat
  | .tuple xs => (xs.mapM length?).map .along
  | v => v.length?.map .times

/-- The name of one of several named types in a list, if it has one. -/
def fieldName? : Value → Option String
  | .tuple (.text name :: _) => if name = "" then none else some name
  | _ => none

mutual

/-- The element type that a value names. Nothing names doubles, a list of named types joins them,
and a pair repeats a type. -/
def namedType : Value → Except Failure ElementType
  | .null => .ok .float64
  | .elementType t => .ok t
  | .text s | .scalar (.text s) => ElementType.ofText s
  | .bytes xs | .scalar (.bytes xs) => ElementType.ofText (Ascii.decode xs)
  | .scalar s => .ok s.type
  | .tuple [t, r] => do
    let t ← t.namedType
    match r.repeat? with
    | some r => t.repeated r
    | none => throw .unknownElementType
  | .list fields => do
    let types ← fieldTypes fields
    if (fields.filterMap fieldName?).Nodup then return .joined types else throw .malformedTypes
  | .mapping [] => .ok (.void 0)
  | _ => .error .unknownElementType

/-- The type of one of several named types in a list. -/
def fieldType : Value → Except Failure ElementType
  | .tuple [.text _, t] => t.namedType
  | .tuple [.text _, t, r] => do
    let t ← t.namedType
    match r.repeat? with
    | some r => t.repeated r
    | none => throw .unknownElementType
  | _ => .error .unknownElementType

/-- The types of several named types in a list. -/
def fieldTypes : List Value → Except Failure (List ElementType)
  | [] => .ok []
  | x :: xs => do
    let t ← fieldType x
    return t :: (← fieldTypes xs)

end

theorem namedType_elementType (t : ElementType) : namedType (elementType t) = .ok t := by
  simp [namedType]

end MissingSamples.Value
