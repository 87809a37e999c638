/-
# The common type of two element types

The least type that holds the elements of both: the wider of two integers, a float wide enough for
the integers it has to hold, a text wide enough for the numbers written in it, the longest step in
which two times can be counted, and anything at all where nothing else will do. Integers may count
spans of time. The result is in the order of this machine.
-/
import MissingSamples.ElementType.Time

namespace MissingSamples

namespace IntWidth

/-- The wider of two widths. -/
def max (a b : IntWidth) : IntWidth := if a.octets ≤ b.octets then b else a

/-- The next width, if there is one. -/
def next : IntWidth → Option IntWidth
  | .w8 => some .w16
  | .w16 => some .w32
  | .w32 => some .w64
  | .w64 => none

/-- The least width of floats that hold integers of the width. -/
def floatWidth : IntWidth → FloatWidth
  | .w8 => .half
  | .w16 => .single
  | .w32 | .w64 => .double

end IntWidth

/-- The wider of two widths. -/
def FloatWidth.max (a b : FloatWidth) : FloatWidth := if a.octets ≤ b.octets then b else a

namespace ElementType

/-- The type in the order of this machine. -/
def native : ElementType → ElementType
  | .int t => .int { t with order := .little }
  | .float t => .float { t with order := .little }
  | .complex t => .complex { t with order := .little }
  | .text size _ => .text size .little
  | .time t => .time { t with order := .little }
  | other => other

/-- The common type of two types of integers. -/
def commonInt (a b : IntType) : ElementType :=
  if a.signed = b.signed then .int ⟨a.signed, a.width.max b.width, .little⟩
  else
    let signed := if a.signed then a.width else b.width
    let unsigned := if a.signed then b.width else a.width
    if unsigned.octets < signed.octets then .int ⟨true, signed, .little⟩
    else
      match unsigned.next with
      | some width => .int ⟨true, width, .little⟩
      | none => .float64

/-- How many characters a number of the type may take as text. -/
def textSize? : ElementType → Option Nat
  | .bool => some 5
  | .int t =>
    some <| match t.width with
      | .w8 => if t.signed then 4 else 3
      | .w16 => if t.signed then 6 else 5
      | .w32 => if t.signed then 11 else 10
      | .w64 => if t.signed then 21 else 20
  | .float t => some (if t.width = .extended then 48 else 32)
  | .complex t => some (if t.width = .extended then 96 else 64)
  | .bytes size | .text size _ => some size
  | _ => none

/-- The common type of two types. -/
def common (a b : ElementType) : ElementType :=
  if a.native = b.native then a.native
  else
    match a, b with
    | .bool, .int t | .int t, .bool => .int { t with order := .little }
    | .bool, .float t | .float t, .bool => .float { t with order := .little }
    | .bool, .complex t | .complex t, .bool => .complex { t with order := .little }
    | .int s, .int t => commonInt s t
    | .int s, .float t | .float t, .int s => .float ⟨s.width.floatWidth.max t.width, .little⟩
    | .int s, .complex t | .complex t, .int s =>
      .complex ⟨(s.width.floatWidth.max .single).max t.width, .little⟩
    | .float s, .float t => .float ⟨s.width.max t.width, .little⟩
    | .float s, .complex t | .complex t, .float s =>
      .complex ⟨(s.width.max .single).max t.width, .little⟩
    | .complex s, .complex t => .complex ⟨s.width.max t.width, .little⟩
    | .time s, .time t =>
      match s.common? t with
      | some common => .time common
      | none => .object
    | .time t, .bool | .bool, .time t | .time t, .int _ | .int _, .time t =>
      if t.isPoint then .object else .time { t with order := .little }
    | .text n _, other | other, .text n _ =>
      match other.textSize? with
      | some m => .text (max n m) .little
      | none => .object
    | .bytes n, other | other, .bytes n =>
      match other.textSize? with
      | some m => .bytes (max n m)
      | none => .object
    | _, _ => .object

end ElementType

end MissingSamples
