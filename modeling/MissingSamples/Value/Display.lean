/-
# Values as text

Two ways to show a value. `Value.shown` is the value on its own, where a text is itself;
`Value.quoted` is the value inside a list or a mapping, where a text stands in quotes and a single
element names its type.

`Value.asText` reads the text of an attribute: octets as UTF-8, an array by its first element, and
anything else as shown.
-/
import MissingSamples.Text.Utf8
import MissingSamples.Value.Bracketed

namespace MissingSamples

/-- A double as text. -/
def Double.shown (x : Double) : String := FloatWidth.double.text x

/-- A complex number with parts of the width, without parentheses. -/
def complexText (w : FloatWidth) (re im : Double) : String :=
  let part x := Notation.text w.style.bare w.interval x
  let sign := if (part im).startsWith "-" then "" else "+"
  if re = .zero false then part im ++ "j" else part re ++ sign ++ part im ++ "j"

/-- A complex number as text; one with a real part stands in parentheses. -/
def complexShown (w : FloatWidth) (re im : Double) : String :=
  let text := complexText w re im
  if re = .zero false then text else "(" ++ text ++ ")"

namespace Scalar

/-- The value that an element is outside an array. Complex and extended numbers stay what they
are. -/
def item : Scalar → Value
  | bool b => .bool b
  | int _ i => .int i
  | float t x => if t.width = .extended then .scalar (float t x) else .float x
  | complex t re im =>
    if t.width = .extended then .scalar (complex t re im)
    else .scalar (complex { t with width := .double } re im)
  | bytes xs => .bytes xs
  | text s => .text s
  | time t count => t.item count

/-- The element as text. -/
def shown : Scalar → String
  | bool b => boolShown b
  | int _ i => toString i
  | float t x => t.width.text x
  | complex t re im => complexShown t.width re im
  | bytes xs => Quoted.encodeBytes xs
  | text s => s
  | time t count => t.shown count

/-- A number of a type with its name around it. Extended numbers stand in quotes. -/
def named (name text : String) (isExtended : Bool) : String :=
  let text := if isExtended then "'" ++ text ++ "'" else text
  "np." ++ name ++ "(" ++ text ++ ")"

/-- The element as it stands in lists. -/
def quoted : Scalar → String
  | bool b => "np." ++ boolShown b ++ "_"
  | int t i => named (ElementType.int t).name (toString i) false
  | float t x =>
    if t.width = .extended then named "longdouble" (t.width.text x) true
    else named (ElementType.float t).name (t.width.text x) false
  | complex t re im =>
    if t.width = .extended then named "clongdouble" (complexText t.width re im) true
    else named (ElementType.complex t).name (complexText t.width re im) false
  | bytes xs => named "bytes_" (Quoted.encodeBytes xs) false
  | text s => named "str_" (Quoted.encode s) false
  | time t count => t.quoted count

end Scalar

/-- The parts of a collection between an opening and a closing mark. -/
def enclosed (opening closing : String) (parts : List String) : String :=
  opening ++ ", ".intercalate parts ++ closing

/-- The text of a date inside a list. -/
def Date.quoted (d : Date) : String :=
  enclosed "datetime.date(" ")" [toString d.year, toString d.month, toString d.day]

/-- The text of a moment inside a list. -/
def Moment.quoted (m : Moment) : String :=
  let parts := [m.date.year, m.date.month, m.date.day, m.hour, m.minute]
    ++ (if m.second = 0 ∧ m.micro = 0 then [] else [m.second])
    ++ (if m.micro = 0 then [] else [m.micro])
  let zone := match m.offset with
    | none => []
    | some 0 => ["tzinfo=datetime.timezone.utc"]
    | some s =>
      let days := s / 86400
      let seconds := s % 86400
      let delta := (if days = 0 then [] else ["days=" ++ toString days])
        ++ (if seconds = 0 then [] else ["seconds=" ++ toString seconds])
      ["tzinfo=datetime.timezone(datetime.timedelta" ++ enclosed "(" ")" delta ++ ")"]
  enclosed "datetime.datetime(" ")" (parts.map toString ++ zone)

/-- An element type inside a list: its name, or its code where that does not depend on the
machine. -/
def ElementType.quoted (t : ElementType) : String :=
  let code := match t with
    | .bytes 0 => "S"
    | .bytes size => "S" ++ toString size
    | .void 0 => "V"
    | .void size => "V" ++ toString size
    | .text 0 order => order.mark ++ "U"
    | .object => "O"
    | .text .. | .time _ => t.code
    | _ => t.name
  "dtype('" ++ code ++ "')"

mutual

/-- The value inside a list or a mapping. -/
def Value.quoted : Value → String
  | .null => "None"
  | .bool b => boolShown b
  | .int i => toString i
  | .float x => x.shown
  | .text s => Quoted.encode s
  | .bytes xs => Quoted.encodeBytes xs
  | .list xs => enclosed "[" "]" (quotedAll xs)
  | .tuple [x] => "(" ++ x.quoted ++ ",)"
  | .tuple xs => enclosed "(" ")" (quotedAll xs)
  | .set [] => "set()"
  | .set xs => enclosed "\x7b" "\x7d" (quotedAll xs)
  | .mapping entries => enclosed "\x7b" "\x7d" (quotedEntries entries)
  | .date d => d.quoted
  | .moment m => m.quoted
  | .grid g => quotedGrid g
  | .scalar s => s.quoted
  | .elementType t => t.quoted

/-- The values inside a list. -/
def quotedAll : List Value → List String
  | [] => []
  | x :: xs => x.quoted :: quotedAll xs

/-- A key and what it stands for. -/
def quotedEntry : Value × Value → String
  | (k, v) => k.quoted ++ ": " ++ v.quoted

/-- The keys of a mapping and what they stand for. -/
def quotedEntries : List (Value × Value) → List String
  | [] => []
  | e :: rest => quotedEntry e :: quotedEntries rest

/-- A grid inside a list. -/
def quotedGrid : Grid Value → String
  | ⟨shape, elements⟩ => Grid.listed ⟨shape, quotedElements elements⟩

/-- The elements of a grid, with texts for those that may be of any kind. -/
def quotedElements : Elements Value → Elements String
  | .bools xs => .bools xs
  | .ints t xs => .ints t xs
  | .floats t xs => .floats t xs
  | .complexes t xs => .complexes t xs
  | .bytes size xs => .bytes size xs
  | .texts size order xs => .texts size order xs
  | .times t xs => .times t xs
  | .objects xs => .objects (quotedMembers xs)

/-- A value as an element of a grid, where a list names its kind. -/
def quotedMember : Value → String
  | .list xs => "list(" ++ enclosed "[" "]" (quotedAll xs) ++ ")"
  | v => v.quoted

/-- The values as elements of a grid. -/
def quotedMembers : List Value → List String
  | [] => []
  | x :: xs => quotedMember x :: quotedMembers xs

end

/-- The first of the elements by itself. -/
def Elements.first? : Elements Value → Option Value
  | .bools xs => xs.head?.map fun b => .scalar (.bool b)
  | .ints t xs => xs.head?.map fun i => .scalar (.int t i)
  | .floats t xs => xs.head?.map fun x => .scalar (.float t x)
  | .complexes t xs => xs.head?.map fun z => .scalar (.complex t z.1 z.2)
  | .bytes _ xs => xs.head?.map fun b => .scalar (.bytes b)
  | .texts _ _ xs => xs.head?.map fun s => .scalar (.text s)
  | .times t xs => xs.head?.map fun i => .scalar (.time t i)
  | .objects xs => xs.head?

/-- An element by itself as text, octets as they stand in lists. -/
def Scalar.alone : Scalar → String
  | bytes xs => (bytes xs).quoted
  | s => s.shown

mutual

/-- The value on its own. -/
def Value.shown : Value → String
  | .text s => s
  | .scalar s => s.shown
  | .elementType t => t.name
  | .date d => d.text
  | .moment m => m.text " "
  | .grid g => shownGrid g
  | v => v.quoted

/-- A grid on its own: one of no dimensions as its element, any other in brackets. -/
def shownGrid : Grid Value → String
  | ⟨[], elements⟩ => shownElement elements
  | ⟨shape, elements⟩ => Grid.bracketed ⟨shape, quotedElements elements⟩

/-- The first element on its own. -/
def shownElement : Elements Value → String
  | .objects xs => shownFirst xs
  | elements =>
    match elements.first? with
    | some (.scalar s) => s.alone
    | _ => ""

/-- The first of some values on its own. -/
def shownFirst : List Value → String
  | [] => ""
  | .bytes xs :: _ => (Value.bytes xs).quoted
  | .scalar s :: _ => s.alone
  | x :: _ => x.shown

end

namespace Value

/-- The value that an element is outside an array; any other value is itself. -/
def item : Value → Value
  | scalar s => s.item
  | v => v

/-- The text of a single value, octets being read as UTF-8. -/
def decoded : Value → String
  | bytes xs => Utf8.decode xs
  | scalar (.bytes xs) => Utf8.decode xs
  | v => v.shown

/-- The text of an attribute: of a grid, that of its first element, which is taken for a value
outside an array if it is the only one. -/
def asText (v : Value) : Except Failure String :=
  match v.grid? with
  | none => .ok v.decoded
  | some g =>
    match g.elements.first? with
    | none => .error .noElement
    | some e => .ok (if g.size = 1 ∧ g.type ≠ .object then e.item.decoded else e.decoded)

end Value

end MissingSamples
