/-
# Reading element types

The ways of naming an element type: a word, a letter, or a letter with a size and perhaps a mark
of byte order in front. A type of time takes its unit in brackets. Case counts.
-/
import MissingSamples.ElementType

namespace MissingSamples.ElementType

/-- A type of integers in the order of this machine. -/
def plainInt (signed : Bool) (width : IntWidth) : ElementType := .int ⟨signed, width, .little⟩

/-- A type of floating numbers in the order of this machine. -/
def plainFloat (width : FloatWidth) : ElementType := .float ⟨width, .little⟩

/-- A type of complex numbers in the order of this machine. -/
def plainComplex (width : FloatWidth) : ElementType := .complex ⟨width, .little⟩

/-- The words for types. -/
def words : List (String × ElementType) :=
  [("bool", .bool), ("bool_", .bool),
   ("int8", plainInt true .w8), ("int16", plainInt true .w16),
   ("int32", plainInt true .w32), ("int64", plainInt true .w64),
   ("uint8", plainInt false .w8), ("uint16", plainInt false .w16),
   ("uint32", plainInt false .w32), ("uint64", plainInt false .w64),
   ("byte", plainInt true .w8), ("ubyte", plainInt false .w8),
   ("short", plainInt true .w16), ("ushort", plainInt false .w16),
   ("intc", plainInt true .w32), ("uintc", plainInt false .w32),
   ("int", plainInt true .w64), ("uint", plainInt false .w64),
   ("int_", plainInt true .w64), ("long", plainInt true .w64), ("ulong", plainInt false .w64),
   ("longlong", plainInt true .w64), ("ulonglong", plainInt false .w64),
   ("intp", plainInt true .w64), ("uintp", plainInt false .w64),
   ("float16", plainFloat .half), ("float32", plainFloat .single),
   ("float64", plainFloat .double), ("float128", plainFloat .extended),
   ("half", plainFloat .half), ("single", plainFloat .single), ("double", plainFloat .double),
   ("float", plainFloat .double), ("longdouble", plainFloat .extended),
   ("complex64", plainComplex .single), ("complex128", plainComplex .double),
   ("complex256", plainComplex .extended), ("csingle", plainComplex .single),
   ("cdouble", plainComplex .double), ("clongdouble", plainComplex .extended),
   ("complex", plainComplex .double),
   ("object", .object), ("object_", .object),
   ("str", .text 0 .little), ("str_", .text 0 .little), ("unicode", .text 0 .little),
   ("bytes", .bytes 0), ("bytes_", .bytes 0), ("void", .void 0)]

/-- The types that single letters name. -/
def letter : Char → Option ElementType
  | '?' => some .bool
  | 'b' => some (plainInt true .w8)
  | 'B' => some (plainInt false .w8)
  | 'h' => some (plainInt true .w16)
  | 'H' => some (plainInt false .w16)
  | 'i' => some (plainInt true .w32)
  | 'I' => some (plainInt false .w32)
  | 'l' | 'q' | 'p' | 'n' => some (plainInt true .w64)
  | 'L' | 'Q' | 'P' | 'N' => some (plainInt false .w64)
  | 'e' => some (plainFloat .half)
  | 'f' => some (plainFloat .single)
  | 'd' => some (plainFloat .double)
  | 'g' => some (plainFloat .extended)
  | 'F' => some (plainComplex .single)
  | 'D' => some (plainComplex .double)
  | 'G' => some (plainComplex .extended)
  | 'S' => some (.bytes 0)
  | 'c' => some (.bytes 1)
  | 'U' => some (.text 0 .little)
  | 'V' => some (.void 0)
  | 'O' => some .object
  | 'M' => some (.time ⟨true, none, .little⟩)
  | 'm' => some (.time ⟨false, none, .little⟩)
  | _ => none

/-- The width of integers of so many octets. -/
def intWidth? : Nat → Option IntWidth
  | 1 => some .w8
  | 2 => some .w16
  | 4 => some .w32
  | 8 => some .w64
  | _ => none

/-- The width of floating numbers of so many octets. -/
def floatWidth? : Nat → Option FloatWidth
  | 2 => some .half
  | 4 => some .single
  | 8 => some .double
  | 16 => some .extended
  | _ => none

/-- The most octets that an element may have. -/
def greatestSize : Nat := 2147483647

/-- The type of a kind of elements with a size. -/
def sized (kind : Char) (size : Nat) : Option ElementType :=
  match kind with
  | 'b' => if size = 1 then some .bool else none
  | 'i' => (intWidth? size).map (plainInt true)
  | 'u' => (intWidth? size).map (plainInt false)
  | 'f' => (floatWidth? size).map plainFloat
  | 'c' =>
    if size = 8 then some (plainComplex .single)
    else if size = 16 then some (plainComplex .double)
    else if size = 32 then some (plainComplex .extended)
    else none
  | 'S' => if size ≤ greatestSize then some (.bytes size) else none
  | 'U' => if 4 * size ≤ greatestSize then some (.text size .little) else none
  | 'V' => if size ≤ greatestSize then some (.void size) else none
  | 'O' => if size = 4 ∨ size = 8 then some .object else none
  | 'M' => if size = 8 then some (.time ⟨true, none, .little⟩) else none
  | 'm' => if size = 8 then some (.time ⟨false, none, .little⟩) else none
  | _ => none

/-- The number that ASCII digits spell; there must be some. -/
def digitsValue? (digits : List Char) : Option Nat :=
  if digits ≠ [] ∧ digits.all Char.isDigit then
    some (digits.foldl (fun n c => n * 10 + (c.toNat - 0x30)) 0)
  else none

/-- The number that digits spell, perhaps with a sign and blanks in front; none is below zero. -/
def size? (cs : List Char) : Option Nat :=
  match cs.dropWhile fun c => c.isWhitespace || c == '\x0b' || c == '\x0c' with
  | '+' :: digits => digitsValue? digits
  | '-' :: digits => (digitsValue? digits).filter (· == 0)
  | digits => digitsValue? digits

/-- The unit of time that stands in brackets. -/
def step? (inside : List Char) : Option (Option (Nat × TimeUnit)) := do
  let count := inside.takeWhile Char.isDigit
  let symbol := String.ofList (inside.dropWhile Char.isDigit)
  if count = [] ∧ symbol = "generic" then some none
  else
    let unit ← TimeUnit.all.find? fun u => u.symbol == symbol || (u == .micro && symbol == "μs")
    let n ← if count = [] then some 1 else size? count
    if n = 0 then none else some (some (n, unit))

/-- A type of time: what names it, and its unit in brackets or none. -/
def timeSpec (isPoint : Bool) : List Char → Option ElementType
  | [] => some (.time ⟨isPoint, none, .little⟩)
  | '[' :: rest =>
    if rest.getLast? = some ']' then
      (step? rest.dropLast).map fun step => .time ⟨isPoint, step, .little⟩
    else none
  | _ => none

/-- The type in the given order. A type of single octets has none to change. -/
def inOrder (order : ByteOrder) : ElementType → ElementType
  | .int t => if t.width = .w8 then .int t else .int { t with order }
  | .float t => .float { t with order }
  | .complex t => .complex { t with order }
  | .text size _ => .text size order
  | .time t => .time { t with order }
  | other => other

/-- What types of time start with, and whether they are of points. -/
def timeStarts : List (String × Bool) :=
  [("M8", true), ("m8", false), ("datetime64", true), ("timedelta64", false)]

/-- A letter, alone or with a size, or a type of time. -/
def short (cs : List Char) : Option ElementType :=
  match timeStarts.find? fun t => t.1.toList.isPrefixOf cs with
  | some (start, isPoint) => timeSpec isPoint (cs.drop start.length)
  | none =>
    match cs with
    | [c] => letter c
    | c :: digits => (size? digits).bind (sized c)
    | [] => none

/-- The type that a text names. -/
def ofSpec? (s : String) : Option ElementType :=
  match s.toList with
  | '<' :: rest | '=' :: rest | '|' :: rest => short rest
  | '>' :: rest => (short rest).map (inOrder .big)
  | cs => short cs <|> words.lookup s

end MissingSamples.ElementType
