/-
# Numerals

The texts that spell a floating-point number: blanks around it, a sign, and then an infinity,
not-a-number or a decimal with an optional point and an optional exponent. Digits of every script
count, and single underscores may stand between two digits.

* `Numeral.read` takes a text to the number it spells, `Numeral.readBytes` does the same for
  octets, where only ASCII counts.
-/
import MissingSamples.Decimal.Reading
import MissingSamples.Text.Blank
import MissingSamples.Text.Digit

namespace MissingSamples.Numeral

/-- The six blanks of ASCII. -/
def isAsciiBlank (c : Char) : Bool := c == ' ' || (9 ≤ c.toNat && c.toNat ≤ 13)

/-- Digits and blanks beyond ASCII become those of ASCII. -/
def plain (c : Char) : Char :=
  if c.toNat < 0x7f then c
  else if isBlank c then ' '
  else
    match decimalDigit? c with
    | some d => digitChar d
    | none => c

/-- The digits of a run in which single underscores stand between digits. -/
def ungroup : List Char → Option (List Char)
  | [] => some []
  | c :: '_' :: d :: rest =>
    if c.isDigit && d.isDigit then (ungroup (d :: rest)).map (c :: ·) else none
  | c :: rest => if c.isDigit then (ungroup rest).map (c :: ·) else none

/-- The character belongs to a run of digits. -/
def isRun (c : Char) : Bool := c.isDigit || c == '_'

/-- The number that decimal digits spell. -/
def value (digits : List Char) : Nat :=
  digits.foldl (fun n c => n * 10 + (c.toNat - 0x30)) 0

/-- A sign in front, and what follows it. -/
def signed : List Char → Bool × List Char
  | '-' :: rest => (true, rest)
  | '+' :: rest => (false, rest)
  | cs => (false, cs)

/-- The exponent that ends a decimal; nothing is an exponent of zero. -/
def exponent : List Char → Option Int
  | [] => some 0
  | e :: rest =>
    if e = 'e' ∨ e = 'E' then
      match ungroup (signed rest).2 with
      | some (d :: ds) => some (Double.signed (signed rest).1 (value (d :: ds)))
      | _ => none
    else none

/-- The point and the digits after it, and what follows them. -/
def fraction : List Char → List Char × List Char
  | '.' :: rest => rest.span isRun
  | cs => ([], cs)

/-- A decimal without its sign. -/
def decimal (negative : Bool) (cs : List Char) : Option Double := do
  let (whole, rest) := cs.span isRun
  let (part, rest) := fraction rest
  let whole ← ungroup whole
  let part ← ungroup part
  let power ← exponent rest
  if whole.isEmpty && part.isEmpty then none
  else some (.ofDecimal negative (value (whole ++ part)) (power - part.length))

/-- A number without the blanks around it. -/
def number (cs : List Char) : Option Double :=
  let (negative, cs) := signed cs
  match String.ofList (cs.map Char.toLower) with
  | "inf" | "infinity" => some (.infinite negative)
  | "nan" => some .nan
  | _ => decimal negative cs

/-- The number that a text spells. -/
def read (s : String) : Option Double := number (stripBy isAsciiBlank (s.toList.map plain))

/-- The number that octets spell in ASCII. -/
def readBytes (bytes : List UInt8) : Option Double :=
  number (stripBy isAsciiBlank (bytes.map fun b => Char.ofNat b.toNat))

end MissingSamples.Numeral
