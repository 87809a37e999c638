/-
# What plain scalars are

A scalar without quotes and without a tag tells by its text what kind of value it is: nothing, a
truth value, an integer, a floating number, a time, or else a text. The patterns are those of the
types of the format's version 1.1.

* `resolve` tells the kind.
-/
import MissingSamples.Yaml.Tag

namespace MissingSamples.Yaml

/-- The words for truth and falsehood, by their small letters. -/
def truthWords : List (String × Bool) :=
  [("yes", true), ("true", true), ("on", true), ("no", false), ("false", false), ("off", false)]

/-- A word with its first letter as a capital. -/
def capitalized (word : String) : String :=
  match word.toList with
  | [] => ""
  | c :: rest => String.ofList (c.toUpper :: rest)

/-- The spellings of a word that count: all small, with a capital, and all capitals. -/
def spellings (word : String) : List String :=
  [word, capitalized word, String.ofList (word.toList.map Char.toUpper)]

/-- The texts that stand for nothing. -/
def nullTexts : List String := ["", "~", "null", "Null", "NULL"]

namespace Pattern

/-- The text without a sign in front. -/
def unsigned : List Char → List Char
  | '-' :: rest | '+' :: rest => rest
  | cs => cs

/-- The character is a digit or an underscore. -/
def isGrouped (c : Char) : Bool := c.isDigit || c == '_'

/-- There is something, and all of it is of the kind. -/
def allOf (p : Char → Bool) (cs : List Char) : Bool := !cs.isEmpty && cs.all p

/-- A part of a number to the base of sixty: one or two digits below sixty. -/
def isSixtieth : List Char → Bool
  | [a] => a.isDigit
  | [a, b] => '0' ≤ a && a ≤ '5' && b.isDigit
  | _ => false

/-- The parts between colons. -/
def parts : List Char → List Char × List (List Char)
  | [] => ([], [])
  | ':' :: rest =>
    let (first, others) := parts rest
    ([], first :: others)
  | c :: rest =>
    let (first, others) := parts rest
    (c :: first, others)

/-- Digits, and parts below sixty after colons, of which there is at least one. -/
def isSexagesimal (cs : List Char) : Bool :=
  let (first, others) := parts cs
  match first with
  | d :: ds => d.isDigit && ds.all isGrouped && !others.isEmpty && others.all isSixtieth
  | [] => false

/-- An integer without its sign: binary, octal, decimal, hexadecimal or with parts below sixty. -/
def isMagnitude : List Char → Bool
  | ['0'] => true
  | '0' :: 'b' :: rest => allOf (fun c => c == '0' || c == '1' || c == '_') rest
  | '0' :: 'x' :: rest => allOf (fun c => (Quoted.hexDigit? c).isSome || c == '_') rest
  | '0' :: rest => allOf (fun c => ('0' ≤ c && c ≤ '7') || c == '_') rest
  | c :: rest => c.isDigit && (rest.all isGrouped || isSexagesimal (c :: rest))
  | [] => false

/-- An integer. -/
def isInt (cs : List Char) : Bool := isMagnitude (unsigned cs)

/-- Nothing, or an exponent with its sign. -/
def isExponent : List Char → Bool
  | [] => true
  | e :: s :: rest => (e == 'e' || e == 'E') && (s == '+' || s == '-') && allOf Char.isDigit rest
  | _ => false

/-- Digits after a point, and an exponent. -/
def isFraction (cs : List Char) : Bool := isExponent (cs.dropWhile isGrouped)

/-- A floating number without its sign that starts with a digit. -/
def isDecimal (cs : List Char) : Bool :=
  let whole := cs.takeWhile (· != '.')
  match cs.dropWhile (· != '.') with
  | '.' :: rest =>
    match whole with
    | d :: ds =>
      d.isDigit && ((ds.all isGrouped && isFraction rest) || (isSexagesimal whole && rest.all isGrouped))
    | [] => false
  | _ => false

/-- A floating number. One that starts with the point has no sign. -/
def isFloat (cs : List Char) : Bool :=
  match cs with
  | '.' :: d :: rest => (d.isDigit && isFraction rest) || cs ∈ [".nan", ".NaN", ".NAN"].map String.toList
      || cs ∈ [".inf", ".Inf", ".INF"].map String.toList
  | _ => unsigned cs ∈ [".inf", ".Inf", ".INF"].map String.toList || isDecimal (unsigned cs)

end Pattern

/-! ## Times -/

/-- The parts of a written time. -/
structure WrittenTime where
  /-- The year. -/
  year : Nat
  /-- The month. -/
  month : Nat
  /-- The day. -/
  day : Nat
  /-- Hour, minute and second, if they are written. -/
  clock : Option (Nat × Nat × Nat) := none
  /-- The digits after the point. -/
  fraction : List Char := []
  /-- How many minutes the clock is ahead, if that is written. -/
  zone : Option Int := none
  /-- Month and day have two digits each. -/
  isPadded : Bool := true

namespace WrittenTime

/-- The number that digits spell. -/
def number (digits : List Char) : Nat := digits.foldl (fun n c => n * 10 + (c.toNat - 48)) 0

/-- At least one and at most two digits, how many they are, and what follows. -/
def oneOrTwo : List Char → Option (Nat × Nat × List Char)
  | a :: b :: rest =>
    if a.isDigit then
      if b.isDigit then some (number [a, b], 2, rest) else some (number [a], 1, b :: rest)
    else none
  | [a] => if a.isDigit then some (number [a], 1, []) else none
  | [] => none

/-- Two digits after the mark, and what follows. -/
def twoAfter (mark : Char) : List Char → Option (Nat × List Char)
  | m :: a :: b :: rest =>
    if m == mark && a.isDigit && b.isDigit then some (number [a, b], rest) else none
  | _ => none

/-- The distance of the clock that ends a time, in minutes. -/
def zone? (cs : List Char) : Option (Option Int) :=
  match cs, cs.dropWhile fun c => c == ' ' || c == '\t' with
  | [], _ => some none
  | _, ['Z'] => some (some 0)
  | _, s :: rest => do
    if s ≠ '+' ∧ s ≠ '-' then none
    else
      let (hour, _, rest) ← oneOrTwo rest
      let minute ← if rest = [] then some 0 else
        match twoAfter ':' rest with
        | some (minute, []) => some minute
        | _ => none
      let ahead : Int := hour * 60 + minute
      return some (if s = '-' then -ahead else ahead)
  | _, [] => none

/-- The clock time after a day. -/
def withClock (t : WrittenTime) (cs : List Char) : Option WrittenTime := do
  let cs ← match cs with
    | 'T' :: rest | 't' :: rest => some rest
    | c :: rest =>
      if c == ' ' || c == '\t' then some (rest.dropWhile fun c => c == ' ' || c == '\t') else none
    | [] => none
  let (hour, _, cs) ← oneOrTwo cs
  let (minute, cs) ← twoAfter ':' cs
  let (second, cs) ← twoAfter ':' cs
  let (fraction, cs) := match cs with
    | '.' :: rest => rest.span Char.isDigit
    | cs => ([], cs)
  return { t with clock := some (hour, minute, second), fraction, zone := ← zone? cs }

/-- The time that characters spell, where month and day may have a single digit. -/
def read? (cs : List Char) : Option WrittenTime := do
  let year := cs.takeWhile Char.isDigit
  if year.length ≠ 4 then none
  else
    match cs.drop 4 with
    | '-' :: rest =>
      let (month, m, rest) ← oneOrTwo rest
      match rest with
      | '-' :: rest =>
        let (day, d, rest) ← oneOrTwo rest
        let t : WrittenTime := { year := number year, month, day, isPadded := m == 2 && d == 2 }
        if rest = [] then return t else t.withClock rest
      | _ => none
    | _ => none

end WrittenTime

/-- A time as it is written without a tag: a day by itself has two digits for month and day. -/
def isTime (cs : List Char) : Bool :=
  match WrittenTime.read? cs with
  | some t => t.isPadded || t.clock.isSome
  | none => false

/-- The text without a line break at its end, unless there is nothing else. -/
def beforeBreak (text : String) : String :=
  match text.toList.reverse with
  | '\n' :: c :: rest => String.ofList (c :: rest).reverse
  | _ => text

/-- The kind of value that a line is. A lone mark of a tag, an anchor or a reference is of no known
kind. -/
def resolveLine (text : String) : Tag :=
  let cs := text.toList
  if text ∈ nullTexts then .null
  else if text ∈ truthWords.flatMap fun w => spellings w.1 then .bool
  else if Pattern.isInt cs then .int
  else if Pattern.isFloat cs then .float
  else if isTime cs then .timestamp
  else if text = "<<" then .merge
  else if text = "=" then .value 0
  else if text ∈ ["!", "&", "*"] then .unknown
  else .str

/-- The kind of value that a scalar without quotes and without a tag is. A line break at its end does
not count. -/
def resolve (text : String) : Tag := resolveLine (beforeBreak text)

end MissingSamples.Yaml
