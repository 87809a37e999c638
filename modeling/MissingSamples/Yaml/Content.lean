/-
# What scalars spell

The value that a scalar has by its tag. Each kind of value has texts that spell none of it, and a
cause of failure for them: a numeral, a word of truth, a time or octets may be misspelt, and a
date may be missing from the calendar.
-/
import MissingSamples.Calendar
import MissingSamples.Text.Base64
import MissingSamples.Text.Whole
import MissingSamples.Value.Number
import MissingSamples.Yaml.Schema

namespace MissingSamples.Yaml

/-- The sign of a number, and the text without it and without underscores. An empty text has no
first character to look at. -/
def signedText (text : String) : Except Failure (Bool × List Char) :=
  match text.toList.filter (· != '_') with
  | [] => .error .noElement
  | '-' :: rest => .ok (true, rest)
  | '+' :: rest => .ok (false, rest)
  | cs => .ok (false, cs)

/-- The integer of a text to a base. -/
def wholeOf (base : Nat) (cs : List Char) : Except Failure Int :=
  match Whole.read base cs with
  | some i => .ok i
  | none => .error .badNumeral

/-- The parts of a text between colons. -/
def colonParts (cs : List Char) : List (List Char) :=
  let (first, others) := Pattern.parts cs
  first :: others

/-- The integer without its sign that a text spells: binary after `0b`, hexadecimal after `0x`, octal
after any other zero, to the base of sixty with colons, and else decimal. -/
def magnitude (cs : List Char) : Except Failure Int :=
  match cs with
  | [] => .error .noElement
  | ['0'] => .ok 0
  | '0' :: 'b' :: rest => wholeOf 2 rest
  | '0' :: 'x' :: rest => wholeOf 16 rest
  | '0' :: _ => wholeOf 8 cs
  | _ =>
    if cs.contains ':' then do
      let parts ← (colonParts cs).mapM (wholeOf 10)
      return parts.foldl (fun n part => n * 60 + part) 0
    else wholeOf 10 cs

/-- The integer that a text spells. -/
def integer (text : String) : Except Failure Int := do
  let (negative, cs) ← signedText text
  let i ← magnitude cs
  return if negative then -i else i

/-- The sum of parts in sixties, the part of ones first, given what one of the first part counts. -/
def sixties : List Double → Int → Double → Except Failure Double
  | [], _, sum => .ok sum
  | d :: rest, base, sum => do
    let b ← numberOfInt base
    sixties rest (base * 60) (sum + d * b)

/-- The floating number that a text spells. -/
def floating (text : String) : Except Failure Double := do
  let (negative, cs) ← signedText (lowerAscii text)
  let x ←
    if cs = ".inf".toList then pure (Double.infinite false)
    else if cs = ".nan".toList then pure Double.nan
    else if cs.contains ':' then do
      let parts ← (colonParts cs).mapM fun part => numberOfText (String.ofList part)
      sixties parts.reverse 1 0
    else numberOfText (String.ofList cs)
  return if negative then x.neg else x

/-- The millionths of a second that the digits after the point spell. -/
def microsOf (fraction : List Char) : Nat :=
  let digits := fraction.take 6
  WrittenTime.number digits * Nat.pow 10 (6 - digits.length)

/-- The day or the time of a day that a text spells, which may have a line break at its end. -/
def time (text : String) : Except Failure Value := do
  match WrittenTime.read? (beforeBreak text).toList with
  | none => throw .badTimestamp
  | some t =>
    let date : Date := ⟨t.year, t.month, t.day⟩
    if !date.isValid then throw .noSuchDate
    match t.clock with
    | none => return .date date
    | some (hour, minute, second) =>
      if 24 ≤ hour ∨ 60 ≤ minute ∨ 60 ≤ second then throw .noSuchDate
      if t.zone.any fun ahead => 24 * 60 ≤ ahead.natAbs then throw .noSuchDate
      return .moment ⟨date, hour, minute, second, microsOf t.fraction, t.zone.map (· * 60)⟩

/-- The value that a text has under a tag for scalars; there is none under other tags. -/
def scalarValue (tag : Tag) (text : String) : Except Problem Value :=
  let asked {α : Type} (make : α → Value) (e : Except Failure α) : Except Problem Value :=
    match e with
    | .ok a => .ok (make a)
    | .error f => .error (.value f)
  match tag with
  | .null => .ok .null
  | .bool =>
    match truthWords.lookup (lowerAscii text) with
    | some b => .ok (.bool b)
    | none => .error (.value .unknownTruthWord)
  | .int => asked .int (integer text)
  | .float => asked .float (floating text)
  | .timestamp => asked id (time text)
  | .str => .ok (.text text)
  | .binary =>
    match Base64.decode text with
    | some bytes => .ok (.bytes bytes)
    | none => .error .malformed
  | _ => .error .malformed

end MissingSamples.Yaml
