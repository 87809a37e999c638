/-
# Joined element types

A text may name several element types: commas stand between them, and a number or the lengths of
dimensions in front of one say how often it is repeated. An element of such a type is a block of
octets, of which only the size counts here.

* `ElementType.ofText` is the type that a text names, joined or not.
-/
import MissingSamples.ElementType.Spec
import MissingSamples.Failure
import MissingSamples.Text.Blank

namespace MissingSamples

namespace ElementType

/-- The octets of an element. -/
def octets : ElementType → Nat
  | .bool => 1
  | .int t => t.width.octets
  | .float t => t.width.octets
  | .complex t => 2 * t.width.octets
  | .bytes size | .void size => size
  | .text size _ => 4 * size
  | .time _ | .object => 8

/-- The type of elements that consist of one each of the given types. -/
def joined (types : List ElementType) : ElementType :=
  .void (types.foldl (fun size t => size + t.octets) 0)

/-! ## Repetition -/

/-- How often a type is repeated. -/
inductive Repeat where
  /-- So many times. -/
  | times (n : Nat)
  /-- Along dimensions of these lengths. -/
  | along (lengths : List Nat)

namespace Repeat

/-- Characters without the blanks at both ends. -/
def trimmed (cs : List Char) : List Char :=
  ((cs.dropWhile (· == ' ')).reverse.dropWhile (· == ' ')).reverse

/-- A number, which has no zeros in front. -/
def number? (cs : List Char) : Option Nat :=
  if cs.head? = some '0' ∧ cs.any (· != '0') then none else digitsValue? cs

/-- The parts of characters between commas. -/
def parts : List Char → List (List Char)
  | [] => [[]]
  | ',' :: rest => [] :: parts rest
  | c :: rest =>
    match parts rest with
    | first :: others => (c :: first) :: others
    | [] => [[c]]

/-- Numbers with commas between them and perhaps one behind the last. A single number without a
comma is a count. -/
def ofNumbers? (cs : List Char) : Option Repeat := do
  match (parts cs).map trimmed with
  | [only] => return .times (← number? only)
  | all =>
    let all := if all.getLast? = some [] then all.dropLast else all
    return .along (← all.mapM number?)

/-- What characters say about repetition; the numbers may stand in parentheses. -/
def read? (cs : List Char) : Option Repeat :=
  match trimmed cs with
  | '(' :: rest =>
    if rest.getLast? = some ')' then
      let inside := trimmed rest.dropLast
      if inside = [] then some (.along []) else ofNumbers? inside
    else none
  | cs => ofNumbers? cs

end Repeat

/-- The type repeated. A type without a size takes the count for one, and a single time, or
repetition along no dimension, is the type itself. -/
def repeated (t : ElementType) (r : Repeat) : Except Failure ElementType :=
  if t.octets = 0 then
    match t, r with
    | .bytes _, .times n => orMalformed (sized 'S' n)
    | .text _ order, .times n => orMalformed ((sized 'U' n).map (inOrder order))
    | _, .times n => orMalformed (sized 'V' n)
    | _, .along _ => .error .malformedTypes
  else
    match r with
    | .times 1 | .along [] => .ok t
    | .times n => orMalformed (sized 'V' (t.octets * n))
    | .along lengths => orMalformed (sized 'V' (lengths.foldl (· * ·) t.octets))
where
  /-- The type, which there is unless it is too large. -/
  orMalformed (t : Option ElementType) : Except Failure ElementType :=
    match t with
    | some t => .ok t
    | none => .error .malformedTypes

/-! ## Texts -/

/-- The character marks an order of octets. -/
def isOrderMark (c : Char) : Bool := ['<', '>', '=', '|'].contains c

/-- There is a comma outside square brackets, of which so many are open. -/
def hasComma : Int → List Char → Bool
  | _, [] => false
  | depth, c :: rest =>
    (c == ',' && depth == 0)
      || hasComma (if c = '[' then depth + 1 else if c = ']' then depth - 1 else depth) rest

/-- A text names several types, or one with a repetition: it starts with a number or with empty
parentheses, behind a mark of order or without one, or there is a comma behind its first
character. -/
def isJoined (cs : List Char) : Bool :=
  let behindMark := if cs.head?.any isOrderMark then cs.tail else cs
  cs.head?.any Char.isDigit || behindMark.head?.any Char.isDigit
    || ['(', ')'].isPrefixOf cs || (['(', ')'].isPrefixOf behindMark && 3 < cs.length)
    || hasComma 0 cs.tail

/-- One of several types in a text. -/
structure Part where
  /-- The name of the type, with its order. -/
  name : String
  /-- How often it is repeated, if anything is said about that. -/
  repetition : Option Repeat

/-- A mark of order, if one stands here, and what follows. -/
def orderMark : List Char → Option Char × List Char
  | c :: rest => if isOrderMark c then (some c, rest) else (none, c :: rest)
  | [] => (none, [])

/-- The characters that say how often a type is repeated, and what follows. -/
def repetition (cs : List Char) : List Char × List Char :=
  let (blanks, cs) := cs.span (· == ' ')
  let (opening, cs) := if cs.head? = some '(' then (['('], cs.tail) else ([], cs)
  let (inside, cs) := cs.span fun c => c == ' ' || c == ',' || c.isDigit
  let (closing, cs) := if cs.head? = some ')' then ([')'], cs.tail) else ([], cs)
  let (behind, cs) := cs.span (· == ' ')
  (blanks ++ opening ++ inside ++ closing ++ behind, cs)

/-- The name of a type with what stands in square brackets behind it, and what follows. -/
def partName (cs : List Char) : List Char × List Char :=
  let (word, cs) := cs.span fun c => c.isAlphanum || c == '.' || c == '?'
  match cs with
  | '[' :: rest =>
    let (inside, behind) := rest.span fun c => c.isAlphanum || c == '.' || c == ','
    match behind with
    | ']' :: behind => (word ++ '[' :: inside ++ [']'], behind)
    | _ => (word, cs)
  | _ => (word, cs)

/-- The order of two marks, which must not contradict each other. It is big, or that of this
machine. -/
def isBigOrder (a b : Option Char) : Except Failure Bool :=
  let isBig (c : Char) : Bool := c == '>'
  match a, b with
  | some a, some b =>
    let plain (c : Char) : Char := if c = '=' then '<' else c
    if plain a = plain b then .ok (isBig a) else .error .malformedTypes
  | a, b => .ok ((a.or b).any isBig)

/-- The part that stands here, and what follows. -/
def readPart (cs : List Char) : Except Failure Part × List Char :=
  let (first, cs) := orderMark cs
  let (repetition, cs) := repetition cs
  let (second, cs) := orderMark cs
  let (word, cs) := partName cs
  let part : Except Failure Part := do
    let name := String.ofList (if ← isBigOrder first second then '>' :: word else word)
    if repetition = [] then return ⟨name, none⟩
    else
      match Repeat.read? repetition with
      | some r => return ⟨name, some r⟩
      | none => throw .malformedRepeat
  (part, cs)

/-- What follows the comma that stands here, with the blanks around it. -/
def afterComma? (cs : List Char) : Option (List Char) :=
  match cs.dropWhile isBlank with
  | ',' :: rest => some (rest.dropWhile isBlank)
  | _ => none

/-- The parts of a text, no more than so many of them, and whether they make a list. -/
def readParts : Nat → List Char → Except Failure (List Part × Bool)
  | 0, _ => .ok ([], true)
  | fuel + 1, cs => do
    let (part, rest) := readPart cs
    if rest.all isBlank then return ([← part], false)
    else
      match afterComma? rest with
      | none => throw .malformedTypes
      | some rest =>
        let part ← part
        if rest = [] then return ([part], true)
        else
          let (others, _) ← readParts fuel rest
          return (part :: others, true)

/-- The type that a text names, no more than so many names deep. -/
def ofTextWithin : Nat → String → Except Failure ElementType
  | 0, _ => .error .unknownElementType
  | depth + 1, s =>
    if isJoined s.toList then do
      let (parts, isList) ← readParts s.length s.toList
      let types ← parts.mapM fun part => do
        let t ← ofTextWithin depth part.name
        match part.repetition with
        | some r => repeated t r
        | none => return t
      match types, isList with
      | [t], false => return t
      | types, _ => return joined types
    else
      match ofSpec? s with
      | some t => .ok t
      | none => .error .unknownElementType

/-- The type that a text names. -/
def ofText (s : String) : Except Failure ElementType := ofTextWithin (s.length + 1) s

end ElementType

end MissingSamples
