/-
# Block scalars

A block scalar is a run of lines that are indented alike. In the literal style every line keeps its
break; in the folded style a break between two lines becomes a space, unless a blank starts either
of them. What becomes of the breaks at the end is up to the header.
-/
import MissingSamples.Yaml.Cursor

namespace MissingSamples.Yaml.Block

/-- What becomes of the breaks at the end of a block scalar. -/
inductive Ending where
  /-- None stays. -/
  | strip
  /-- One stays. -/
  | clip
  /-- All stay. -/
  | keep
deriving DecidableEq, Repr

/-- The ending that a mark of the header asks for. -/
def ending? : Option Char → Option Ending
  | some '-' => some .strip
  | some '+' => some .keep
  | _ => none

/-- The indentation that a digit of the header asks for. -/
def increment? : Option Char → Option Nat
  | some c => if c.isDigit then some (c.toNat - 48) else none
  | none => none

/-- The ending and the indentation that a header asks for, in either order, and the place after
it. -/
def header (c : Cursor) : Except Problem (Ending × Option Nat × Cursor) :=
  let (ending, increment, c) :=
    match ending? c.peek with
    | some e =>
      match increment? c.next.peek with
      | some n => (e, some n, c.skip 2)
      | none => (e, none, c.next)
    | none =>
      match increment? c.peek with
      | some n =>
        match ending? c.next.peek with
        | some e => (e, some n, c.skip 2)
        | none => (.clip, some n, c.next)
      | none => (.clip, none, c)
  if increment ≠ some 0 ∧ endsName c.peek then .ok (ending, increment, c)
  else .error .malformed

/-- The breaks before the first line with text, the deepest indentation on the way, and the place
at which the text starts. -/
def leadingBreaks : Nat → Cursor → Nat → List Char × Nat × Cursor
  | 0, c, deepest => ([], deepest, c)
  | fuel + 1, c, deepest =>
    let c := c.skipSpaces
    let deepest := max deepest c.column
    match c.lineBreak? with
    | none => ([], deepest, c)
    | some (b, c) =>
      let (bs, deepest, c) := leadingBreaks fuel c deepest
      (b :: bs, deepest, c)

/-- The place after the spaces from here on, no deeper than the indentation. -/
def skipIndent (indent : Nat) (c : Cursor) : Cursor :=
  c.skip (c.rest.take (indent - c.column) |>.takeWhile (· == ' ')).length

/-- The breaks of the empty lines from here on, and the place after the indentation of the next
line. -/
def breaks (indent : Nat) : Nat → Cursor → List Char × Cursor
  | 0, c => ([], c)
  | fuel + 1, c =>
    let c := skipIndent indent c
    match c.lineBreak? with
    | none => ([], c)
    | some (b, c) =>
      let (bs, c) := breaks indent fuel c
      (b :: bs, c)

/-- The break between two lines in the style: in the folded one a line feed between lines that
start without a blank becomes a space, or nothing in front of empty lines. -/
def joint (isFolded : Bool) (lineBreak : Option Char) (before after : Option Char)
    (empty : List Char) : List Char :=
  if isFolded && lineBreak == some '\n' && !isSpaceOrTab before && !isSpaceOrTab after then
    if empty.isEmpty then [' '] else []
  else lineBreak.toList

/-- The lines from here on, after the breaks of empty lines that come first, and the place after
them. -/
def lines (isFolded : Bool) (indent : Nat) (ending : Ending) :
    Nat → List Char → Cursor → List Char × Cursor
  | 0, empty, c => (empty, c)
  | fuel + 1, empty, c =>
    let (text, after) := c.span fun x => !isBreak x
    let lineBreak := after.lineBreak?
    let start := match lineBreak with | some (_, c) => c | none => after
    let (nextEmpty, place) := breaks indent start.rest.length start
    let lineBreak := lineBreak.map (·.1)
    if place.column = indent ∧ place.peek.isSome then
      let (others, last) := lines isFolded indent ending fuel nextEmpty place
      (empty ++ text ++ joint isFolded lineBreak c.peek place.peek nextEmpty ++ others, last)
    else
      let kept :=
        match ending with
        | .strip => []
        | .clip => lineBreak.toList
        | .keep => lineBreak.toList ++ nextEmpty
      (empty ++ text ++ kept, place)

/-- The block scalar whose header follows the mark here, and the place after it. Its lines are
indented at least by `least`. -/
def scan (isFolded : Bool) (least : Nat) (c : Cursor) : Except Problem (List Char × Cursor) := do
  let (ending, increment, c) ← header c.next
  let c ← c.finishLine
  let (empty, indent, c) :=
    match increment with
    | some n =>
      let indent := least + n - 1
      let (bs, c) := breaks indent c.rest.length c
      (bs, indent, c)
    | none =>
      let (bs, deepest, c) := leadingBreaks c.rest.length c 0
      (bs, max least deepest, c)
  if c.column = indent ∧ c.peek.isSome then
    return lines isFolded indent ending c.rest.length empty c
  else
    return (if ending = .keep then empty else [], c)

end MissingSamples.Yaml.Block
