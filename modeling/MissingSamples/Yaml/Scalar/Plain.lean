/-
# Plain scalars

A plain scalar stands without quotes and ends where something else could start: at a comment, at a
colon before a blank, and inside brackets also at their punctuation. It may go on in the next
lines as long as they are indented deeper than the collection around it. A single break inside it
becomes a space.
-/
import MissingSamples.Yaml.Cursor

namespace MissingSamples.Yaml

/-- What a break and the empty lines after it become inside a scalar: a single line feed becomes a
space, and in front of other breaks it vanishes. -/
def folded (first : Char) (others : List Char) : List Char :=
  if first = '\n' then if others.isEmpty then [' '] else others else first :: others

/-- The character has a meaning of its own between brackets. -/
def isFlowMark (c : Char) : Bool := c == ',' || c == '[' || c == ']' || c == '\x7b' || c == '\x7d'

namespace Plain

/-- A run of a plain scalar ends before the character, with the next one after it. -/
def endsRun (inFlow : Bool) (c : Char) (after : Option Char) : Bool :=
  endsWord (some c)
    || (c == ':' && (endsWord after || (inFlow && after.any isFlowMark)))
    || (inFlow && (isFlowMark c || c == '?'))

/-- The characters up to the end of a run. -/
def run (inFlow : Bool) : List Char → List Char
  | [] => []
  | c :: rest => if endsRun inFlow c rest.head? then [] else c :: run inFlow rest

/-- The breaks of empty lines from here on, and the first place that is no space or break. There
are none if a document ends on the way. -/
def emptyLines : Nat → Cursor → Option (List Char) × Cursor
  | 0, c => (some [], c)
  | fuel + 1, c =>
    let c := c.skipSpaces
    match c.lineBreak? with
    | none => (some [], c)
    | some (b, c) =>
      if c.isSeparator then (none, c)
      else
        let (bs, c) := emptyLines fuel c
        (bs.map (b :: ·), c)

/-- What stands between two runs, the place after it, and whether a line ended on the way. Nothing
stands there if the scalar cannot go on. -/
def gap (c : Cursor) : List Char × Cursor × Bool :=
  let (spaces, c) := c.span (· == ' ')
  match c.lineBreak? with
  | none => (spaces, c, false)
  | some (b, c) =>
    if c.isSeparator then ([], c, true)
    else
      let (bs, c) := emptyLines c.rest.length c
      ((bs.map (folded b)).getD [], c, true)

/-- The rest of a plain scalar after what stands between its runs, the place after it, and whether
a line ended since its last run. -/
def more (inFlow : Bool) (indent : Nat) :
    Nat → List Char → Cursor → Bool → List Char × Cursor × Bool
  | 0, _, c, crossed => ([], c, crossed)
  | fuel + 1, between, c, crossed =>
    let text := run inFlow c.rest
    if c.peek = some '#' ∨ text = [] then ([], c, crossed)
    else
      let (spaces, c, crossed) := gap (c.skip text.length)
      if spaces.isEmpty || c.peek == some '#' || (!inFlow && c.column < indent) then
        (between ++ text, c, crossed)
      else
        let (others, c, crossed) := more inFlow indent fuel spaces c crossed
        (between ++ text ++ others, c, crossed)

/-- The plain scalar that starts here, the place after it, and whether a line ended since its last
character. Outside brackets its lines are indented at least by `indent`. -/
def scan (inFlow : Bool) (indent : Nat) (c : Cursor) : List Char × Cursor × Bool :=
  more inFlow indent c.rest.length [] c false

end Plain

end MissingSamples.Yaml
