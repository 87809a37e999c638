/-
# Layout

How the layout of a document turns into tokens. Two things are not written down in a document:

* where indented collections start and end: a collection starts where a line is indented deeper
  than the collection around it, and ends where one is indented less;
* where keys start: only the colon after a key tells that something was one, and a key without a
  mark of its own must lie within one line and must not be too long.

So the `Layout` keeps the indentations of the open collections, and for every open bracket the
token that may turn out to be a key. `tokens` reads a whole document.
-/
import MissingSamples.Yaml.Scalar.Block
import MissingSamples.Yaml.Token

namespace MissingSamples.Yaml

/-- A token that may turn out to be a key. -/
structure Candidate where
  /-- How many tokens come before it. -/
  before : Nat
  /-- It must be a key, because nothing else can stand in its place. -/
  required : Bool
  /-- Where it starts. -/
  start : Cursor

/-- How far the layout of a document has been read. -/
structure Layout where
  /-- The place that has been reached. -/
  cursor : Cursor
  /-- The tokens so far, the last one first. -/
  read : List Token := []
  /-- The indentations of the open collections, the innermost first. -/
  indents : List Nat := []
  /-- What may be a key in the innermost bracket, or outside all. -/
  candidate : Option Candidate := none
  /-- What may be a key around each open bracket, the innermost first. -/
  outer : List (Option Candidate) := []
  /-- A key may start here. -/
  keyAllowed : Bool := true

namespace Layout

/-- Brackets are open. -/
def inFlow (l : Layout) : Bool := !l.outer.isEmpty

/-- How long a key without a mark may be. -/
def longestKey : Nat := 1024

/-- The layout with one more token. -/
def push (l : Layout) (t : Token) : Layout := { l with read := t :: l.read }

/-- The layout with one more token that ends at the place. -/
def pushAt (l : Layout) (t : Token) (c : Cursor) : Layout := { l.push t with cursor := c }

/-- The candidate can no longer become a key at the place. -/
def isStale (c : Cursor) (k : Candidate) : Bool :=
  k.start.line != c.line || k.start.index + longestKey < c.index

/-- A candidate is given up, which it must not be if it is required. -/
def giveUp (k : Option Candidate) : Except Problem Unit :=
  if k.any Candidate.required then .error .malformed else .ok ()

/-- A candidate, unless it can no longer become a key. -/
def refresh (c : Cursor) (k : Option Candidate) : Except Problem (Option Candidate) :=
  if k.any (isStale c) then do giveUp k; return none else .ok k

/-- The candidate of the innermost bracket is given up. -/
def dropCandidate (l : Layout) : Except Problem Layout := do
  giveUp l.candidate
  return { l with candidate := none }

/-- The next token becomes a candidate if a key may start here. -/
def saveCandidate (l : Layout) : Except Problem Layout :=
  if l.keyAllowed then do
    let l ← l.dropCandidate
    let required := !l.inFlow && l.indents.head? == some l.cursor.column
    return { l with candidate := some ⟨l.read.length, required, l.cursor⟩ }
  else .ok l

/-- The collections that are indented deeper than the column end, or all if there is none. -/
def close (column : Option Nat) : List Nat → List Token → List Nat × List Token
  | [], read => ([], read)
  | i :: outer, read =>
    if column.all (· < i) then close column outer (.blockEnd :: read) else (i :: outer, read)

/-- The collections that are indented deeper than the column end, unless brackets are open. -/
def unwind (l : Layout) (column : Option Nat) : Layout :=
  if l.inFlow then l
  else
    let (indents, read) := close column l.indents l.read
    { l with indents, read }

/-- The column is deeper than the innermost collection. -/
def isDeeper (l : Layout) (column : Nat) : Bool := l.indents.head?.all (· < column)

/-- The place after spaces, comments and breaks, and whether a line ended on the way. -/
def skipToToken : Nat → Cursor → Bool → Cursor × Bool
  | 0, c, crossed => (c, crossed)
  | fuel + 1, c, crossed =>
    let c := c.skipSpaces.skipComment
    match c.lineBreak? with
    | some (_, c) => skipToToken fuel c true
    | none => (c, crossed)

/-- The layout at the start of the next token. -/
def settle (l : Layout) : Except Problem Layout := do
  let start := if l.cursor.index = 0 ∧ l.cursor.peek = some orderMark then l.cursor.next else l.cursor
  let (c, crossed) := skipToToken (start.rest.length + 1) start false
  let candidate ← refresh c l.candidate
  let outer ← l.outer.mapM (refresh c)
  let keyAllowed := l.keyAllowed || (crossed && !l.inFlow)
  return { l with cursor := c, candidate, outer, keyAllowed }.unwind (some c.column)

/-! ## One token -/

/-- A directive. -/
def takeDirective (l : Layout) : Except Problem Layout := do
  let l ← (l.unwind none).dropCandidate
  let (d, c) ← scanDirective l.cursor
  return { l.pushAt (.directive d) c with keyAllowed := false }

/-- The start or the end of a document. -/
def takeMarker (l : Layout) (t : Token) : Except Problem Layout := do
  let l ← (l.unwind none).dropCandidate
  return { l.pushAt t (l.cursor.skip 3) with keyAllowed := false }

/-- An opening bracket or brace. -/
def openFlow (l : Layout) (t : Token) : Except Problem Layout := do
  let l ← l.saveCandidate
  return { l.pushAt t l.cursor.next with
    keyAllowed := true, candidate := none, outer := l.candidate :: l.outer }

/-- A closing bracket or brace. -/
def closeFlow (l : Layout) (t : Token) : Except Problem Layout := do
  let l ← l.dropCandidate
  match l.outer with
  | [] => throw .malformed
  | candidate :: outer =>
    return { l.pushAt t l.cursor.next with keyAllowed := false, candidate, outer }

/-- What parts members in brackets. -/
def takeFlowEntry (l : Layout) : Except Problem Layout := do
  let l ← l.dropCandidate
  return { l.pushAt .flowEntry l.cursor.next with keyAllowed := true }

/-- The start of a collection of the kind at the column, if it is deeper than the collections that
are open. -/
def openBlock (l : Layout) (t : Token) (column : Nat) : Layout :=
  if l.isDeeper column then { l.push t with indents := column :: l.indents } else l

/-- The start of a member of a list. -/
def takeBlockEntry (l : Layout) : Except Problem Layout := do
  if !l.inFlow && !l.keyAllowed then throw .malformed
  let l := if l.inFlow then l else l.openBlock .blockSequence l.cursor.column
  let l ← l.dropCandidate
  return { l.pushAt .blockEntry l.cursor.next with keyAllowed := true }

/-- The mark of a key. -/
def takeKey (l : Layout) : Except Problem Layout := do
  if !l.inFlow && !l.keyAllowed then throw .malformed
  let l := if l.inFlow then l else l.openBlock .blockMapping l.cursor.column
  let l ← l.dropCandidate
  return { l.pushAt .key l.cursor.next with keyAllowed := !l.inFlow }

/-- The candidate turns out to be a key; the mapping that it is the first key of starts before
it. -/
def confirm (l : Layout) (k : Candidate) : Layout :=
  let (after, before) := l.read.splitAt (l.read.length - k.before)
  let starts := !l.inFlow && l.isDeeper k.start.column
  { l with
    read := after ++ .key :: (if starts then [Token.blockMapping] else []) ++ before
    indents := if starts then k.start.column :: l.indents else l.indents
    candidate := none
    keyAllowed := false }

/-- The start of what a key stands for. -/
def takeValue (l : Layout) : Except Problem Layout := do
  match l.candidate with
  | some k => return (l.confirm k).pushAt .value l.cursor.next
  | none =>
    if !l.inFlow && !l.keyAllowed then throw .malformed
    let l := if l.inFlow then l else l.openBlock .blockMapping l.cursor.column
    return { l.pushAt .value l.cursor.next with keyAllowed := !l.inFlow }

/-- A token of a node that may be a key, and the place after it. -/
def takeNode (l : Layout) (scan : Cursor → Except Problem (Token × Cursor)) :
    Except Problem Layout := do
  let l ← l.saveCandidate
  let (t, c) ← scan l.cursor
  return { l.pushAt t c with keyAllowed := false }

/-- A scalar between quotes. -/
def takeQuoted (l : Layout) (quote : Char) : Except Problem Layout :=
  l.takeNode fun c => do
    let (text, c) ← Quoted.scan quote c
    return (.scalar (String.ofList text) false, c)

/-- A scalar without quotes. A key may follow it if it ends with its line. -/
def takePlain (l : Layout) : Except Problem Layout := do
  let l ← l.saveCandidate
  let indent := (l.indents.head?.map (· + 1)).getD 0
  let (text, c, crossed) := Plain.scan l.inFlow indent l.cursor
  return { l.pushAt (.scalar (String.ofList text) true) c with keyAllowed := crossed }

/-- A scalar of lines. -/
def takeBlock (l : Layout) (isFolded : Bool) : Except Problem Layout := do
  let l ← l.dropCandidate
  let least := (l.indents.head?.map (· + 1)).getD 1
  let (text, c) ← Block.scan isFolded least l.cursor
  return { l.pushAt (.scalar (String.ofList text) false) c with keyAllowed := true }

/-- A scalar without quotes may start with the character that stands here. -/
def startsPlain (l : Layout) (x : Char) : Bool :=
  !(endsWord (some x) || ['-', '?', ':', ',', '[', ']', '\x7b', '\x7d', '#', '&', '*', '!', '|',
      '>', '\'', '"', '%', '@', Char.ofNat 0x60].contains x)
    || (!endsWord (l.cursor.peekAt 1)
      && (x == '-' || (!l.inFlow && (x == '?' || x == ':'))))

/-- The token that starts with the character, which stands here. -/
def take (l : Layout) (x : Char) : Except Problem Layout :=
  let c := l.cursor
  let alone := endsWord (c.peekAt 1)
  if x = '%' ∧ c.column = 0 then l.takeDirective
  else if c.column = 0 ∧ c.isMarker '-' then l.takeMarker .documentStart
  else if c.column = 0 ∧ c.isMarker '.' then l.takeMarker .documentEnd
  else if x = '[' then l.openFlow .flowSequence
  else if x = '\x7b' then l.openFlow .flowMapping
  else if x = ']' then l.closeFlow .flowSequenceEnd
  else if x = '\x7d' then l.closeFlow .flowMappingEnd
  else if x = ',' then l.takeFlowEntry
  else if x = '-' ∧ alone then l.takeBlockEntry
  else if x = '?' ∧ (l.inFlow ∨ alone) then l.takeKey
  else if x = ':' ∧ (l.inFlow ∨ alone) then l.takeValue
  else if x = '*' then l.takeNode fun c => do
    let (name, c) ← scanAnchor c
    return (.alias name, c)
  else if x = '&' then l.takeNode fun c => do
    let (name, c) ← scanAnchor c
    return (.anchor name, c)
  else if x = '!' then l.takeNode fun c => do
    let (t, c) ← scanTag c
    return (.tag t, c)
  else if x = '|' ∧ !l.inFlow then l.takeBlock false
  else if x = '>' ∧ !l.inFlow then l.takeBlock true
  else if x = '\'' ∨ x = '"' then l.takeQuoted x
  else if l.startsPlain x then l.takePlain
  else .error .malformed

/-- The tokens of the document from here on. -/
def run : Nat → Layout → Except Problem (List Token)
  | 0, _ => .error .malformed
  | fuel + 1, l => do
    let l ← l.settle
    match l.cursor.peek with
    | some x => run fuel (← l.take x)
    | none => return ((← (l.unwind none).dropCandidate).read.reverse)

end Layout

/-- The tokens of a document. They are all read before anything is made of them, so a fault in any
of them counts before all faults in the way they are put together. -/
def tokens (text : List Char) : Except Problem (List Token) :=
  if text.all isAllowed then
    let text := unifyLines text
    Layout.run (text.length + 1) { cursor := ⟨text, 0, 0, 0⟩ }
  else .error .malformed

end MissingSamples.Yaml
