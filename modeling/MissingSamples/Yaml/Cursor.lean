/-
# A place in a document

Reading a document means moving a `Cursor` over its characters. The cursor knows its line and its
column, because indentation decides where collections start and end.

A document is read as lines: every way to end a line counts as one line feed (`unifyLines`), and a
document with a character that does not print is no document (`isAllowed`).

* `Cursor.rest_skip` and `Cursor.rest_span` say which characters steps leave over.
-/
import MissingSamples.Failure

namespace MissingSamples.Yaml

/-- Why a document cannot be read. -/
inductive Problem where
  /-- It breaks the rules of the format. -/
  | malformed
  /-- It follows the rules, but a scalar in it cannot have the value that it asks for. -/
  | value (f : Failure)
deriving DecidableEq, Repr

/-- The mark that tells the order of octets, which takes no room. -/
def orderMark : Char := Char.ofNat 0xfeff

/-- The character ends a line. -/
def isBreak (c : Char) : Bool :=
  c == '\n' || c == Char.ofNat 0x85 || c == Char.ofNat 0x2028 || c == Char.ofNat 0x2029

/-- The character may stand in a document. -/
def isAllowed (c : Char) : Bool :=
  let n := c.toNat
  n == 9 || n == 10 || n == 13 || (0x20 ≤ n && n ≤ 0x7e) || n == 0x85 || (0xa0 ≤ n && n ≤ 0xd7ff)
    || (0xe000 ≤ n && n ≤ 0xfffd) || 0x10000 ≤ n

/-- The characters with a line feed for every carriage return, and one for both in a row. -/
def unifyLines : List Char → List Char
  | '\r' :: '\n' :: rest => '\n' :: unifyLines rest
  | '\r' :: rest => '\n' :: unifyLines rest
  | c :: rest => c :: unifyLines rest
  | [] => []

/-- A line ends here, by a break or with the document. -/
def endsLine : Option Char → Bool
  | none => true
  | some c => isBreak c

/-- A line ends here, or a space follows. -/
def endsName : Option Char → Bool
  | some ' ' => true
  | c => endsLine c

/-- A line ends here, or a space or a tab follows. -/
def endsWord : Option Char → Bool
  | some '\t' => true
  | c => endsName c

/-- A space or a tab follows. -/
def isSpaceOrTab : Option Char → Bool
  | some ' ' | some '\t' => true
  | _ => false

/-- A place in a document. -/
structure Cursor where
  /-- The characters from here on. -/
  rest : List Char
  /-- How many characters come before. -/
  index : Nat := 0
  /-- How many lines come before. -/
  line : Nat := 0
  /-- How many characters of the line come before. -/
  column : Nat := 0

namespace Cursor

/-- The next character. -/
def peek (c : Cursor) : Option Char := c.rest.head?

/-- The character after so many others. -/
def peekAt (c : Cursor) (n : Nat) : Option Char := c.rest[n]?

/-- The place after the next character. -/
def next (c : Cursor) : Cursor :=
  match c.rest with
  | [] => c
  | x :: rest =>
    if isBreak x then ⟨rest, c.index + 1, c.line + 1, 0⟩
    else ⟨rest, c.index + 1, c.line, if x = orderMark then c.column else c.column + 1⟩

/-- The place after so many characters. -/
def skip : Nat → Cursor → Cursor
  | 0, c => c
  | n + 1, c => skip n c.next

/-- The characters from here on that `p` holds of, and the place after them. -/
def span (p : Char → Bool) (c : Cursor) : List Char × Cursor :=
  let taken := c.rest.takeWhile p
  (taken, c.skip taken.length)

/-- The place after the spaces from here on. -/
def skipSpaces (c : Cursor) : Cursor := (c.span (· == ' ')).2

/-- The place after the spaces and tabs from here on. -/
def skipBlanks (c : Cursor) : Cursor := (c.span fun x => x == ' ' || x == '\t').2

/-- The end of the line, if a comment starts here. -/
def skipComment (c : Cursor) : Cursor :=
  if c.peek = some '#' then (c.span fun x => !isBreak x).2 else c

/-- The break of the line that ends here, as a document's scalars keep it, and the next line. -/
def lineBreak? (c : Cursor) : Option (Char × Cursor) :=
  match c.peek with
  | some x =>
    if isBreak x then some (if x = Char.ofNat 0x85 then '\n' else x, c.next) else none
  | none => none

/-- The three marks in a row that end a document or start the next. -/
def isMarker (c : Cursor) (mark : Char) : Bool :=
  c.rest.take 3 == [mark, mark, mark] && endsWord (c.peekAt 3)

/-- A document ends here or the next starts. -/
def isSeparator (c : Cursor) : Bool := c.isMarker '-' || c.isMarker '.'

/-- The end of a line on which nothing but spaces and a comment follows. -/
def finishLine (c : Cursor) : Except Problem Cursor :=
  let c := c.skipSpaces.skipComment
  if endsLine c.peek then .ok (match c.lineBreak? with | some (_, c) => c | none => c)
  else .error .malformed

theorem rest_next (c : Cursor) : c.next.rest = c.rest.tail := by
  obtain ⟨rest, index, line, column⟩ := c
  cases rest with
  | nil => rfl
  | cons x rest => by_cases h : isBreak x = true <;> simp [next, h]

theorem rest_skip (n : Nat) (c : Cursor) : (c.skip n).rest = c.rest.drop n := by
  induction n generalizing c with
  | zero => rfl
  | succ n ih => rw [skip, ih, rest_next, List.drop_tail]

theorem rest_span (p : Char → Bool) (c : Cursor) : (c.span p).2.rest = c.rest.dropWhile p := by
  rw [span, rest_skip]
  induction c.rest with
  | nil => rfl
  | cons x rest ih => by_cases h : p x = true <;> simp_all

end Cursor

end MissingSamples.Yaml
