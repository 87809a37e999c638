/-
# Arrays in brackets

How an array is written: its elements in columns, a pair of brackets for each dimension, lines no
longer than a width, and of long dimensions of large arrays only the elements at both ends.
`Grid.bracketed` is an array on its own and `Grid.listed` one inside a list, where it names its type
if that does not go without saying. Elements of any kind are given as texts.
-/
import MissingSamples.Failure
import MissingSamples.Text.Quoted
import MissingSamples.Value.Columns
import MissingSamples.Value.Time

namespace MissingSamples

/-- A truth value as text. -/
def boolShown (b : Bool) : String := if b then "True" else "False"

/-! ## Large arrays -/

/-- Arrays with more elements than these are abridged. -/
def abridgedAbove : Nat := 1000

/-- How many elements an abridged dimension has at either end. -/
def edge : Nat := 3

/-- The elements of an array that are left if every dimension is abridged to its ends. -/
def corners {α : Type} : List Nat → List α → List α
  | [], xs => xs
  | n :: shape, xs =>
    let part := shape.foldl (· * ·) 1
    let row (i : Nat) : List α := corners shape ((xs.drop (i * part)).take part)
    if 2 * edge < n then
      (List.range edge).flatMap row ++ (List.range edge).flatMap fun i => row (n - edge + i)
    else (List.range n).flatMap row

/-- The length of a dimension that is abridged to its ends. -/
def cornerLength (n : Nat) : Nat := if 2 * edge < n then 2 * edge else n

/-! ## Lines -/

/-- Lines of text: those that are full, the last one first, and the one that is being written. -/
structure Lines where
  /-- The full lines. -/
  full : List String := []
  /-- The line that is being written. -/
  current : String

namespace Lines

/-- A text without blanks at its end. -/
def trimmed (s : String) : String := String.ofList (s.toList.reverse.dropWhile (· == ' ')).reverse

/-- A new line after the current one. -/
def newLine (l : Lines) (start : String) : Lines := ⟨trimmed l.current :: l.full, start⟩

/-- The lines with a word at their end, on a new line if the current one would become too long and a
new one would help. -/
def addWord (width : Nat) (indent : String) (l : Lines) (word : String) : Lines :=
  let l := if width < l.current.length + word.length ∧ indent.length < l.current.length then
    l.newLine indent else l
  { l with current := l.current ++ word }

/-- The lines with a block of several lines at their end, one below the other. -/
def addBlock (width : Nat) (indent : String) (l : Lines) (first : String) (rest : List String) :
    Lines :=
  let wide := widest (first :: rest)
  let fresh := width < l.current.length + wide ∧ indent.length < l.current.length
  let margin := if fresh then indent
    else String.ofList (List.replicate l.current.length ' ')
  let start := if fresh then l.newLine (indent ++ first)
    else { l with current := l.current ++ first }
  let l := rest.foldl (fun l line => l.newLine (margin ++ line)) start
  { l with current := padRight (l.current.length + (wide - (rest.getLastD first).length)) l.current }

/-- The lines with a text at their end. -/
def add (width : Nat) (indent : String) (l : Lines) (text : String) : Lines :=
  match text.splitOn "\n" with
  | first :: second :: rest => l.addBlock width indent first (second :: rest)
  | _ => l.addWord width indent text

/-- The lines as one text. -/
def text (l : Lines) : String := "\n".intercalate (l.current :: l.full).reverse

end Lines

/-! ## Brackets -/

/-- How arrays are set: what stands between elements, and whether long dimensions are abridged. -/
structure Setting where
  /-- What stands between elements. -/
  between : String
  /-- Long dimensions are abridged. -/
  isAbridged : Bool

namespace Setting

/-- A text without what stands in front of it for the indentation. -/
def inBrackets (indent s : String) : String := "[" ++ String.ofList (s.toList.drop indent.length) ++ "]"

/-- The elements of one dimension in lines of the width. -/
def row (s : Setting) (n : Nat) (indent : String) (width : Nat) (words : List String) : String :=
  let add := Lines.add (width - 1) indent
  let addAll (l : Lines) (words : List String) : Lines :=
    words.foldl (fun l w =>
      let l := add l w
      { l with current := l.current ++ s.between }) l
  let start : Lines := { current := indent }
  let before := if s.isAbridged && 2 * edge < n then
      let l := (addAll start (words.take edge)).addWord (width - 1) indent "..."
      addAll { l with current := l.current ++ s.between } (words.drop edge).dropLast
    else addAll start words.dropLast
  inBrackets indent (add before (words.getLastD "")).text

/-- An array of the shape, given the words of its elements, of the corners only if the array is
abridged. Rows of more dimensions stand further apart. -/
def array (s : Setting) : List Nat → String → Nat → List String → String
  | [], _, _, words => words.headD ""
  | [n], indent, width, words => s.row n indent width words
  | n :: m :: shape, indent, width, words =>
    let count := if s.isAbridged then cornerLength n else n
    let part := words.length / count
    let rows := (List.range count).map fun i =>
      indent ++ s.array (m :: shape) (indent ++ " ") (width - 1) ((words.drop (i * part)).take part)
    let between := Lines.trimmed s.between ++ String.ofList (List.replicate (shape.length + 1) '\n')
    let rows := if s.isAbridged && 2 * edge < n then
        rows.take edge ++ (indent ++ "...") :: rows.drop edge
      else rows
    inBrackets indent (between.intercalate rows)

end Setting

/-- The texts of elements as they stand in arrays. -/
def Elements.words (isAlone : Bool) : Elements String → List String
  | .bools xs =>
    xs.map fun b => if b && !isAlone then " True" else boolShown b
  | .ints _ xs => integerWords xs
  | .floats t xs => FloatColumn.words t.width false xs
  | .complexes t xs => FloatColumn.complexWords t.width xs
  | .bytes _ xs => xs.map Quoted.encodeBytes
  | .texts _ _ xs => xs.map Quoted.encode
  | .times t xs =>
    let word (count : Int) : String :=
      if count = TimeType.noTime then "'NaT'"
      else if t.isPoint then "'" ++ t.shown count ++ "'" else toString count
    alignRight (xs.map word)
  | .objects xs => xs

/-- The mark of an element type in an array inside a list. -/
def ElementType.mark (t : ElementType) : String :=
  if t.order = .big ∨ !t.name.toList.all Char.isAlphanum then "'" ++ t.name ++ "'" else t.name

/-- The element type of an array inside a list goes without saying. -/
def ElementType.isImplied : ElementType → Bool
  | .bool => true
  | .int t => t == .int64
  | .float t => t == .float64
  | .complex t => t == .float64
  | _ => false

namespace Grid

/-- The array in lines of the width that start after so many characters. -/
def lines (g : Grid String) (between : String) (start width : Nat) : String :=
  if g.size = 0 then "[]"
  else
    let isAbridged := abridgedAbove < g.size
    let kept := if isAbridged then g.elements.rearrange (corners g.shape) else g.elements
    Setting.array ⟨between, isAbridged⟩ g.shape (String.ofList (List.replicate (start + 1) ' ')) width
      (kept.words g.shape.isEmpty)

/-- How long lines are. -/
def lineWidth : Nat := 75

/-- The array on its own. -/
def bracketed (g : Grid String) : String := g.lines " " 0 lineWidth

/-- What has to be said of an array inside a list beside its elements. -/
def marks (g : Grid String) : List String :=
  (if (g.size = 0 ∧ g.shape ≠ [0]) ∨ abridgedAbove < g.size then
    ["shape=" ++ Failure.shapeText g.shape] else [])
  ++ if !g.type.isImplied || g.size = 0 then ["dtype=" ++ g.type.mark] else []

/-- The array inside a list. What has to be said beside its elements has a line of its own if the
last line has no room for it. -/
def listed (g : Grid String) : String :=
  let opening := "array("
  let body := opening ++ g.lines ", " opening.length (lineWidth - 1)
  if g.marks.isEmpty then body ++ ")"
  else
    let marks := ", ".intercalate g.marks ++ ")"
    let lastLine := (body.splitOn "\n").getLastD ""
    let between := if lineWidth < lastLine.length + 1 + marks.length + 1 then
        "\n" ++ String.ofList (List.replicate opening.length ' ')
      else " "
    body ++ "," ++ between ++ marks

end Grid

end MissingSamples
