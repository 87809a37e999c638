/-
# Documents

The value of a document. It is found level by level, from the top of the tree down: of several
things that are wrong the topmost counts, and on one level the first. A tree of more than
`greatestDepth` collections in each other is not looked at.

* `read` is the value of a whole document, an empty one being nothing.
-/
import MissingSamples.Yaml.Content
import MissingSamples.Yaml.Layout
import MissingSamples.Yaml.Node.Grammar
import MissingSamples.Yaml.Node.Plain

namespace MissingSamples.Yaml

/-! ## Levels -/

/-- What came of a node: a value, or what is wrong and how many levels below. -/
abbrev Outcome (α : Type) : Type := Except (Nat × Problem) α

namespace Outcome

variable {α β : Type}

/-- What is wrong on the level of the node itself. -/
def here (e : Except Problem α) : Outcome α := e.mapError fun p => (0, p)

/-- What came of a node, seen from one level above. -/
def below (o : Outcome α) : Outcome α := o.mapError fun (n, p) => (n + 1, p)

/-- Two outcomes together. If both are wrong the topmost counts, and the first on one level. -/
def both (a : Outcome α) (b : Outcome β) : Outcome (α × β) :=
  match a, b with
  | .ok x, .ok y => .ok (x, y)
  | .error p, .ok _ => .error p
  | .ok _, .error q => .error q
  | .error p, .error q => .error (if q.1 < p.1 then q else p)

/-- Many outcomes together. -/
def all : List (Outcome α) → Outcome (List α)
  | [] => .ok []
  | o :: rest => (both o (all rest)).map fun (x, xs) => x :: xs

end Outcome

/-! ## Keys -/

/-- The value of a number in units of the least double. -/
def units? : Value → Option Int
  | .bool b => some (if b then Double.unitsPerOne else 0)
  | .int i => some (i * Double.unitsPerOne)
  | .float (.finite negative units _) => some (if negative then -(units : Int) else units)
  | _ => none

/-- Two keys are the same: equal numbers, or equal values of one kind. -/
def sameKey (a b : Value) : Bool :=
  match units? a, units? b with
  | some x, some y => x == y
  | none, none =>
    match a, b with
    | .null, .null => true
    | .float x, .float y => x == y
    | .text x, .text y => x == y
    | .bytes x, .bytes y => x == y
    | .date x, .date y => x == y
    | .moment x, .moment y => x == y
    | _, _ => false
  | _, _ => false

/-- The value may be a key. -/
def isKey : Value → Bool
  | .list _ | .mapping _ | .set _ => false
  | _ => true

/-- The entries with a key standing for the value. A key that is there keeps its place and its
form. -/
def putEntry (entries : List (Value × Value)) (k v : Value) : List (Value × Value) :=
  if entries.any fun e => sameKey e.1 k then
    entries.map fun e => if sameKey e.1 k then (e.1, v) else e
  else entries ++ [(k, v)]

/-- The entries put one after the other. -/
def putAll (entries : List (Value × Value)) : List (Value × Value) :=
  entries.foldl (fun m e => putEntry m e.1 e.2) []

/-! ## Nodes -/

/-- What came of a node that is a key. -/
def asKey (o : Outcome Value) : Outcome Value :=
  match o with
  | .ok k => if isKey k then .ok k else .error (0, .malformed)
  | .error (0, p) => .error (0, p)
  | .error _ => .error (0, .malformed)

/-- The only entry of a node that has to be a mapping of one. -/
def onlyEntry : Node → Outcome (Node × Node)
  | .mapping _ [e] => .ok e
  | _ => .error (0, .malformed)

/-- What came of a key and what it stands for, given the number of the entry. -/
def entryOf (value : Nat → Node → Outcome Value) (e : (Node × Node) × Nat) :
    Outcome (Value × Value) :=
  .both (asKey (value (2 * e.2) e.1.1)) (value (2 * e.2 + 1) e.1.2)

/-- What came of the entries of a mapping, with those that it takes in. -/
def entriesOf (value : Nat → Node → Outcome Value) (entries : List (Node × Node)) :
    Outcome (List (Value × Value)) :=
  match Node.flatten entries with
  | none => .error (0, .malformed)
  | some flat => (Outcome.all (flat.all.zipIdx.map (entryOf value))).map putAll

/-- What came of a pair, which is written as a mapping of one entry, given its number. -/
def pairOf (value : Nat → Node → Outcome Value) (n : Node × Nat) : Outcome Value := do
  let (k, v) ← onlyEntry n.1
  (Outcome.both (value (2 * n.2) k) (value (2 * n.2 + 1) v)).map fun (k, v) => .tuple [k, v]

/-- What came of a node on the given path, no more than so many levels deep. -/
def valueOf (keys : List PlainKey) : Nat → Path → Node → Outcome Value
  | 0, _, _ => .error (0, .malformed)
  | depth + 1, path, n =>
    let value (i : Nat) (n : Node) := valueOf keys depth (path ++ [i]) n
    match n.tag, n with
    | .seq, .sequence _ items =>
      (Outcome.all (items.zipIdx.map fun (n, i) => value i n)).below.map .list
    | .map, .mapping _ entries => (entriesOf value entries).below.map .mapping
    | .set, .mapping _ entries =>
      (entriesOf value entries).below.map fun es => .set (es.map (·.1))
    | .omap, .sequence _ items | .pairs, .sequence _ items =>
      (Outcome.all (items.zipIdx.map (pairOf value))).below.map .list
    | .seq, _ | .map, _ | .set, _ | .omap, _ | .pairs, _ => .error (1, .malformed)
    | tag, n =>
      let isPlain := PlainKey.isPlain keys path.dropLast
      match n.text? isPlain, tag, n with
      | none, _, _ => .error (0, .malformed)
      | some _, .timestamp, .mapping .. => .error (0, .value .timestampMapping)
      | some text, tag, _ => .here (scalarValue (if tag.ownPlace?.any isPlain then .str else tag) text)

/-- The most collections of a document that may lie in each other. A reader that goes down into
collections by calling itself takes two calls a level. Out of a thousand calls that may be open at
once, 976 make 488 levels, and the others are those that lead to the reader. -/
def greatestDepth : Nat := 488

/-- The value of a document. Its characters, its tokens, its depth, its grammar and its values are
each looked at in the whole document before the next of them is, so of several faults the earliest
in this order is what counts. A reader that takes a token only when the grammar asks for it fails on
the same documents; but where tokens are at fault as well as what is made of them, it reports the
fault that comes first in the text. -/
def read (text : String) : Except Problem Value := do
  let ts ← tokens text.toList
  if isDeeper greatestDepth 0 ts then throw (.value .nestedTooDeep)
  match ← Node.ofTokens ts with
  | none => return .null
  | some n => (valueOf (plainKeys n.levels [] n) n.levels [] n).mapError (·.2)

end MissingSamples.Yaml
