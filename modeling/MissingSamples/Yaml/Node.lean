/-
# Nodes

The tree of a document: scalars with their text, lists of nodes, and mappings from nodes to nodes,
each with its tag. References to anchors are replaced by what they refer to; a collection that
refers to itself holds an empty collection of its kind in that place.
-/
import MissingSamples.Yaml.Tag

namespace MissingSamples.Yaml

/-- A node of a document. -/
inductive Node where
  /-- A scalar. -/
  | scalar (tag : Tag) (text : String)
  /-- A list. -/
  | sequence (tag : Tag) (items : List Node)
  /-- A mapping. -/
  | mapping (tag : Tag) (entries : List (Node × Node))

instance : Inhabited Node := ⟨.scalar .null ""⟩

namespace Node

/-- The tag of the node. -/
def tag : Node → Tag
  | scalar tag _ | sequence tag _ | mapping tag _ => tag

mutual

/-- How many nodes lie on the longest way down from the node. -/
def levels : Node → Nat
  | .scalar .. => 1
  | .sequence _ items => levelsOfAll items + 1
  | .mapping _ entries => levelsOfEntries entries + 1

/-- The most levels of some nodes. -/
def levelsOfAll : List Node → Nat
  | [] => 0
  | n :: rest => max n.levels (levelsOfAll rest)

/-- The most levels of a key or what it stands for. -/
def levelsOfEntry : Node × Node → Nat
  | (k, v) => max k.levels v.levels

/-- The most levels of some keys and what they stand for. -/
def levelsOfEntries : List (Node × Node) → Nat
  | [] => 0
  | e :: rest => max (levelsOfEntry e) (levelsOfEntries rest)

end

/-- The entries that a mapping has with those of the mappings it takes in: `merged` come first, so
that its own override them. -/
structure Entries where
  /-- The entries that are taken in. -/
  merged : List (Node × Node) := []
  /-- Its own entries. -/
  own : List (Node × Node) := []

/-- All entries. -/
def Entries.all (e : Entries) : List (Node × Node) := e.merged ++ e.own

mutual

/-- The entries of a mapping, if all that it takes in are mappings. -/
def flatten : List (Node × Node) → Option Entries
  | [] => some {}
  | e :: rest => do
    let first ← flattenEntry e
    let others ← flatten rest
    return ⟨first.merged ++ others.merged, first.own ++ others.own⟩

/-- The entries that one entry of a mapping makes. -/
def flattenEntry : Node × Node → Option Entries
  | (k, v) =>
    if k.tag = .merge then do
      let merged ← mergedEntries v
      return { merged }
    else some { own := [(k, v)] }

/-- The entries that a mapping or a list of mappings brings in; of a list, the first mapping
overrides the others. -/
def mergedEntries : Node → Option (List (Node × Node))
  | .mapping _ entries => (flatten entries).map Entries.all
  | .sequence _ items => mergedLists items
  | .scalar .. => none

/-- The entries that a list of mappings brings in. -/
def mergedLists : List Node → Option (List (Node × Node))
  | [] => some []
  | n :: rest => do
    let first ← mappingEntries n
    let others ← mergedLists rest
    return others ++ first

/-- The entries of a node that has to be a mapping. -/
def mappingEntries : Node → Option (List (Node × Node))
  | .mapping _ entries => (flatten entries).map Entries.all
  | _ => none

end

section Text

variable (isPlain : Nat → Bool)

/-- The key asks for the mapping's own value, and is not in a place where it is a plain text. -/
def isOwnValue : Node × Node → Bool
  | (k, _) => k.tag.ownPlace?.any fun place => !isPlain place

mutual

/-- The text of a scalar, or of what a mapping has as its own value. -/
def text? : Node → Option String
  | .scalar _ text => some text
  | .sequence .. => none
  | .mapping _ entries => ownText? entries

/-- The text of the own value among the entries. -/
def ownText? : List (Node × Node) → Option String
  | [] => none
  | e :: rest => if isOwnValue isPlain e then entryText? e else ownText? rest

/-- The text of what the key stands for. -/
def entryText? : Node × Node → Option String
  | (_, v) => text? v

end

end Text

end Node

end MissingSamples.Yaml
