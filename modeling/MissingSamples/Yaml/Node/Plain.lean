/-
# Keys that are plain texts

A key that asks for a mapping's own value does so only where a scalar is wanted. A mapping that is
read as such takes it for a plain text, and from then on it is one wherever else it stands by a
reference. The tree is gone through level by level and on each level from its start, so `Path` says
what comes first.

* `plainKeys` finds the keys that become plain texts, each with the mapping that makes it one.
-/
import MissingSamples.Yaml.Node

namespace MissingSamples.Yaml

/-- Where a node stands in a tree: its number among its siblings, on each level from the top down. -/
abbrev Path : Type := List Nat

/-- The turn of the first path is that of the second, or before it. -/
def Path.isBy (p q : Path) : Bool :=
  p.length < q.length || (p.length == q.length && (p < q || p == q))

/-- A key that is a plain text from some turn on. -/
structure PlainKey where
  /-- The place of the key in the document. -/
  place : Nat
  /-- Where the mapping stands that takes it for a text. -/
  path : Path

/-- The key in a place is a plain text when the turn of the path has come. -/
def PlainKey.isPlain (keys : List PlainKey) (path : Path) (place : Nat) : Bool :=
  keys.any fun k => k.place == place && k.path.isBy path

namespace Node

/-- The entries of a node that is read as a mapping. -/
def mappingKeys (n : Node) : List (Node × Node) :=
  match n.tag, n with
  | .map, .mapping _ entries | .set, .mapping _ entries => ((flatten entries).map Entries.all).getD []
  | _, _ => []

/-- The nodes below a node in the order in which they are read. -/
def children (n : Node) : List Node :=
  match n.tag, n with
  | .seq, .sequence _ items => items
  | .omap, .sequence _ items | .pairs, .sequence _ items =>
    items.flatMap fun
      | .mapping _ [(k, v)] => [k, v]
      | _ => []
  | _, n => n.mappingKeys.flatMap fun (k, v) => [k, v]

end Node

/-- The keys that become plain texts at a node on the given path or below it, no more than so many
levels deep. -/
def plainKeys : Nat → Path → Node → List PlainKey
  | 0, _, _ => []
  | depth + 1, path, n =>
    n.mappingKeys.filterMap (fun e => e.1.tag.ownPlace?.map (⟨·, path⟩))
      ++ n.children.zipIdx.flatMap fun (child, i) => plainKeys depth (path ++ [i]) child

end MissingSamples.Yaml
