/-
# Tokens

The marks and scalars of which a document consists. Where indentation opens and closes collections
there are tokens for that too, so that the structure of a document can be read from its tokens
alone.

* `isDeeper` tells how deep collections lie in each other.
-/
import MissingSamples.Yaml.Tag

namespace MissingSamples.Yaml

/-- A mark or a scalar of a document. -/
inductive Token where
  /-- A directive. -/
  | directive (d : Directive)
  /-- The start of a document. -/
  | documentStart
  /-- The end of a document. -/
  | documentEnd
  /-- The start of a list by indentation. -/
  | blockSequence
  /-- The start of a mapping by indentation. -/
  | blockMapping
  /-- The end of what indentation started. -/
  | blockEnd
  /-- The start of a list in brackets. -/
  | flowSequence
  /-- The end of a list in brackets. -/
  | flowSequenceEnd
  /-- The start of a mapping in braces. -/
  | flowMapping
  /-- The end of a mapping in braces. -/
  | flowMappingEnd
  /-- The start of a member of an indented list. -/
  | blockEntry
  /-- What parts the members of a collection in brackets or braces. -/
  | flowEntry
  /-- The start of a key. -/
  | key
  /-- The start of what a key stands for. -/
  | value
  /-- A reference to an anchor. -/
  | alias (name : String)
  /-- An anchor. -/
  | anchor (name : String)
  /-- A tag. -/
  | tag (t : WrittenTag)
  /-- A scalar, with or without quotes. -/
  | scalar (text : String) (plain : Bool)
deriving DecidableEq, Repr

namespace Token

/-- The token starts a collection. -/
def opens : Token → Bool
  | blockSequence | blockMapping | flowSequence | flowMapping => true
  | _ => false

/-- The token ends a collection. -/
def closes : Token → Bool
  | blockEnd | flowSequenceEnd | flowMappingEnd => true
  | _ => false

end Token

/-- More collections than the limit lie in each other, where so many have started before. -/
def isDeeper (limit : Nat) : Nat → List Token → Bool
  | _, [] => false
  | level, t :: rest =>
    let level := if t.opens then level + 1 else if t.closes then level - 1 else level
    limit < level || isDeeper limit level rest

end MissingSamples.Yaml
