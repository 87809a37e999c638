/-
# Nodes of tokens

The grammar of documents: which tokens make a node, and which node they make. A node may have an
anchor and a tag in front; a collection is a run of members between its start and its end; what is
left out in a place for a node is nothing.

* `Node.ofTokens` is the node of a whole document, of which there must be no more than one.
-/
import MissingSamples.Yaml.Node
import MissingSamples.Yaml.Schema
import MissingSamples.Yaml.Token

namespace MissingSamples.Yaml

/-- What is left to read, and what has been declared. -/
structure Remainder where
  /-- The tokens that are left. -/
  tokens : List Token
  /-- The handles of tags and what they stand for. -/
  handles : List (String × String)
  /-- The anchors so far and the nodes that they name, the last one first. -/
  anchors : List (String × Node) := []

/-- Reads a part of a document. -/
abbrev Reading (α : Type) : Type := StateT Remainder (Except Problem) α

namespace Reading

/-- The next token, if there is one. -/
def peek : Reading (Option Token) := do return (← get).tokens.head?

/-- Leaves the next token behind. -/
def skip : Reading Unit := modify fun r => { r with tokens := r.tokens.tail }

/-- Leaves the next token behind if it is the given one, and tells whether it was. -/
def accept (t : Token) : Reading Bool := do
  if (← peek) = some t then
    skip
    return true
  else return false

/-- Leaves the next token behind, which must be the given one. -/
def expect (t : Token) : Reading Unit := do
  if !(← accept t) then throw .malformed

/-- The next token is one of the given ones. -/
def isNext (ts : List Token) : Reading Bool := do return (← peek).any ts.contains

/-- The text of a tag, with what its handle stands for. -/
def tagText (t : WrittenTag) : Reading String := do
  match t.handle with
  | none => return t.suffix
  | some handle =>
    match (← get).handles.lookup handle with
    | some start => return start ++ t.suffix
    | none => throw .malformed

/-- The anchor that stands here, if there is one. -/
def anchor? : Reading (Option String) := do
  match ← peek with
  | some (.anchor name) =>
    skip
    return some name
  | _ => return none

/-- The text of the tag that stands here, if there is one. -/
def tag? : Reading (Option String) := do
  match ← peek with
  | some (.tag t) =>
    skip
    return some (← tagText t)
  | _ => return none

/-- The anchor and the tag that stand here, in either order. -/
def properties : Reading (Option String × Option String) := do
  match ← anchor? with
  | some name => return (some name, ← tag?)
  | none =>
    match ← tag? with
    | some text => return (← anchor?, some text)
    | none => return (none, none)

/-- An anchor is new. -/
def checkNew (anchor : Option String) : Reading Unit := do
  if let some name := anchor then
    if ((← get).anchors.lookup name).isSome then throw .malformed

/-- The anchor names the node from here on. -/
def name (anchor : Option String) (n : Node) : Reading Unit := do
  if let some name := anchor then
    modify fun r => { r with anchors := (name, n) :: r.anchors }

/-- The node that an anchor names. -/
def named (name : String) : Reading Node := do
  match (← get).anchors.lookup name with
  | some n => return n
  | none => throw .malformed

end Reading

namespace Node

/-- What stands in a place that is left out. -/
def absent : Node := .scalar .null ""

/-- The tag of a scalar: the one that is written, or what the scalar looks like. The mark without a
tag lets a scalar between quotes count as one without. -/
def scalarTag (tag : Option String) (text : String) (plain : Bool) : Tag :=
  match tag with
  | none => if plain then resolve text else .str
  | some "!" => resolve text
  | some t => .ofText t

/-- The tag of a collection: the one that is written, or the usual one of its kind. -/
def collectionTag (tag : Option String) (usual : Tag) : Tag :=
  match tag with
  | none | some "!" => usual
  | some t => .ofText t

open Reading

mutual

/-- The node that stands here. Indentation may start a collection only if `block` is set, and a list
whose members are not indented may stand here only if `flat` is. -/
def read (block flat : Bool) : Nat → Reading Node
  | 0 => throw .malformed
  | fuel + 1 => do
    if let some (.alias name) ← peek then
      skip
      named name
    else
      let (anchor, tag) ← properties
      checkNew anchor
      let place := (← get).tokens.length
      let sequence (items : Reading (List Node)) : Reading Node := do
        let tag := (collectionTag tag .seq).inPlace place
        name anchor (.sequence tag [])
        let n := Node.sequence tag (← items)
        name anchor n
        return n
      let mapping (entries : Reading (List (Node × Node))) : Reading Node := do
        let tag := (collectionTag tag .map).inPlace place
        name anchor (.mapping tag [])
        let n := Node.mapping tag (← entries)
        name anchor n
        return n
      let scalar (text : String) (plain : Bool) : Reading Node := do
        let n := Node.scalar ((scalarTag tag text plain).inPlace place) text
        name anchor n
        return n
      let bare : Reading Node :=
        if anchor.isSome || tag.isSome then scalar "" true else throw .malformed
      match ← peek with
      | some .blockEntry => if flat then sequence (flatItems fuel) else bare
      | some (.scalar text plain) =>
        skip
        scalar text plain
      | some .flowSequence =>
        skip
        sequence (flowItems true fuel)
      | some .flowMapping =>
        skip
        mapping (flowEntries true fuel)
      | some .blockSequence =>
        if block then
          skip
          sequence (blockItems fuel)
        else bare
      | some .blockMapping =>
        if block then
          skip
          mapping (blockEntries fuel)
        else bare
      | _ => bare

/-- The node that stands here, or nothing if one of the tokens does. -/
def readUnless (stops : List Token) (block flat : Bool) : Nat → Reading Node
  | 0 => throw .malformed
  | fuel + 1 => do
    if ← isNext stops then return absent else read block flat fuel

/-- The members of an indented list. -/
def blockItems : Nat → Reading (List Node)
  | 0 => throw .malformed
  | fuel + 1 => do
    if ← accept .blockEntry then
      let n ← readUnless [.blockEntry, .blockEnd] true false fuel
      return n :: (← blockItems fuel)
    else
      expect .blockEnd
      return []

/-- The members of a list that is not indented. -/
def flatItems : Nat → Reading (List Node)
  | 0 => throw .malformed
  | fuel + 1 => do
    if ← accept .blockEntry then
      let n ← readUnless [.blockEntry, .key, .value, .blockEnd] true false fuel
      return n :: (← flatItems fuel)
    else return []

/-- The entries of an indented mapping. -/
def blockEntries : Nat → Reading (List (Node × Node))
  | 0 => throw .malformed
  | fuel + 1 => do
    if ← accept .key then
      let k ← readUnless [.key, .value, .blockEnd] true true fuel
      let v ← if ← accept .value then readUnless [.key, .value, .blockEnd] true true fuel
        else pure absent
      return (k, v) :: (← blockEntries fuel)
    else
      expect .blockEnd
      return []

/-- The members of a list in brackets. A key makes a mapping of one entry. -/
def flowItems (first : Bool) : Nat → Reading (List Node)
  | 0 => throw .malformed
  | fuel + 1 => do
    if ← accept .flowSequenceEnd then return []
    else
      if !first then expect .flowEntry
      if ← accept .key then
        let k ← readUnless [.value, .flowEntry, .flowSequenceEnd] false false fuel
        let v ← if ← accept .value then
            readUnless [.flowEntry, .flowSequenceEnd] false false fuel
          else pure absent
        return .mapping .map [(k, v)] :: (← flowItems false fuel)
      else if ← accept .flowSequenceEnd then return []
      else
        let n ← read false false fuel
        return n :: (← flowItems false fuel)

/-- The entries of a mapping in braces. What stands without a key's mark is a key that stands for
nothing. -/
def flowEntries (first : Bool) : Nat → Reading (List (Node × Node))
  | 0 => throw .malformed
  | fuel + 1 => do
    if ← accept .flowMappingEnd then return []
    else
      if !first then expect .flowEntry
      if ← accept .key then
        let k ← readUnless [.value, .flowEntry, .flowMappingEnd] false false fuel
        let v ← if ← accept .value then
            readUnless [.flowEntry, .flowMappingEnd] false false fuel
          else pure absent
        return (k, v) :: (← flowEntries false fuel)
      else if ← accept .flowMappingEnd then return []
      else
        let n ← read false false fuel
        return (n, absent) :: (← flowEntries false fuel)

end

/-- The handles that need no declaration. -/
def usualHandles : List (String × String) := [("!", "!"), ("!!", Tag.stem)]

/-- The handles that the directives of a document declare. A version must be of the first edition,
and nothing may be declared twice. -/
def declaredHandles : List Directive → Except Problem (List (String × String))
  | [] => .ok []
  | .version major :: rest =>
    if major = 1 ∧ !rest.any (fun d => d matches .version _) then declaredHandles rest
    else .error .malformed
  | .handle handle start :: rest => do
    let others ← declaredHandles rest
    if (others.lookup handle).isSome then throw .malformed else return (handle, start) :: others
  | .other :: rest => declaredHandles rest

/-- The directive that a token is. -/
def directive? : Token → Option Directive
  | .directive d => some d
  | _ => none

/-- The tokens that cannot start the content of a document. -/
def startsNothing : Option Token → Bool
  | none | some (.directive _) | some .documentStart | some .documentEnd => true
  | _ => false

/-- The node that the tokens of a document's content make. After it nothing but ends of documents
may follow. -/
def ofContent (handles : List (String × String)) (tokens : List Token) :
    Except Problem Node := do
  let (n, rest) ← (read true false (3 * tokens.length + 3)).run { tokens, handles }
  if rest.tokens.all (· = .documentEnd) then return n else throw .malformed

/-- The node of a document; there is none if the document is empty. -/
def ofTokens (tokens : List Token) : Except Problem (Option Node) := do
  match tokens with
  | [] => return none
  | .directive _ :: _ | .documentStart :: _ =>
    let (head, rest) := tokens.span fun t => (directive? t).isSome
    let handles ← declaredHandles (head.filterMap directive?)
    match rest with
    | .documentStart :: content =>
      if startsNothing content.head? then
        if content.all (· = .documentEnd) then return some absent else throw .malformed
      else return some (← ofContent (handles ++ usualHandles) content)
    | _ => throw .malformed
  | _ => return some (← ofContent usualHandles tokens)

end Node

end MissingSamples.Yaml
