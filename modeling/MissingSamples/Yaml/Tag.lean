/-
# Tags

A tag says what kind of value a node has. It is written as a handle with a suffix or as it is; a
handle stands for the start of a tag. `Tag` lists the kinds that documents may use, and every other
tag is unknown.

Anchors and directives have names and values that are read the same way; they are here too.
-/
import MissingSamples.Yaml.Scalar.Quoted

namespace MissingSamples.Yaml

/-- The kind of value that a node has. -/
inductive Tag where
  /-- Nothing. -/
  | null
  /-- A truth value. -/
  | bool
  /-- An integer. -/
  | int
  /-- A floating number. -/
  | float
  /-- Octets. -/
  | binary
  /-- A day or a time of a day. -/
  | timestamp
  /-- A text. -/
  | str
  /-- A list. -/
  | seq
  /-- A mapping. -/
  | map
  /-- A collection without order. -/
  | set
  /-- A mapping as a list of pairs, each key once. -/
  | omap
  /-- A mapping as a list of pairs. -/
  | pairs
  /-- The key under which a mapping takes in others. -/
  | merge
  /-- The key under which a mapping has its own value, with its place in the document. -/
  | value (place : Nat)
  /-- Anything else. -/
  | unknown
deriving DecidableEq, Repr

namespace Tag

/-- What the tags of the known kinds start with. -/
def stem : String := "tag:yaml.org,2002:"

/-- The known kinds and how their tags end. -/
def endings : List (String × Tag) :=
  [("null", null), ("bool", bool), ("int", int), ("float", float), ("binary", binary),
   ("timestamp", timestamp), ("str", str), ("seq", seq), ("map", map), ("set", set),
   ("omap", omap), ("pairs", pairs), ("merge", merge), ("value", value 0)]

/-- The kind of a tag. -/
def ofText (text : String) : Tag :=
  ((endings.map fun e => (stem ++ e.1, e.2)).lookup text).getD unknown

/-- The tag of something in the given place. -/
def inPlace (place : Nat) : Tag → Tag
  | value _ => value place
  | tag => tag

/-- The place of a key under which a mapping has its own value. -/
def ownPlace? : Tag → Option Nat
  | value place => some place
  | _ => none

end Tag

/-- A tag as it is written: a suffix, after the handle if there is one. -/
structure WrittenTag where
  /-- The handle. -/
  handle : Option String
  /-- What follows the handle. -/
  suffix : String
deriving DecidableEq, Repr

/-- A directive at the head of a document. -/
inductive Directive where
  /-- The version of the format. -/
  | version (major : Nat)
  /-- A handle and what it stands for. -/
  | handle (handle start : String)
  /-- Anything else. -/
  | other
deriving DecidableEq, Repr

/-- The character may stand in a name. -/
def isNameChar (c : Char) : Bool := c.isAlphanum || c == '-' || c == '_'

/-- The character may stand in a tag. -/
def isTagChar (c : Char) : Bool :=
  c.isAlphanum || ['-', ';', '/', '?', ':', '@', '&', '=', '+', '$', ',', '_', '.', '!', '~', '*',
    '\'', '(', ')', '[', ']', '%'].contains c

/-- The name that stands here, and the place after it. -/
def scanName (c : Cursor) : Except Problem (String × Cursor) :=
  let (name, c) := c.span isNameChar
  if name.isEmpty then .error .malformed else .ok (String.ofList name, c)

/-- The name of an anchor that follows the mark here, and the place after it. -/
def scanAnchor (c : Cursor) : Except Problem (String × Cursor) := do
  let (name, c) ← scanName c.next
  if endsWord c.peek || c.peek.any ['?', ':', ',', ']', '\x7d', '%', '@', Char.ofNat 0x60].contains
  then return (name, c)
  else throw .malformed

/-- The octets of the escapes from here on, and the place after them. -/
def scanEscapes : Nat → Cursor → Except Problem (List UInt8 × Cursor)
  | 0, c => .ok ([], c)
  | fuel + 1, c =>
    if c.peek = some '%' then
      match c.peekAt 1 >>= Quoted.hexDigit?, c.peekAt 2 >>= Quoted.hexDigit? with
      | some a, some b => do
        let (bs, c) ← scanEscapes fuel (c.skip 3)
        return (UInt8.ofNat (a * 16 + b) :: bs, c)
      | _, _ => .error .malformed
    else .ok ([], c)

/-- The characters of a tag from here on, with escaped octets read as UTF-8, and the place after
them. -/
def scanTagChars : Nat → Cursor → Except Problem (List Char × Cursor)
  | 0, c => .ok ([], c)
  | fuel + 1, c =>
    match c.peek with
    | some '%' => do
      let (bytes, c) ← scanEscapes c.rest.length c
      match String.fromUTF8? ⟨bytes.toArray⟩ with
      | none => throw .malformed
      | some text =>
        let (others, c) ← scanTagChars fuel c
        return (text.toList ++ others, c)
    | some x =>
      if isTagChar x then do
        let (others, c) ← scanTagChars fuel c.next
        return (x :: others, c)
      else .ok ([], c)
    | none => .ok ([], c)

/-- The text of a tag from here on, which must not be empty, and the place after it. -/
def scanTagText (c : Cursor) : Except Problem (String × Cursor) := do
  if c.peek.any isTagChar then
    let (text, c) ← scanTagChars c.rest.length c
    return (String.ofList text, c)
  else throw .malformed

/-- The handle that stands here, and the place after it. -/
def scanHandle (c : Cursor) : Except Problem (String × Cursor) :=
  if c.peek = some '!' then
    if c.peekAt 1 = some ' ' then .ok ("!", c.next)
    else
      let (name, after) := c.next.span isNameChar
      if after.peek = some '!' then .ok (String.ofList ('!' :: name ++ ['!']), after.next)
      else .error .malformed
  else .error .malformed

/-- The tag that stands here, and the place after it. -/
def scanTag (c : Cursor) : Except Problem (WrittenTag × Cursor) := do
  let (tag, c) ←
    if c.peekAt 1 = some '<' then
      let (text, c) ← scanTagText (c.skip 2)
      if c.peek = some '>' then pure (WrittenTag.mk none text, c.next) else throw .malformed
    else if endsWord (c.peekAt 1) then pure (WrittenTag.mk none "!", c.next)
    else
      let word := c.next.rest.takeWhile fun x => !endsName (some x)
      let (handle, c) ← if word.contains '!' then scanHandle c else pure ("!", c.next)
      let (text, c) ← scanTagText c
      pure (WrittenTag.mk (some handle) text, c)
  if endsName c.peek then return (tag, c) else throw .malformed

/-- The number that stands here, and the place after it. -/
def scanNumber (c : Cursor) : Except Problem (Nat × Cursor) :=
  let (digits, c) := c.span Char.isDigit
  if digits.isEmpty then .error .malformed
  else .ok (digits.foldl (fun n d => n * 10 + (d.toNat - 48)) 0, c)

/-- The version of the format that stands here, and the place after it. -/
def scanVersion (c : Cursor) : Except Problem (Directive × Cursor) := do
  let (major, c) ← scanNumber c.skipSpaces
  if c.peek = some '.' then
    let (_, c) ← scanNumber c.next
    if endsName c.peek then return (.version major, c) else throw .malformed
  else throw .malformed

/-- The handle that is declared here, and the place after its declaration. -/
def scanDeclaration (c : Cursor) : Except Problem (Directive × Cursor) := do
  let (handle, c) ← scanHandle c.skipSpaces
  if c.peek = some ' ' then
    let (start, c) ← scanTagText c.skipSpaces
    if endsName c.peek then return (.handle handle start, c) else throw .malformed
  else throw .malformed

/-- The directive that follows the mark here, and the next line. -/
def scanDirective (c : Cursor) : Except Problem (Directive × Cursor) := do
  let (name, c) ← scanName c.next
  if endsName c.peek then
    let (directive, c) ←
      if name = "YAML" then scanVersion c
      else if name = "TAG" then scanDeclaration c
      else pure (Directive.other, (c.span fun x => !isBreak x).2)
    return (directive, ← c.finishLine)
  else throw .malformed

end MissingSamples.Yaml
