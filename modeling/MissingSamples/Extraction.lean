/-
# What attributes say about missing samples

The attributes of a variable become a `Declaration` in unpacked units:

1. integers of unsigned variables are read as unsigned;
2. bounds that are stored packed are unpacked;
3. bounds that a negative scale has swapped are put back in order;
4. text that spells a number is that number, and text that spells none is dropped with a note.

`extract` reads the declaration and `policyOfAttributes` makes the policy of it.
-/
import MissingSamples.DefaultFill
import MissingSamples.Policy
import MissingSamples.Report
import MissingSamples.Scaling
import MissingSamples.Text.Blank
import MissingSamples.Value.TypeName

namespace MissingSamples

/-! ## Signs -/

/-- The text of the mark of unsigned integers; octets are read as ASCII. -/
def flagText : Value → String
  | .bytes xs | .scalar (.bytes xs) => Ascii.decode xs
  | v => v.shown

/-- The mark of unsigned integers is set: it says "true", in whatever case. -/
def isUnsignedMark (v : Value) : Bool := lowerAscii (strip (flagText v)) == "true"

namespace Attributes

/-- Elements of the type are unsigned integers, by themselves or by the attributes' mark. -/
def isUnsigned (a : Attributes) : ElementType → Bool
  | .int t => !t.signed || isUnsignedMark ((a.find? Convention.unsigned.name).getD .null)
  | _ => false

end Attributes

/-- Elements of the type are unsigned integers, by themselves or by the mark among the attributes,
which have to be a mapping only if they are asked. -/
def Value.isUnsigned (attributes : Value) (t : ElementType) : Except Failure Bool :=
  match t with
  | .int i =>
    if i.signed then
      match attributes.attributes? with
      | some a => .ok (a.isUnsigned t)
      | none => .error .noAttributes
    else .ok true
  | _ => .ok false

/-! ## Numbers of attributes -/

/-- The integers all lie in the type. -/
def IntType.holdsAll (t : IntType) (xs : List Int) : Bool :=
  xs.all fun i => t.least ≤ i && i ≤ t.greatest

/-- Integers without a type of their own, next to a variable of integers: they take the type of the
variable if they fit it, and else the signed type of its width if they fit that. -/
def besideVariable (variableType : ElementType) : Elements Value → Elements Value
  | .ints t xs =>
    match variableType with
    | .int v =>
      if !t.signed || xs.isEmpty then .ints t xs
      else if v.holdsAll xs then .ints v xs
      else if v.signedOf.holdsAll xs then .ints v.signedOf xs
      else .ints t xs
    | _ => .ints t xs
  | e => e

/-- The grid of one dimension or more that a numeric attribute makes. Grids keep their own type. -/
def numericGrid (v : Value) (variableType : ElementType) : Except Failure (Grid Value) :=
  match v.grid? with
  | some g => .ok g.atLeastOneDim
  | none => do
    let g := (← v.asGrid).atLeastOneDim
    return { g with elements := besideVariable variableType g.elements }

/-- The grid of a numeric attribute, with signed integers read as unsigned if so they are meant. -/
def sentinelGrid (v : Value) (variableType : ElementType) (unsigned : Bool) :
    Except Failure (Grid Value) := do
  let g ← numericGrid v variableType
  return (g.toUnsigned unsigned).result g

/-! ## The valid range -/

/-- What is declared about the valid range, and the wider type of the bounds. -/
structure Bounds where
  /-- The lower bound, if there is one. -/
  lower : Option Double := none
  /-- The upper bound, if there is one. -/
  upper : Option Double := none
  /-- The wider type of the bounds. -/
  type : Option ElementType := none

/-- The bounds of the attribute for both, which needs at least two numbers. -/
def rangeBounds (a : Attributes) (variableType : ElementType) (unsigned : Bool) :
    Except Failure (Option Bounds) := do
  match a.numeric? .validRange with
  | none => return none
  | some v =>
    let g ← sentinelGrid v variableType unsigned
    if 1 < g.size then
      return some ⟨some (← g.numberAt 0), some (← g.numberAt 1), some g.type⟩
    else return none

/-- The bounds of the two attributes for one each. -/
def singleBounds (a : Attributes) (variableType : ElementType) (unsigned : Bool) :
    Except Failure Bounds := do
  let low : Bounds ← match a.numeric? .validMin with
    | none => pure {}
    | some v =>
      let g ← sentinelGrid v variableType unsigned
      pure { lower := some (← g.numberAt 0), type := some g.type }
  match a.numeric? .validMax with
  | none => return low
  | some v =>
    let g ← sentinelGrid v variableType unsigned
    return { low with
      upper := some (← g.numberAt 0)
      type := ElementType.larger low.type (some g.type) }

/-- The declared bounds: one attribute for both hides the attributes for one each. -/
def declaredBounds (a : Attributes) (variableType : ElementType) (unsigned : Bool) :
    Except Failure Bounds := do
  match ← rangeBounds a variableType unsigned with
  | some b => return b
  | none => singleBounds a variableType unsigned

/-- The bounds are stored in unpacked units: their type is that of unpacked samples, and wider than
that of the stored ones. -/
def storedUnpacked (variableType : ElementType) (scaling : Scaling) (type : Option ElementType) :
    Bool :=
  let unpacked := scaling.type.getD variableType
  ElementType.rank? type == unpacked.rank && variableType.rank < ElementType.rank? type

/-- The declaration of bounds, unpacked and in order. -/
def declareBounds (variableType : ElementType) (scaling : Scaling) (b : Bounds) : Declaration :=
  let unpack x := if storedUnpacked variableType scaling b.type then x else scaling.apply x
  let low := (b.lower.map unpack).getD (-Double.largest)
  let high := (b.upper.map unpack).getD Double.largest
  let swapped := (b.lower.isSome || b.upper.isSome) && high.lt low
  { hasValidMin := b.lower.isSome
    hasValidMax := b.upper.isSome
    validMin := if swapped then high else low
    validMax := if swapped then low else high }

/-! ## Fill value and missing values -/

/-- The number of the first character of a text; zero for an empty one. -/
def firstCharNumber (s : String) : Double :=
  match s.toList with
  | c :: _ => .ofInt c.toNat
  | [] => 0

/-- The declared fill value, if there is one, in unpacked units. A text on a variable of characters
is its first character; on any other it has to spell a number. -/
def declaredFill (a : Attributes) (variableType : ElementType) (unsigned : Bool)
    (scaling : Scaling) (name : String) : Report (Option Double) := do
  match a.given? .fillValue with
  | none => return none
  | some v =>
    if v.isString then
      let text ← v.asText
      if variableType.isChar then return some (firstCharNumber text)
      else
        match Numeral.read text with
        | some x => return some x
        | none =>
          Report.note (.fillValueIgnored text name)
          return none
    else
      let g ← sentinelGrid v variableType unsigned
      return some (scaling.apply (← g.numberAt 0))

/-- The declared missing values, if there are any, in unpacked units. A text is read as for fill
values. -/
def declaredMissing (a : Attributes) (variableType : ElementType) (unsigned : Bool)
    (scaling : Scaling) (name : String) : Report (Option (List Double)) := do
  match a.given? .missingValue with
  | none => return none
  | some v =>
    if v.isString then
      let text ← v.asText
      if variableType.isChar then return some [firstCharNumber text]
      else
        match Numeral.read text with
        | some x => return some [x]
        | none =>
          Report.note (.missingValueDropped text name)
          return some []
    else
      let g ← sentinelGrid v variableType unsigned
      return some ((← g.numbers).map scaling.apply)

/-! ## The declaration -/

/-- The name of a variable in notes. -/
def noteName (name : Option String) : String :=
  match name with
  | none | some "" => "<unnamed>"
  | some s => s

/-- What the attributes of a variable of the type declare. Without a scaling, the attributes' own
is used. -/
def extract (a : Attributes) (variableType : ElementType) (scaling : Option Scaling)
    (name : Option String) : Report Declaration := do
  let scaling ← match scaling with
    | some s => pure s
    | none => Scaling.ofAttributes a
  let unsigned := a.isUnsigned variableType
  let bounds ← declaredBounds a variableType unsigned
  let fill ← declaredFill a variableType unsigned scaling (noteName name)
  let missing ← declaredMissing a variableType unsigned scaling (noteName name)
  return { declareBounds variableType scaling bounds with
    hasFillValue := fill.isSome
    fillValue := fill.getD (variableType.defaultFill unsigned)
    candidates := missing }

/-- What the attributes of a variable declare, where attributes and type may be any values. -/
def extractValue (attributes typeName : Value) (scaling : Option Scaling) (name : Option String) :
    Report Declaration :=
  match attributes.attributes?, typeName.namedType with
  | none, _ => .fail (.attributesNotMapping attributes.kind)
  | some _, .error .unknownElementType => .fail (.variableTypeUnknown typeName.quoted)
  | some _, .error f => .fail f
  | some a, .ok t => extract a t scaling name

/-- The policy that the attributes of a variable declare under the flags. -/
def policyOfAttributes (a : Attributes) (variableType : ElementType) (flags : ModeFlags)
    (scaling : Option Scaling) (name : Option String) : Report Policy := do
  return .make flags (← extract a variableType scaling name)

end MissingSamples
