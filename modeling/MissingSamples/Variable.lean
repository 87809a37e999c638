/-
# Variables

A variable is a grid of samples with names for its dimensions, with attributes, and with an
encoding: what a reader recorded about the form in which the samples were stored.

A variable that is still packed has its packing among the attributes and no stored type in the
encoding. `Variable.unpack` undoes the packing and moves it into the encoding, so that the outcome
looks as if a reader had unpacked it, and `Variable.maskMissing` puts not-a-number in place of the
missing samples.

* `Variable.isPacked_unpacked` says that nothing is unpacked twice.
-/
import MissingSamples.Extraction
import MissingSamples.Policy.Bulk
import MissingSamples.Variable.Kept

namespace MissingSamples

/-- Samples with what is known about them. -/
structure Variable where
  /-- The name, if it has one. -/
  name : Option String
  /-- The names of the dimensions. -/
  dims : List String
  /-- The samples. -/
  data : Grid Value
  /-- What was declared about the samples. -/
  attributes : Attributes
  /-- In what form the samples were stored. -/
  encoding : Attributes

namespace Variable

/-- The variable around its samples, which has to have a name for each of their dimensions. -/
def make (name : Option String) (dims : List String) (data : Grid Value)
    (attributes encoding : Attributes) : Except Failure Variable := do
  let elements ← data.elements.kept
  if dims.length ≠ data.shape.length then throw .dimensionNames
  return ⟨name, dims, { data with elements }, attributes, encoding⟩

/-- The name in an encoding of the type of the stored samples. -/
def storedType : String := "dtype"

/-- The names of the attributes that say how samples are packed. -/
def packingNames : List String := Convention.packing.map Convention.name

/-- The attributes of the variable, with those of the encoding for what they leave out. -/
def allAttributes (v : Variable) : Attributes :=
  (v.encoding.only (Convention.encoded.map Convention.name)).merge v.attributes

/-- The type that the samples have where they are stored. -/
def rawType (v : Variable) : Except Failure ElementType :=
  match v.encoding.find? storedType with
  | some t => t.namedType
  | none => .ok v.data.type

/-- The missing-data policy of the variable. -/
def policyFor (v : Variable) (flags : ModeFlags) : Report Policy := do
  policyOfAttributes v.allAttributes (← v.rawType) flags none v.name

/-- The samples are still packed, or signed integers that are meant to be unsigned. -/
def isPacked (v : Variable) : Bool :=
  !v.encoding.has storedType && v.data.type.isNumeric
    && (v.attributes.has Convention.scaleFactor.name
      || v.attributes.has Convention.addOffset.name
      || (v.data.type.isSignedInt && v.attributes.isUnsigned v.data.type))

/-- The variable with other samples of the same shape. -/
def withData (v : Variable) (data : Grid Value) : Variable := { v with data }

/-- The variable around its unpacked samples: the packing is now part of the encoding, together
with the type that the samples had. -/
def unpacked (v : Variable) (data : Grid Value) : Variable :=
  { v with
    data
    attributes := v.attributes.without packingNames
    encoding := (v.encoding.merge (v.attributes.only packingNames)).insert storedType
      (.elementType v.data.type) }

/-- The variable with its samples unpacked to doubles: integers are read as unsigned if so they are
meant, then they are scaled and shifted. -/
def unpack (v : Variable) : Except Failure Variable := do
  let scaling ← Scaling.ofAttributes v.attributes
  let raw := (v.data.toUnsigned (v.attributes.isUnsigned v.data.type)).result v.data
  let change ← scaling.applyValue (.grid raw)
  return v.unpacked (change.result raw)

/-- The variable with not-a-number in place of the samples that the policy calls missing, unpacked
first if it is packed. The variable itself comes back if there was nothing to do. -/
def maskWith (v : Variable) (policy : Policy) : Report (Change Variable) := do
  if v.isPacked then
    Report.note (.unpacking v.name)
    let u ← v.unpack
    return .made (u.withData ((policy.convertMissing u.data).result u.data))
  else
    match policy.convertMissing v.data with
    | .kept => return .kept
    | .made data => return .made (v.withData data)

/-- The variable with not-a-number in place of the missing samples. -/
def maskMissing (v : Variable) (flags : ModeFlags) : Report (Change Variable) := do
  v.maskWith (← v.policyFor flags)

theorem isPacked_unpacked (v : Variable) (data : Grid Value) :
    (v.unpacked data).isPacked = false := by
  simp only [isPacked, unpacked, Attributes.has_insert_self, Bool.not_true, Bool.false_and]

end Variable

end MissingSamples
