/-
# Conversions that write

A caller may bring the destination of a conversion, and may bring the values themselves as their
own destination. Then it matters when the destination is written: what is written stays written,
even if a later step fails. So a conversion first looks for something to do, marks the missing
samples and tests the destination, and only then writes, all the samples first and not-a-number in
the marked places after them.

* `Conversion.on` runs the steps of a conversion on what a caller brings, and `Conversion.on_bind`
  says how steps follow each other;
* `Policy.convertOn` is the conversion by a policy.
-/
import MissingSamples.Policy.Bulk

namespace MissingSamples

/-- What a caller brings to a conversion. Nothing in the place of the destination is none. -/
inductive Buffers where
  /-- The values, and a destination apart from them. -/
  | apart (values destination : Value)
  /-- The values, which are their own destination. -/
  | shared (values : Value)

namespace Buffers

/-- What the values hold. -/
def values : Buffers → Value
  | apart values _ => values
  | shared values => values

/-- What the destination holds, if there is one. -/
def destination? : Buffers → Option Value
  | apart _ .null => none
  | apart _ destination => some destination
  | shared .null => none
  | shared values => some values

/-- The buffers once the destination holds the grid. -/
def write (b : Buffers) (g : Grid Value) : Buffers :=
  match b with
  | apart values _ => apart values (.grid g)
  | shared _ => shared (.grid g)

@[simp] theorem destination?_write (b : Buffers) (g : Grid Value) :
    (b.write g).destination? = some (.grid g) := by
  cases b <;> rfl

@[simp] theorem write_write (b : Buffers) (g h : Grid Value) :
    (b.write g).write h = b.write h := by
  cases b <;> rfl

end Buffers

/-- Steps of a conversion. What they write stays written if a later step fails. -/
abbrev Conversion := ExceptT Failure (StateM Buffers)

namespace Conversion

variable {α β : Type}

/-- What comes of the steps on the buffers, and what the buffers hold then. -/
def on (c : Conversion α) (b : Buffers) : Except Failure α × Buffers := (c.run.run b).run

/-- A step that reads nothing from the buffers and writes nothing. -/
def ofOutcome (e : Except Failure α) : Conversion α := ExceptT.mk (pure e)

/-- All samples of the grid written into the destination, as floating numbers of the type. -/
def assign (t : FloatType) (g : Grid Value) : Conversion Unit :=
  modify fun b => b.write ⟨g.shape, .floats t (Policy.storedAs t.width g.elements)⟩

/-- Not-a-number written into the marked places of the destination. -/
def blank (marked : List Bool) : Conversion Unit :=
  modify fun b =>
    match b.destination? with
    | some (.grid ⟨shape, .floats t xs⟩) => b.write ⟨shape, .floats t (Policy.blank marked xs)⟩
    | _ => b

@[simp] theorem on_pure (a : α) (b : Buffers) : (pure a : Conversion α).on b = (.ok a, b) := rfl

@[simp] theorem on_get (b : Buffers) : (get : Conversion Buffers).on b = (.ok b, b) := rfl

@[simp] theorem on_modify (f : Buffers → Buffers) (b : Buffers) :
    (modify f : Conversion Unit).on b = (.ok (), f b) := rfl

@[simp] theorem on_ofOutcome (e : Except Failure α) (b : Buffers) :
    (ofOutcome e).on b = (e, b) := rfl

theorem on_bind (c : Conversion α) (next : α → Conversion β) (b : Buffers) :
    (c >>= next).on b =
      match c.on b with
      | (.error f, after) => (.error f, after)
      | (.ok a, after) => (next a).on after := by
  change (ExceptT.bindCont next (c.on b).1 (c.on b).2).run = _
  rcases c.on b with ⟨_ | _, _⟩ <;> rfl

@[simp] theorem on_assign (t : FloatType) (g : Grid Value) (b : Buffers) :
    (assign t g).on b
      = (.ok (), b.write ⟨g.shape, .floats t (Policy.storedAs t.width g.elements)⟩) := by
  simp only [assign, on_modify]

theorem on_blank_write (marked : List Bool) (b : Buffers) (shape : List Nat) (t : FloatType)
    (xs : List Double) :
    (blank marked).on (b.write ⟨shape, .floats t xs⟩)
      = (.ok (), b.write ⟨shape, .floats t (Policy.blank marked xs)⟩) := by
  simp only [blank, on_modify, Buffers.destination?_write, Buffers.write_write]

end Conversion

/-- What a conversion gives back. -/
inductive Returned where
  /-- The values themselves. -/
  | values
  /-- The destination. -/
  | destination
  /-- A grid of its own. -/
  | fresh (g : Grid Value)

/-- A grid that is kept is the values themselves. -/
def Returned.ofChange : Change (Grid Value) → Returned
  | .kept => .values
  | .made g => .fresh g

/-- The floating type of a destination for samples in the shape. A destination has to be a grid, in
that shape, of floating numbers, and the first of these that it is not is what is wrong with it. -/
def Value.destinationType (shape : List Nat) : Value → Except Failure FloatType
  | .grid o =>
    if o.shape = shape then
      match o.elements with
      | .floats t _ => .ok t
      | _ => .error (.outNotFloating o.type)
    else .error (.outShape o.shape shape)
  | _ => .error .outNotArray

namespace Policy

/-- The conversion of the grid into a destination that holds the value. -/
def convertOnto (p : Policy) (g : Grid Value) (destination : Value) : Conversion Returned :=
  match g.elements.numbers? with
  | none => return .values
  | some xs =>
    if p.hasMissing then do
      let marked := p.marks xs
      let t ← Conversion.ofOutcome (destination.destinationType g.shape)
      Conversion.assign t g
      Conversion.blank marked
      return .destination
    else return .values

/-- The conversion of the samples of a value, into the destination if there is one. -/
def convertBuffers (p : Policy) : Conversion Returned := do
  let b ← get
  let g ← Conversion.ofOutcome b.values.asGrid
  match b.destination? with
  | none => return .ofChange (p.convertMissing g)
  | some destination => p.convertOnto g destination

/-- What the conversion gives back or fails with, and what the buffers hold after it. -/
def convertOn (p : Policy) (b : Buffers) : Except Failure Returned × Buffers :=
  p.convertBuffers.on b

end Policy

end MissingSamples
