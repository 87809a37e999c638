/-
# Datasets

A dataset holds named variables in order. Some of them are coordinates, which say where samples
lie; the others are its data variables. `Dataset.maskMissing` masks chosen data variables, each by
its own policy, and leaves the rest alone.

* `Dataset.unknown_eq_nil_iff` says which choices of names are accepted.
-/
import MissingSamples.Variable

namespace MissingSamples

/-- Named variables in order. -/
structure Dataset where
  /-- The data variables. -/
  dataVariables : List (String × Variable)
  /-- The coordinates. -/
  coordinates : List (String × Variable) := []

namespace Dataset

/-- A variable of a dataset to be, with whether it is marked as a coordinate. Every variable takes
the name under which it stands. -/
structure Entry where
  /-- The name. -/
  name : String
  /-- The samples with what is known about them. -/
  content : Variable
  /-- It is marked as a coordinate. -/
  isMarked : Bool

namespace Entry

/-- The dimensions of the variable with their lengths. -/
def lengths (e : Entry) : List (String × Nat) := e.content.dims.zip e.content.data.shape

/-- The lengths that samples along a dimension have to share: the last one of a data variable, and
that of a coordinate of its own name only. -/
def aligned (e : Entry) : List (String × Nat) :=
  if e.isMarked then if e.content.dims = [e.name] then e.lengths else []
  else Entries.ofAssignments e.lengths

/-- The variable under its name. -/
def named (e : Entry) : String × Variable := (e.name, { e.content with name := some e.name })

end Entry

/-- Some name has two lengths. -/
def disagree (lengths : List (String × Nat)) : Bool :=
  lengths.any fun (dim, n) => lengths.any fun (other, m) => dim == other && n != m

/-- The dataset of variables in order. Coordinates are those marked, and those with the name of a
dimension. Data variables have to agree about the lengths of dimensions first, and all variables
then; no dimension may have the name of a variable without dimensions. -/
def ofEntries (entries : List Entry) : Except Failure Dataset :=
  let lengths := entries.flatMap Entry.lengths
  let dataLengths := (entries.filter fun e => !e.isMarked).flatMap Entry.aligned
  let used := (entries.flatMap Entry.aligned).filter fun (dim, _) =>
    dataLengths.any fun (other, _) => other == dim
  if disagree used then .error .unequalLengths
  else if disagree lengths || entries.any fun e =>
      e.content.dims.isEmpty && lengths.any fun (dim, _) => dim == e.name then
    .error .dimensionMisused
  else
    let (coordinates, others) := entries.partition fun e =>
      e.isMarked || lengths.any fun (dim, _) => dim == e.name
    .ok ⟨others.map Entry.named, coordinates.map Entry.named⟩

/-- The variable under a name. -/
def find? (d : Dataset) (name : String) : Option Variable :=
  (d.dataVariables.lookup name).or (d.coordinates.lookup name)

/-- The names of the data variables, in order. -/
def names (d : Dataset) : List String := d.dataVariables.map (·.1)

/-- The names among the given ones that are no data variables. -/
def unknown (d : Dataset) (names : List String) : List String :=
  names.filter fun name => !d.names.contains name

/-- The variables among the named ones that masking changes, masked. -/
def maskEach (d : Dataset) (flags : ModeFlags) : List String → Report (List (String × Variable))
  | [] => pure []
  | name :: rest =>
    match d.dataVariables.lookup name with
    | none => d.maskEach flags rest
    | some v => do
      match ← v.maskMissing flags with
      | .kept => d.maskEach flags rest
      | .made masked => return (name, masked) :: (← d.maskEach flags rest)

/-- The dataset with the given variables in place of those of the same names. -/
def replace (d : Dataset) (changed : List (String × Variable)) : Dataset :=
  { d with dataVariables := d.dataVariables.map fun (name, v) => (name, (changed.lookup name).getD v) }

/-- The dataset with the named data variables masked, or all of them if no names are given. The
dataset itself comes back if there was nothing to do. -/
def maskMissing (d : Dataset) (flags : ModeFlags) (chosen : Option (List String)) :
    Report (Change Dataset) := do
  let names := chosen.getD d.names
  if d.unknown names ≠ [] then Report.fail (.unknownVariables (d.unknown names))
  else
    let changed ← d.maskEach flags names
    if changed.isEmpty then return .kept
    else
      Report.note (.masked (changed.map (·.1)).eraseDups)
      return .made (d.replace changed)

theorem unknown_eq_nil_iff {d : Dataset} {names : List String} :
    d.unknown names = [] ↔ ∀ name ∈ names, name ∈ d.names := by
  simp [unknown, List.filter_eq_nil_iff]

@[simp] theorem names_replace (d : Dataset) (changed : List (String × Variable)) :
    (d.replace changed).names = d.names := by
  simp [names, replace, Function.comp_def]

end Dataset

end MissingSamples
