/-
# What policies are made from

A caller says about a variable what it has: a bound or a fill value may be anything with a number,
and the candidates for missing values may be any collection of such things, in any shape. Making a
policy takes the numbers out of them, in a fixed order, and fails with the first thing that has no
number.

A policy keeps the numbers and nothing else of its inputs. Other flags do not change it: a policy is
made anew, by the same steps, from the inputs that it keeps.

* `Policy.ofInputs` makes a policy, and `Policy.withFlags` makes it anew under changed flags;
* `Policy.ofInputs_eq_map` says that the flags have no part in reading the inputs, and
  `Policy.ofInputs_eq_ok_iff` which policies are made.
-/
import MissingSamples.Policy
import MissingSamples.Value.Gather

namespace MissingSamples

/-- What a caller says about a variable. -/
structure PolicyInputs where
  /-- A lower bound was declared. -/
  hasValidMin : Bool := false
  /-- An upper bound was declared. -/
  hasValidMax : Bool := false
  /-- The lower bound. -/
  validMin : Value := .float (-Double.largest)
  /-- The upper bound. -/
  validMax : Value := .float Double.largest
  /-- A fill value was declared. -/
  hasFillValue : Bool := false
  /-- The fill value. -/
  fillValue : Value := .float .nan
  /-- The candidates for missing values, or nothing. -/
  candidates : Value := .null

/-- The numbers of a collection of candidates, whatever its shape; nothing makes no list. -/
def candidateNumbers : Value → Except Failure (Option (List Double))
  | .null => .ok none
  | v => do
    let g ← v.asGrid
    return some (← g.elements.numbers Value.number)

/-- The inputs as numbers. -/
def PolicyInputs.declaration (i : PolicyInputs) : Except Failure Declaration := do
  let validMin ← i.validMin.number
  let validMax ← i.validMax.number
  let fillValue ← i.fillValue.number
  let candidates ← candidateNumbers i.candidates
  return {
    hasValidMin := i.hasValidMin
    hasValidMax := i.hasValidMax
    validMin, validMax
    hasFillValue := i.hasFillValue
    fillValue, candidates }

/-- A declaration as inputs: its numbers, and its candidates as a list that cannot grow. -/
def Declaration.inputs (d : Declaration) : PolicyInputs where
  hasValidMin := d.hasValidMin
  hasValidMax := d.hasValidMax
  validMin := .float d.validMin
  validMax := .float d.validMax
  hasFillValue := d.hasFillValue
  fillValue := .float d.fillValue
  candidates :=
    match d.candidates with
    | none => .null
    | some vs => .tuple (vs.map .float)

namespace Policy

/-- The policy of inputs under the flags. -/
def ofInputs (flags : ModeFlags) (i : PolicyInputs) : Except Failure Policy := do
  return make flags (← i.declaration)

/-- The policy with some flags changed, made anew from the inputs that it keeps. -/
def withFlags (p : Policy) (c : FlagChange) : Except Failure Policy :=
  ofInputs (p.flags.change c) p.declared.inputs

theorem ofInputs_eq_map (flags : ModeFlags) (i : PolicyInputs) :
    ofInputs flags i = i.declaration.map (make flags) := by
  rw [ofInputs]
  cases i.declaration <;> rfl

theorem ofInputs_eq_ok_iff {flags : ModeFlags} {i : PolicyInputs} {p : Policy} :
    ofInputs flags i = .ok p ↔ ∃ d, i.declaration = .ok d ∧ p = make flags d := by
  rw [ofInputs_eq_map]
  cases i.declaration with
  | error f => simp [Except.map]
  | ok d => simp [Except.map, eq_comm]

end Policy

end MissingSamples
