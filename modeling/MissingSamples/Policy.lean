/-
# Missing-data policies

A policy tells the missing samples of one variable. It is made from the mode flags, the valid
range, the fill value and the candidates for missing values, and it keeps them beside what it
derives: the range widened by the tolerance, and the candidates that no other rule covers.

A policy is never changed. `Policy.make` makes the policy of a declaration, and `Policy.eq_make`
says that every policy is made in this way.
-/
import MissingSamples.Comparison
import MissingSamples.Flags

namespace MissingSamples

/-- What a variable declares about missing samples, in unpacked units. -/
structure Declaration where
  /-- A lower bound was declared. -/
  hasValidMin : Bool := false
  /-- An upper bound was declared. -/
  hasValidMax : Bool := false
  /-- The lower bound. -/
  validMin : Double := -Double.largest
  /-- The upper bound. -/
  validMax : Double := Double.largest
  /-- A fill value was declared. -/
  hasFillValue : Bool := false
  /-- The fill value. -/
  fillValue : Double := .nan
  /-- The candidates for missing values, if there is a list of them. -/
  candidates : Option (List Double) := none
deriving DecidableEq

namespace Declaration

/-- The lower bound, widened by the tolerance. -/
def fuzzyMin (d : Declaration) : Double := d.validMin - tolerance

/-- The upper bound, widened by the tolerance. -/
def fuzzyMax (d : Declaration) : Double := d.validMax + tolerance

/-- No other rule that is on covers the candidate, and it is a number. -/
def keeps (flags : ModeFlags) (d : Declaration) (v : Double) : Bool :=
  !v.isNaN
    && !(flags.fillValue && d.hasFillValue && nearlyEqual v d.fillValue)
    && !(flags.invalidData && d.hasValidMin && v.lt d.fuzzyMin)
    && !(flags.invalidData && d.hasValidMax && d.fuzzyMax.lt v)

/-- The missing values: the candidates, less those that another rule covers if missing values count
at all. -/
def missingValues (flags : ModeFlags) (d : Declaration) : List Double :=
  match d.candidates with
  | none => []
  | some vs => if flags.missingData then vs.filter (d.keeps flags) else vs

end Declaration

/-- Tells the missing samples of one variable. -/
structure Policy where
  /-- The rules that are on. -/
  flags : ModeFlags
  /-- What the variable declares. -/
  declared : Declaration
  /-- The lower bound, widened by the tolerance. -/
  fuzzyMin : Double
  /-- The upper bound, widened by the tolerance. -/
  fuzzyMax : Double
  /-- The values that stand for missing samples. -/
  missingValues : List Double
  fuzzyMin_eq : fuzzyMin = declared.fuzzyMin
  fuzzyMax_eq : fuzzyMax = declared.fuzzyMax
  missingValues_eq : missingValues = declared.missingValues flags

/-- A change of mode flags: each is set or left alone. -/
structure FlagChange where
  /-- What becomes of the rule for the fill value. -/
  fillValue : Option Bool := none
  /-- What becomes of the rule for the valid range. -/
  invalidData : Option Bool := none
  /-- What becomes of the rule for missing values. -/
  missingData : Option Bool := none
deriving DecidableEq, Repr

/-- The flags after a change. -/
def ModeFlags.change (flags : ModeFlags) (c : FlagChange) : ModeFlags :=
  ⟨c.fillValue.getD flags.fillValue, c.invalidData.getD flags.invalidData,
    c.missingData.getD flags.missingData⟩

namespace Policy

/-- The policy of a declaration under the flags. -/
def make (flags : ModeFlags) (declared : Declaration) : Policy :=
  ⟨flags, declared, declared.fuzzyMin, declared.fuzzyMax, declared.missingValues flags,
    rfl, rfl, rfl⟩

theorem eq_make (p : Policy) : p = make p.flags p.declared := by
  obtain ⟨flags, declared, _, _, _, rfl, rfl, rfl⟩ := p
  rfl

/-- There are values that stand for missing samples. -/
def hasMissingValue (p : Policy) : Bool := !p.missingValues.isEmpty

/-- A bound was declared. -/
def hasValidData (p : Policy) : Bool := p.declared.hasValidMin || p.declared.hasValidMax

/-- Some sample of the variable could be missing, not counting those that are no number. -/
def hasMissing (p : Policy) : Bool :=
  (p.flags.invalidData && p.hasValidData)
    || (p.flags.fillValue && p.declared.hasFillValue)
    || (p.flags.missingData && p.hasMissingValue)

/-! ## One sample -/

/-- The value is no number or lies outside the widened bounds, declared or not. -/
def isInvalid (p : Policy) (v : Double) : Bool :=
  v.isNaN || p.fuzzyMax.lt v || v.lt p.fuzzyMin

/-- The value matches the declared fill value. -/
def isFillValue (p : Policy) (v : Double) : Bool :=
  p.declared.hasFillValue && nearlyEqual v p.declared.fillValue

/-- The value matches a missing value. -/
def isMissingValue (p : Policy) (v : Double) : Bool := p.missingValues.any (nearlyEqual v ·)

/-- The value is no number or a rule that is on calls it missing. -/
def isMissing (p : Policy) (v : Double) : Bool :=
  if v.isNaN then true
  else
    (p.flags.missingData && p.hasMissingValue && p.isMissingValue v)
      || (p.flags.fillValue && p.declared.hasFillValue && p.isFillValue v)
      || (p.flags.invalidData && p.hasValidData && p.isInvalid v)

/-- Not-a-number for a missing value, the value itself for any other. -/
def convert (p : Policy) (v : Double) : Double := if p.isMissing v then .nan else v

end Policy

end MissingSamples
