/-
# Mode flags

Three rules tell missing samples: they match the fill value, they lie outside the valid range, or
they match a missing value. A flag switches each rule on or off for a whole dataset.

* `ModeFlags.get_set` and `ModeFlags.get_set_of_ne` say how setting a flag shows.
-/

namespace MissingSamples

/-- A rule that tells missing samples. -/
inductive Flag where
  /-- Samples equal to the fill value are missing. -/
  | fillValue
  /-- Samples outside the valid range are missing. -/
  | invalidData
  /-- Samples equal to a missing value are missing. -/
  | missingData
deriving DecidableEq, Repr

/-- Every flag, in the order in which they are read and reported. -/
def Flag.all : List Flag := [.fillValue, .invalidData, .missingData]

/-- The name of a flag among the fields of a configuration. -/
def Flag.field : Flag → String
  | .fillValue => "fill_value_is_missing"
  | .invalidData => "invalid_data_is_missing"
  | .missingData => "missing_data_is_missing"

/-- The name of a flag in settings. -/
def Flag.key : Flag → String
  | .fillValue => "FILL_VALUE_IS_MISSING"
  | .invalidData => "INVALID_DATA_IS_MISSING"
  | .missingData => "MISSING_DATA_IS_MISSING"

/-- Which rules are on. -/
structure ModeFlags where
  /-- Samples equal to the fill value are missing. -/
  fillValue : Bool := true
  /-- Samples outside the valid range are missing. -/
  invalidData : Bool := true
  /-- Samples equal to a missing value are missing. -/
  missingData : Bool := true
deriving DecidableEq, Repr

namespace ModeFlags

/-- The rule is on. -/
def get (flags : ModeFlags) : Flag → Bool
  | .fillValue => flags.fillValue
  | .invalidData => flags.invalidData
  | .missingData => flags.missingData

/-- The flags with one of them set. -/
def set (flags : ModeFlags) (flag : Flag) (value : Bool) : ModeFlags :=
  match flag with
  | .fillValue => { flags with fillValue := value }
  | .invalidData => { flags with invalidData := value }
  | .missingData => { flags with missingData := value }

@[simp] theorem get_set (flags : ModeFlags) (flag : Flag) (value : Bool) :
    (flags.set flag value).get flag = value := by
  cases flag <;> rfl

theorem get_set_of_ne (flags : ModeFlags) {flag other : Flag} (h : other ≠ flag) (value : Bool) :
    (flags.set flag value).get other = flags.get other := by
  cases flag <;> cases other <;> simp_all [set, get]

end ModeFlags

end MissingSamples
