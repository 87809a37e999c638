/-
# Failures

Everything that can go wrong, by its cause. Some causes are the library's own and belong to a
family of failures; they carry a message. The others come from reading numbers, texts and arrays
and have no message of their own.
-/
import MissingSamples.ElementType
import MissingSamples.Flags

namespace MissingSamples

/-- The families of the library's own failures. -/
inductive FailureFamily where
  /-- Any failure of the library's own. -/
  | general
  /-- A configuration cannot be found, read or accepted. -/
  | configuration
  /-- An argument or the data break the calling contract. -/
  | validation
  /-- An argument at the boundary of the library breaks the calling contract. -/
  | invalidArgument
  /-- The attributes of a variable cannot be interpreted at all. -/
  | attributeParse
deriving DecidableEq, Repr

namespace FailureFamily

/-- Every family, the wider before the narrower. -/
def all : List FailureFamily :=
  [.general, .configuration, .validation, .invalidArgument, .attributeParse]

/-- The family that a family is part of. -/
def parent : FailureFamily → Option FailureFamily
  | .general => none
  | .configuration | .validation | .attributeParse => some .general
  | .invalidArgument => some .validation

/-- The first family is the second or a part of it. -/
def within (f g : FailureFamily) : Bool :=
  f == g || match f.parent with
    | none => false
    | some p => p == g || p.parent == some g

/-- Failures of the family are failures of a value. -/
def isValueFailure : FailureFamily → Bool
  | .invalidArgument => true
  | _ => false

end FailureFamily

/-- Why a setting is no truth value. -/
inductive FlagProblem where
  /-- It is of a kind that cannot be one. -/
  | notTruth
  /-- It is a text or an integer that does not say which one. -/
  | unreadable
deriving DecidableEq, Repr

/-- What went wrong. -/
inductive Failure where
  /-- A text spells no number. -/
  | badNumeral
  /-- A value is no number and spells none. -/
  | notNumber
  /-- An integer lies beyond the doubles. -/
  | numberTooLarge
  /-- An element that should be a number is a sequence of values. -/
  | sequenceElement
  /-- Octets that should be text are not all ASCII. -/
  | notAscii
  /-- Lists that should make an array differ in shape, or lie too deep. -/
  | ragged
  /-- An array without elements was asked for one. -/
  | noElement
  /-- An array with several elements was asked for its truth. -/
  | ambiguousTruth
  /-- A value names no element type. -/
  | unknownElementType
  /-- A text or a list that should name several element types is malformed. -/
  | malformedTypes
  /-- How often an element type is repeated cannot be read. -/
  | malformedRepeat
  /-- A variable counts time in steps of several units. -/
  | severalUnits
  /-- A variable counts time without a unit. -/
  | noUnit
  /-- A variable has a point in time, or a span, for which it has no count. -/
  | timeOutOfRange (isPoint : Bool)
  /-- A variable has more or fewer names of dimensions than dimensions. -/
  | dimensionNames
  /-- Variables of a dataset disagree about the length of a dimension. -/
  | unequalLengths
  /-- The dimensions of a dataset do not fit all of its variables. -/
  | dimensionMisused
  /-- Something that is no mapping was asked for an attribute. -/
  | noAttributes
  /-- The attributes of a variable are not a mapping but of this kind. -/
  | attributesNotMapping (kind : String)
  /-- The element type of a variable cannot be read; it is shown so. -/
  | variableTypeUnknown (shown : String)
  /-- The destination is no array. -/
  | outNotArray
  /-- The destination has another shape than the values. -/
  | outShape (given expected : List Nat)
  /-- The destination cannot hold not-a-number. -/
  | outNotFloating (type : ElementType)
  /-- These are not data variables. -/
  | unknownVariables (names : List String)
  /-- There is no configuration file at the path. -/
  | fileNotFound (path : String)
  /-- The configuration file at the path cannot be parsed. -/
  | fileUnparsable (path : String)
  /-- The configuration file holds not a mapping but a value of this kind. -/
  | fileNotMapping (kind : String)
  /-- Settings of these flags are no truth values. -/
  | flagsRejected (problems : List (Flag × FlagProblem))
  /-- The settings of a configuration are refused, or a change to one. -/
  | settingsRejected
  /-- Collections of a document lie too deep in each other. -/
  | nestedTooDeep
  /-- A date that the calendar does not have. -/
  | noSuchDate
  /-- A number that no character has. -/
  | noSuchCharacter
  /-- A word marked as a truth value is none. -/
  | unknownTruthWord
  /-- A text marked as a point in time is none. -/
  | badTimestamp
  /-- A mapping is marked as a point in time. -/
  | timestampMapping
  /-- A field of a policy cannot be assigned. -/
  | frozenField (field : String)
  /-- A condition that was required does not hold. -/
  | required (family : FailureFamily) (message : String)
deriving DecidableEq, Repr

namespace Failure

/-- A shape in parentheses; one of a single length keeps a comma. -/
def shapeText : List Nat → String
  | [n] => "(" ++ toString n ++ ",)"
  | shape => "(" ++ ", ".intercalate (shape.map toString) ++ ")"

/-- What is said about a setting that is no truth value. -/
def problemText : FlagProblem → String
  | .notTruth => "Input should be a valid boolean"
  | .unreadable => "Input should be a valid boolean, unable to interpret input"

/-- The family of a failure of the library's own. -/
def family? : Failure → Option FailureFamily
  | .attributesNotMapping _ | .variableTypeUnknown _ => some .attributeParse
  | .outNotArray | .outShape .. | .outNotFloating _ | .unknownVariables _ => some .invalidArgument
  | .fileNotFound _ | .fileUnparsable _ | .fileNotMapping _ | .flagsRejected _ =>
    some .configuration
  | .required family _ => some family
  | _ => none

/-- The message of a failure that has one. -/
def message? : Failure → Option String
  | .attributesNotMapping kind => some ("Variable attributes must be a mapping, got " ++ kind)
  | .variableTypeUnknown shown => some ("Cannot interpret variable dtype " ++ shown)
  | .outNotArray => some "out must be a numpy array"
  | .outShape given expected =>
    some ("out has shape " ++ shapeText given ++ ", expected " ++ shapeText expected)
  | .outNotFloating type =>
    some ("out must have a floating dtype to hold NaN, got " ++ type.name)
  | .unknownVariables names => some ("Unknown data variables: " ++ ", ".intercalate names)
  | .fileNotFound path => some ("Configuration file not found: " ++ path)
  | .fileUnparsable path => some ("Failed to parse configuration " ++ path)
  | .fileNotMapping kind => some ("Configuration file must contain a mapping, got " ++ kind)
  | .flagsRejected problems =>
    some ("\n".intercalate ("Invalid missing-data configuration:"
      :: problems.map fun p => "  " ++ p.1.key ++ ": " ++ problemText p.2))
  | .frozenField field => some ("cannot assign to field '" ++ field ++ "'")
  | .required _ message => some message
  | _ => none

end Failure

end MissingSamples
