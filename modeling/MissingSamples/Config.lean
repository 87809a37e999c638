/-
# Configuration

Which rules are on comes from settings, in layers: what is set by hand overrides the environment,
the environment overrides the configuration file, and a flag that no layer sets is on. Names of
settings count without regard to case. A setting that wins has to be a truth value; one that loses
is not looked at.

* `Config.load` reads all layers, and `Config.ofSettings` makes a configuration of settings;
* `Config.ofSettings_eq_ok_iff` says which settings make one.
-/
import MissingSamples.Attributes
import MissingSamples.Report
import MissingSamples.Text.Blank
import MissingSamples.Text.Uppercase
import MissingSamples.Value.Truth
import MissingSamples.Yaml.Document

namespace MissingSamples

/-! ## Truth values in settings -/

/-- The words that a setting may have for a truth value, in whatever case. -/
def settingWords : List (String × Bool) :=
  [("0", false), ("off", false), ("f", false), ("false", false), ("n", false), ("no", false),
   ("1", true), ("on", true), ("t", true), ("true", true), ("y", true), ("yes", true)]

namespace Value

/-- The truth value that a word is. -/
def wordAsFlag (word : String) : Except FlagProblem Bool :=
  match settingWords.lookup (lowerAscii word) with
  | some b => .ok b
  | none => .error .unreadable

/-- The truth value that an integer is: zero or one. One of eight octets that is neither is
unreadable, and a longer one is of no use. -/
def intAsFlag (i : Int) : Except FlagProblem Bool :=
  if i = 0 then .ok false
  else if i = 1 then .ok true
  else if IntType.int64.least ≤ i ∧ i ≤ IntType.int64.greatest then .error .unreadable
  else .error .notTruth

/-- The truth value that a number is: that of the integer it equals, if it is whole and lies between
those that eight octets do not hold. -/
def numberAsFlag (v : Value) : Except FlagProblem Bool :=
  match v.number with
  | .ok (.finite negative units _) =>
    let i : Int := (if negative then -1 else 1) * (units / Double.unitsPerOne : Nat)
    if units % Double.unitsPerOne = 0 ∧ i ≠ IntType.int64.least then intAsFlag i else .error .notTruth
  | _ => .error .notTruth

/-- The truth value that a setting is. -/
def asFlag (v : Value) : Except FlagProblem Bool :=
  match v with
  | bool b => .ok b
  | int i | scalar (.int _ i) | grid ⟨[], .ints _ [i]⟩ => intAsFlag i
  | text s | scalar (.text s) => wordAsFlag s
  | bytes xs | scalar (.bytes xs) => wordAsFlag (Utf8.decode xs)
  | float _ | scalar _ | grid _ => v.numberAsFlag
  | _ => .error .notTruth

/-- The words that the text of a setting may have for a truth value, in whatever case. -/
def plainWords : List (String × Bool) :=
  [("true", true), ("yes", true), ("on", true), ("1", true),
   ("false", false), ("no", false), ("off", false), ("0", false)]

/-- The text of a setting without the blanks around it, or the truth value that it stands for. -/
def coerceText (s : String) : Value :=
  match plainWords.lookup (lowerAscii (strip s)) with
  | some b => bool b
  | none => text (strip s)

/-- A setting as it counts: texts may stand for truth values, and anything else is itself. -/
def coerced : Value → Value
  | text s | scalar (.text s) => coerceText s
  | v => v

end Value

/-! ## Configurations -/

/-- Names and values of settings; of several under one name the last counts. -/
abbrev Settings : Type := List (String × Value)

/-- Which rules are on, and the settings that are no flags. -/
structure Config where
  /-- Which rules are on. -/
  flags : ModeFlags := {}
  /-- The settings that are no flags. -/
  extra : Settings := []

namespace Config

/-- The name under which settings set a flag: the name for settings, or that of the field if only
it is used. -/
def usedName (settings : Settings) (flag : Flag) : String :=
  if (Entries.last? settings flag.key).isSome then flag.key else flag.field

/-- What settings make of a flag. A flag that is not set is on. -/
def flagOf (settings : Settings) (flag : Flag) : Except FlagProblem Bool :=
  match Entries.last? settings (usedName settings flag) with
  | some v => v.asFlag
  | none => .ok true

/-- What is wrong with the setting of a flag. -/
def problemOf (settings : Settings) (flag : Flag) : Option (Flag × FlagProblem) :=
  match flagOf settings flag with
  | .error p => some (flag, p)
  | .ok _ => none

/-- The flags whose settings are no truth values, in order. -/
def problems (settings : Settings) : List (Flag × FlagProblem) :=
  Flag.all.filterMap (problemOf settings)

/-- The flag is on by the settings, if they are truth values. -/
def isOn (settings : Settings) (flag : Flag) : Bool :=
  match flagOf settings flag with
  | .ok b => b
  | .error _ => true

/-- The settings that set no flag. -/
def extraOf (settings : Settings) : Settings :=
  (Entries.ofAssignments settings).filter fun e =>
    !Flag.all.any fun flag => e.1 == usedName settings flag

/-- The configuration that settings make. -/
def ofSettings (settings : Settings) : Except (List (Flag × FlagProblem)) Config :=
  if problems settings = [] then
    .ok
      { flags := ⟨isOn settings .fillValue, isOn settings .invalidData, isOn settings .missingData⟩
        extra := extraOf settings }
  else .error (problems settings)

/-- The configuration that named settings make, which are refused if they make none. -/
def make (settings : Settings) : Except Failure Config :=
  (ofSettings settings).mapError fun _ => .settingsRejected

/-- A configuration cannot be changed. -/
def assign (_ : Config) (_ : String) (_ : Value) : Except Failure Config :=
  .error .settingsRejected

theorem ofSettings_eq_ok_iff {settings : Settings} :
    (∃ c, ofSettings settings = .ok c)
      ↔ ∀ flag, ∃ b, flagOf settings flag = .ok b := by
  have hall : problems settings = [] ↔ ∀ flag, ∃ b, flagOf settings flag = .ok b := by
    rw [problems, List.filterMap_eq_nil_iff]
    refine ⟨fun h flag => ?_, fun h flag _ => ?_⟩
    · have := h flag (by cases flag <;> simp [Flag.all])
      unfold problemOf at this
      split at this
      · simp at this
      · exact ⟨_, ‹_›⟩
    · obtain ⟨b, hb⟩ := h flag
      simp [problemOf, hb]
  rw [← hall, ofSettings]
  split <;> simp_all

/-! ## Layers -/

/-- A configuration file: where it should be, and what it holds if it is there. -/
structure File where
  /-- The path. -/
  path : String
  /-- The text of the file; none if there is no file at the path. -/
  text : Option String

/-- What the names of our environment variables start with. -/
def environmentMark : String := "CFMISSING_"

/-- The name of a setting: letters are capitals. -/
def settingName (name : String) : String := upper name

/-- The settings that the value of a document makes. A value that counts as false makes none. -/
def ofDocument (v : Value) : Except Failure Settings := do
  if ← v.truth then
    match v with
    | .mapping entries => return entries.map fun e => (settingName e.1.shown, e.2)
    | v => throw (.fileNotMapping v.kind)
  else return []

/-- The settings of a file. -/
def ofFile (file : File) : Except Failure Settings :=
  match file.text with
  | none => .error (.fileNotFound file.path)
  | some text =>
    match Yaml.read text with
    | .error .malformed => .error (.fileUnparsable file.path)
    | .error (.value f) => .error f
    | .ok v => ofDocument v

/-- The name of an environment variable without our mark, if it has it. -/
def afterMark? (name : String) : Option String :=
  if environmentMark.toList.isPrefixOf name.toList then
    some (String.ofList (name.toList.drop environmentMark.length))
  else none

/-- The settings of an environment. A variable with our mark that sets no flag is noted. -/
def ofEnvironment : List (String × String) → Report Settings
  | [] => pure []
  | (name, text) :: rest =>
    match afterMark? name with
    | none => ofEnvironment rest
    | some key =>
      if Flag.all.any fun flag => flag.key == settingName key then do
        let others ← ofEnvironment rest
        return (settingName key, Value.coerceText text) :: others
      else do
        Report.note (.environmentIgnored name)
        ofEnvironment rest

/-- The configuration of a file, an environment and what is set by hand, each of which may be left
out. -/
def load (file : Option File) (environment : Option (List (String × String)))
    (overrides : Settings) : Report Config := do
  let fromFile ← match file with
    | some file => ofFile file
    | none => pure []
  let fromEnvironment ← match environment with
    | some environment => ofEnvironment environment
    | none => pure []
  let byHand := overrides.map fun e => (settingName e.1, e.2)
  match ofSettings (fromFile ++ fromEnvironment ++ byHand) with
  | .ok c => return c
  | .error problems => Report.fail (.flagsRejected problems)

end Config

end MissingSamples
