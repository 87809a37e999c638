/-
# Outcomes with notes

Some steps leave notes for the log: text that spells no number, an unknown environment variable, a
variable that is unpacked on the way. A `Report` is the outcome of such a step together with its
notes, in order. Notes made before a failure stay.

* `Report.outcome_bind` says that notes have no part in what comes of the steps.
-/
import MissingSamples.Failure
import MissingSamples.Text.Quoted

namespace MissingSamples

/-- How much a note matters. -/
inductive NoteLevel where
  /-- Of interest to who looks for a fault. -/
  | debug
  /-- Of interest to everyone. -/
  | warning
deriving DecidableEq, Repr

/-- A note for the log. -/
inductive Note where
  /-- The fill value of the variable is a text that spells no number. -/
  | fillValueIgnored (text owner : String)
  /-- The missing value of the variable is a text that spells no number. -/
  | missingValueDropped (text owner : String)
  /-- An environment variable with our prefix sets no flag. -/
  | environmentIgnored (name : String)
  /-- The variable is unpacked so that it can be masked. -/
  | unpacking (name : Option String)
  /-- These variables were masked. -/
  | masked (names : List String)
deriving DecidableEq, Repr

namespace Note

/-- How much the note matters. -/
def level : Note → NoteLevel
  | .fillValueIgnored .. | .missingValueDropped .. | .environmentIgnored _ => .warning
  | .unpacking _ | .masked _ => .debug

/-- The text of the note. -/
def text : Note → String
  | .fillValueIgnored text owner =>
    "Ignoring non-numeric _FillValue " ++ Quoted.encode text ++ " on " ++ owner
  | .missingValueDropped text owner =>
    "Dropping unparsable missing_value " ++ Quoted.encode text ++ " on " ++ owner
  | .environmentIgnored name => "Ignoring unknown environment variable " ++ name
  | .unpacking name => "Unpacking " ++ name.getD "None" ++ " before masking missing data"
  | .masked names =>
    "Masked missing data in " ++ toString names.length ++ " variable(s): "
      ++ ", ".intercalate names

end Note

/-- The outcome of a step and the notes that it left. -/
structure Report (α : Type) where
  /-- What came of the step. -/
  outcome : Except Failure α
  /-- What it noted, in order. -/
  notes : List Note := []

namespace Report

variable {α β : Type}

/-- A step with a next one succeeds when both do. -/
theorem bind_eq_ok_iff {e : Except Failure α} {next : α → Except Failure β} {b : β} :
    e >>= next = .ok b ↔ ∃ a, e = .ok a ∧ next a = .ok b := by
  cases e with
  | error f =>
    constructor
    · intro h
      cases h
    · intro ⟨_, h, _⟩
      cases h
  | ok a =>
    constructor
    · intro h
      exact ⟨a, rfl, h⟩
    · intro ⟨_, h, hb⟩
      cases h
      exact hb

theorem exists_eq_ok {e : Except Failure α} (h : e.isOk = true) : ∃ a, e = .ok a := by
  cases e with
  | error f => cases h
  | ok a => exact ⟨a, rfl⟩

/-- A step that fails. -/
def fail (f : Failure) : Report α := ⟨.error f, []⟩

/-- A step that does nothing but leave a note. -/
def note (n : Note) : Report Unit := ⟨.ok (), [n]⟩

/-- One step and then the next, unless the first fails. -/
def bind (r : Report α) (next : α → Report β) : Report β :=
  match r.outcome with
  | .error f => ⟨.error f, r.notes⟩
  | .ok a => ⟨(next a).outcome, r.notes ++ (next a).notes⟩

instance : Monad Report where
  pure a := ⟨.ok a, []⟩
  bind := bind

instance : MonadLift (Except Failure) Report where
  monadLift e := ⟨e, []⟩

@[simp] theorem outcome_pure (a : α) : (pure a : Report α).outcome = .ok a := rfl

@[simp] theorem outcome_liftM (e : Except Failure α) : (liftM e : Report α).outcome = e := rfl

@[simp] theorem outcome_note (n : Note) : (note n).outcome = .ok () := rfl

theorem outcome_bind (r : Report α) (next : α → Report β) :
    (r >>= next).outcome = r.outcome >>= fun a => (next a).outcome := by
  obtain ⟨outcome, notes⟩ := r
  cases outcome <;> rfl

end Report

end MissingSamples
