/-
# Kept or made anew

Some operations promise to give back their very argument when there is nothing to do, so that
callers can skip a copy. A `Change` says which it was.
-/

namespace MissingSamples

/-- What an operation gave back: its argument, or something new. -/
inductive Change (α : Type) where
  /-- The argument itself. -/
  | kept
  /-- Something new. -/
  | made (a : α)
deriving DecidableEq, Repr

namespace Change

variable {α : Type}

/-- What was given back, for the given argument. -/
def result (argument : α) : Change α → α
  | kept => argument
  | made a => a

/-- The argument was given back. -/
def isKept : Change α → Bool
  | kept => true
  | made _ => false

@[simp] theorem result_kept (argument : α) : kept.result argument = argument := rfl

@[simp] theorem result_made (argument a : α) : (made a).result argument = a := rfl

end Change

end MissingSamples
