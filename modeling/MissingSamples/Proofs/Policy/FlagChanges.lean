/-
# Changes of flags have no memory

Every change of flags makes a policy anew from the inputs that the last one kept, and those are the
same at every step: numbers that are read once more are the same numbers, and candidates are kept
with the ones that a filter has left out. What remains of a run of changes is the last value to
which each flag was set.

* `Declaration.declaration_inputs` says that what a policy keeps is read back as it is, and
  `Policy.ofInputs_inputs` that it makes the same policy once more;
* `Policy.withFlags_eq` is one change, and `Policy.foldlM_withFlags` a run of them;
* `Policy.foldlM_withFlags_ofInputs` says that a run of changes ends in the policy that is made at
  once from the first inputs.
-/
import MissingSamples.Proofs.Value.Doubles

namespace MissingSamples

/-! ## What remains of changes -/

/-- What becomes of a rule. -/
def FlagChange.get (c : FlagChange) : Flag → Option Bool
  | .fillValue => c.fillValue
  | .invalidData => c.invalidData
  | .missingData => c.missingData

/-- The last value to which the changes set the flag, if one of them does. -/
def lastSet (changes : List FlagChange) (flag : Flag) : Option Bool :=
  (changes.filterMap (·.get flag)).getLast?

lemma lastSet_cons (c : FlagChange) (rest : List FlagChange) (flag : Flag) :
    lastSet (c :: rest) flag = (lastSet rest flag).or (c.get flag) := by
  rw [lastSet, List.filterMap_cons]
  cases hc : c.get flag with
  | none => rw [Option.or_none, lastSet]
  | some b =>
    rw [List.getLast?_cons, lastSet]
    cases (rest.filterMap (·.get flag)).getLast? <;> rfl

namespace ModeFlags

/-- Flags after some changes: each as it was last set, or as it was before if none sets it. -/
def settled (flags : ModeFlags) (changes : List FlagChange) : ModeFlags where
  fillValue := (lastSet changes .fillValue).getD flags.fillValue
  invalidData := (lastSet changes .invalidData).getD flags.invalidData
  missingData := (lastSet changes .missingData).getD flags.missingData

lemma eq_of_get {f g : ModeFlags} (h : ∀ flag, f.get flag = g.get flag) : f = g := by
  obtain ⟨fill, invalid, missing⟩ := f
  obtain ⟨fill', invalid', missing'⟩ := g
  obtain rfl : fill = fill' := h .fillValue
  obtain rfl : invalid = invalid' := h .invalidData
  obtain rfl : missing = missing' := h .missingData
  rfl

lemma get_change (flags : ModeFlags) (c : FlagChange) (flag : Flag) :
    (flags.change c).get flag = (c.get flag).getD (flags.get flag) := by
  cases flag <;> rfl

lemma get_settled (flags : ModeFlags) (changes : List FlagChange) (flag : Flag) :
    (flags.settled changes).get flag = (lastSet changes flag).getD (flags.get flag) := by
  cases flag <;> rfl

lemma settled_nil (flags : ModeFlags) : flags.settled [] = flags := rfl

/-- Changes settle as the first of them followed by the others. -/
lemma settled_cons (flags : ModeFlags) (c : FlagChange) (rest : List FlagChange) :
    flags.settled (c :: rest) = (flags.change c).settled rest := by
  refine eq_of_get fun flag => ?_
  rw [get_settled, get_settled, get_change, lastSet_cons]
  -- a later setting hides the one of `c`
  cases lastSet rest flag with
  | none => rw [Option.none_or, Option.getD_none]
  | some b => rfl

end ModeFlags

/-! ## Policies made anew -/

/-- Reading the inputs that a declaration keeps gives the declaration. -/
theorem Declaration.declaration_inputs (d : Declaration) : d.inputs.declaration = .ok d := by
  have hcandidates : candidateNumbers d.inputs.candidates = .ok d.candidates := by
    rw [inputs]
    cases d.candidates with
    | none => rfl
    | some vs => exact candidateNumbers_tuple_floats vs
  rw [PolicyInputs.declaration, hcandidates]
  rfl

namespace Policy

lemma ofInputs_inputs (flags : ModeFlags) (d : Declaration) :
    ofInputs flags d.inputs = .ok (make flags d) := by
  rw [ofInputs_eq_map, Declaration.declaration_inputs]
  rfl

/-- A change of flags makes the policy of the same declaration. -/
lemma withFlags_eq (p : Policy) (c : FlagChange) :
    p.withFlags c = .ok (make (p.flags.change c) p.declared) :=
  ofInputs_inputs (p.flags.change c) p.declared

/-- So does a run of changes, under the flags that it settles. -/
lemma foldlM_withFlags (p : Policy) (changes : List FlagChange) :
    changes.foldlM withFlags p = .ok (make (p.flags.settled changes) p.declared) := by
  -- on the run; a step keeps the declaration, so any policy may start the rest
  induction changes generalizing p with
  | nil =>
    -- a policy is what its flags and its declaration make
    rw [List.foldlM_nil, ModeFlags.settled_nil, ← p.eq_make]
    rfl
  | cons c rest ih =>
    rw [List.foldlM_cons, withFlags_eq, ModeFlags.settled_cons]
    exact ih (make (p.flags.change c) p.declared)

/-- A policy that is made of inputs and then changed any number of times is the policy that is made
at once of the same inputs, with every flag as it was last set, or as it was at first if no change
sets it. -/
theorem foldlM_withFlags_ofInputs (flags : ModeFlags) (i : PolicyInputs)
    (changes : List FlagChange) :
    (ofInputs flags i >>= fun p => changes.foldlM withFlags p)
      = ofInputs (flags.settled changes) i := by
  simp only [foldlM_withFlags]
  rw [ofInputs_eq_map, ofInputs_eq_map]
  cases i.declaration with
  | error f => rfl
  | ok d => rfl

end Policy

end MissingSamples
