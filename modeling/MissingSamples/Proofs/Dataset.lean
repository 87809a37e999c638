/-
# Masking chosen variables of a dataset

The named data variables are masked one after the other, and those that come out new are put in
place of the old ones all at once. Each is taken from the dataset as it was, so no variable is
masked twice or gets what came of another, in whatever order the names are given and however often.

* `Dataset.outcome_maskEach` says which variables come out new;
* `Dataset.maskMissing_selected` says what becomes of the dataset.
-/
import MissingSamples.Dataset
import MissingSamples.Proofs.Entries
import MissingSamples.Proofs.Variable.Failures

namespace MissingSamples

lemma Change.eq_of_result {α : Type} {argument : α} {c c' : Change α}
    (hresult : c.result argument = c'.result argument) (hkept : c = .kept ↔ c' = .kept) :
    c = c' := by
  cases c <;> cases c' <;> simp_all

namespace Dataset

variable {d : Dataset} {flags : ModeFlags} {names : List String} {name : String} {v : Variable}

/-- The new variable that masking makes of the one under a name, if it makes one. -/
def masked? (d : Dataset) (flags : ModeFlags) (name : String) : Option Variable :=
  match d.dataVariables.lookup name with
  | none => none
  | some v =>
    match (v.maskMissing flags).outcome with
    | .ok (.made masked) => some masked
    | _ => none

/-- None of the named variables fails to be masked. -/
def CanMask (d : Dataset) (flags : ModeFlags) (names : List String) : Prop :=
  ∀ name ∈ names, ∀ v, d.dataVariables.lookup name = some v →
    ∃ change, (v.maskMissing flags).outcome = .ok change

/-- What masking makes of one variable tells the new one, and whether there is one. -/
lemma masked?_of_outcome {change : Change Variable} (hv : d.dataVariables.lookup name = some v)
    (h : (v.maskMissing flags).outcome = .ok change) :
    (d.masked? flags name).getD v = change.result v ∧
      (d.masked? flags name = none ↔ change = .kept) := by
  cases change <;> simp [masked?, hv, h]

/-! ## One variable after the other -/

lemma failsPlainly_maskEach (d : Dataset) (flags : ModeFlags) (names : List String) :
    FailsPlainly (d.maskEach flags names).outcome := by
  induction names with
  | nil => exact .ok []
  | cons name rest ih =>
    unfold maskEach
    split
    · exact ih
    · next v _ =>
      refine .outcome_bind (v.failsPlainly_maskMissing flags) fun change => ?_
      cases change with
      | kept => exact ih
      | made masked => exact .outcome_bind ih fun _ => .ok _

/-- The variables that come out new, in the order of the names. -/
theorem outcome_maskEach (h : d.CanMask flags names) :
    (d.maskEach flags names).outcome
      = .ok (names.filterMap fun n => (d.masked? flags n).map fun v => (n, v)) := by
  induction names with
  | nil => rfl
  | cons name rest ih =>
    have hrest := ih fun n hn => h n (List.mem_cons_of_mem _ hn)
    rw [List.filterMap_cons, maskEach]
    cases hv : d.dataVariables.lookup name with
    | none =>
      have hnone : d.masked? flags name = none := by rw [masked?, hv]
      rw [hnone]
      exact hrest
    | some v =>
      obtain ⟨change, hchange⟩ := h name (List.mem_cons_self ..) v hv
      rw [Report.outcome_bind, hchange]
      cases change with
      | kept =>
        have hnone : d.masked? flags name = none := by simp only [masked?, hv, hchange]
        rw [hnone]
        exact hrest
      | made masked =>
        have hsome : d.masked? flags name = some masked := by simp only [masked?, hv, hchange]
        rw [hsome]
        change (d.maskEach flags rest >>= fun new => pure ((name, masked) :: new)).outcome = _
        rw [Report.outcome_bind, hrest]
        rfl

/-! ## All at once -/

lemma exists_lookup_of_mem_names (h : name ∈ d.names) :
    ∃ v, d.dataVariables.lookup name = some v := by
  obtain ⟨e, he, hname⟩ := List.mem_map.1 h
  exact Option.isSome_iff_exists.1 (List.lookup_isSome_iff.2 ⟨e, he, beq_iff_eq.2 hname.symm⟩)

/-- The dataset with every named variable that comes out new in place of the old one. -/
def afterMasking (d : Dataset) (flags : ModeFlags) (names : List String) : Dataset :=
  d.replace (names.filterMap fun n => (d.masked? flags n).map fun v => (n, v))

lemma replace_nil (d : Dataset) : d.replace [] = d := by
  simp [replace]

lemma lookup_afterMasking (d : Dataset) (flags : ModeFlags) (names : List String) (name : String) :
    (d.afterMasking flags names).dataVariables.lookup name
      = (d.dataVariables.lookup name).map fun v =>
          (if name ∈ names then d.masked? flags name else none).getD v := by
  rw [afterMasking, replace, Entries.lookup_map, ← Entries.lookup_filterMap]

/-- The names count as a set. -/
lemma afterMasking_congr {others : List String} (h : ∀ name, name ∈ others ↔ name ∈ names) :
    d.afterMasking flags others = d.afterMasking flags names := by
  simp only [afterMasking, replace, Entries.lookup_filterMap, h]

lemma canMask_congr {others : List String} (h : ∀ name, name ∈ others ↔ name ∈ names) :
    d.CanMask flags others ↔ d.CanMask flags names := by
  simp only [CanMask, h]

/-- Names that are no data variables are refused before anything is masked. -/
lemma outcome_maskMissing_of_unknown {chosen : Option (List String)}
    (h : d.unknown (chosen.getD d.names) ≠ []) :
    (d.maskMissing flags chosen).outcome
      = .error (.unknownVariables (d.unknown (chosen.getD d.names))) := by
  rw [maskMissing, if_pos h]
  rfl

/-- The dataset itself comes back if no variable comes out new. -/
lemma outcome_maskMissing_of_known {chosen : Option (List String)}
    (h : d.unknown (chosen.getD d.names) = []) :
    (d.maskMissing flags chosen).outcome
      = (d.maskEach flags (chosen.getD d.names)).outcome.map fun changed =>
          if changed.isEmpty then .kept else .made (d.replace changed) := by
  rw [maskMissing, if_neg fun hne => hne h, Report.outcome_bind]
  cases (d.maskEach flags (chosen.getD d.names)).outcome with
  | error f => rfl
  | ok changed => cases changed <;> rfl

/-- What comes of masking variables of which none fails to be masked. -/
lemma outcome_maskMissing {chosen : Option (List String)}
    (hknown : d.unknown (chosen.getD d.names) = []) (h : d.CanMask flags (chosen.getD d.names)) :
    ∃ change, (d.maskMissing flags chosen).outcome = .ok change ∧
      change.result d = d.afterMasking flags (chosen.getD d.names) ∧
      (change = .kept ↔ ∀ name ∈ chosen.getD d.names, d.masked? flags name = none) := by
  rw [outcome_maskMissing_of_known hknown, outcome_maskEach h]
  have hempty : (List.filterMap (fun n => (d.masked? flags n).map fun v => (n, v))
      (chosen.getD d.names)) = [] ↔ ∀ name ∈ chosen.getD d.names, d.masked? flags name = none := by
    simp only [List.filterMap_eq_nil_iff, Option.map_eq_none_iff]
  rw [afterMasking, ← hempty]
  cases List.filterMap (fun n => (d.masked? flags n).map fun v => (n, v)) (chosen.getD d.names) with
  | nil => exact ⟨.kept, rfl, (replace_nil d).symm, by simp⟩
  | cons e rest => exact ⟨.made (d.replace (e :: rest)), rfl, rfl, by simp⟩

/-- Known names are never refused: only the masking of a variable fails then, and that in no way of
the library's own. -/
lemma failsPlainly_maskMissing {chosen : Option (List String)}
    (hknown : d.unknown (chosen.getD d.names) = []) :
    FailsPlainly (d.maskMissing flags chosen).outcome := by
  have hplain := failsPlainly_maskEach d flags (chosen.getD d.names)
  rw [outcome_maskMissing_of_known hknown]
  generalize (d.maskEach flags (chosen.getD d.names)).outcome = outcome at hplain
  cases hplain with
  | ok changed => exact .ok _
  | error plain => exact .error plain

/-- Masking is refused exactly if a name is no data variable. -/
lemma refused_iff {chosen : Option (List String)} :
    (∃ f, (d.maskMissing flags chosen).outcome = .error f ∧
        f.family? = some .invalidArgument) ↔ d.unknown (chosen.getD d.names) ≠ [] := by
  constructor
  · rintro ⟨f, hf, hfamily⟩ hknown
    have hplain : FailsPlainly (d.maskMissing flags chosen).outcome :=
      failsPlainly_maskMissing hknown
    rw [hf] at hplain
    cases hplain with
    | error plain =>
      rw [plain] at hfamily
      cases hfamily
  · intro hunknown
    exact ⟨_, outcome_maskMissing_of_unknown hunknown, rfl⟩

/-- Every named variable is what masking makes of it, and every other is what it was. -/
lemma lookup_afterMasking_of_canMask (h : d.CanMask flags names)
    (hv : d.dataVariables.lookup name = some v) :
    if name ∈ names then
      ∃ c, (v.maskMissing flags).outcome = .ok c ∧
        (d.afterMasking flags names).dataVariables.lookup name = some (c.result v)
    else (d.afterMasking flags names).dataVariables.lookup name = some v := by
  rw [lookup_afterMasking, hv, Option.map_some]
  split
  · next hmem =>
    obtain ⟨c, hc⟩ := h name hmem v hv
    exact ⟨c, hc, by rw [(masked?_of_outcome hv hc).1]⟩
  · rfl

/-- No variable comes out new exactly if masking keeps each of them. -/
lemma forall_masked?_eq_none_iff (hknown : ∀ name ∈ names, name ∈ d.names)
    (h : d.CanMask flags names) :
    (∀ name ∈ names, d.masked? flags name = none) ↔
      ∀ name ∈ names, ∀ v, d.dataVariables.lookup name = some v →
        (v.maskMissing flags).outcome = .ok .kept := by
  constructor
  · intro hnone name hmem v hv
    obtain ⟨c, hc⟩ := h name hmem v hv
    rw [hc, (masked?_of_outcome hv hc).2.1 (hnone name hmem)]
  · intro hkept name hmem
    obtain ⟨v, hv⟩ := exists_lookup_of_mem_names (hknown name hmem)
    exact (masked?_of_outcome hv (hkept name hmem v hv)).2.2 rfl

/-- Names that are the same as a set give the same outcome. -/
lemma outcome_maskMissing_congr {chosen other : Option (List String)}
    (hknown : ∀ name ∈ chosen.getD d.names, name ∈ d.names)
    (h : d.CanMask flags (chosen.getD d.names))
    (hother : ∀ name, name ∈ other.getD d.names ↔ name ∈ chosen.getD d.names) :
    (d.maskMissing flags other).outcome = (d.maskMissing flags chosen).outcome := by
  have hknown' : ∀ name ∈ other.getD d.names, name ∈ d.names :=
    fun name hmem => hknown name ((hother name).1 hmem)
  obtain ⟨change, hchange, hresult, hkept⟩ :=
    outcome_maskMissing (unknown_eq_nil_iff.2 hknown) h
  obtain ⟨change', hchange', hresult', hkept'⟩ :=
    outcome_maskMissing (unknown_eq_nil_iff.2 hknown') ((canMask_congr hother).2 h)
  have hsame : change'.result d = change.result d := by
    rw [hresult', hresult, afterMasking_congr hother]
  have hboth : change' = .kept ↔ change = .kept := by
    rw [hkept', hkept]
    simp only [hother]
  rw [hchange', hchange, Change.eq_of_result hsame hboth]

/-- Masking masks the selected data variables, each by itself, and nothing else.

It is refused exactly if a name is no data variable, and then lists those names in the order given.
Otherwise, if no selected variable fails to be masked, each of them becomes what masking makes of it
alone, all others stay, and the dataset itself comes back exactly if every selected variable does.
Any names that are the same as a set give the same outcome. -/
theorem maskMissing_selected (d : Dataset) (flags : ModeFlags) (chosen : Option (List String)) :
    let names := chosen.getD d.names
    let unknown := names.filter fun name => name ∉ d.names
    ((∃ f, (d.maskMissing flags chosen).outcome = .error f ∧
        f.family? = some .invalidArgument) ↔ ∃ name ∈ names, name ∉ d.names) ∧
      ((∃ name ∈ names, name ∉ d.names) →
        (d.maskMissing flags chosen).outcome = .error (.unknownVariables unknown) ∧
        (Failure.unknownVariables unknown).message?
          = some ("Unknown data variables: " ++ ", ".intercalate unknown)) ∧
      ((∀ name ∈ names, name ∈ d.names) → d.CanMask flags names →
        ∃ change, (d.maskMissing flags chosen).outcome = .ok change ∧
          (∀ name v, d.dataVariables.lookup name = some v →
            if name ∈ names then
              ∃ c, (v.maskMissing flags).outcome = .ok c ∧
                (change.result d).dataVariables.lookup name = some (c.result v)
            else (change.result d).dataVariables.lookup name = some v) ∧
          (change.result d).names = d.names ∧ (change.result d).coordinates = d.coordinates ∧
          (change = .kept ↔ ∀ name ∈ names, ∀ v, d.dataVariables.lookup name = some v →
            (v.maskMissing flags).outcome = .ok .kept) ∧
          ∀ other : Option (List String), (∀ name, name ∈ other.getD d.names ↔ name ∈ names) →
            (d.maskMissing flags other).outcome = .ok change) := by
  intro names unknown
  have hfilter : d.unknown names = unknown := by simp [Dataset.unknown, unknown]
  have hunknown : d.unknown names ≠ [] ↔ ∃ name ∈ names, name ∉ d.names := by
    simp [unknown_eq_nil_iff]
  refine ⟨refused_iff.trans hunknown, fun h => ⟨?_, rfl⟩, fun hknown hmask => ?_⟩
  · rw [← hfilter]
    exact outcome_maskMissing_of_unknown (hunknown.2 h)
  · obtain ⟨change, hchange, hresult, hkept⟩ :=
      outcome_maskMissing (unknown_eq_nil_iff.2 hknown) hmask
    refine ⟨change, hchange, fun name v hv => ?_, ?_, ?_,
      hkept.trans (forall_masked?_eq_none_iff hknown hmask), fun other hother => ?_⟩
    · rw [hresult]
      exact lookup_afterMasking_of_canMask hmask hv
    · rw [hresult, afterMasking, names_replace]
    · rw [hresult]
      rfl
    · rw [outcome_maskMissing_congr hknown hmask hother, hchange]

/-- Doubles of which one is the declared fill value. -/
def filledDepth : Variable where
  name := some "depth"
  dims := ["x"]
  data := ⟨[2], .floats .float64 [1, -999]⟩
  attributes := ⟨[("_FillValue", .float (-999))]⟩
  encoding := {}

/-- The same doubles, with nothing declared about them. -/
def plainDepth : Variable := { filledDepth with attributes := {} }

/-- A dataset of the two. -/
def twoDepths : Dataset := ⟨[("filled", filledDepth), ("plain", plainDepth)], []⟩

/-- Asked for both in the reverse order, and for one of them twice, masking changes the one with a
fill value alone, and does what it does to the whole dataset. -/
theorem maskMissing_selected_twoDepths :
    ∃ change filled, (twoDepths.maskMissing {} (some ["plain", "filled", "plain"])).outcome
        = .ok change ∧
      (change.result twoDepths).dataVariables.lookup "filled" = some filled ∧
      filled.data.elements.numbers? = some [1, .nan] ∧
      (change.result twoDepths).dataVariables.lookup "plain" = some plainDepth ∧
      (twoDepths.maskMissing {} none).outcome = .ok change := by
  have hfilled : (filledDepth.maskMissing {}).outcome.toOption.map
      (fun c => (c.result filledDepth).data.elements.numbers?) = some (some [1, .nan]) := by
    decide +kernel
  have hplain : (plainDepth.maskMissing {}).outcome = .ok .kept := rfl
  obtain ⟨c, hc⟩ := Report.exists_eq_ok
    (show (filledDepth.maskMissing {}).outcome.isOk = true by decide +kernel)
  have hmask : twoDepths.CanMask {} ["plain", "filled", "plain"] := by
    intro name hmem v hv
    simp only [List.mem_cons, List.not_mem_nil, or_false] at hmem
    rcases hmem with rfl | rfl | rfl
    · obtain rfl : plainDepth = v := Option.some.inj hv
      exact ⟨_, hplain⟩
    · obtain rfl : filledDepth = v := Option.some.inj hv
      exact ⟨c, hc⟩
    · obtain rfl : plainDepth = v := Option.some.inj hv
      exact ⟨_, hplain⟩
  obtain ⟨change, hchange, heach, -, -, -, hother⟩ :=
    (maskMissing_selected twoDepths {} (some ["plain", "filled", "plain"])).2.2 (by decide) hmask
  obtain ⟨c₁, hc₁, hlookup⟩ := heach "filled" filledDepth rfl
  obtain ⟨c₂, hc₂, hkept⟩ := heach "plain" plainDepth rfl
  obtain rfl : c = c₁ := Except.ok.inj (hc.symm.trans hc₁)
  obtain rfl : Change.kept = c₂ := Except.ok.inj (hplain.symm.trans hc₂)
  rw [hc] at hfilled
  refine ⟨change, c.result filledDepth, hchange, hlookup, Option.some.inj hfilled, hkept,
    hother none fun name => ?_⟩
  simp only [Option.getD_none, Option.getD_some, names, twoDepths, List.map_cons, List.map_nil,
    List.mem_cons, List.not_mem_nil, or_false]
  constructor
  · rintro (h | h)
    · exact .inr (.inl h)
    · exact .inl h
  · rintro (h | h | h)
    · exact .inr h
    · exact .inl h
    · exact .inr h

end Dataset

end MissingSamples
