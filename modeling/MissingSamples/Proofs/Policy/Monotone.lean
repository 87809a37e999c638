/-
# Turning rules on

A rule that is turned on finds more samples, and it covers candidates for missing values, which are
then left out. A candidate takes the samples near it with it, and nearness is not transitive: a
sample may be near a candidate that is near the fill value, or just beyond a bound, and be neither
itself. Such a sample is missing before the rule is turned on and not after.

* `Declaration.Deserted` describes these samples;
* `Policy.isMissing_ofInputs_iff_of_le` says that no other sample is lost by turning rules on;
* `Policy.isMissing_ofInputs_may_be_lost` is a sample that is lost.
-/
import MissingSamples.Proofs.Policy.FlagChanges
import MissingSamples.Proofs.Policy.Rules

namespace MissingSamples

open Double

namespace ModeFlags

/-- Flags are at most others if every rule that is on in them is on in the others. -/
instance : LE ModeFlags := ⟨fun f g => ∀ rule, f.get rule = true → g.get rule = true⟩

lemma le_set (flags : ModeFlags) (rule : Flag) : flags ≤ flags.set rule true := by
  intro other hon
  by_cases h : other = rule
  · rw [h, get_set]
  · rw [get_set_of_ne flags h, hon]

/-- The flags under which only missing values count. -/
def missingValuesOnly : ModeFlags := ⟨false, false, true⟩

end ModeFlags

namespace Declaration

/-- The sample is lost on the way from the flags `f` to the flags `g`: it is found through missing
values alone, and all of those near it are left out for a rule that is new in `g`. -/
structure Deserted (d : Declaration) (f g : ModeFlags) (v : Double) : Prop where
  /-- The sample is a number. -/
  isNumber : v.isNaN = false
  /-- No rule that is on in the end finds the sample. -/
  notFound : ∀ rule, g.get rule = true → d.finds rule v = false
  /-- Missing values counted at first, and the sample is near one of them. -/
  near : f.missingData = true ∧ ∃ c ∈ d.missingValues f, nearlyEqual v c = true
  /-- Each of those that are near is another number, and a rule that is new covers it. -/
  leftOut : ∀ c ∈ d.missingValues f, nearlyEqual v c = true →
    v.same c = false ∧ ∃ rule, f.get rule = false ∧ g.get rule = true ∧ d.covers rule c = true

variable {d : Declaration} {f g : ModeFlags} {v : Double}

/-- Fewer rules keep more candidates. -/
lemma keeps_of_le (hle : f ≤ g) (h : d.keeps g v = true) : d.keeps f v = true := by
  obtain ⟨hnan, hcovers⟩ := keeps_eq_true_iff.1 h
  exact keeps_eq_true_iff.2 ⟨hnan, fun rule hon => hcovers rule (hle rule hon)⟩

/-- A candidate that is left out only in the end is covered by a rule that is new. -/
lemma exists_new_covers (hf : d.keeps f v = true) (hg : d.keeps g v = false) :
    ∃ rule, f.get rule = false ∧ g.get rule = true ∧ d.covers rule v = true := by
  obtain ⟨hnan, huncovered⟩ := keeps_eq_true_iff.1 hf
  obtain ⟨rule, hon, hcovers⟩ := exists_covers_of_keeps_eq_false hnan hg
  have hnew : f.get rule = false :=
    eq_false_of_ne_true fun hold => ne_true_of_eq_false (huncovered rule hold) hcovers
  exact ⟨rule, hnew, hon, hcovers⟩

end Declaration

namespace Policy

variable {d : Declaration} {f g : ModeFlags} {v : Double}

lemma not_isMissing_of_deserted (hle : f ≤ g) (h : d.Deserted f g v) :
    ¬(make g d).isMissing v = true := by
  intro hmissing
  rcases isMissing_iff.1 hmissing with hnan | ⟨rule, hon, hfinds⟩ | ⟨hon, c, hc, hnear⟩
  · exact ne_true_of_eq_false h.isNumber hnan
  · exact ne_true_of_eq_false (h.notFound rule hon) hfinds
  · -- a missing value that is left was one from the first, and was left out after all
    obtain ⟨hcandidate, hkeep⟩ := (Declaration.mem_missingValues_iff hon).1 hc
    have hc' : c ∈ d.missingValues f :=
      (Declaration.mem_missingValues_iff h.near.1).2
        ⟨hcandidate, Declaration.keeps_of_le hle hkeep⟩
    obtain ⟨-, rule, -, hnew, hcovers⟩ := h.leftOut c hc' hnear
    exact ne_true_of_eq_false ((Declaration.keeps_eq_true_iff.1 hkeep).2 rule hnew) hcovers

lemma deserted_of_not_isMissing (hle : f ≤ g) (hf : (make f d).isMissing v = true)
    (hg : ¬(make g d).isMissing v = true) : d.Deserted f g v := by
  have hnan : v.isNaN = false :=
    eq_false_of_ne_true fun hnan => hg (isMissing_of_isNaN hnan)
  have hnotFound : ∀ rule, g.get rule = true → d.finds rule v = false := fun rule hon =>
    eq_false_of_ne_true fun hfinds => hg (isMissing_of_finds hon hfinds)
  have hnear : f.missingData = true ∧ ∃ c ∈ d.missingValues f, nearlyEqual v c = true := by
    rcases isMissing_iff.1 hf with hnan' | ⟨rule, hon, hfinds⟩ | hnear
    · exact absurd hnan' (ne_true_of_eq_false hnan)
    · exact absurd hfinds (ne_true_of_eq_false (hnotFound rule (hle rule hon)))
    · exact hnear
  refine ⟨hnan, hnotFound, hnear, fun c hc hcnear => ?_⟩
  have hon : g.missingData = true := hle .missingData hnear.1
  obtain ⟨hcandidate, hkeep⟩ := (Declaration.mem_missingValues_iff hnear.1).1 hc
  have hleft : d.keeps g c = false := by
    refine eq_false_of_ne_true fun hkeep' => ?_
    have hc' : c ∈ d.missingValues g :=
      (Declaration.mem_missingValues_iff hon).2 ⟨hcandidate, hkeep'⟩
    exact hg (isMissing_of_nearlyEqual hon hc' hcnear)
  obtain ⟨rule, hold, hnew, hcovers⟩ := Declaration.exists_new_covers hkeep hleft
  refine ⟨eq_false_of_ne_true fun hsame => ?_, rule, hold, hnew, hcovers⟩
  -- the rule finds the candidate, so it would find the sample if that were the same number
  have hfinds : d.finds rule v = true := by
    rw [Declaration.finds_congr hsame]
    exact Declaration.finds_of_covers hcovers
  exact ne_true_of_eq_false (hnotFound rule hnew) hfinds

/-- Turning rules on makes a policy of the same inputs, and loses no sample but those that are left
by all missing values near them and found by no rule. -/
theorem isMissing_ofInputs_iff_of_le (hle : f ≤ g) {i : PolicyInputs} {p : Policy}
    (hp : ofInputs f i = .ok p) (h : p.isMissing v = true) :
    ∃ q, ofInputs g i = .ok q ∧ (q.isMissing v = true ↔ ¬p.declared.Deserted f g v) := by
  obtain ⟨d, hd, rfl⟩ := ofInputs_eq_ok_iff.1 hp
  refine ⟨make g d, ofInputs_eq_ok_iff.2 ⟨d, hd, rfl⟩, ?_⟩
  constructor
  · intro hg hdeserted
    exact not_isMissing_of_deserted hle hdeserted hg
  · intro hdeserted
    by_contra hg
    exact hdeserted (deserted_of_not_isMissing hle h hg)

/-- A fill value of a million, and a candidate so near it that the rule for the fill value covers it
with numbers to spare. -/
def nearMillion : Declaration where
  hasFillValue := true
  fillValue := 1000000
  candidates := some [999995]

/-- A number on the far side of the candidate is lost when the rule for the fill value is turned
on. -/
theorem isMissing_ofInputs_iff_of_le_of_million :
    ∃ p q, ofInputs .missingValuesOnly nearMillion.inputs = .ok p ∧
      ofInputs (ModeFlags.missingValuesOnly.set .fillValue true) nearMillion.inputs = .ok q ∧
      p.isMissing 999989 = true ∧
      p.declared.Deserted .missingValuesOnly (ModeFlags.missingValuesOnly.set .fillValue true)
        999989 := by
  have hp := ofInputs_inputs .missingValuesOnly nearMillion
  have hbefore : (make .missingValuesOnly nearMillion).isMissing 999989 = true := by
    decide +kernel
  have hafter : ¬(make (ModeFlags.missingValuesOnly.set .fillValue true) nearMillion).isMissing
      999989 = true := by
    decide +kernel
  obtain ⟨q, hq, hiff⟩ := isMissing_ofInputs_iff_of_le
    (ModeFlags.le_set .missingValuesOnly .fillValue) hp hbefore
  obtain rfl := Except.ok.inj (hq.symm.trans (ofInputs_inputs _ nearMillion))
  exact ⟨_, _, hp, hq, hbefore, not_not.1 (mt hiff.2 hafter)⟩

theorem isMissing_ofInputs_may_be_lost :
    ¬∀ f g : ModeFlags, f ≤ g → ∀ (i : PolicyInputs) (p q : Policy), ofInputs f i = .ok p →
      ofInputs g i = .ok q → ∀ v : Double, p.isMissing v = true → q.isMissing v = true := by
  intro h
  have hbefore : (make .missingValuesOnly nearMillion).isMissing 999989 = true := by
    decide +kernel
  have hafter : ¬(make (ModeFlags.missingValuesOnly.set .fillValue true) nearMillion).isMissing
      999989 = true := by
    decide +kernel
  exact hafter (h _ _ (ModeFlags.le_set _ _) nearMillion.inputs _ _
    (ofInputs_inputs _ nearMillion) (ofInputs_inputs _ nearMillion) 999989 hbefore)

end Policy

end MissingSamples
