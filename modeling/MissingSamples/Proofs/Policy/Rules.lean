/-
# The rules of a policy, one by one

The rules for the fill value and for the valid range act twice. A rule that is on finds samples, and
it covers candidates for missing values, which a policy then leaves out. It finds whatever it
covers. The other way round, the rule for the valid range finds a sample beyond either bound as soon
as one of them was declared, but covers no candidate beyond a bound that was not.

* `Declaration.keeps_eq_true_iff` says which candidates are kept;
* `Declaration.finds_of_covers` says that a rule finds what it covers;
* `Policy.isMissing_iff` says which samples are missing.
-/
import MissingSamples.Proofs.Policy.Marks

namespace MissingSamples

open Double

namespace Declaration

/-- The rule covers the number if that is a candidate for a missing value. Missing values
themselves cover none. -/
def covers (d : Declaration) : Flag → Double → Bool
  | .fillValue, v => d.hasFillValue && nearlyEqual v d.fillValue
  | .invalidData, v => (d.hasValidMin && v.lt d.fuzzyMin) || (d.hasValidMax && d.fuzzyMax.lt v)
  | .missingData, _ => false

/-- The rule finds the number if that is a sample. What missing values find is not counted here, for
it depends on the other rules. -/
def finds (d : Declaration) : Flag → Double → Bool
  | .fillValue, v => d.hasFillValue && nearlyEqual v d.fillValue
  | .invalidData, v =>
    (d.hasValidMin || d.hasValidMax) && (d.fuzzyMax.lt v || v.lt d.fuzzyMin)
  | .missingData, _ => false

variable {d : Declaration} {flags : ModeFlags} {v w : Double}

/-- The candidates that are kept are the numbers that no rule covers among those that are on. -/
theorem keeps_eq_true_iff :
    d.keeps flags v = true ↔
      v.isNaN = false ∧ ∀ rule, flags.get rule = true → d.covers rule v = false := by
  simp only [keeps, Bool.and_eq_true, Bool.not_eq_true']
  constructor
  · rintro ⟨⟨⟨hnan, hfill⟩, hlow⟩, hhigh⟩
    refine ⟨hnan, fun rule hon => ?_⟩
    cases rule with
    | fillValue =>
      rw [ModeFlags.get] at hon
      rwa [hon, Bool.true_and] at hfill
    | invalidData =>
      rw [ModeFlags.get] at hon
      rw [hon, Bool.true_and] at hlow hhigh
      rw [covers, hlow, hhigh, Bool.or_false]
    | missingData => rfl
  · rintro ⟨hnan, hcovers⟩
    have hfill := hcovers .fillValue
    have hrange := hcovers .invalidData
    simp only [ModeFlags.get, covers, Bool.or_eq_false_iff] at hfill hrange
    -- a rule that is off leaves nothing out, whatever it would cover
    refine ⟨⟨⟨hnan, ?_⟩, ?_⟩, ?_⟩
    · cases hon : flags.fillValue with
      | true => rw [Bool.true_and, hfill hon]
      | false => rw [Bool.false_and, Bool.false_and]
    · cases hon : flags.invalidData with
      | true => rw [Bool.true_and, (hrange hon).1]
      | false => rw [Bool.false_and, Bool.false_and]
    · cases hon : flags.invalidData with
      | true => rw [Bool.true_and, (hrange hon).2]
      | false => rw [Bool.false_and, Bool.false_and]

/-- A number that is no candidate to keep is covered by a rule that is on. -/
lemma exists_covers_of_keeps_eq_false (hnan : v.isNaN = false) (h : d.keeps flags v = false) :
    ∃ rule, flags.get rule = true ∧ d.covers rule v = true := by
  by_contra hnone
  have hkept : d.keeps flags v = true :=
    keeps_eq_true_iff.2 ⟨hnan, fun rule hon =>
      eq_false_of_ne_true fun hcovers => hnone ⟨rule, hon, hcovers⟩⟩
  exact ne_true_of_eq_false h hkept

theorem finds_of_covers {rule : Flag} (h : d.covers rule v = true) : d.finds rule v = true := by
  cases rule with
  | fillValue => exact h
  | invalidData =>
    rw [covers, Bool.or_eq_true, Bool.and_eq_true, Bool.and_eq_true] at h
    -- either bound being declared is enough for the rule to look at both ends
    rcases h with ⟨hhas, hlow⟩ | ⟨hhas, hhigh⟩
    · rw [finds, hhas, hlow, Bool.true_or, Bool.or_true, Bool.true_and]
    · rw [finds, hhas, hhigh, Bool.or_true, Bool.true_or, Bool.true_and]
  | missingData => exact h

/-- A rule finds a number by what it is, not by the sign of a zero. -/
lemma finds_congr (h : v.same w = true) (rule : Flag) : d.finds rule v = d.finds rule w := by
  cases rule with
  | fillValue => rw [finds, finds, nearlyEqual_congr h]
  | invalidData => rw [finds, finds, lt_congr_left h, lt_congr_right h]
  | missingData => rfl

/-- The missing values of a declaration are its candidates, less those that are left out if missing
values count at all. -/
lemma mem_missingValues_iff (hflag : flags.missingData = true) :
    v ∈ d.missingValues flags ↔
      (∃ cs, d.candidates = some cs ∧ v ∈ cs) ∧ d.keeps flags v = true := by
  rw [missingValues]
  cases d.candidates with
  | none => simp
  | some cs => simp only [hflag, if_true, List.mem_filter, Option.some.injEq, exists_eq_left']

end Declaration

namespace Policy

variable {p : Policy} {x : Double}

lemma finds_invalidData (p : Policy) (x : Double) :
    p.declared.finds .invalidData x
      = (p.hasValidData && (p.fuzzyMax.lt x || x.lt p.fuzzyMin)) := by
  rw [p.fuzzyMin_eq, p.fuzzyMax_eq]
  rfl

/-- A sample is missing if it is not a number, if a rule that is on finds it, or if missing values
count and it is near one of them. -/
theorem isMissing_iff :
    p.isMissing x = true ↔ x.isNaN = true ∨
      (∃ rule, p.flags.get rule = true ∧ p.declared.finds rule x = true) ∨
      (p.flags.missingData = true ∧ ∃ c ∈ p.missingValues, nearlyEqual x c = true) := by
  rw [isMissing_eq_or, Bool.and_assoc (p.flags.invalidData), ← finds_invalidData,
    Bool.and_assoc (p.flags.fillValue)]
  simp only [Bool.or_eq_true, Bool.and_eq_true (p.flags.invalidData),
    Bool.and_eq_true (p.flags.fillValue)]
  constructor
  · rintro (((hnan | hlisted) | ⟨hon, hfinds⟩) | ⟨hon, hfinds⟩)
    · exact Or.inl hnan
    · rw [Bool.and_eq_true, Bool.and_eq_true, List.any_eq_true] at hlisted
      exact Or.inr (Or.inr ⟨hlisted.1.1, hlisted.2⟩)
    · exact Or.inr (Or.inl ⟨.fillValue, hon, hfinds⟩)
    · exact Or.inr (Or.inl ⟨.invalidData, hon, hfinds⟩)
  · rintro (hnan | ⟨rule, hon, hfinds⟩ | ⟨hon, c, hc, hnear⟩)
    · exact Or.inl (Or.inl (Or.inl hnan))
    · cases rule with
      | fillValue => exact Or.inl (Or.inr ⟨hon, hfinds⟩)
      | invalidData => exact Or.inr ⟨hon, hfinds⟩
      | missingData => exact absurd hfinds Bool.false_ne_true
    · -- the test of one sample asks first whether there is any missing value
      have hhas : p.hasMissingValue = true := by
        rw [hasMissingValue, Bool.not_eq_true', List.isEmpty_eq_false_iff_exists_mem]
        exact ⟨c, hc⟩
      have hany : p.missingValues.any (nearlyEqual x) = true := List.any_eq_true.2 ⟨c, hc, hnear⟩
      exact Or.inl (Or.inl (Or.inr (by rw [hon, hhas, hany, Bool.true_and, Bool.true_and])))

lemma isMissing_of_isNaN (h : x.isNaN = true) : p.isMissing x = true :=
  isMissing_iff.2 (Or.inl h)

lemma isMissing_of_finds {rule : Flag} (hon : p.flags.get rule = true)
    (h : p.declared.finds rule x = true) : p.isMissing x = true :=
  isMissing_iff.2 (Or.inr (Or.inl ⟨rule, hon, h⟩))

lemma isMissing_of_nearlyEqual {c : Double} (hon : p.flags.missingData = true)
    (hc : c ∈ p.missingValues) (h : nearlyEqual x c = true) : p.isMissing x = true :=
  isMissing_iff.2 (Or.inr (Or.inr ⟨hon, c, hc, h⟩))

end Policy

end MissingSamples
