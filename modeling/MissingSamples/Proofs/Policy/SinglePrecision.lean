/-
# Sentinels at single precision

A variable may store its samples at single precision and declare its fill value as a double. What is
stored of a missing sample is then not the fill value but the number that it becomes at single
precision. The tolerance is there for that: it is wider than what narrowing does to any number that
keeps all its significant bits, so such a sample is missing, by itself and among many.

* `Policy.isMissing_of_same_narrow` is about one sample;
* `Policy.convertValue_narrow_sentinel` is about marks and conversions.
-/
import MissingSamples.Proofs.Comparison.Close
import MissingSamples.Proofs.Policy.Conversion
import MissingSamples.Proofs.Policy.Monotone

namespace MissingSamples

open Double

open FloatFormat (binary32)

namespace Policy

/-- The number is the fill value, and that rule is on; or it is the only candidate for a missing
value, and no other rule is on. -/
def IsSentinel (p : Policy) (f : Double) : Prop :=
  (p.flags.fillValue = true ∧ p.declared.hasFillValue = true ∧ p.declared.fillValue = f) ∨
    (p.flags = .missingValuesOnly ∧ p.declared.candidates = some [f])

variable {p : Policy} {f x : Double}

/-- Samples near a sentinel are missing. -/
lemma isMissing_of_near_sentinel (hs : p.IsSentinel f) (hf : f.isNaN = false)
    (h : nearlyEqual x f = true) : p.isMissing x = true := by
  rcases hs with ⟨hon, hhas, rfl⟩ | ⟨hflags, hcandidates⟩
  · have hget : p.flags.get .fillValue = true := hon
    have hfinds : p.declared.finds .fillValue x = true := by
      rw [Declaration.finds, hhas, h, Bool.and_self]
    exact isMissing_of_finds hget hfinds
  · have hon : p.flags.missingData = true := by rw [hflags]; rfl
    -- under the rule for missing values alone, no rule covers a candidate
    have hkeep : p.declared.keeps p.flags f = true := by
      refine Declaration.keeps_eq_true_iff.2 ⟨hf, fun rule honRule => ?_⟩
      rw [hflags] at honRule
      cases rule with
      | fillValue | invalidData => exact absurd honRule Bool.false_ne_true
      | missingData => rfl
    have hmem : f ∈ p.missingValues := by
      rw [p.missingValues_eq, Declaration.mem_missingValues_iff hon]
      exact ⟨⟨[f], hcandidates, List.mem_singleton_self f⟩, hkeep⟩
    exact isMissing_of_nearlyEqual hon hmem h

/-- A sample that is a sentinel at single precision is missing. -/
theorem isMissing_of_same_narrow (hs : p.IsSentinel f) (hf : f.IsSingleNormal)
    (hx : x.same (f.narrow binary32) = true) : p.isMissing x = true := by
  refine isMissing_of_near_sentinel hs (isNaN_of_isFinite hf.1.1) ?_
  rw [nearlyEqual_congr hx]
  exact nearlyEqual_narrow hf

/-- What a policy with something to do makes of floating samples. -/
lemma convertValue_floats (hp : p.hasMissing = true) {v : Value} {g : Grid Value} {t : FloatType}
    {xs : List Double} (hv : v.asGrid = .ok g) (hg : g.elements = .floats t xs) :
    p.convertValue v none = .ok (.made ⟨g.shape, .floats t (xs.map p.convert)⟩) := by
  rw [p.convertValue_none hv]
  simp only [convertMissing, hp, hg, converted?, blank_marks, if_true]

/-- A sentinel is recognised at single precision: of floating samples, every one that is the number
which the sentinel becomes there is missing, is marked, and gives way to not-a-number. -/
theorem convertValue_narrow_sentinel (hs : p.IsSentinel f) (hf : f.IsSingleNormal) {v : Value}
    {g : Grid Value} {t : FloatType} {xs : List Double} (hv : v.asGrid = .ok g)
    (hg : g.elements = .floats t xs) :
    ∃ m marks ys, p.maskValue v = .ok m ∧ m.grid? = some ⟨g.shape, .bools marks⟩ ∧
      p.convertValue v none = .ok (.made ⟨g.shape, .floats t ys⟩) ∧
      marks.length = xs.length ∧ ys.length = xs.length ∧
      ∀ (i : Nat) (x : Double), xs[i]? = some x → x.same (f.narrow binary32) = true →
        p.isMissing x = true ∧ marks[i]? = some true ∧ ys[i]? = some Double.nan := by
  have hnumbers : g.elements.numbers? = some xs := by rw [hg]; rfl
  have hnumeric : g.type.isNumeric = true := by rw [Grid.type, hg]; rfl
  have hnan : (f.narrow binary32).isNaN = false := isNaN_of_isFinite (isFinite_narrow hf.1)
  have hself : (f.narrow binary32).same (f.narrow binary32) = true := same_iff.2 ⟨hnan, hnan, rfl⟩
  have hp : p.hasMissing = true :=
    hasMissing_of_isMissing hnan (isMissing_of_same_narrow hs hf hself)
  refine ⟨markValue (p.missingMask g), xs.map p.isMissing, xs.map p.convert, ?_, ?_,
    convertValue_floats hp hv hg, List.length_map _, List.length_map _, fun i x hi hx => ?_⟩
  · simp only [maskValue, hv, bind, Except.bind, hnumeric, if_true, pure, Except.pure]
  · rw [grid?_markValue, missingMask_of_numbers? p hnumbers]
  · have hmissing : p.isMissing x = true := isMissing_of_same_narrow hs hf hx
    refine ⟨hmissing, ?_, ?_⟩
    · rw [List.getElem?_map, hi, Option.map_some, hmissing]
    · rw [List.getElem?_map, hi, Option.map_some, convert, if_pos hmissing]

/-- A fill value of -999.9, which no number of single precision is. -/
def fractionalFill : Declaration where
  hasFillValue := true
  fillValue := .ofDecimal true 9999 (-1)

/-- The number of single precision next to -999.9 is another number, and gives way none the less. -/
theorem convertValue_narrow_sentinel_of_fraction :
    (fractionalFill.fillValue.narrow binary32).same fractionalFill.fillValue = false ∧
      ∃ ys, (make {} fractionalFill).convertValue
          (.grid ⟨[2], .floats ⟨.single, .little⟩ [3, fractionalFill.fillValue.narrow binary32]⟩)
          none = .ok (.made ⟨[2], .floats ⟨.single, .little⟩ ys⟩) ∧
        ys[1]? = some Double.nan := by
  have hs : (make {} fractionalFill).IsSentinel fractionalFill.fillValue :=
    Or.inl ⟨rfl, rfl, rfl⟩
  have hf : fractionalFill.fillValue.IsSingleNormal := by decide +kernel
  have hsame : (fractionalFill.fillValue.narrow binary32).same
      (fractionalFill.fillValue.narrow binary32) = true := by
    decide +kernel
  obtain ⟨m, marks, ys, -, -, hys, -, -, hall⟩ := convertValue_narrow_sentinel hs hf
    (v := .grid ⟨[2], .floats ⟨.single, .little⟩ [3, fractionalFill.fillValue.narrow binary32]⟩)
    rfl rfl
  exact ⟨by decide +kernel, ys, hys, (hall 1 _ rfl hsame).2.2⟩

end Policy

end MissingSamples
