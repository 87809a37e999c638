/-
# Valid bounds at single precision

Samples stored at single precision may sit on a bound that is declared as a double. What is stored
is then the number that the bound becomes at single precision, and it may lie on either side of it.
The range is widened by the tolerance itself, which is a fixed amount, while narrowing moves a
number by a part of its magnitude. So samples on the bounds are valid as long as narrowing takes no
bound beyond the widened range. It takes none there whose magnitude is at most 256, and next above
that there is one that it does.

* `Double.abs_level_narrow_sub_le_tolerance` says up to which magnitude the tolerance is wide
  enough;
* `Policy.keepsSample_iff` says that samples are kept as they are valid;
* `Policy.keepsSample_narrow_iff` says when samples on the bounds are kept;
* `Policy.keepsSample_narrow_may_fail` is a bound that is lost.
-/
import MissingSamples.Proofs.Policy.SinglePrecision
import MissingSamples.Proofs.Variable.ValidRange

namespace MissingSamples

open Double

open FloatFormat (binary32)

/-! ## How far the tolerance reaches -/

lemma level_256 : (256 : Double).level = twoPow 1082 := by
  decide +kernel

/-- Narrowing moves no number of a magnitude up to 256 by more than the tolerance. -/
theorem Double.abs_level_narrow_sub_le_tolerance {x : Double} (h : x.IsSingle)
    (hx : |x.level| ≤ (256 : Double).level) :
    |(x.narrow binary32).level - x.level| ≤ tolerance.level := by
  have htolerance : (twoPow 1057 : Int) ≤ tolerance.level := by decide +kernel
  have hle : x.level.natAbs ≤ twoPow 1082 := by
    rw [level_256, Int.abs_eq_natAbs] at hx
    exact_mod_cast hx
  rcases Nat.lt_or_eq_of_le hle with hlt | heq
  · have hquantum : binary32.quantum x.level.natAbs ≤ 1058 :=
      binary32.quantum_le hlt (by decide)
    have hpow : (twoPow (binary32.quantum x.level.natAbs) : Int) ≤ twoPow 1058 := by
      exact_mod_cast twoPow_le_twoPow hquantum
    have hsplit : (twoPow 1058 : Int) = 2 * twoPow 1057 := by decide +kernel
    have hhalf := two_mul_abs_level_narrow_sub_le h
    omega
  · -- the end of the range is a number of single precision itself
    have hholds : binary32.Holds (twoPow 1082) := by decide +kernel
    have hround : binary32.round x.level.natAbs 1 = x.level.natAbs := by
      rw [heq, FloatFormat.round_of_holds _ hholds]
    rw [abs_level_narrow_sub h, hround, sub_self, abs_zero]
    exact tolerance_level_nonneg

namespace Policy

/-- Both bounds are declared, in order, and neither lies beyond the numbers of single precision. -/
structure HasSingleRange (p : Policy) : Prop where
  /-- A lower bound is declared. -/
  hasMin : p.declared.hasValidMin = true
  /-- An upper bound is declared. -/
  hasMax : p.declared.hasValidMax = true
  /-- The lower bound is in the range of single precision. -/
  minSingle : p.declared.validMin.IsSingle
  /-- The upper bound is in the range of single precision. -/
  maxSingle : p.declared.validMax.IsSingle
  /-- The bounds are in order. -/
  ordered : p.declared.validMin.le p.declared.validMax = true

/-- The number is valid, and stays as it is wherever it stands among floating samples that are
converted. -/
def KeepsSample (p : Policy) (x : Double) : Prop :=
  p.isInvalid x = false ∧
    ∀ (v : Value) (g : Grid Value) (t : FloatType) (xs : List Double), v.asGrid = .ok g →
      g.elements = .floats t xs →
        ∃ ys, p.convertValue v none = .ok (.made ⟨g.shape, .floats t ys⟩) ∧
          ∀ (i : Nat) (y : Double), xs[i]? = some y → y.same x = true → ys[i]? = some y

variable {p : Policy} {x : Double}

/-- Under the rule for the valid range alone, samples are missing as they are invalid. -/
lemma isMissing_eq_isInvalid (h : p.HasSingleRange) (hflags : p.flags = .validRangeOnly)
    (x : Double) : p.isMissing x = p.isInvalid x := by
  have hvalid : p.hasValidData = true := by rw [hasValidData, h.hasMin, Bool.true_or]
  rw [isMissing_of_validRangeOnly hflags, hvalid, Bool.true_and, isInvalid]
  simp only [← Bool.or_assoc, Bool.or_self]

lemma isInvalid_congr {y : Double} (h : y.same x = true) : p.isInvalid y = p.isInvalid x := by
  obtain ⟨hy, hx, -⟩ := same_iff.1 h
  rw [isInvalid, isInvalid, hy, hx, lt_congr_right h, lt_congr_left h]

/-- A sample is kept if it is valid. -/
theorem keepsSample_iff (h : p.HasSingleRange) (hflags : p.flags = .validRangeOnly) :
    p.KeepsSample x ↔ p.isInvalid x = false := by
  refine ⟨fun hkeeps => hkeeps.1, fun hvalid => ⟨hvalid, fun v g t xs hv hg => ?_⟩⟩
  have hp : p.hasMissing = true := by
    rw [hasMissing, hasValidData, hflags, h.hasMin]
    rfl
  refine ⟨xs.map p.convert, convertValue_floats hp hv hg, fun i y hi hy => ?_⟩
  have hpresent : ¬p.isMissing y = true := by
    rw [isMissing_eq_isInvalid h hflags, isInvalid_congr hy, hvalid]
    exact Bool.false_ne_true
  rw [List.getElem?_map, hi, Option.map_some, convert, if_neg hpresent]

/-- A number is valid if it lies within the widened range. -/
lemma isInvalid_eq_false_iff (h : p.HasSingleRange) (hx : x.isNaN = false) :
    p.isInvalid x = false ↔ p.fuzzyMin.le x = true ∧ x.le p.fuzzyMax = true := by
  have hmin : p.fuzzyMin.isNaN = false := by
    rw [p.fuzzyMin_eq, Declaration.fuzzyMin, sub_eq,
      isNaN_add (by rw [isFinite_neg, isFinite_tolerance])]
    exact isNaN_of_isFinite h.minSingle.1
  have hmax : p.fuzzyMax.isNaN = false := by
    rw [p.fuzzyMax_eq, Declaration.fuzzyMax, isNaN_add isFinite_tolerance]
    exact isNaN_of_isFinite h.maxSingle.1
  simp only [isInvalid, hx, Bool.false_or, Bool.or_eq_false_iff]
  constructor
  · rintro ⟨habove, hbelow⟩
    exact ⟨le_of_lt_eq_false hmin hx hbelow, le_of_lt_eq_false hx hmax habove⟩
  · rintro ⟨hlow, hhigh⟩
    exact ⟨lt_eq_false_of_le hhigh, lt_eq_false_of_le hlow⟩

/-- The lower bound as a sample of single precision. -/
def narrowMin (p : Policy) : Double := p.declared.validMin.narrow binary32

/-- The upper bound as a sample of single precision. -/
def narrowMax (p : Policy) : Double := p.declared.validMax.narrow binary32

/-- A lower bound that narrowing takes down by no more than the tolerance stays in the widened
range. -/
lemma fuzzyMin_le_narrowMin (h : p.HasSingleRange)
    (hmove : p.declared.validMin.level - p.narrowMin.level ≤ tolerance.level) :
    p.fuzzyMin.le p.narrowMin = true := by
  have hfin : p.narrowMin.isFinite = true := isFinite_narrow h.minSingle
  have hneg : (neg tolerance).isFinite = true := by rw [isFinite_neg, isFinite_tolerance]
  rw [p.fuzzyMin_eq, Declaration.fuzzyMin, sub_eq, le_iff, isNaN_add hneg,
    level_add h.minSingle.1 hneg, level_neg]
  refine ⟨isNaN_of_isFinite h.minSingle.1, isNaN_of_isFinite hfin, ?_⟩
  calc rounded (p.declared.validMin.level + -tolerance.level) 1
      ≤ rounded p.narrowMin.level 1 := rounded_mono (by omega)
    _ = p.narrowMin.level := rounded_level hfin

/-- An upper bound that narrowing takes up by no more than the tolerance stays in the widened
range. -/
lemma narrowMax_le_fuzzyMax (h : p.HasSingleRange)
    (hmove : p.narrowMax.level - p.declared.validMax.level ≤ tolerance.level) :
    p.narrowMax.le p.fuzzyMax = true := by
  have hfin : p.narrowMax.isFinite = true := isFinite_narrow h.maxSingle
  rw [p.fuzzyMax_eq, Declaration.fuzzyMax, le_iff, isNaN_add isFinite_tolerance,
    level_add h.maxSingle.1 isFinite_tolerance]
  refine ⟨isNaN_of_isFinite hfin, isNaN_of_isFinite h.maxSingle.1, ?_⟩
  calc p.narrowMax.level = rounded p.narrowMax.level 1 := (rounded_level hfin).symm
    _ ≤ rounded (p.declared.validMax.level + tolerance.level) 1 := rounded_mono (by omega)

/-- Samples of single precision on both bounds are kept if narrowing takes neither bound beyond the
widened range. -/
lemma keepsSample_narrow (h : p.HasSingleRange) (hflags : p.flags = .validRangeOnly) :
    p.KeepsSample p.narrowMin ∧ p.KeepsSample p.narrowMax ↔
      p.fuzzyMin.le p.narrowMin = true ∧ p.narrowMax.le p.fuzzyMax = true := by
  have hmin : p.narrowMin.isNaN = false := isNaN_of_isFinite (isFinite_narrow h.minSingle)
  have hmax : p.narrowMax.isNaN = false := isNaN_of_isFinite (isFinite_narrow h.maxSingle)
  rw [keepsSample_iff h hflags, keepsSample_iff h hflags, isInvalid_eq_false_iff h hmin,
    isInvalid_eq_false_iff h hmax]
  -- narrowing keeps the order of the bounds, so each needs its own side of the range only
  have horder : p.narrowMin.le p.narrowMax = true :=
    narrow_le_narrow h.minSingle h.maxSingle h.ordered
  constructor
  · rintro ⟨⟨hlow, -⟩, -, hhigh⟩
    exact ⟨hlow, hhigh⟩
  · rintro ⟨hlow, hhigh⟩
    exact ⟨⟨hlow, le_trans horder hhigh⟩, le_trans hlow horder, hhigh⟩

/-- When samples of single precision on the bounds are kept: exactly if neither bound is beyond the
widened range once it is narrowed. A bound that narrowing takes outward by no more than the
tolerance is not beyond it, and so none is whose magnitude is at most 256. -/
theorem keepsSample_narrow_iff (h : p.HasSingleRange) (hflags : p.flags = .validRangeOnly) :
    (p.KeepsSample p.narrowMin ∧ p.KeepsSample p.narrowMax ↔
      p.fuzzyMin.le p.narrowMin = true ∧ p.narrowMax.le p.fuzzyMax = true) ∧
    (p.declared.validMin.level - p.narrowMin.level ≤ tolerance.level →
      p.narrowMax.level - p.declared.validMax.level ≤ tolerance.level →
      p.KeepsSample p.narrowMin ∧ p.KeepsSample p.narrowMax) ∧
    (|p.declared.validMin.level| ≤ (256 : Double).level →
      |p.declared.validMax.level| ≤ (256 : Double).level →
      p.KeepsSample p.narrowMin ∧ p.KeepsSample p.narrowMax) := by
  have hkept := keepsSample_narrow h hflags
  have hmoved : p.declared.validMin.level - p.narrowMin.level ≤ tolerance.level →
      p.narrowMax.level - p.declared.validMax.level ≤ tolerance.level →
      p.KeepsSample p.narrowMin ∧ p.KeepsSample p.narrowMax := fun hmin hmax =>
    hkept.2 ⟨fuzzyMin_le_narrowMin h hmin, narrowMax_le_fuzzyMax h hmax⟩
  refine ⟨hkept, hmoved, fun hmin hmax => hmoved ?_ ?_⟩
  · have hle : |p.narrowMin.level - p.declared.validMin.level| ≤ tolerance.level :=
      abs_level_narrow_sub_le_tolerance h.minSingle hmin
    rw [abs_sub_comm] at hle
    exact (le_abs_self _).trans hle
  · have hle : |p.narrowMax.level - p.declared.validMax.level| ≤ tolerance.level :=
      abs_level_narrow_sub_le_tolerance h.maxSingle hmax
    exact (le_abs_self _).trans hle

/-- A range from 0 to the number, under the rule for the valid range alone. -/
def upTo (bound : Double) : Policy :=
  make .validRangeOnly
    { hasValidMin := true, hasValidMax := true, validMin := 0, validMax := bound }

/-- The number of single precision next to 0.1 lies above it, and is kept. -/
theorem keepsSample_narrow_iff_tenth :
    let bound : Double := .ofDecimal false 1 (-1)
    bound.lt (upTo bound).narrowMax = true ∧
      (upTo bound).KeepsSample (upTo bound).narrowMax := by
  have h : (upTo (.ofDecimal false 1 (-1))).HasSingleRange :=
    ⟨rfl, rfl, by decide +kernel, by decide +kernel, by decide +kernel⟩
  have hkept := (keepsSample_narrow_iff h rfl).2.2 (by decide +kernel) (by decide +kernel)
  exact ⟨by decide +kernel, hkept.2⟩

/-- A bound little above 256, which is taken up by more than the tolerance. -/
def lostBound : Double := .ofDecimal false 256000016 (-6)

/-- The sample on an upper bound little above 256 is invalid, and gives way to not-a-number. -/
theorem keepsSample_narrow_may_fail :
    (upTo lostBound).HasSingleRange ∧
      (upTo lostBound).isInvalid (upTo lostBound).narrowMax = true ∧
      (upTo lostBound).convertValue
          (.grid ⟨[1], .floats ⟨.single, .little⟩ [(upTo lostBound).narrowMax]⟩) none
        = .ok (.made ⟨[1], .floats ⟨.single, .little⟩ [.nan]⟩) ∧
      ¬∀ p : Policy, p.HasSingleRange → p.flags = .validRangeOnly →
        p.KeepsSample p.narrowMin ∧ p.KeepsSample p.narrowMax := by
  have h : (upTo lostBound).HasSingleRange :=
    ⟨rfl, rfl, by decide +kernel, by decide +kernel, by decide +kernel⟩
  have hinvalid : (upTo lostBound).isInvalid (upTo lostBound).narrowMax = true := by
    decide +kernel
  refine ⟨h, hinvalid, ?_, fun hall => ?_⟩
  · have hblank : [(upTo lostBound).narrowMax].map (upTo lostBound).convert = [.nan] := by
      decide +kernel
    rw [convertValue_floats rfl rfl rfl, hblank]
  · have hvalid := (hall (upTo lostBound) h rfl).2.1
    rw [hinvalid] at hvalid
    exact Bool.false_ne_true hvalid.symm

end Policy

end MissingSamples
