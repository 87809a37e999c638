/-
# No declared value gets through

A policy leaves out candidates for missing values that another rule covers. Leaving one out is
harmless for the candidate itself: the rule that covers it finds every sample that is the same
number, because all rules look at the number alone. A policy with such a candidate has something to
do, so a conversion that gives back its very samples had none that is this number, unless that is
not-a-number already.

* `Policy.isMissing_of_matching_fill` is about the fill value;
* `Policy.isMissing_of_matching_candidate` is about candidates, left out or not;
* `Policy.convertValue_candidates` says that no conversion leaves a candidate among its samples.
-/
import MissingSamples.Proofs.Policy.Conversion
import MissingSamples.Proofs.Policy.Rules

namespace MissingSamples

open Double

namespace Policy

variable (p : Policy)

lemma convert_of_isMissing {x : Double} (h : p.isMissing x = true) : p.convert x = .nan := by
  rw [convert, if_pos h]

theorem isMissing_of_matching_fill {x : Double} (hflag : p.flags.fillValue = true)
    (hhas : p.declared.hasFillValue = true) (h : x.matching p.declared.fillValue = true) :
    p.isMissing x = true := by
  have hon : p.flags.get .fillValue = true := hflag
  have hfinds : p.declared.finds .fillValue x = true := by
    rw [Declaration.finds, hhas, nearlyEqual_of_matching h zero_lt_tolerance, Bool.true_and]
  exact isMissing_of_finds hon hfinds

/-- A sample that is the same number as a candidate is missing. If the candidate is left out, the
sample falls to the rule that covers it. -/
theorem isMissing_of_matching_candidate {x c : Double} {cs : List Double}
    (hflag : p.flags.missingData = true) (hcs : p.declared.candidates = some cs) (hc : c ∈ cs)
    (h : x.matching c = true) : p.isMissing x = true := by
  rcases matching_iff.1 h with hsame | ⟨hx, -⟩
  · cases hkeep : p.declared.keeps p.flags c with
    | true =>
      have hmem : c ∈ p.missingValues := by
        rw [p.missingValues_eq, Declaration.mem_missingValues_iff hflag]
        exact ⟨⟨cs, hcs, hc⟩, hkeep⟩
      exact isMissing_of_nearlyEqual hflag hmem (nearlyEqual_of_matching h zero_lt_tolerance)
    | false =>
      have hnan : c.isNaN = false := (same_iff.1 hsame).2.1
      obtain ⟨rule, hon, hcovers⟩ := Declaration.exists_covers_of_keeps_eq_false hnan hkeep
      refine isMissing_of_finds hon ?_
      rw [Declaration.finds_congr hsame]
      exact Declaration.finds_of_covers hcovers
  · exact isMissing_of_isNaN hx

/-! ## Conversions -/

/-- A conversion that succeeds had nothing to do, or holds what a conversion to the width of the
new samples has to hold. -/
lemma convertValue_eq_ok {v : Value} {g : Grid Value} {xs : List Double} {out : Option Value}
    {change : Change (Grid Value)} (hv : v.asGrid = .ok g) (hx : g.elements.numbers? = some xs)
    (h : p.convertValue v out = .ok change) :
    (p.hasMissing = false ∧ change = .kept) ∨
      ∃ t : FloatType, change = .made ⟨g.shape, .floats t (p.maskedAs t.width g.elements)⟩ := by
  cases out with
  | none =>
    rw [p.convertValue_none hv] at h
    rw [← Except.ok.inj h]
    exact p.convertMissing_of_numbers? hx
  | some out =>
    rw [p.convertValue_some hv] at h
    exact p.convertInto_of_numbers? hx h

/-- Whatever the policy is and however it came about, a candidate for missing values is missing if
missing values count, and no conversion leaves it among its samples: each of them that is the same
number as the candidate becomes not-a-number, in new samples as in a destination. A conversion
without a destination succeeds, and so does one into floating numbers of the same shape. -/
theorem convertValue_candidates {c : Double} {cs : List Double}
    (hflag : p.flags.missingData = true) (hcs : p.declared.candidates = some cs) (hc : c ∈ cs) :
    p.isMissing c = true ∧
      ∀ (v : Value) (g : Grid Value) (xs : List Double), v.asGrid = .ok g →
        g.elements.numbers? = some xs →
          (∃ change, p.convertValue v none = .ok change) ∧
          (∀ t zs, ∃ change,
            p.convertValue v (some (.grid ⟨g.shape, .floats t zs⟩)) = .ok change) ∧
          ∀ out change, p.convertValue v out = .ok change →
            ∃ ys, (change.result g).shape = g.shape ∧
              (change.result g).elements.numbers? = some ys ∧ ys.length = xs.length ∧
              ∀ (i : Nat) (x : Double), xs[i]? = some x → x.matching c = true →
                ys[i]? = some Double.nan := by
  refine ⟨p.isMissing_of_matching_candidate hflag hcs hc c.matching_self,
    fun v g xs hv hx => ⟨⟨_, p.convertValue_none hv⟩, fun t zs => ?_, fun out change hchange => ?_⟩⟩
  · rw [p.convertValue_some hv]
    exact p.exists_convertInto_floats g t zs
  · have hmissing : ∀ x : Double, x.matching c = true → p.isMissing x = true := fun x h =>
      p.isMissing_of_matching_candidate hflag hcs hc h
    rcases p.convertValue_eq_ok hv hx hchange with ⟨hp, rfl⟩ | ⟨t, rfl⟩
    · -- nothing but not-a-number is missing then
      refine ⟨xs, rfl, hx, rfl, fun i x hi h => ?_⟩
      have hnan : x.isNaN = true := by
        rw [← p.isMissing_of_not_hasMissing hp]
        exact hmissing x h
      rw [hi, eq_nan_of_isNaN hnan]
    · exact ⟨p.maskedAs t.width g.elements, rfl, rfl, p.length_maskedAs hx t.width,
        fun i x hi h => p.getElem?_maskedAs hx t.width hi (hmissing x h)⟩

/-- A fill value that is a candidate for a missing value too, beside another candidate. -/
def fillAmongCandidates : Declaration where
  hasFillValue := true
  fillValue := 5
  candidates := some [5, 7]

/-- The candidate that is left out for the fill value is missing none the less, and is blanked. -/
theorem convertValue_candidates_of_left_out :
    (make {} fillAmongCandidates).missingValues = [7] ∧
      (make {} fillAmongCandidates).isMissing 5 = true ∧
      ∃ change ys, (make {} fillAmongCandidates).convertValue
          (.grid ⟨[2], .ints ⟨true, .w16, .big⟩ [6, 5]⟩) none = .ok change ∧
        (change.result ⟨[2], .ints ⟨true, .w16, .big⟩ [6, 5]⟩).elements.numbers? = some ys ∧
        ys[1]? = some Double.nan := by
  have hc : (5 : Double) ∈ [5, 7] := List.mem_cons_self
  obtain ⟨hmissing, hconvert⟩ :=
    (make {} fillAmongCandidates).convertValue_candidates rfl rfl hc
  obtain ⟨⟨change, hchange⟩, -, hall⟩ :=
    hconvert (.grid ⟨[2], .ints ⟨true, .w16, .big⟩ [6, 5]⟩) _ _ rfl rfl
  obtain ⟨ys, -, hys, -, hblank⟩ := hall none change hchange
  exact ⟨by decide +kernel, hmissing, change, ys, hchange, hys,
    hblank 1 (ofInt 5) rfl (matching_self (ofInt 5))⟩

end Policy

end MissingSamples
