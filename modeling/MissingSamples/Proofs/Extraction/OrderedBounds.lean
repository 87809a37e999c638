/-
# Extracted bounds are in order

The bounds of a variable come from several attributes, are read as signed or unsigned, are unpacked
by any scale or are not, and one of them may be an end of the finite numbers that stands in for a
bound that was not declared. Whatever they have become on the way, the last step exchanges two that
are out of order. So no extraction declares an upper bound below the lower one, and widening by the
tolerance, which is rounded too, moves neither of them inward. The range of a policy is never empty.

* `lt_declareBounds` says that declared bounds are in order;
* `extractValue_ordered` says what the bounds of an extraction are to a policy made of it.
-/
import MissingSamples.Proofs.Extraction
import MissingSamples.Proofs.Policy.ValidRange

namespace MissingSamples

open Double

/-! ## Order -/

/-- Two numbers that are exchanged if they are out of order are not out of order any more. -/
lemma lt_exchanged (low high : Double) :
    (if high.lt low = true then low else high).lt (if high.lt low = true then high else low)
      = false := by
  cases hswap : high.lt low with
  | true =>
    rw [if_pos rfl, if_pos rfl, Bool.eq_false_iff, ne_eq, lt_iff]
    rw [lt_iff] at hswap
    omega
  | false => rwa [if_neg Bool.false_ne_true, if_neg Bool.false_ne_true]

/-- Bounds are declared in order, whatever is known of them and however they are unpacked. -/
lemma lt_declareBounds (t : ElementType) (s : Scaling) (b : Bounds) :
    (declareBounds t s b).validMax.lt (declareBounds t s b).validMin = false := by
  cases hdeclared : (b.lower.isSome || b.upper.isSome) with
  | true =>
    simp only [declareBounds, hdeclared, Bool.true_and]
    exact lt_exchanged _ _
  | false =>
    -- without any bound, the ends of the finite numbers stand where they are
    obtain ⟨hlower, hupper⟩ : b.lower = none ∧ b.upper = none := by simpa using hdeclared
    have hends : largest.lt (-largest) = false := by decide +kernel
    simpa [declareBounds, hlower, hupper] using hends

/-! ## Extractions -/

/-- Attributes and a type that an extraction accepts are read as what they are. -/
lemma exists_extract_of_extractValue {attributes typeName : Value} {scaling : Option Scaling}
    {name : Option String} {d : Declaration}
    (h : (extractValue attributes typeName scaling name).outcome = .ok d) :
    ∃ a t, (extract a t scaling name).outcome = .ok d := by
  unfold extractValue at h
  split at h
  · cases h
  · cases h
  · cases h
  · next a t _ _ => exact ⟨a, t, h⟩

/-- The bounds of an extraction are not out of order. If they are numbers, the range of the policy
that is made of it goes from the lower to the upper one and does not narrow when it is widened, so
both bounds are valid, and every number between them is. -/
theorem extractValue_ordered {attributes typeName : Value} {scaling : Option Scaling}
    {name : Option String} {d : Declaration}
    (h : (extractValue attributes typeName scaling name).outcome = .ok d) (flags : ModeFlags) :
    d.validMax.lt d.validMin = false ∧
    (d.validMin.isNaN = false → d.validMax.isNaN = false →
      (Policy.make flags d).fuzzyMin.le d.validMin = true ∧ d.validMin.le d.validMax = true ∧
      d.validMax.le (Policy.make flags d).fuzzyMax = true ∧
      (Policy.make flags d).isInvalid d.validMin = false ∧
      (Policy.make flags d).isInvalid d.validMax = false ∧
      ∀ x, d.validMin.le x = true → x.le d.validMax = true →
        (Policy.make flags d).isInvalid x = false) := by
  obtain ⟨a, t, hextract⟩ := exists_extract_of_extractValue h
  obtain ⟨s, b, fill, missing, rfl⟩ := exists_eq_assembled hextract
  have hordered := lt_declareBounds t s b
  refine ⟨hordered, fun hmin hmax => ?_⟩
  have hle := le_of_lt_eq_false hmin hmax hordered
  exact ⟨sub_tolerance_le (le_refl hmin), hle, le_add_tolerance (le_refl hmax),
    Policy.isInvalid_of_between (le_refl hmin) hle, Policy.isInvalid_of_between hle (le_refl hmax),
    fun x hlow hhigh => Policy.isInvalid_of_between hlow hhigh⟩

/-- A range from 1 to 10 that a negative scale turns round. -/
def reversedRange : Value :=
  .mapping [(.text "valid_range", .grid ⟨[2], .ints ⟨true, .w16, .little⟩ [1, 10]⟩),
    (.text "scale_factor", .float (-2)), (.text "_Unsigned", .text "false")]

/-- The bounds are exchanged, and what lies between them is valid. -/
theorem extractValue_ordered_of_reversedRange :
    ∃ d, (extractValue reversedRange (.text "int16") none none).outcome = .ok d ∧
      d.validMin = -20 ∧ d.validMax = -2 ∧ (Policy.make {} d).isInvalid (-10) = false := by
  have hbounds : (extractValue reversedRange (.text "int16") none none).outcome.map
      (fun d => (d.validMin, d.validMax)) = .ok (-20, -2) := by
    decide +kernel
  cases hd : (extractValue reversedRange (.text "int16") none none).outcome with
  | error f =>
    rw [hd] at hbounds
    cases hbounds
  | ok d =>
    rw [hd, Except.map, Except.ok.injEq, Prod.mk.injEq] at hbounds
    obtain ⟨hmin, hmax⟩ := hbounds
    obtain ⟨-, hvalid⟩ := extractValue_ordered hd {}
    rw [hmin, hmax] at hvalid
    obtain ⟨-, -, -, -, -, hbetween⟩ := hvalid (by decide +kernel) (by decide +kernel)
    exact ⟨d, rfl, hmin, hmax, hbetween (-10) (by decide +kernel) (by decide +kernel)⟩

end MissingSamples
