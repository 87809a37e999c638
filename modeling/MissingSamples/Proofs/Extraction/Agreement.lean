/-
# Attributes that agree where it matters

Extraction looks at eight names and at nothing else. Attributes that hold the same under each of
them declare the same and leave the same notes, whatever else they hold and in whatever order.

* `extract_eq_of_parts` says of which readings an extraction is made;
* `Attributes.Agree` is this agreement;
* `extract_congr` and `policyOfAttributes_congr` say that nothing but it counts.
-/
import Mathlib.Tactic.Lemma
import MissingSamples.Extraction

namespace MissingSamples

/-! ## Under one name -/

section Name

variable {a b : Attributes}

lemma Attributes.given?_congr {c : Convention} (h : a.find? c.name = b.find? c.name) :
    a.given? c = b.given? c := by
  simp only [given?, h]

lemma Attributes.numeric?_congr {c : Convention} (h : a.find? c.name = b.find? c.name) :
    a.numeric? c = b.numeric? c := by
  rw [numeric?, given?_congr h, numeric?]

lemma Attributes.numeric?_eq_none {c : Convention} (h : a.find? c.name = none) :
    a.numeric? c = none := by
  rw [numeric?, given?, h]
  rfl

lemma Scaling.ofAttributes_congr
    (hscale : a.find? Convention.scaleFactor.name = b.find? Convention.scaleFactor.name)
    (hoffset : a.find? Convention.addOffset.name = b.find? Convention.addOffset.name) :
    ofAttributes a = ofAttributes b := by
  simp only [ofAttributes, Attributes.numeric?_congr hscale, Attributes.numeric?_congr hoffset]

lemma Attributes.isUnsigned_congr
    (h : a.find? Convention.unsigned.name = b.find? Convention.unsigned.name) (t : ElementType) :
    a.isUnsigned t = b.isUnsigned t := by
  cases t <;> simp only [isUnsigned, h]

/-- Integers without a sign are unsigned by themselves, and nothing else but integers ever is. -/
lemma Attributes.isUnsigned_eq_of_not_isSignedInt {t : ElementType}
    (ht : t.isSignedInt = false) : a.isUnsigned t = b.isUnsigned t := by
  cases t with
  | int i =>
    have hi : i.signed = false := ht
    simp only [isUnsigned, hi, Bool.not_false, Bool.true_or]
  | _ => rfl

lemma declaredBounds_congr
    (hrange : a.find? Convention.validRange.name = b.find? Convention.validRange.name)
    (hmin : a.find? Convention.validMin.name = b.find? Convention.validMin.name)
    (hmax : a.find? Convention.validMax.name = b.find? Convention.validMax.name)
    (t : ElementType) (unsigned : Bool) :
    declaredBounds a t unsigned = declaredBounds b t unsigned := by
  simp only [declaredBounds, rangeBounds, singleBounds, Attributes.numeric?_congr hrange,
    Attributes.numeric?_congr hmin, Attributes.numeric?_congr hmax]

lemma declaredFill_congr
    (h : a.find? Convention.fillValue.name = b.find? Convention.fillValue.name)
    (t : ElementType) (unsigned : Bool) (s : Scaling) (name : String) :
    declaredFill a t unsigned s name = declaredFill b t unsigned s name := by
  simp only [declaredFill, Attributes.given?_congr h]

lemma declaredMissing_congr
    (h : a.find? Convention.missingValue.name = b.find? Convention.missingValue.name)
    (t : ElementType) (unsigned : Bool) (s : Scaling) (name : String) :
    declaredMissing a t unsigned s name = declaredMissing b t unsigned s name := by
  simp only [declaredMissing, Attributes.given?_congr h]

/-- An extraction goes by the packing, the sign, and what is read of the bounds, of the fill value
and of the missing values, and by nothing else. -/
theorem extract_eq_of_parts {t : ElementType} {scaling : Option Scaling}
    (hscaling : scaling = none → Scaling.ofAttributes a = Scaling.ofAttributes b)
    (hunsigned : a.isUnsigned t = b.isUnsigned t)
    (hbounds : ∀ unsigned, declaredBounds a t unsigned = declaredBounds b t unsigned)
    (hfill : ∀ unsigned s name,
      declaredFill a t unsigned s name = declaredFill b t unsigned s name)
    (hmissing : ∀ unsigned s name,
      declaredMissing a t unsigned s name = declaredMissing b t unsigned s name)
    (name : Option String) : extract a t scaling name = extract b t scaling name := by
  cases scaling with
  | none => simp only [extract, hscaling rfl, hunsigned, hbounds, hfill, hmissing]
  | some s => simp only [extract, hunsigned, hbounds, hfill, hmissing]

end Name

/-! ## Under all names -/

/-- The two hold the same under every name that extraction looks at. -/
def Attributes.Agree (a b : Attributes) : Prop :=
  ∀ c : Convention, a.find? c.name = b.find? c.name

section Names

variable {a b : Attributes} (h : a.Agree b)
include h

theorem extract_congr (t : ElementType) (scaling : Option Scaling) (name : Option String) :
    extract a t scaling name = extract b t scaling name :=
  extract_eq_of_parts (fun _ => Scaling.ofAttributes_congr (h .scaleFactor) (h .addOffset))
    (Attributes.isUnsigned_congr (h .unsigned) t)
    (declaredBounds_congr (h .validRange) (h .validMin) (h .validMax) t)
    (declaredFill_congr (h .fillValue) t) (declaredMissing_congr (h .missingValue) t) name

theorem policyOfAttributes_congr (t : ElementType) (flags : ModeFlags) (scaling : Option Scaling)
    (name : Option String) :
    policyOfAttributes a t flags scaling name = policyOfAttributes b t flags scaling name := by
  simp only [policyOfAttributes, extract_congr h]

end Names

end MissingSamples
