/-
# Extractions that differ in one sentinel

The fill value and the missing values are read after everything else, and what they are changes
nothing of the rest. So an extraction with one of them is the extraction without it, with what was
read put into its place, and it fails for the same reasons.

* `Attributes.AgreeBut` says that attributes hold the same under all names but one;
* `outcome_extract_of_declaredFill` and `outcome_extract_of_declaredMissing` take an extraction back
  to one without the sentinel.
-/
import MissingSamples.Proofs.Extraction
import MissingSamples.Proofs.Extraction.Agreement

namespace MissingSamples

/-- The two attributes that hold sentinels. -/
inductive Convention.IsSentinel : Convention → Prop
  /-- The fill value is one. -/
  | fillValue : IsSentinel .fillValue
  /-- The missing values are such. -/
  | missingValue : IsSentinel .missingValue

/-- The two hold the same under every name that extraction looks at, but for one. -/
def Attributes.AgreeBut (c : Convention) (a b : Attributes) : Prop :=
  ∀ d ≠ c, a.find? d.name = b.find? d.name

namespace Attributes

variable (a : Attributes) (c : Convention)

lemma agreeBut_without : a.AgreeBut c (a.without [c.name]) := by
  intro d hd
  have hname : [c.name].contains d.name = false := by
    rw [List.contains_eq_mem, decide_eq_false_iff_not, List.mem_singleton]
    exact fun h => hd (Convention.name_injective h)
  rw [find?_without, hname, Bool.not_false, if_pos rfl]

lemma agreeBut_insert_without (v : Value) :
    (a.insert c.name v).AgreeBut c (a.without [c.name]) := by
  intro d hd
  rw [find?_insert_of_ne a (fun h => hd (Convention.name_injective h))]
  exact a.agreeBut_without c d hd

lemma given?_without_self : (a.without [c.name]).given? c = none := by
  have hname : [c.name].contains c.name = true := by simp
  rw [given?, find?_without, hname]
  rfl

/-- What is inserted stands there, unless it is nothing. -/
lemma given?_insert_self {v : Value} (hv : v ≠ .null) : (a.insert c.name v).given? c = some v :=
  given?_of_find? (find?_insert_self a c.name v) hv

end Attributes

/-! ## One sentinel more -/

section Sentinel

variable {a b : Attributes} {t : ElementType} {scaling : Option Scaling} {name : Option String}
  {c : Convention}

lemma Scaling.inForce_congr
    (hscale : a.find? Convention.scaleFactor.name = b.find? Convention.scaleFactor.name)
    (hoffset : a.find? Convention.addOffset.name = b.find? Convention.addOffset.name) :
    inForce a scaling = inForce b scaling := by
  cases scaling with
  | none => rw [inForce_none, inForce_none, ofAttributes_congr hscale hoffset]
  | some s => rfl

section AgreeBut

variable (hab : a.AgreeBut c b) (hc : c.IsSentinel)
include hab hc

/-- Attributes that differ in a sentinel at most hold the same under all other names. -/
lemma find?_eq_of_agreeBut {d : Convention} (hd : ¬ d.IsSentinel) :
    a.find? d.name = b.find? d.name := by
  refine hab d ?_
  rintro rfl
  exact hd hc

lemma inForce_eq_of_agreeBut : Scaling.inForce a scaling = Scaling.inForce b scaling :=
  Scaling.inForce_congr (find?_eq_of_agreeBut hab hc nofun) (find?_eq_of_agreeBut hab hc nofun)

lemma isUnsigned_eq_of_agreeBut : a.isUnsigned t = b.isUnsigned t :=
  Attributes.isUnsigned_congr (find?_eq_of_agreeBut hab hc nofun) t

lemma declaredBounds_eq_of_agreeBut (unsigned : Bool) :
    declaredBounds a t unsigned = declaredBounds b t unsigned :=
  declaredBounds_congr (find?_eq_of_agreeBut hab hc nofun) (find?_eq_of_agreeBut hab hc nofun)
    (find?_eq_of_agreeBut hab hc nofun) t unsigned

end AgreeBut

lemma outcome_declaredFill_of_not_given (h : a.given? .fillValue = none) (unsigned : Bool)
    (s : Scaling) (name : String) : (declaredFill a t unsigned s name).outcome = .ok none := by
  simp only [declaredFill, h, Report.outcome_pure]

lemma outcome_declaredMissing_of_not_given (h : a.given? .missingValue = none) (unsigned : Bool)
    (s : Scaling) (name : String) : (declaredMissing a t unsigned s name).outcome = .ok none := by
  simp only [declaredMissing, h, Report.outcome_pure]

variable {s : Scaling} (hs : Scaling.inForce a scaling = .ok s)
include hs

/-- A fill value that can be read is all that an extraction with it has more than one without. -/
theorem outcome_extract_of_declaredFill (hab : a.AgreeBut .fillValue b)
    (hnone : b.given? .fillValue = none) {x : Double}
    (hfill : (declaredFill a t (a.isUnsigned t) s (noteName name)).outcome = .ok (some x)) :
    (extract a t scaling name).outcome = (extract b t scaling name).outcome.map fun d =>
      { d with hasFillValue := true, fillValue := x } := by
  have hunsigned := isUnsigned_eq_of_agreeBut (t := t) hab .fillValue
  have hnone' := outcome_declaredFill_of_not_given (t := t) hnone (b.isUnsigned t) s
    (noteName name)
  have hmissing := declaredMissing_congr (hab .missingValue (by decide)) t (b.isUnsigned t) s
    (noteName name)
  rw [hunsigned] at hfill
  rw [outcome_extract, outcome_extract, ← inForce_eq_of_agreeBut hab .fillValue, hs,
    declaredBounds_eq_of_agreeBut hab .fillValue, hunsigned]
  simp only [bind, Except.bind, hfill, hnone', hmissing]
  cases declaredBounds b t (b.isUnsigned t) with
  | error f => rfl
  | ok bounds =>
    cases (declaredMissing b t (b.isUnsigned t) s (noteName name)).outcome with
    | error f => rfl
    | ok missing => rfl

/-- Missing values that can be read are all that an extraction with them has more than one
without. -/
theorem outcome_extract_of_declaredMissing (hab : a.AgreeBut .missingValue b)
    (hnone : b.given? .missingValue = none) {xs : List Double}
    (hmissing : (declaredMissing a t (a.isUnsigned t) s (noteName name)).outcome
      = .ok (some xs)) :
    (extract a t scaling name).outcome = (extract b t scaling name).outcome.map fun d =>
      { d with candidates := some xs } := by
  have hunsigned := isUnsigned_eq_of_agreeBut (t := t) hab .missingValue
  have hnone' := outcome_declaredMissing_of_not_given (t := t) hnone (b.isUnsigned t) s
    (noteName name)
  have hfill := declaredFill_congr (hab .fillValue (by decide)) t (b.isUnsigned t) s
    (noteName name)
  rw [hunsigned] at hmissing
  rw [outcome_extract, outcome_extract, ← inForce_eq_of_agreeBut hab .missingValue, hs,
    declaredBounds_eq_of_agreeBut hab .missingValue, hunsigned]
  simp only [bind, Except.bind, hmissing, hnone', hfill]
  cases declaredBounds b t (b.isUnsigned t) with
  | error f => rfl
  | ok bounds =>
    cases (declaredFill b t (b.isUnsigned t) s (noteName name)).outcome with
    | error f => rfl
    | ok fill => rfl

end Sentinel

end MissingSamples
