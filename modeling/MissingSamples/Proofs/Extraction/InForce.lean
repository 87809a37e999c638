/-
# Attributes in force

Of the eight attributes that extraction knows, some have no say. A valid range of several elements
hides the attributes for one bound each, a packing that is given hides those for scale and offset,
and the mark of unsigned integers is asked of signed integers only. What is hidden is not even read:
whatever stands there, extraction gives the same result, and fails in the same way.

* `Attributes.InForce` says which attributes have a say;
* `declaredBounds_eq_of_isSeveral` says that a valid range of several elements is all that is read
  of the bounds;
* `extractValue_eq_of_inForce` compares mappings that hold the same under the attributes in force.
-/
import MissingSamples.Proofs.Extraction
import MissingSamples.Proofs.Extraction.Agreement

namespace MissingSamples

/-- The value is no text, and the grid that it makes has more than one element. A list whose members
make no grid together is such a value too. -/
def Value.IsSeveral (v : Value) : Prop :=
  v.isString = false ∧ ∀ g, v.asGrid = .ok g → 1 < g.size

/-- There is a valid range of several elements, which hides the attributes for one bound each. -/
def Attributes.HidesSingleBounds (a : Attributes) : Prop :=
  ∃ v, a.find? Convention.validRange.name = some v ∧ v.IsSeveral

/-- The attribute has a say in what is extracted for a variable of the type, beside a packing that
may be given. -/
inductive Attributes.InForce (a : Attributes) (t : ElementType) (scaling : Option Scaling) :
    Convention → Prop
  /-- The valid range always has. -/
  | validRange : InForce a t scaling .validRange
  /-- The lower bound has unless the valid range hides it. -/
  | validMin : ¬ a.HidesSingleBounds → InForce a t scaling .validMin
  /-- So has the upper bound. -/
  | validMax : ¬ a.HidesSingleBounds → InForce a t scaling .validMax
  /-- The fill value always has. -/
  | fillValue : InForce a t scaling .fillValue
  /-- The missing values always have. -/
  | missingValue : InForce a t scaling .missingValue
  /-- The scale has unless a packing is given. -/
  | scaleFactor : scaling = none → InForce a t scaling .scaleFactor
  /-- So has the offset. -/
  | addOffset : scaling = none → InForce a t scaling .addOffset
  /-- The mark of unsigned integers has for signed integers. -/
  | unsigned : t.isSignedInt = true → InForce a t scaling .unsigned

/-! ## A range that hides the bounds -/

section Bounds

variable {a b : Attributes} {v : Value}

lemma numeric?_of_isSeveral (ha : a.find? Convention.validRange.name = some v)
    (hv : v.IsSeveral) : a.numeric? .validRange = some v := by
  refine Attributes.numeric?_of_find? ha ?_ hv.1
  rintro rfl
  exact absurd (hv.2 ⟨[], .objects [.null]⟩ rfl) (by decide)

/-- A valid range of several elements gives bounds or fails. -/
lemma rangeBounds_ne_ok_none (ha : a.find? Convention.validRange.name = some v)
    (hv : v.IsSeveral) (t : ElementType) (unsigned : Bool) :
    rangeBounds a t unsigned ≠ .ok none := by
  intro h
  simp only [rangeBounds, numeric?_of_isSeveral ha hv] at h
  obtain ⟨g, hg, h⟩ := Report.bind_eq_ok_iff.1 h
  obtain ⟨g', hg', hsize⟩ := exists_asGrid_of_sentinelGrid hg
  rw [if_pos (hsize ▸ hv.2 g' hg')] at h
  obtain ⟨low, -, h⟩ := Report.bind_eq_ok_iff.1 h
  obtain ⟨high, -, h⟩ := Report.bind_eq_ok_iff.1 h
  cases h

/-- Beside a valid range of several elements, nothing else is read of the bounds. -/
theorem declaredBounds_eq_of_isSeveral (ha : a.find? Convention.validRange.name = some v)
    (hb : b.find? Convention.validRange.name = some v) (hv : v.IsSeveral) (t : ElementType)
    (unsigned : Bool) : declaredBounds a t unsigned = declaredBounds b t unsigned := by
  have hrange : rangeBounds b t unsigned = rangeBounds a t unsigned := by
    simp only [rangeBounds, numeric?_of_isSeveral ha hv, numeric?_of_isSeveral hb hv]
  have hsome := rangeBounds_ne_ok_none ha hv t unsigned
  rw [declaredBounds, declaredBounds, hrange]
  cases hbounds : rangeBounds a t unsigned with
  | error f => rfl
  | ok bounds =>
    cases bounds with
    | none => exact absurd hbounds hsome
    | some bounds => rfl

end Bounds

/-! ## Extraction -/

section InForce

variable {a b : Attributes} {t : ElementType} {scaling : Option Scaling}
  (h : ∀ c, a.InForce t scaling c → a.find? c.name = b.find? c.name)
include h

lemma declaredBounds_eq_of_inForce (unsigned : Bool) :
    declaredBounds a t unsigned = declaredBounds b t unsigned := by
  have hrange := h .validRange .validRange
  by_cases hhidden : a.HidesSingleBounds
  · obtain ⟨v, ha, hv⟩ := hhidden
    exact declaredBounds_eq_of_isSeveral ha (hrange ▸ ha) hv t unsigned
  · exact declaredBounds_congr hrange (h .validMin (.validMin hhidden))
      (h .validMax (.validMax hhidden)) t unsigned

lemma isUnsigned_eq_of_inForce : a.isUnsigned t = b.isUnsigned t := by
  cases hsigned : t.isSignedInt with
  | true => exact Attributes.isUnsigned_congr (h .unsigned (.unsigned hsigned)) t
  | false => exact Attributes.isUnsigned_eq_of_not_isSignedInt hsigned

/-- Attributes that hold the same wherever a say is had declare the same and leave the same notes,
or fail for the same reason. -/
theorem extract_eq_of_inForce (name : Option String) :
    extract a t scaling name = extract b t scaling name :=
  extract_eq_of_parts
    (fun hnone => Scaling.ofAttributes_congr (h .scaleFactor (.scaleFactor hnone))
      (h .addOffset (.addOffset hnone)))
    (isUnsigned_eq_of_inForce h) (declaredBounds_eq_of_inForce h)
    (declaredFill_congr (h .fillValue .fillValue) t)
    (declaredMissing_congr (h .missingValue .missingValue) t) name

end InForce

/-- Two mappings that hold the same under the attributes in force are extracted alike: whatever else
they hold, well-formed or not, under other names or under names of attributes that are hidden, the
result is the same, the notes are the same, and so is any failure. -/
theorem extractValue_eq_of_inForce {attributes others typeName : Value} {a b : Attributes}
    {scaling : Option Scaling} (ha : attributes.attributes? = some a)
    (hb : others.attributes? = some b)
    (h : ∀ t, typeName.namedType = .ok t →
      ∀ c, a.InForce t scaling c → a.find? c.name = b.find? c.name)
    (name : Option String) :
    extractValue attributes typeName scaling name = extractValue others typeName scaling name := by
  unfold extractValue
  rw [ha, hb]
  cases ht : typeName.namedType with
  | error f => cases f <;> rfl
  | ok t => exact extract_eq_of_inForce (h t ht) name

/-- A valid range and a missing value of octets without sign. -/
def rangeOfOctets : List (Value × Value) :=
  [(.text "valid_range", .list [.int 0, .int 200]), (.text "missing_value", .int 255)]

/-- Lists and texts that cannot be read, each under a name that has no say. -/
def hiddenEntries : List (Value × Value) :=
  [(.text "valid_min", .list []), (.text "scale_factor", .list [.text "two"]),
    (.text "_Unsigned", .grid ⟨[0], .bools []⟩), (.text "units", .null)]

theorem extractValue_eq_of_inForce_of_octets :
    extractValue (.mapping rangeOfOctets) (.text "uint8") (some {}) none
        = extractValue (.mapping (hiddenEntries ++ rangeOfOctets)) (.text "uint8") (some {}) none ∧
      ∃ d, (extractValue (.mapping rangeOfOctets) (.text "uint8") (some {}) none).outcome = .ok d ∧
        d.validMax = 200 := by
  refine ⟨extractValue_eq_of_inForce rfl rfl ?_ none, _, rfl, by decide +kernel⟩
  have hrange : Value.IsSeveral (.list [.int 0, .int 200]) := by
    refine ⟨rfl, fun g hg => ?_⟩
    cases hg
    decide
  rintro t ht c hc
  cases ht
  cases hc with
  | validMin hshown => exact absurd ⟨_, rfl, hrange⟩ hshown
  | validMax => rfl
  | scaleFactor hnone => cases hnone
  | addOffset hnone => cases hnone
  | unsigned hsigned => cases hsigned
  | _ => rfl

end MissingSamples
