/-
# Masking variables that are packed

Masking a packed variable reads the packing twice: once for the policy, from the attributes
together with the encoding, and once for the samples, from the attributes alone. If the encoding
says nothing of packing, both read the same, and masking comes down to one map on single samples:
a sample is read as it is meant, unpacked, and then converted by the policy.

* `Variable.find?_allAttributes` says what is in force under a name;
* `Variable.outcome_policyFor_eq_ok_iff` takes the making of the policy apart;
* `Variable.unpack_eq` says what unpacking gives, sample by sample;
* `Variable.outcome_maskMissing_of_isPacked` says what masking gives.
-/
import MissingSamples.Proofs.Extraction
import MissingSamples.Proofs.Extraction.Agreement
import MissingSamples.Proofs.Policy.Conversion
import MissingSamples.Proofs.Scaling
import MissingSamples.Variable

namespace MissingSamples

namespace Variable

variable (v : Variable)

/-! ## What is in force -/

/-- What an attribute stands for that may stand in the encoding instead. -/
def inForce (c : Convention) : Option Value :=
  (v.attributes.find? c.name).or (v.encoding.find? c.name)

/-- The encoding says nothing of how the samples are packed. -/
def PackedByAttributes : Prop := ∀ c ∈ Convention.packing, v.encoding.has c.name = false

/-- Samples of the variable are integers that are unsigned or meant to be. -/
def isUnsigned : Bool := v.attributes.isUnsigned v.data.type

/-- The bounds that the variable declares. -/
def declaredBounds : Except Failure Bounds :=
  MissingSamples.declaredBounds v.allAttributes v.data.type v.isUnsigned

/-- The fill value that the variable declares, unpacked. -/
def declaredFill (s : Scaling) : Report (Option Double) :=
  MissingSamples.declaredFill v.allAttributes v.data.type v.isUnsigned s (noteName v.name)

/-- The missing values that the variable declares, unpacked. -/
def declaredMissing (s : Scaling) : Report (Option (List Double)) :=
  MissingSamples.declaredMissing v.allAttributes v.data.type v.isUnsigned s (noteName v.name)

lemma find?_allAttributes (c : Convention) :
    v.allAttributes.find? c.name
      = if c ∈ Convention.encoded then v.inForce c else v.attributes.find? c.name := by
  have hnames : (Convention.encoded.map Convention.name).contains c.name
      = decide (c ∈ Convention.encoded) := by
    cases c <;> rfl
  rw [allAttributes, Attributes.find?_merge, Attributes.find?_only, hnames, inForce]
  by_cases hc : c ∈ Convention.encoded <;> simp [hc]

lemma find?_allAttributes_of_packing {v : Variable} (h : v.PackedByAttributes) {c : Convention}
    (hc : c ∈ Convention.packing) : v.allAttributes.find? c.name = v.attributes.find? c.name := by
  have hnone := Attributes.has_eq_false_iff.1 (h c hc)
  rw [find?_allAttributes, inForce, hnone, Option.or_none, ite_self]

section Packing

variable {v}

lemma scaling_allAttributes (h : v.PackedByAttributes) :
    Scaling.ofAttributes v.allAttributes = Scaling.ofAttributes v.attributes :=
  Scaling.ofAttributes_congr (find?_allAttributes_of_packing h (by decide))
    (find?_allAttributes_of_packing h (by decide))

lemma isUnsigned_allAttributes (h : v.PackedByAttributes) (t : ElementType) :
    v.allAttributes.isUnsigned t = v.attributes.isUnsigned t :=
  Attributes.isUnsigned_congr (find?_allAttributes_of_packing h (by decide)) t

/-! ## The policy of a packed variable -/

lemma rawType_of_isPacked (h : v.isPacked = true) : v.rawType = .ok v.data.type := by
  simp only [isPacked, Bool.and_eq_true, Bool.not_eq_true', Attributes.has_eq_false_iff] at h
  rw [rawType, h.1.1]

/-- The policy of a packed variable is put together from the packing, the bounds, the fill value and
the missing values, which are read in turn. -/
lemma outcome_policyFor (h : v.isPacked = true) (he : v.PackedByAttributes) (flags : ModeFlags) :
    (v.policyFor flags).outcome = (do
      let s ← Scaling.ofAttributes v.attributes
      let b ← v.declaredBounds
      let fill ← (v.declaredFill s).outcome
      let missing ← (v.declaredMissing s).outcome
      return .make flags (assembled v.data.type v.isUnsigned s b fill missing)) := by
  simp only [policyFor, policyOfAttributes, rawType_of_isPacked h, Report.outcome_bind,
    Report.outcome_liftM, outcome_extract, Scaling.inForce_none, scaling_allAttributes he,
    isUnsigned_allAttributes he, bind_assoc, pure_bind]
  rfl

/-- The policy of a packed variable can be made if all of its parts can be read. -/
theorem outcome_policyFor_eq_ok_iff (h : v.isPacked = true) (he : v.PackedByAttributes)
    {flags : ModeFlags} {p : Policy} :
    (v.policyFor flags).outcome = .ok p ↔
      ∃ s b fill missing, Scaling.ofAttributes v.attributes = .ok s ∧
        v.declaredBounds = .ok b ∧ (v.declaredFill s).outcome = .ok fill ∧
        (v.declaredMissing s).outcome = .ok missing ∧
        p = .make flags (assembled v.data.type v.isUnsigned s b fill missing) := by
  have hpolicy : (v.policyFor flags).outcome
      = (policyOfAttributes v.allAttributes v.data.type flags none v.name).outcome := by
    rw [policyFor, Report.outcome_bind, Report.outcome_liftM, rawType_of_isPacked h]
    rfl
  rw [hpolicy, outcome_policyOfAttributes_eq_ok_iff, scaling_allAttributes he,
    isUnsigned_allAttributes he]
  rfl

end Packing

/-! ## Samples unpacked -/

/-- The number that is meant by a stored one. -/
def meant (x : Sample) : Sample := x.meant v.isUnsigned v.data.type

/-- The stored number as a double in unpacked units. -/
def unpackedNumber (s : Scaling) (x : Sample) : Double := s.apply (v.meant x).number

lemma map_unpackedNumber (s : Scaling) (xs : List Sample) :
    ((xs.map (Sample.meant v.isUnsigned v.data.type)).map Sample.number).map s.apply
      = xs.map (v.unpackedNumber s) := by
  induction xs with
  | nil => rfl
  | cons x rest ih => rw [List.map_cons, List.map_cons, List.map_cons, ih, List.map_cons,
      unpackedNumber, meant]

/-- What masking leaves of one sample. -/
lemma getElem?_converted (s : Scaling) (p : Policy) {xs : List Sample} {i : Nat} {x : Sample}
    (hi : xs[i]? = some x) :
    ((xs.map (v.unpackedNumber s)).map p.convert)[i]?
      = some (p.convert (v.unpackedNumber s x)) := by
  rw [List.getElem?_map, List.getElem?_map, hi, Option.map_some, Option.map_some]

variable {v}

/-- Unpacking a variable unpacks every sample of it. -/
theorem unpack_eq {s : Scaling} (hs : Scaling.ofAttributes v.attributes = .ok s)
    {xs : List Sample} (hx : v.data.elements.samples? = some xs) :
    v.unpack = .ok (v.unpacked (.ofDoubles v.data.shape (xs.map (v.unpackedNumber s)))) := by
  have hraw : ((v.data.toUnsigned v.isUnsigned).result v.data).elements.samples?
      = some (xs.map (Sample.meant v.isUnsigned v.data.type)) := by
    rw [Grid.elements_toUnsigned, Elements.samples?_toUnsigned hx, Grid.type]
  obtain ⟨change, happly, hresult⟩ := s.result_applyValue (Elements.numbers?_of_samples? hraw)
  rw [Grid.shape_toUnsigned, map_unpackedNumber] at hresult
  rw [isUnsigned] at happly hresult
  simp only [unpack, hs, happly, hresult, bind, Except.bind, pure, Except.pure]

/-- Masking a packed variable, by a policy that could be made, unpacks and converts every sample by
itself. -/
theorem outcome_maskMissing_of_isPacked (hpacked : v.isPacked = true) {flags : ModeFlags}
    {p : Policy} (hp : (v.policyFor flags).outcome = .ok p) {s : Scaling}
    (hs : Scaling.ofAttributes v.attributes = .ok s) {xs : List Sample}
    (hx : v.data.elements.samples? = some xs) :
    (v.maskMissing flags).outcome = .ok (.made (v.unpacked
      (.ofDoubles v.data.shape ((xs.map (v.unpackedNumber s)).map p.convert)))) := by
  have hconvert : ∀ ys : List Double,
      (p.convertMissing (⟨v.data.shape, .floats .float64 ys⟩ : Grid Value)).result _ = _ :=
    p.result_convertMissing_floats v.data.shape .float64
  simp only [maskMissing, maskWith, hpacked, unpack_eq hs hx, Report.outcome_bind, hp,
    Report.outcome_liftM, Report.outcome_note, if_true]
  simp only [bind, Except.bind, Report.outcome_pure, withData, unpacked, Grid.ofDoubles, hconvert]

end Variable

end MissingSamples
