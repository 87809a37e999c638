/-
# Thresholds and samples unpacked by two packings

The packing of a packed variable is read twice. Its thresholds are unpacked by what the attributes
say together with the encoding, its samples by what the attributes say alone. The two agree as long
as the encoding holds nothing of the packing that the attributes lack. Where it does, as it may
while no type is recorded there, thresholds and samples end up in different units, and a sample
that is stored as the fill value is kept.

* `Variable.outcome_policyFor_eq_policyUnder` and `Variable.unpack_eq_unpackedUnder` say by what
  each of the two is unpacked;
* `Variable.thresholds_agree_with_samples_iff` says exactly when the two packings agree;
* `Variable.thresholds_disagree_with_samples` is a variable where they do not.
-/
import MissingSamples.Proofs.Variable.Packed

namespace MissingSamples

/-! ## One factor of a packing -/

/-- The first number of an attribute, and the neutral one if there is no attribute that counts. -/
def Scaling.factorOr (neutral : Double) : Option Value → Except Failure Double
  | none => .ok neutral
  | some v => (factor v).map (·.1)

/-- A scaling has the first numbers of its two attributes. -/
lemma Scaling.factors_of_ofAttributes {a : Attributes} {s : Scaling} (h : ofAttributes a = .ok s) :
    factorOr 1 (a.numeric? .scaleFactor) = .ok s.scale ∧
      factorOr 0 (a.numeric? .addOffset) = .ok s.offset := by
  rw [ofAttributes] at h
  -- a factor that is there is read and takes the place of the neutral one
  cases hscale : a.numeric? .scaleFactor with
  | none =>
    cases hoffset : a.numeric? .addOffset with
    | none =>
      simp only [hscale, hoffset] at h
      cases h
      exact ⟨rfl, rfl⟩
    | some v =>
      simp only [hscale, hoffset] at h
      obtain ⟨_, ⟨⟩, h⟩ := Report.bind_eq_ok_iff.1 h
      obtain ⟨⟨offset, type⟩, hfactor, h⟩ := Report.bind_eq_ok_iff.1 h
      cases h
      rw [factorOr, factorOr, hfactor]
      exact ⟨rfl, rfl⟩
  | some w =>
    simp only [hscale] at h
    obtain ⟨⟨scale, type⟩, hfactor, h⟩ := Report.bind_eq_ok_iff.1 h
    cases hoffset : a.numeric? .addOffset with
    | none =>
      simp only [hoffset] at h
      cases h
      rw [factorOr, factorOr, hfactor]
      exact ⟨rfl, rfl⟩
    | some v =>
      simp only [hoffset] at h
      obtain ⟨_, ⟨⟩, h⟩ := Report.bind_eq_ok_iff.1 h
      obtain ⟨⟨offset, type'⟩, hfactor', h⟩ := Report.bind_eq_ok_iff.1 h
      cases h
      rw [factorOr, factorOr, hfactor, hfactor']
      exact ⟨rfl, rfl⟩

/-! ## The mark of unsigned integers -/

lemma isUnsignedMark_null : isUnsignedMark .null = false := by
  have hnone : flagText .null = "None" := by
    simp [flagText, Value.shown, Value.quoted]
  rw [isUnsignedMark, hnone]
  decide +kernel

/-- Without the mark, integers are unsigned if their type says so. -/
lemma Attributes.isUnsigned_of_not_has {a : Attributes}
    (h : a.has Convention.unsigned.name = false) (t : ElementType) :
    a.isUnsigned t = match t with
      | .int i => !i.signed
      | _ => false := by
  rw [has_eq_false_iff] at h
  cases t with
  | int i => rw [isUnsigned, h, Option.getD_none, isUnsignedMark_null, Bool.or_false]
  | _ => rfl

namespace Variable

variable (v : Variable)

/-! ## Which packing is read -/

/-- The policy of the variable, with its thresholds unpacked by the scaling and read as unsigned or
not. -/
def policyUnder (flags : ModeFlags) (s : Scaling) (unsigned : Bool) : Except Failure Policy := do
  let b ← MissingSamples.declaredBounds v.allAttributes v.data.type unsigned
  let fill ← (MissingSamples.declaredFill v.allAttributes v.data.type unsigned s
    (noteName v.name)).outcome
  let missing ← (MissingSamples.declaredMissing v.allAttributes v.data.type unsigned s
    (noteName v.name)).outcome
  return .make flags (assembled v.data.type unsigned s b fill missing)

/-- The variable with the samples unpacked by the scaling and read as unsigned or not. -/
def unpackedUnder (xs : List Sample) (s : Scaling) (unsigned : Bool) : Variable :=
  v.unpacked (.ofDoubles v.data.shape
    (xs.map fun x => s.apply (x.meant unsigned v.data.type).number))

section Readings

variable {v}

theorem outcome_policyFor_eq_policyUnder (h : v.isPacked = true) {s : Scaling}
    (hs : Scaling.ofAttributes v.allAttributes = .ok s) (flags : ModeFlags) :
    (v.policyFor flags).outcome
      = v.policyUnder flags s (v.allAttributes.isUnsigned v.data.type) := by
  simp only [policyFor, policyOfAttributes, rawType_of_isPacked h, Report.outcome_bind,
    Report.outcome_liftM, outcome_extract, Scaling.inForce_none, hs, bind_assoc, pure_bind]
  rfl

theorem unpack_eq_unpackedUnder {s : Scaling} (hs : Scaling.ofAttributes v.attributes = .ok s)
    {xs : List Sample} (hx : v.data.elements.samples? = some xs) :
    v.unpack = .ok (v.unpackedUnder xs s (v.attributes.isUnsigned v.data.type)) :=
  unpack_eq hs hx

/-- What the attributes hold hides the encoding. -/
lemma find?_allAttributes_of_has {c : Convention} (h : v.attributes.has c.name = true) :
    v.allAttributes.find? c.name = v.attributes.find? c.name := by
  obtain ⟨x, hx⟩ := Option.isSome_iff_exists.1 h
  rw [find?_allAttributes, inForce, hx, Option.some_or, ite_self]

/-- What the attributes lack of the packing is read from the encoding. -/
lemma find?_allAttributes_of_not_has {c : Convention} (hc : c ∈ Convention.packing)
    (h : v.attributes.has c.name = false) :
    v.allAttributes.find? c.name = v.encoding.find? c.name := by
  have hencoded : c ∈ Convention.encoded := by
    revert hc
    cases c <;> decide
  rw [Attributes.has_eq_false_iff] at h
  rw [find?_allAttributes, if_pos hencoded, inForce, h, Option.none_or]

/-- One factor of the packing is the same for thresholds and samples if the attributes hold it, or
if the one in the encoding is neutral. -/
lemma factor_agrees_iff {c : Convention} (hc : c ∈ Convention.packing) {neutral x y : Double}
    (hall : Scaling.factorOr neutral (v.allAttributes.numeric? c) = .ok x)
    (hown : Scaling.factorOr neutral (v.attributes.numeric? c) = .ok y) :
    x = y ↔ v.attributes.has c.name = true ∨
      Scaling.factorOr neutral (v.encoding.numeric? c) = .ok neutral := by
  cases hhas : v.attributes.has c.name with
  | true =>
    rw [Attributes.numeric?_congr (find?_allAttributes_of_has hhas), hown, Except.ok.injEq] at hall
    exact iff_of_true hall.symm (Or.inl rfl)
  | false =>
    have hnone := Attributes.numeric?_eq_none (Attributes.has_eq_false_iff.1 hhas)
    obtain rfl : neutral = y := by
      rw [hnone] at hown
      exact Except.ok.inj hown
    rw [Attributes.numeric?_congr (find?_allAttributes_of_not_has hc hhas)] at hall
    rw [hall, Except.ok.injEq]
    simp

/-- Integers are meant alike by thresholds and samples if the attributes hold the mark, or if the
one in the encoding makes no integers with a sign unsigned. -/
lemma isUnsigned_agrees_iff (t : ElementType) :
    v.allAttributes.isUnsigned t = v.attributes.isUnsigned t ↔
      v.attributes.has Convention.unsigned.name = true ∨
        (t.isSignedInt = true → v.encoding.isUnsigned t = false) := by
  cases hhas : v.attributes.has Convention.unsigned.name with
  | true =>
    exact iff_of_true (Attributes.isUnsigned_congr (find?_allAttributes_of_has hhas) t)
      (Or.inl rfl)
  | false =>
    rw [Attributes.isUnsigned_congr (find?_allAttributes_of_not_has (by decide) hhas),
      Attributes.isUnsigned_of_not_has hhas]
    cases t with
    | int i => cases hsigned : i.signed <;> simp [ElementType.isSignedInt, Attributes.isUnsigned,
        hsigned]
    | _ => simp [ElementType.isSignedInt, Attributes.isUnsigned]

/-- The thresholds of a packed variable are unpacked by what is in force, and its samples by what
the attributes alone say. Scale, offset and sign are each the same for both exactly if the
attributes hold the one in question, or if what the encoding says of it has no effect. -/
theorem thresholds_agree_with_samples_iff (hpacked : v.isPacked = true) {s r : Scaling}
    (hs : Scaling.ofAttributes v.allAttributes = .ok s)
    (hr : Scaling.ofAttributes v.attributes = .ok r) {xs : List Sample}
    (hx : v.data.elements.samples? = some xs) :
    (∀ flags, (v.policyFor flags).outcome
      = v.policyUnder flags s (v.allAttributes.isUnsigned v.data.type)) ∧
    v.unpack = .ok (v.unpackedUnder xs r (v.attributes.isUnsigned v.data.type)) ∧
    (s.scale = r.scale ↔ v.attributes.has Convention.scaleFactor.name = true ∨
      Scaling.factorOr 1 (v.encoding.numeric? .scaleFactor) = .ok 1) ∧
    (s.offset = r.offset ↔ v.attributes.has Convention.addOffset.name = true ∨
      Scaling.factorOr 0 (v.encoding.numeric? .addOffset) = .ok 0) ∧
    (v.allAttributes.isUnsigned v.data.type = v.attributes.isUnsigned v.data.type ↔
      v.attributes.has Convention.unsigned.name = true ∨
        (v.data.type.isSignedInt = true → v.encoding.isUnsigned v.data.type = false)) := by
  obtain ⟨hscale, hoffset⟩ := Scaling.factors_of_ofAttributes hs
  obtain ⟨hscale', hoffset'⟩ := Scaling.factors_of_ofAttributes hr
  refine ⟨outcome_policyFor_eq_policyUnder hpacked hs, unpack_eq_unpackedUnder hr hx, ?_, ?_, ?_⟩
  · exact factor_agrees_iff (by decide) hscale hscale'
  · exact factor_agrees_iff (by decide) hoffset hoffset'
  · exact isUnsigned_agrees_iff v.data.type

end Readings

/-- Integers with their scale among the attributes and their offset in the encoding. The first is
stored as the fill value. -/
def splitPacking (offset : Double) : Variable where
  name := some "depth"
  dims := ["x"]
  data := ⟨[2], .ints ⟨true, .w16, .little⟩ [5, 6]⟩
  attributes := ⟨[("_FillValue", .scalar (.int ⟨true, .w16, .little⟩ 5)), ("scale_factor", .float 2),
    ("_Unsigned", .text "false")]⟩
  encoding := ⟨[("add_offset", .float offset)]⟩

/-- An offset in the encoding that changes nothing does no harm. -/
theorem thresholds_agree_with_samples_of_zero_offset :
    ∃ s r : Scaling, Scaling.ofAttributes (splitPacking 0).allAttributes = .ok s ∧
      Scaling.ofAttributes (splitPacking 0).attributes = .ok r ∧
      s.scale = r.scale ∧ s.offset = r.offset := by
  have hs : Scaling.ofAttributes (splitPacking 0).allAttributes = .ok ⟨2, 0, some .float64⟩ := by
    decide +kernel
  have hr : Scaling.ofAttributes (splitPacking 0).attributes = .ok ⟨2, 0, some .float64⟩ := by
    decide +kernel
  have hx : (splitPacking 0).data.elements.samples? = some [.int 5, .int 6] := rfl
  obtain ⟨-, -, hscale, hoffset, -⟩ :=
    thresholds_agree_with_samples_iff (by decide +kernel) hs hr hx
  refine ⟨_, _, hs, hr, hscale.2 (Or.inl ?_), hoffset.2 (Or.inr ?_)⟩
  · decide +kernel
  · decide +kernel

/-- An offset that only the encoding holds moves the thresholds and not the samples: the fill value
becomes 20, while the sample that is stored as the fill value becomes 10 and is kept. -/
theorem thresholds_disagree_with_samples :
    (∃ p, ((splitPacking 10).policyFor {}).outcome = .ok p ∧ p.declared.fillValue = 20 ∧
      ((splitPacking 10).maskMissing {}).outcome
        = .ok (.made ((splitPacking 10).unpacked (.ofDoubles [2] [10, 12])))) ∧
    ¬∀ (v : Variable) (s r : Scaling), v.isPacked = true →
      Scaling.ofAttributes v.allAttributes = .ok s → Scaling.ofAttributes v.attributes = .ok r →
        s.scale = r.scale ∧ s.offset = r.offset ∧
          v.allAttributes.isUnsigned v.data.type = v.attributes.isUnsigned v.data.type := by
  have hpacked : (splitPacking 10).isPacked = true := by
    decide +kernel
  have hs : Scaling.ofAttributes (splitPacking 10).allAttributes
      = .ok ⟨2, 10, some .float64⟩ := by
    decide +kernel
  have hr : Scaling.ofAttributes (splitPacking 10).attributes = .ok ⟨2, 0, some .float64⟩ := by
    decide +kernel
  have hx : (splitPacking 10).data.elements.samples? = some [.int 5, .int 6] := rfl
  constructor
  · obtain ⟨p, hp⟩ := Report.exists_eq_ok
      (show ((splitPacking 10).policyFor {}).outcome.isOk = true by decide +kernel)
    have hfields : ((splitPacking 10).policyFor {}).outcome.map (fun p => (p.flags, p.declared))
        = .ok ({}, { hasFillValue := true, fillValue := 20 }) := by
      decide +kernel
    rw [hp, Except.map, Except.ok.injEq, Prod.mk.injEq] at hfields
    obtain ⟨hflags, hdeclared⟩ := hfields
    have hsamples : ([.int 5, .int 6].map ((splitPacking 10).unpackedNumber
        ⟨2, 0, some .float64⟩)).map p.convert = [10, 12] := by
      rw [p.eq_make, hflags, hdeclared]
      decide +kernel
    refine ⟨p, hp, by rw [hdeclared], ?_⟩
    rw [outcome_maskMissing_of_isPacked hpacked hp hr hx, hsamples]
    rfl
  · intro h
    have hoffset := (h _ _ _ hpacked hs hr).2.1
    exact absurd hoffset (by decide +kernel)

end Variable

end MissingSamples
