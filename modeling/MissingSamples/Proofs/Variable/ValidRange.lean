/-
# Unpacking keeps valid samples valid

Both bounds of a packed variable are unpacked as its samples are. Rounded multiplication and
addition keep order, or reverse it where the scale is negative and the bounds are put back in
order, and the tolerance only moves the bounds outward. So a sample that lies between the bounds as
it is stored lies between them once all are unpacked, even where they overflow to infinities.

* `Variable.DeclaresRange` says which bounds a variable declares;
* `Policy.isMissing_of_between` says that what lies between the bounds is not missing;
* `Variable.maskMissing_between` says that masking keeps the samples between the bounds.
-/
import MissingSamples.Proofs.Policy.ValidRange
import MissingSamples.Proofs.Variable.Packed

namespace MissingSamples

open Double

/-! ## The valid range of a policy -/

/-- The flags under which only samples outside the valid range are missing. -/
def ModeFlags.validRangeOnly : ModeFlags := ⟨false, true, false⟩

/-- Under the rule for the valid range alone, a sample is missing if it is no number, or if there is
a bound and it is invalid. -/
lemma Policy.isMissing_of_validRangeOnly {p : Policy} (hflags : p.flags = .validRangeOnly)
    (x : Double) : p.isMissing x = (x.isNaN || (p.hasValidData && p.isInvalid x)) := by
  cases hx : x.isNaN <;>
    simp [isMissing_eq_or, isInvalid, hflags, ModeFlags.validRangeOnly, hx]

/-- What lies between the bounds is not missing, if no other rule is on. -/
lemma Policy.isMissing_of_between {d : Declaration} {x : Double} (hmin : d.validMin.le x = true)
    (hmax : x.le d.validMax = true) :
    (Policy.make .validRangeOnly d).isMissing x = false := by
  have hnan : x.isNaN = false := (le_iff.1 hmin).2.1
  rw [isMissing_of_validRangeOnly rfl, hnan, isInvalid_of_between hmin hmax, Bool.and_false,
    Bool.or_false]

/-! ## Bounds of the samples' own type -/

/-- Whatever lies between two unpacked numbers, in either order, lies between the bounds that are
declared from the two. -/
lemma between_declareBounds {t bound : ElementType} {s : Scaling} (hrank : bound.rank = t.rank)
    {lo hi x : Double}
    (h : ((s.apply lo).le x = true ∧ x.le (s.apply hi) = true) ∨
      ((s.apply hi).le x = true ∧ x.le (s.apply lo) = true)) :
    (declareBounds t s ⟨some lo, some hi, some bound⟩).validMin.le x = true ∧
      x.le (declareBounds t s ⟨some lo, some hi, some bound⟩).validMax = true := by
  simp only [declareBounds, storedUnpacked_of_rank_eq s hrank, Option.map_some, Option.getD_some,
    Option.isSome_some, Bool.true_or, Bool.true_and, Bool.false_eq_true, if_false]
  cases hswap : (s.apply hi).lt (s.apply lo) with
  | true =>
    rcases h with ⟨hlo, hhi⟩ | h
    · -- the two are in order and out of order at once
      rw [lt_eq_false_of_le (le_trans hlo hhi)] at hswap
      exact absurd hswap Bool.false_ne_true
    · exact h
  | false =>
    rcases h with h | ⟨hhi, hlo⟩
    · exact h
    · -- the two are the same number
      have hle : (s.apply lo).le (s.apply hi) = true :=
        le_of_lt_eq_false (le_iff.1 hlo).2.1 (le_iff.1 hhi).1 hswap
      exact ⟨le_trans hle hhi, le_trans hlo hle⟩

/-- Unpacking by a finite scale other than zero and a finite offset leaves a number between two
others, in the order of the two or in the reverse. -/
lemma Scaling.between_apply {s : Scaling} (hscale : s.scale.isFinite = true)
    (hnonzero : s.scale.isZero = false) (hoffset : s.offset.isFinite = true) {lo hi x : Double}
    (hlo : lo.le x = true) (hhi : x.le hi = true) :
    ((s.apply lo).le (s.apply x) = true ∧ (s.apply x).le (s.apply hi) = true) ∨
      ((s.apply hi).le (s.apply x) = true ∧ (s.apply x).le (s.apply lo) = true) := by
  have hne : s.scale.level ≠ 0 := by
    intro h0
    rw [level_eq_zero_iff hscale, hnonzero] at h0
    exact Bool.false_ne_true h0
  rcases lt_or_gt_of_ne hne with hneg | hpos
  · cases hpacked : s.isPacked with
    | true =>
      right
      exact ⟨s.apply_le_apply_of_neg hscale hneg hoffset hpacked hhi,
        s.apply_le_apply_of_neg hscale hneg hoffset hpacked hlo⟩
    | false =>
      left
      simp only [Scaling.apply, hpacked, Bool.false_eq_true, if_false]
      exact ⟨hlo, hhi⟩
  · left
    exact ⟨s.apply_le_apply hscale hpos hoffset hlo, s.apply_le_apply hscale hpos hoffset hhi⟩

/-! ## The valid range of a packed variable -/

namespace Variable

/-- The variable declares the two bounds in the type of its samples: by the attribute for both, or,
if that declares none, by the attributes for one each. -/
inductive DeclaresRange (v : Variable) (lo hi : Sample) : Prop
  /-- The attribute for both bounds has two entries or more. -/
  | both {value : Value} {rest : List Sample}
    (found : v.attributes.find? Convention.validRange.name = some value)
    (entries : OwnEntries v.data.type value (lo :: hi :: rest))
  /-- The attributes for one bound each have an entry or more. -/
  | each {low high : Value} {restLow restHigh : List Sample}
    (noRange : rangeBounds v.attributes v.data.type v.isUnsigned = .ok none)
    (foundLow : v.attributes.find? Convention.validMin.name = some low)
    (entriesLow : OwnEntries v.data.type low (lo :: restLow))
    (foundHigh : v.attributes.find? Convention.validMax.name = some high)
    (entriesHigh : OwnEntries v.data.type high (hi :: restHigh))

variable {v : Variable}

/-- The declared bounds are read as samples are, and their type has the rank of the samples. -/
lemma declaredBounds_of_declaresRange {lo hi : Sample} (h : v.DeclaresRange lo hi) :
    ∃ t, v.declaredBounds = .ok ⟨some (v.meant lo).number, some (v.meant hi).number, some t⟩ ∧
      t.rank = v.data.type.rank := by
  -- no bound stands in an encoding
  have hfind : ∀ c, c ∉ Convention.encoded →
      v.allAttributes.find? c.name = v.attributes.find? c.name := by
    intro c hc
    rw [find?_allAttributes, if_neg hc]
  cases h with
  | both found entries =>
    rw [← hfind _ (by decide)] at found
    obtain ⟨t, hrange, hrank⟩ := rangeBounds_of_ownEntries v.isUnsigned found entries
    refine ⟨t, ?_, hrank⟩
    rw [declaredBounds, MissingSamples.declaredBounds, hrange]
    rfl
  | each noRange foundLow entriesLow foundHigh entriesHigh =>
    rw [← hfind _ (by decide)] at foundLow foundHigh
    obtain ⟨t, hsingle, hrank⟩ :=
      singleBounds_of_ownEntries v.isUnsigned foundLow entriesLow foundHigh entriesHigh
    refine ⟨t, ?_, hrank⟩
    rw [rangeBounds, ← Attributes.numeric?_congr (hfind .validRange (by decide))] at noRange
    rw [declaredBounds, MissingSamples.declaredBounds, rangeBounds, noRange]
    exact hsingle

/-- A sample between the declared bounds is no missing one for the policy, once all are
unpacked. -/
lemma isMissing_unpackedNumber {s : Scaling} (hscale : s.scale.isFinite = true)
    (hnonzero : s.scale.isZero = false) (hoffset : s.offset.isFinite = true)
    {t : ElementType} (hrank : t.rank = v.data.type.rank) (fill : Option Double)
    (missing : Option (List Double)) {lo hi x : Sample}
    (hlo : (v.meant lo).le (v.meant x) = true) (hhi : (v.meant x).le (v.meant hi) = true) :
    (Policy.make .validRangeOnly (assembled v.data.type v.isUnsigned s
      ⟨some (v.meant lo).number, some (v.meant hi).number, some t⟩ fill missing)).isMissing
        (v.unpackedNumber s x) = false := by
  have hbetween := Scaling.between_apply hscale hnonzero hoffset (Sample.le_number hlo)
    (Sample.le_number hhi)
  obtain ⟨hmin, hmax⟩ := between_declareBounds hrank hbetween
  exact Policy.isMissing_of_between hmin hmax

/-- Masking a packed variable by its valid range alone keeps every sample that lies between the two
bounds as it is stored: it is unpacked and nothing else. Masking fails only if the fill value or the
missing values in force cannot be read, and then it fails as reading them does. -/
theorem maskMissing_between {s : Scaling} {lo hi : Sample} {xs : List Sample}
    (hpacked : v.isPacked = true) (he : v.PackedByAttributes)
    (hs : Scaling.ofAttributes v.attributes = .ok s) (hscale : s.scale.isFinite = true)
    (hnonzero : s.scale.isZero = false) (hoffset : s.offset.isFinite = true)
    (hbounds : v.DeclaresRange lo hi) (hx : v.data.elements.samples? = some xs) :
    (∃ f, (v.maskMissing .validRangeOnly).outcome = .error f ∧
      ((v.declaredFill s).outcome = .error f ∨ (v.declaredMissing s).outcome = .error f)) ∨
    ∃ ys : List Double, (v.maskMissing .validRangeOnly).outcome
        = .ok (.made (v.unpacked (.ofDoubles v.data.shape ys))) ∧
      ys.length = xs.length ∧
      ∀ (i : Nat) (x : Sample), xs[i]? = some x →
        (v.meant lo).le (v.meant x) = true → (v.meant x).le (v.meant hi) = true →
          ys[i]? = some (v.unpackedNumber s x) := by
  obtain ⟨t, hb, hrank⟩ := declaredBounds_of_declaresRange hbounds
  have hpolicy := outcome_policyFor hpacked he .validRangeOnly
  simp only [hs, hb, bind, Except.bind] at hpolicy
  -- a part that cannot be read is what masking fails of
  have hfails : ∀ f, (v.policyFor .validRangeOnly).outcome = .error f →
      (v.maskMissing .validRangeOnly).outcome = .error f := by
    intro f hf
    rw [maskMissing, Report.outcome_bind, hf]
    rfl
  cases hfill : (v.declaredFill s).outcome with
  | error f =>
    left
    rw [hfill] at hpolicy
    exact ⟨f, hfails f hpolicy, Or.inl rfl⟩
  | ok fill =>
    cases hmissing : (v.declaredMissing s).outcome with
    | error f =>
      left
      rw [hfill, hmissing] at hpolicy
      exact ⟨f, hfails f hpolicy, Or.inr rfl⟩
    | ok missing =>
      right
      rw [hfill, hmissing] at hpolicy
      refine ⟨_, outcome_maskMissing_of_isPacked hpacked hpolicy hs hx, ?_, ?_⟩
      · rw [List.length_map, List.length_map]
      · intro i x hi hlo hhi
        have hkept := isMissing_unpackedNumber hscale hnonzero hoffset hrank fill missing hlo hhi
        rw [v.getElem?_converted s _ hi, Policy.convert, hkept, if_neg Bool.false_ne_true]

/-- Octets with bounds that are meant to be 2 and 206, and with a negative scale. -/
def boundedOctets (others : List (String × Value)) : Variable where
  name := some "depth"
  dims := ["x"]
  data := ⟨[2], .ints ⟨true, .w8, .little⟩ [-56, 1]⟩
  attributes := ⟨[("valid_range", .grid ⟨[2], .ints ⟨true, .w8, .little⟩ [2, -50]⟩),
    ("_Unsigned", .text "true"), ("scale_factor", .float (-2)), ("add_offset", .float 10)]
      ++ others⟩
  encoding := ⟨[]⟩

lemma declaresRange_boundedOctets (others : List (String × Value)) :
    (boundedOctets others).DeclaresRange (.int 2) (.int (-50)) := by
  have entries : OwnEntries (boundedOctets others).data.type
      (.grid ⟨[2], .ints ⟨true, .w8, .little⟩ [2, -50]⟩) [.int 2, .int (-50)] :=
    ownEntries_of_grid? rfl rfl (Or.inl rfl) rfl
  exact .both rfl entries

theorem maskMissing_between_of_octets :
    ∃ ys : List Double, ((boundedOctets []).maskMissing .validRangeOnly).outcome
        = .ok (.made ((boundedOctets []).unpacked (.ofDoubles [2] ys))) ∧
      ys[0]? = some (-390 : Double) := by
  have he : (boundedOctets []).PackedByAttributes := by
    unfold PackedByAttributes
    decide +kernel
  have hs : Scaling.ofAttributes (boundedOctets []).attributes
      = .ok ⟨-2, 10, some .float64⟩ := rfl
  have hx : (boundedOctets []).data.elements.samples? = some [.int (-56), .int 1] := rfl
  rcases maskMissing_between (by decide +kernel) he hs (by decide +kernel) (by decide +kernel)
    (by decide +kernel) (declaresRange_boundedOctets []) hx with ⟨f, -, hf⟩ | ⟨ys, hmask, -, hys⟩
  · -- there is neither a fill value nor a missing value that could fail
    rcases hf with hf | hf <;> cases hf
  · have hnumber : (boundedOctets []).unpackedNumber ⟨-2, 10, some .float64⟩ (.int (-56))
        = -390 := by
      decide +kernel
    refine ⟨ys, hmask, ?_⟩
    rw [hys 0 (.int (-56)) rfl (by decide +kernel) (by decide +kernel), hnumber]

/-- The fill value is read whichever rules are on, so one of two dimensions is a failure also where
no rule would look at it. -/
theorem maskMissing_between_may_fail :
    ¬∀ (v : Variable) (s : Scaling) (lo hi : Sample) (xs : List Sample), v.isPacked = true →
      v.PackedByAttributes → Scaling.ofAttributes v.attributes = .ok s →
      s.scale.isFinite = true → s.scale.isZero = false → s.offset.isFinite = true →
      v.DeclaresRange lo hi → (v.meant lo).number.isFinite = true →
      (v.meant hi).number.isFinite = true → v.data.elements.samples? = some xs →
        ∃ ys : List Double, (v.maskMissing .validRangeOnly).outcome
            = .ok (.made (v.unpacked (.ofDoubles v.data.shape ys))) ∧
          ∀ (i : Nat) (x : Sample), xs[i]? = some x →
            (v.meant lo).le (v.meant x) = true → (v.meant x).le (v.meant hi) = true →
              ys[i]? = some (v.unpackedNumber s x) := by
  intro h
  let fill : Value := .grid ⟨[1, 2], .ints ⟨true, .w8, .little⟩ [0, 0]⟩
  have he : (boundedOctets [("_FillValue", fill)]).PackedByAttributes := by
    unfold PackedByAttributes
    decide +kernel
  have hfails : ((boundedOctets [("_FillValue", fill)]).maskMissing
      .validRangeOnly).outcome.isOk = false := by
    decide +kernel
  obtain ⟨ys, hmask, -⟩ := h (boundedOctets [("_FillValue", fill)]) ⟨-2, 10, some .float64⟩
    (.int 2) (.int (-50)) [.int (-56), .int 1] (by decide +kernel) he rfl (by decide +kernel)
    (by decide +kernel) (by decide +kernel) (declaresRange_boundedOctets _) (by decide +kernel)
    (by decide +kernel) rfl
  rw [hmask] at hfails
  exact Bool.noConfusion hfails

end Variable

end MissingSamples
