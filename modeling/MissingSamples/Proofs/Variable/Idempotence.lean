/-
# Masking what is masked

Masking a variable leaves not-a-number and numbers that the policy does not call missing. Masking
the outcome once more makes a policy for it anew and converts by that. If it is the same policy,
nothing changes.

It is the same policy for a variable that was unpacked on the way, because unpacking records the
type that the samples had; for one that had such a record before; and for floating samples, which
keep their type. Integers that need no unpacking become doubles too, but without a record. Their
policy is made anew beside doubles, and it calls the same samples missing if the attributes are read
alike beside both.

* `Variable.outcome_maskMissing_of_not_isPacked` says what masking gives if nothing is unpacked;
* `Variable.follows_policyFor_withData` compares the two policies of integers;
* `Variable.maskMissing_idem` says that masking succeeds again and, under that condition, changes
  nothing;
* `Variable.maskMissing_idem_may_fail` is a variable that does not meet it.
-/
import MissingSamples.Proofs.Extraction.Reread
import MissingSamples.Proofs.Variable.Unpacking

namespace MissingSamples.Variable

variable {v : Variable}

/-! ## Masking with a policy -/

lemma outcome_maskMissing_eq_ok_iff {flags : ModeFlags} {c : Change Variable} :
    (v.maskMissing flags).outcome = .ok c ↔
      ∃ p, (v.policyFor flags).outcome = .ok p ∧ (v.maskWith p).outcome = .ok c := by
  rw [maskMissing, Report.outcome_bind, Report.bind_eq_ok_iff]

/-- Masking a packed variable gives it unpacked, with samples that are converted. -/
lemma result_of_maskWith_of_isPacked (h : v.isPacked = true) {p : Policy} {c : Change Variable}
    (hc : (v.maskWith p).outcome = .ok c) :
    ∃ data, c.result v = v.unpacked ((p.convertMissing data).result data) := by
  rw [maskWith, if_pos h, Report.outcome_bind] at hc
  obtain ⟨_, -, hc⟩ := Report.bind_eq_ok_iff.1 hc
  rw [Report.outcome_bind] at hc
  obtain ⟨u, hu, hc⟩ := Report.bind_eq_ok_iff.1 hc
  obtain ⟨data, rfl⟩ := eq_unpacked_of_unpack hu
  cases hc
  exact ⟨data, rfl⟩

lemma outcome_maskWith_of_not_isPacked (h : v.isPacked = false) (p : Policy) :
    ∃ c, (v.maskWith p).outcome = .ok c ∧
      c.result v = v.withData ((p.convertMissing v.data).result v.data) := by
  rw [maskWith, h, if_neg Bool.false_ne_true]
  cases p.convertMissing v.data with
  | kept => exact ⟨.kept, rfl, rfl⟩
  | made data => exact ⟨.made (v.withData data), rfl, rfl⟩

/-- Masking a variable that is not packed converts its samples. -/
theorem outcome_maskMissing_of_not_isPacked (h : v.isPacked = false) {flags : ModeFlags}
    {p : Policy} (hp : (v.policyFor flags).outcome = .ok p) :
    ∃ c, (v.maskMissing flags).outcome = .ok c ∧
      c.result v = v.withData ((p.convertMissing v.data).result v.data) := by
  obtain ⟨c, hc, hresult⟩ := outcome_maskWith_of_not_isPacked h p
  exact ⟨c, outcome_maskMissing_eq_ok_iff.2 ⟨p, hp, hc⟩, hresult⟩

/-! ## The policy after masking -/

/-- Floating samples in place of numbers make no variable packed. -/
lemma isPacked_withData_floats (h : v.isPacked = false) (hnumeric : v.data.type.isNumeric = true)
    (shape : List Nat) (t : FloatType) (xs : List Double) :
    (v.withData ⟨shape, .floats t xs⟩).isPacked = false := by
  simp only [isPacked, hnumeric, Bool.and_true, Bool.and_eq_false_iff,
    Bool.or_eq_false_iff] at h
  simp only [isPacked, withData, Bool.and_eq_false_iff, Bool.or_eq_false_iff]
  rcases h with hrecord | ⟨⟨hscale, hoffset⟩, -⟩
  · exact Or.inl (Or.inl hrecord)
  · exact Or.inr ⟨⟨hscale, hoffset⟩, Or.inl rfl⟩

/-- The policy depends on the samples by their type alone, and not even by that if the type of the
stored ones is recorded. -/
lemma policyFor_withData {data : Grid Value}
    (h : v.encoding.has storedType = true ∨ data.type = v.data.type) (flags : ModeFlags) :
    (v.withData data).policyFor flags = v.policyFor flags := by
  have hraw : (v.withData data).rawType = v.rawType := by
    rw [rawType, rawType, withData]
    rcases h with hrecord | htype
    · obtain ⟨t, ht⟩ := Option.isSome_iff_exists.1 hrecord
      rw [ht]
    · rw [htype]
  simp only [policyFor, hraw]
  rfl

/-- What the attributes say of integers that become doubles without a record, they say of the
doubles too. -/
def ReadsAlike (v : Variable) : Prop :=
  ∀ t, v.data.type = .int t → v.isPacked = false → v.encoding.has storedType = false →
    v.allAttributes.ReadsAlike t

/-- Doubles in place of integers of which nothing is recorded have a policy if the integers have
one, and it calls the same samples missing if the attributes are read alike. -/
theorem follows_policyFor_withData {t : IntType} (ht : v.data.type = .int t)
    (hrecord : v.encoding.has storedType = false) {data : Grid Value}
    (hdata : data.type = .float64) (flags : ModeFlags) :
    Follows (fun p q => v.allAttributes.ReadsAlike t → ∀ x, q.isMissing x = p.isMissing x)
      (v.policyFor flags).outcome ((v.withData data).policyFor flags).outcome := by
  have hnone := Attributes.has_eq_false_iff.1 hrecord
  have hbefore : v.rawType = .ok (.int t) := by rw [rawType, hnone, ht]
  have hafter : (v.withData data).rawType = .ok .float64 := by
    rw [rawType, withData, hnone, hdata]
  have hpolicy := follows_policyOfAttributes v.allAttributes t flags v.name
  simp only [policyFor, hbefore, hafter]
  exact hpolicy

/-- Floating samples in place of numbers have a policy if the numbers have one, and it calls the
same samples missing if the attributes are read alike. -/
lemma exists_policyFor_withData (hpacked : v.isPacked = false) {flags : ModeFlags} {p : Policy}
    (hp : (v.policyFor flags).outcome = .ok p) (hnumeric : v.data.type.isNumeric = true)
    (data : Grid Value) (hdata : data.type = v.data.type.converted) :
    ∃ q, ((v.withData data).policyFor flags).outcome = .ok q ∧
      (v.ReadsAlike → ∀ x, q.isMissing x = p.isMissing x) := by
  by_cases hsame : v.encoding.has storedType = true ∨ data.type = v.data.type
  · exact ⟨p, by rw [policyFor_withData hsame, hp], fun _ _ => rfl⟩
  · rw [not_or, Bool.not_eq_true] at hsame
    obtain ⟨hrecord, hchanged⟩ := hsame
    -- only integers are converted to another type of numbers
    cases ht : v.data.type with
    | int t =>
      rw [ht] at hdata
      obtain ⟨q, hq, hpq⟩ := follows_policyFor_withData ht hrecord hdata flags p hp
      exact ⟨q, hq, fun halike => hpq (halike t ht hpacked hrecord)⟩
    | float t =>
      rw [ht] at hdata hchanged
      exact absurd hdata hchanged
    | _ => simp [ht, ElementType.isNumeric] at hnumeric

/-! ## Masking twice -/

/-- What is masked can be masked again, with the same flags. That changes nothing if the attributes
say the same of doubles as of the integers that were there before, where these were not packed and
the encoding does not record their type. -/
theorem maskMissing_idem {flags : ModeFlags} {c : Change Variable}
    (h : (v.maskMissing flags).outcome = .ok c) :
    ∃ c', ((c.result v).maskMissing flags).outcome = .ok c' ∧
      (v.ReadsAlike → c'.result (c.result v) = c.result v) := by
  obtain ⟨p, hp, hc⟩ := outcome_maskMissing_eq_ok_iff.1 h
  cases hpacked : v.isPacked with
  | true =>
    -- unpacking recorded the type, so the policy is the same one
    obtain ⟨data, hresult⟩ := result_of_maskWith_of_isPacked hpacked hc
    have hpolicy := policyFor_unpacked ((p.convertMissing data).result data) hpacked flags
    rw [← hpolicy] at hp
    rw [hresult]
    obtain ⟨c', hc', hagain⟩ := outcome_maskMissing_of_not_isPacked (v.isPacked_unpacked _) hp
    refine ⟨c', hc', fun _ => ?_⟩
    rw [hagain]
    exact congrArg v.unpacked (p.result_convertMissing_idem rfl)
  | false =>
    obtain ⟨c₁, hc₁, hresult⟩ := outcome_maskWith_of_not_isPacked hpacked p
    obtain rfl : c = c₁ := Except.ok.inj (hc.symm.trans hc₁)
    rw [hresult]
    rcases p.convertMissing_eq v.data with hkept | ⟨t, xs, hx, ht, hmade⟩
    · -- nothing was done, so masking again is masking the same variable
      rw [hkept, Change.result_kept]
      refine ⟨c, h, fun _ => ?_⟩
      rw [hkept, Change.result_kept] at hresult
      exact hresult
    · -- the samples are floating numbers now, and the policy is made anew beside them
      rw [hmade, Change.result_made]
      have hnumeric : v.data.type.isNumeric = true := by
        rw [Grid.type, ← Elements.isSome_numbers?, hx]
        rfl
      obtain ⟨q, hq, hpq⟩ := exists_policyFor_withData hpacked hp hnumeric
        ⟨v.data.shape, .floats t (xs.map p.convert)⟩ ht.symm
      obtain ⟨c', hc', hagain⟩ :=
        outcome_maskMissing_of_not_isPacked (isPacked_withData_floats hpacked hnumeric _ _ _) hq
      refine ⟨c', hc', fun halike => ?_⟩
      rw [hagain]
      exact congrArg v.withData (Policy.result_convertMissing_map_convert (hpq halike) _ t xs)

/-- Unsigned octets with a fill value of their own type and a lower bound. -/
def filledOctets : Variable where
  name := some "depth"
  dims := ["x"]
  data := ⟨[3], .ints ⟨false, .w8, .little⟩ [3, 200, 255]⟩
  attributes := ⟨[("_FillValue", .scalar (.int ⟨false, .w8, .little⟩ 255)), ("valid_min", .int 5)]⟩
  encoding := ⟨[]⟩

/-- Its thresholds are the same beside octets and beside doubles. -/
lemma readsAlike_filledOctets : filledOctets.ReadsAlike := by
  rintro _ ⟨⟩ - -
  refine ⟨fun _ c hc v g hv hg => ?_, ?_⟩
  · cases c with
    | fillValue | validMin =>
      cases hv
      cases hg
      rfl
    | validRange | validMax | missingValue => cases hv
    | scaleFactor | addOffset | unsigned => exact absurd hc (by decide)
  · rintro s b ⟨⟩ ⟨⟩
    rfl

theorem maskMissing_idem_of_octets :
    ∃ c c', (filledOctets.maskMissing {}).outcome = .ok c ∧
      ((c.result filledOctets).maskMissing {}).outcome = .ok c' ∧
      (c'.result (c.result filledOctets)).data.elements.numbers? = some [.nan, 200, .nan] := by
  have hmasked : (filledOctets.maskMissing {}).outcome.map
      (fun c => (c.result filledOctets).data.elements.numbers?)
        = .ok (some [.nan, 200, .nan]) := by
    decide +kernel
  obtain ⟨c, hc⟩ := Report.exists_eq_ok
    (show (filledOctets.maskMissing {}).outcome.isOk = true by decide +kernel)
  obtain ⟨c', hc', hsame⟩ := maskMissing_idem hc
  rw [hc] at hmasked
  refine ⟨c, c', hc, hc', ?_⟩
  rw [hsame readsAlike_filledOctets]
  exact Except.ok.inj hmasked

/-- Unsigned octets with a range that is written with signs, and means zero to two hundred. -/
def rangedOctets : Variable where
  name := some "depth"
  dims := ["x"]
  data := ⟨[2], .ints ⟨false, .w8, .little⟩ [3, 200]⟩
  attributes := ⟨[("valid_range", .grid ⟨[2], .ints ⟨true, .w8, .little⟩ [0, -56]⟩)]⟩
  encoding := ⟨[]⟩

/-- Both octets are in range and stay when they are masked. As doubles they are beside a range that
ends below zero, and neither stays. -/
theorem maskMissing_idem_may_fail :
    ¬∀ (v : Variable) (flags : ModeFlags) (c : Change Variable),
      (v.maskMissing flags).outcome = .ok c →
        ∃ c', ((c.result v).maskMissing flags).outcome = .ok c' ∧
          c'.result (c.result v) = c.result v := by
  intro h
  have honce : (rangedOctets.maskMissing {}).outcome.map
      (fun c => (c.result rangedOctets).data.elements.numbers?) = .ok (some [3, 200]) := by
    decide +kernel
  have htwice : ((rangedOctets.maskMissing {}).outcome >>= fun c =>
      ((c.result rangedOctets).maskMissing {}).outcome.map fun c' =>
        (c'.result (c.result rangedOctets)).data.elements.numbers?)
          = .ok (some [.nan, .nan]) := by
    decide +kernel
  obtain ⟨c, hc⟩ := Report.exists_eq_ok
    (show (rangedOctets.maskMissing {}).outcome.isOk = true by decide +kernel)
  obtain ⟨c', hc', hsame⟩ := h _ _ c hc
  rw [hc] at honce
  have hvalues : (c.result rangedOctets).data.elements.numbers? = some [3, 200] :=
    Except.ok.inj honce
  obtain ⟨_, hc₁, htwice⟩ := Report.bind_eq_ok_iff.1 htwice
  rw [hc, Except.ok.injEq] at hc₁
  rw [← hc₁, hc', Except.map, hsame, hvalues, Except.ok.injEq] at htwice
  exact absurd htwice (by decide +kernel)

end MissingSamples.Variable
