/-
# No stored sentinel survives

A sentinel is declared among the attributes and is met among the samples. On the first way it is
read as an attribute, on the second as a sample, and both ways end in the same number: each reads
integers as they are meant and unpacks by the same scaling. So masking finds every sample of a
packed variable that is stored as its fill value or as one of its missing values.

* `Variable.matching_unpackedNumber` says that the two ways end in the same number;
* `Variable.maskMissing_sentinels` says that no sentinel is left after masking.
-/
import MissingSamples.Proofs.Policy.Candidates
import MissingSamples.Proofs.Variable.Packed

namespace MissingSamples.Variable

variable {v : Variable}

lemma matching_unpackedNumber {x c : Sample} (h : x.matching c = true) (s : Scaling) :
    (v.unpackedNumber s x).matching (v.unpackedNumber s c) = true :=
  s.matching_apply (Sample.matching_number (Sample.matching_meant h v.isUnsigned v.data.type))

/-- The fill value of a packed variable is its first entry, unpacked as a sample is. -/
lemma outcome_declaredFill (s : Scaling) {value : Value} {c : Sample} {rest : List Sample}
    (hvalue : v.inForce .fillValue = some value)
    (hentries : OwnEntries v.data.type value (c :: rest)) :
    (v.declaredFill s).outcome = .ok (some (v.unpackedNumber s c)) := by
  have hfind : v.allAttributes.find? Convention.fillValue.name = some value := by
    rw [find?_allAttributes, if_pos (by decide), hvalue]
  exact outcome_declaredFill_of_ownEntries v.isUnsigned s (noteName v.name) hfind hentries

/-- The missing values of a packed variable are its entries, unpacked as samples are. -/
lemma outcome_declaredMissing (s : Scaling) {value : Value} {cs : List Sample}
    (hvalue : v.inForce .missingValue = some value)
    (hentries : OwnEntries v.data.type value cs) :
    (v.declaredMissing s).outcome = .ok (some (cs.map (v.unpackedNumber s))) := by
  have hfind : v.allAttributes.find? Convention.missingValue.name = some value := by
    rw [find?_allAttributes, if_pos (by decide), hvalue]
  rw [declaredMissing, outcome_declaredMissing_of_ownEntries v.isUnsigned s (noteName v.name)
    hfind hentries, map_unpackedNumber]

/-- Masking a packed variable leaves not-a-number for every sample that is stored as the first entry
of the fill value in force, and for every sample that is stored as any entry of the missing values
in force, each if its rule is on. -/
theorem maskMissing_sentinels {flags : ModeFlags} {p : Policy} {xs : List Sample}
    (hpacked : v.isPacked = true) (he : v.PackedByAttributes)
    (hp : (v.policyFor flags).outcome = .ok p) (hx : v.data.elements.samples? = some xs) :
    ∃ ys : List Double, (v.maskMissing flags).outcome
        = .ok (.made (v.unpacked (.ofDoubles v.data.shape ys))) ∧
      ys.length = xs.length ∧
      (flags.fillValue = true → ∀ value c rest, v.inForce .fillValue = some value →
        OwnEntries v.data.type value (c :: rest) →
          ∀ (i : Nat) (x : Sample), xs[i]? = some x → x.matching c = true →
            ys[i]? = some Double.nan) ∧
      (flags.missingData = true → ∀ value cs, v.inForce .missingValue = some value →
        OwnEntries v.data.type value cs →
          ∀ (i : Nat) (x c : Sample), xs[i]? = some x → c ∈ cs → x.matching c = true →
            ys[i]? = some Double.nan) := by
  obtain ⟨s, b, fill, missing, hs, -, hfill, hmissing, hmake⟩ :=
    (outcome_policyFor_eq_ok_iff hpacked he).1 hp
  have hflags : p.flags = flags := by rw [hmake, Policy.make]
  have hdeclared : p.declared = assembled v.data.type v.isUnsigned s b fill missing := by
    rw [hmake, Policy.make]
  refine ⟨_, outcome_maskMissing_of_isPacked hpacked hp hs hx, ?_, ?_, ?_⟩
  · rw [List.length_map, List.length_map]
  · intro hflag value c rest hvalue hentries i x hi hmatch
    rw [outcome_declaredFill s hvalue hentries, Except.ok.injEq] at hfill
    have hhas : p.declared.hasFillValue = true := by
      rw [hdeclared, assembled, ← hfill, Option.isSome_some]
    have hnumber : p.declared.fillValue = v.unpackedNumber s c := by
      rw [hdeclared, assembled, ← hfill, Option.getD_some]
    have hmissing := p.isMissing_of_matching_fill (x := v.unpackedNumber s x)
      (by rw [hflags, hflag]) hhas (by rw [hnumber]; exact matching_unpackedNumber hmatch s)
    rw [v.getElem?_converted s p hi, p.convert_of_isMissing hmissing]
  · intro hflag value cs hvalue hentries i x c hi hc hmatch
    rw [outcome_declaredMissing s hvalue hentries, Except.ok.injEq] at hmissing
    have hcandidates : p.declared.candidates = some (cs.map (v.unpackedNumber s)) := by
      rw [hdeclared, assembled, hmissing]
    have hmissing := p.isMissing_of_matching_candidate (by rw [hflags, hflag]) hcandidates
      (List.mem_map_of_mem hc) (matching_unpackedNumber hmatch s)
    rw [v.getElem?_converted s p hi, p.convert_of_isMissing hmissing]

/-- Octets of which the first, the fill value, is meant to be 255, and the last is a missing
value. -/
def markedOctets : Variable where
  name := some "depth"
  dims := ["x"]
  data := ⟨[3], .ints ⟨true, .w8, .little⟩ [-1, 3, 7]⟩
  attributes := ⟨[("_FillValue", .scalar (.int ⟨true, .w8, .little⟩ (-1))),
    ("missing_value", .grid ⟨[2], .ints ⟨true, .w8, .little⟩ [9, 7]⟩),
    ("_Unsigned", .text "true"), ("scale_factor", .float 2)]⟩
  encoding := ⟨[]⟩

theorem maskMissing_sentinels_of_octets :
    ∃ ys : List Double, (markedOctets.maskMissing {}).outcome
        = .ok (.made (markedOctets.unpacked (.ofDoubles [3] ys))) ∧
      ys[0]? = some Double.nan ∧ ys[2]? = some Double.nan := by
  have he : markedOctets.PackedByAttributes := by
    unfold PackedByAttributes
    decide +kernel
  have hp : ∃ p, (markedOctets.policyFor {}).outcome = .ok p := ⟨_, rfl⟩
  obtain ⟨p, hp⟩ := hp
  have hx : markedOctets.data.elements.samples? = some [.int (-1), .int 3, .int 7] := rfl
  have hfill : OwnEntries markedOctets.data.type (.scalar (.int ⟨true, .w8, .little⟩ (-1)))
      [.int (-1)] :=
    ownEntries_of_grid? rfl rfl (Or.inr ⟨rfl, rfl⟩) rfl
  have hmissing : OwnEntries markedOctets.data.type
      (.grid ⟨[2], .ints ⟨true, .w8, .little⟩ [9, 7]⟩) [.int 9, .int 7] :=
    ownEntries_of_grid? rfl rfl (Or.inl rfl) rfl
  obtain ⟨ys, hmask, -, hfirst, hlast⟩ :=
    maskMissing_sentinels (by decide +kernel) he hp hx
  exact ⟨ys, hmask, hfirst rfl _ _ _ rfl hfill 0 _ rfl rfl,
    hlast rfl _ _ rfl hmissing 2 _ (.int 7) rfl (by decide) rfl⟩

end MissingSamples.Variable
