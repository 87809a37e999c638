/-
# Unpacking keeps the policy and all entries

Unpacking moves the packing from the attributes of a variable into its encoding and records there
the type that the samples had. Whatever stood in force under one of the eight names is in force
after it, because an attribute hides the entry of the encoding on which it is put, and because the
recorded type stands in for the type of the samples. So the policy is the same before and after, and
nothing is lost on the way.

* `Variable.find?_attributes_unpacked` and `Variable.find?_encoding_unpacked` say what stands where
  after unpacking;
* `Variable.policyFor_unpacked` says that the policy stays;
* `Variable.unpack_keeps_policy_and_entries` says all of this about unpacking that succeeds.
-/
import MissingSamples.Proofs.Variable.Packed

namespace MissingSamples.Variable

variable (v : Variable) (data : Grid Value)

lemma eq_unpacked_of_unpack {v u : Variable} (h : v.unpack = .ok u) :
    ∃ data, u = v.unpacked data := by
  obtain ⟨s, -, h⟩ := Report.bind_eq_ok_iff.1 h
  obtain ⟨change, -, h⟩ := Report.bind_eq_ok_iff.1 h
  exact ⟨_, (Except.ok.inj h).symm⟩

/-! ## Entries after unpacking -/

lemma find?_attributes_unpacked (name : String) :
    (v.unpacked data).attributes.find? name
      = if name ∈ packingNames then none else v.attributes.find? name := by
  rw [unpacked, Attributes.find?_without]
  by_cases h : name ∈ packingNames <;> simp [h]

/-- Attributes of the packing hide what the encoding held under their names. -/
lemma find?_encoding_unpacked {name : String} (h : name ≠ storedType) :
    (v.unpacked data).encoding.find? name
      = if name ∈ packingNames then (v.attributes.find? name).or (v.encoding.find? name)
        else v.encoding.find? name := by
  rw [unpacked, Attributes.find?_insert_of_ne _ h, Attributes.find?_merge, Attributes.find?_only]
  by_cases hname : name ∈ packingNames <;> simp [hname]

lemma find?_storedType_unpacked :
    (v.unpacked data).encoding.find? storedType = some (.elementType v.data.type) :=
  Attributes.find?_insert_self _ _ _

/-! ## The policy after unpacking -/

lemma name_ne_storedType (c : Convention) : c.name ≠ storedType := by
  cases c <;> decide

lemma name_mem_packingNames (c : Convention) : c.name ∈ packingNames ↔ c ∈ Convention.packing := by
  constructor
  · intro h
    obtain ⟨d, hd, hname⟩ := List.mem_map.1 h
    rwa [← Convention.name_injective hname]
  · exact List.mem_map_of_mem

/-- What is in force under one of the eight names stays in force. -/
lemma agree_allAttributes_unpacked :
    (v.unpacked data).allAttributes.Agree v.allAttributes := by
  intro c
  rw [find?_allAttributes, find?_allAttributes, inForce, inForce, find?_attributes_unpacked,
    find?_encoding_unpacked v data (name_ne_storedType c)]
  by_cases hc : c ∈ Convention.packing
  · have hencoded : c ∈ Convention.encoded := by
      revert hc
      cases c <;> decide
    rw [if_pos ((name_mem_packingNames c).2 hc), if_pos ((name_mem_packingNames c).2 hc),
      if_pos hencoded, if_pos hencoded, Option.none_or]
  · have hname : c.name ∉ packingNames := by rwa [name_mem_packingNames]
    rw [if_neg hname, if_neg hname]

lemma rawType_unpacked : (v.unpacked data).rawType = .ok v.data.type := by
  rw [rawType, find?_storedType_unpacked]
  exact Value.namedType_elementType _

variable {v} in
/-- A packed variable has the same policy before and after it is unpacked, or none for the same
reason, and the same notes come of reading it. -/
theorem policyFor_unpacked (h : v.isPacked = true) (flags : ModeFlags) :
    (v.unpacked data).policyFor flags = v.policyFor flags := by
  have hagree := agree_allAttributes_unpacked v data
  simp only [policyFor, rawType_unpacked, rawType_of_isPacked h, policyOfAttributes_congr hagree]
  rfl

/-- Unpacking a packed variable gives one that is not packed and has the same policy under all
flags. Every attribute is found among the attributes or in the encoding, and every entry of the
encoding is as it was, unless it is the type of the stored samples or an attribute of the packing
takes its place. -/
theorem unpack_keeps_policy_and_entries {v u : Variable} (hpacked : v.isPacked = true)
    (hu : v.unpack = .ok u) :
    u.isPacked = false ∧
    (∀ flags, u.policyFor flags = v.policyFor flags) ∧
    (∀ name x, v.attributes.find? name = some x →
      u.attributes.find? name = some x ∨ u.encoding.find? name = some x) ∧
    (∀ name x, v.encoding.find? name = some x → name ≠ storedType →
      (name ∈ packingNames → v.attributes.find? name = none) →
        u.encoding.find? name = some x) := by
  obtain ⟨data, rfl⟩ := eq_unpacked_of_unpack hu
  refine ⟨v.isPacked_unpacked data, policyFor_unpacked data hpacked, ?_, ?_⟩
  · intro name x hx
    by_cases hname : name ∈ packingNames
    · -- an attribute of the packing moves, and its name is not that of the stored type
      have hne : name ≠ storedType := by
        rintro rfl
        exact absurd hname (by decide)
      right
      rw [find?_encoding_unpacked v data hne, if_pos hname, hx, Option.some_or]
    · left
      rw [find?_attributes_unpacked, if_neg hname, hx]
  · intro name x hx hne hfree
    rw [find?_encoding_unpacked v data hne]
    split_ifs with hname
    · rw [hfree hname, Option.none_or, hx]
    · exact hx

/-- Octets with a scale in both places, of which the attribute counts, and with a title. -/
def scaledOctets : Variable where
  name := some "depth"
  dims := ["x"]
  data := ⟨[2], .ints ⟨true, .w8, .little⟩ [3, 7]⟩
  attributes := ⟨[("title", .text "depth"), ("scale_factor", .float 2),
    ("_Unsigned", .text "false")]⟩
  encoding := ⟨[("scale_factor", .float 5), ("zlib", .bool true),
    ("_FillValue", .scalar (.int ⟨true, .w8, .little⟩ 7))]⟩

theorem unpack_keeps_policy_and_entries_of_octets :
    ∃ u p, scaledOctets.unpack = .ok u ∧ u.isPacked = false ∧
      (scaledOctets.policyFor {}).outcome = .ok p ∧ (u.policyFor {}).outcome = .ok p ∧
      u.encoding.find? "zlib" = some (.bool true) := by
  have hs : Scaling.ofAttributes scaledOctets.attributes = .ok ⟨2, 0, some .float64⟩ := rfl
  have hx : scaledOctets.data.elements.samples? = some [.int 3, .int 7] := rfl
  obtain ⟨p, hp⟩ := Report.exists_eq_ok
    (show (scaledOctets.policyFor {}).outcome.isOk = true by decide +kernel)
  have hu := unpack_eq hs hx
  obtain ⟨hpacked, hpolicy, -, hkept⟩ := unpack_keeps_policy_and_entries (by decide +kernel) hu
  exact ⟨_, p, hu, hpacked, hp, by rw [hpolicy, hp], hkept "zlib" _ rfl (by decide) (by decide)⟩

end MissingSamples.Variable
