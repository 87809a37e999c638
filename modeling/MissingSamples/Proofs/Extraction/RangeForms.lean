/-
# One range or two bounds

The bounds of a variable may stand together in the valid range, or each in an attribute of its own.
The two forms are read by different steps: the range has one type, and of two bounds the wider type
counts. Stored numbers of one type come out the same in both forms, and whatever happens to bounds
after that happens to the same bounds.

* `Value.IsNumbers` describes arrays of numbers of a type, and `sentinelGrid_of_isNumbers` says how
  they are read beside a variable of any type;
* `declaredBounds_of_range` and `declaredBounds_of_singles` are the bounds of the two forms;
* `extract_range_eq_singles` says that the forms are interchangeable.
-/
import MissingSamples.Proofs.Extraction
import MissingSamples.Proofs.Extraction.Agreement

namespace MissingSamples

/-- The value is an array of numbers of the type, in one dimension, or a single number of it. -/
def Value.IsNumbers (u : ElementType) (entries : List Sample) (v : Value) : Prop :=
  ∃ g, v.grid? = some g ∧ g.type = u ∧ g.elements.samples? = some entries ∧
    g.atLeastOneDim.shape = [entries.length]

/-- The type in which elements of the type are read: unsigned of the same width for integers with a
sign, if so they are meant. -/
def ElementType.meant (unsigned : Bool) : ElementType → ElementType
  | .int t => if unsigned && t.signed then .int t.unsignedOf else .int t
  | t => t

lemma type_toUnsigned (unsigned : Bool) (e : Elements Value) :
    ((e.toUnsigned unsigned).result e).type = e.type.meant unsigned := by
  cases e with
  | ints t xs =>
    rw [Elements.toUnsigned, Elements.type, ElementType.meant]
    split_ifs <;> rfl
  | _ => rfl

/-! ## Numbers of one type -/

section Numbers

variable {u : ElementType} {entries : List Sample} {v : Value}

lemma numeric?_of_isNumbers {a : Attributes} {c : Convention} (ha : a.find? c.name = some v)
    (hv : v.IsNumbers u entries) : a.numeric? c = some v := by
  obtain ⟨g, hg, -, hsamples, -⟩ := hv
  have hchar : g.type.isChar = false := by
    rw [Grid.type]
    cases he : g.elements <;> first | rfl | simp [he, Elements.samples?] at hsamples
  refine Attributes.numeric?_of_find? ha ?_ ?_
  · rintro rfl
    cases hg
  · cases v with
    | grid g => cases hg; exact hchar
    | scalar s => cases hg; exact hchar
    | _ => cases hg

/-- Beside a variable of any type, numbers are read as they are meant, in a type of their own. -/
lemma sentinelGrid_of_isNumbers (hv : v.IsNumbers u entries) (t : ElementType) (unsigned : Bool) :
    ∃ e, sentinelGrid v t unsigned = .ok ⟨[entries.length], e⟩ ∧ e.type = u.meant unsigned ∧
      e.samples? = some (entries.map (Sample.meant unsigned u)) := by
  obtain ⟨g, hg, rfl, hsamples, hshape⟩ := hv
  refine ⟨(g.elements.toUnsigned unsigned).result g.elements, ?_, ?_, ?_⟩
  · rw [sentinelGrid_of_numericGrid (numericGrid_of_grid? hg t), hshape, elements_atLeastOneDim]
  · exact type_toUnsigned unsigned g.elements
  · exact Elements.samples?_toUnsigned hsamples unsigned

/-- The number at a place is the entry that stands there, as it is meant. -/
lemma numberAt_of_meant {e : Elements Value} {unsigned : Bool} {x : Sample} {i : Nat}
    (he : e.samples? = some (entries.map (Sample.meant unsigned u))) (hx : entries[i]? = some x) :
    Grid.numberAt ⟨[entries.length], e⟩ i = .ok (x.meant unsigned u).number := by
  have hnumber := numberAt_of_samples? (i := i) (x := x.meant unsigned u) he
    (by rw [List.getElem?_map, hx, Option.map_some])
  rwa [List.length_map] at hnumber

end Numbers

/-! ## The bounds of both forms -/

/-- Two stored numbers of a type as bounds, as they are meant. -/
def Bounds.ofPair (u : ElementType) (unsigned : Bool) (x y : Sample) : Bounds :=
  ⟨some (x.meant unsigned u).number, some (y.meant unsigned u).number, some (u.meant unsigned)⟩

section Forms

variable {a b : Attributes} {u : ElementType} {x y : Sample}

/-- The first two numbers of a valid range are the bounds. -/
theorem declaredBounds_of_range {range : Value} {more : List Sample}
    (ha : a.find? Convention.validRange.name = some range)
    (hrange : range.IsNumbers u (x :: y :: more)) (t : ElementType) (unsigned : Bool) :
    declaredBounds a t unsigned = .ok (.ofPair u unsigned x y) := by
  obtain ⟨e, hgrid, htype, he⟩ := sentinelGrid_of_isNumbers hrange t unsigned
  have hfirst := numberAt_of_meant (i := 0) he rfl
  have hsecond := numberAt_of_meant (i := 1) he rfl
  have hsize : 1 < Grid.size ⟨[(x :: y :: more).length], e⟩ := by
    rw [Grid.size, Elements.length_of_samples? he, List.length_map]
    exact Nat.succ_lt_succ (Nat.succ_pos _)
  simp only [declaredBounds, rangeBounds, numeric?_of_isNumbers ha hrange, hgrid, bind, Except.bind,
    hsize, if_true, hfirst, hsecond, Grid.type, htype]
  rfl

/-- Without a valid range, the first numbers of the attributes for one bound each are the bounds. -/
theorem declaredBounds_of_singles {low high : Value} {xs ys : List Sample}
    (hnone : b.find? Convention.validRange.name = none)
    (hlow : b.find? Convention.validMin.name = some low) (hx : low.IsNumbers u (x :: xs))
    (hhigh : b.find? Convention.validMax.name = some high) (hy : high.IsNumbers u (y :: ys))
    (t : ElementType) (unsigned : Bool) :
    declaredBounds b t unsigned = .ok (.ofPair u unsigned x y) := by
  obtain ⟨e, hgridLow, htypeLow, he⟩ := sentinelGrid_of_isNumbers hx t unsigned
  obtain ⟨f, hgridHigh, htypeHigh, hf⟩ := sentinelGrid_of_isNumbers hy t unsigned
  have hfirst := numberAt_of_meant (i := 0) he rfl
  have hsecond := numberAt_of_meant (i := 0) hf rfl
  simp only [declaredBounds, rangeBounds, Attributes.numeric?_eq_none hnone, singleBounds,
    numeric?_of_isNumbers hlow hx, numeric?_of_isNumbers hhigh hy, hgridLow, hgridHigh, bind,
    Except.bind, pure, Except.pure, hfirst, hsecond, Grid.type, htypeLow, htypeHigh,
    ElementType.larger_self]
  rfl

/-- A valid range that starts with two numbers, and attributes for one bound each that start with
one of them, declare the same beside equal other attributes: the same bounds for a variable of any
type and under any packing, and both of them, or else nothing for the same reason. -/
theorem extract_range_eq_singles {range low high : Value} {more xs ys : List Sample}
    {t : ElementType} {scaling : Option Scaling} {name : Option String}
    (ha : a.find? Convention.validRange.name = some range)
    (hrange : range.IsNumbers u (x :: y :: more))
    (hnone : b.find? Convention.validRange.name = none)
    (hlow : b.find? Convention.validMin.name = some low) (hx : low.IsNumbers u (x :: xs))
    (hhigh : b.find? Convention.validMax.name = some high) (hy : high.IsNumbers u (y :: ys))
    (hothers : ∀ c ∉ [Convention.validRange, .validMin, .validMax],
      a.find? c.name = b.find? c.name) :
    extract a t scaling name = extract b t scaling name ∧
      ∀ d, (extract a t scaling name).outcome = .ok d →
        d.hasValidMin = true ∧ d.hasValidMax = true := by
  have hbounds := declaredBounds_of_range ha hrange t
  constructor
  · refine extract_eq_of_parts (fun _ => ?_) ?_ (fun unsigned => ?_) ?_ ?_ name
    · exact Scaling.ofAttributes_congr (hothers .scaleFactor (by decide))
        (hothers .addOffset (by decide))
    · exact Attributes.isUnsigned_congr (hothers .unsigned (by decide)) t
    · rw [hbounds, declaredBounds_of_singles hnone hlow hx hhigh hy]
    · exact declaredFill_congr (hothers .fillValue (by decide)) t
    · exact declaredMissing_congr (hothers .missingValue (by decide)) t
  · intro d hd
    simp only [outcome_extract, Report.bind_eq_ok_iff] at hd
    obtain ⟨s, -, bounds, hpair, fill, -, missing, -, hd⟩ := hd
    rw [hbounds] at hpair
    cases hpair
    cases hd
    exact ⟨rfl, rfl⟩

end Forms

/-- Octets with a sign. -/
def signedOctet : IntType := ⟨true, .w8, .little⟩

/-- Two bounds of octets that are meant to be unsigned, beside a negative scale. -/
def negatedOctets (bounds : List (String × Value)) : Attributes :=
  ⟨bounds ++ [("_Unsigned", .text "true"), ("scale_factor", .float (-2))]⟩

/-- The bounds as a range, which has one number more. -/
def octetRange : List (String × Value) :=
  [("valid_range", .grid ⟨[3], .ints signedOctet [1, -56, 7]⟩)]

/-- The bounds one by one. -/
def octetBounds : List (String × Value) :=
  [("valid_min", .scalar (.int signedOctet 1)), ("valid_max", .grid ⟨[], .ints signedOctet [-56]⟩)]

/-- In both forms the bounds are 1 and 200 as they are stored, and the scale turns them round. -/
theorem extract_range_eq_singles_of_negatedOctets :
    ∃ d, (extract (negatedOctets octetRange) (.int signedOctet) none none).outcome = .ok d ∧
      (extract (negatedOctets octetBounds) (.int signedOctet) none none).outcome = .ok d ∧
      d.hasValidMin = true ∧ d.validMin = -400 ∧ d.validMax = -2 := by
  have hrange : (Value.grid ⟨[3], .ints signedOctet [1, -56, 7]⟩).IsNumbers (.int signedOctet)
      [.int 1, .int (-56), .int 7] := ⟨_, rfl, rfl, rfl, rfl⟩
  have hlow : (Value.scalar (.int signedOctet 1)).IsNumbers (.int signedOctet) [.int 1] :=
    ⟨_, rfl, rfl, rfl, rfl⟩
  have hhigh : (Value.grid ⟨[], .ints signedOctet [-56]⟩).IsNumbers (.int signedOctet)
      [.int (-56)] := ⟨_, rfl, rfl, rfl, rfl⟩
  have hothers : ∀ c ∉ [Convention.validRange, .validMin, .validMax],
      (negatedOctets octetRange).find? c.name = (negatedOctets octetBounds).find? c.name := by
    intro c hc
    cases c <;> first | rfl | exact absurd hc (by decide)
  have hboth : extract (negatedOctets octetRange) (.int signedOctet) none none
        = extract (negatedOctets octetBounds) (.int signedOctet) none none ∧ _ :=
    extract_range_eq_singles rfl hrange rfl rfl hlow rfl hhigh hothers
  obtain ⟨hsame, hdeclared⟩ := hboth
  rw [← hsame]
  refine ⟨_, rfl, rfl, (hdeclared _ rfl).1, ?_, ?_⟩
  · decide +kernel
  · decide +kernel

end MissingSamples
