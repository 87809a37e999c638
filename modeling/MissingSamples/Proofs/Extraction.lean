/-
# Reading attributes of the samples' own type

An attribute whose elements have the type of the samples is read as the samples are: integers take
the meaning that the samples have, and every number is unpacked as a sample would be. This file
says what extraction reads out of such attributes, and of which parts a whole extraction is made.

* `OwnEntries` describes such an attribute, and `ownEntries_of_grid?` says that grids of the type
  are of this kind;
* `outcome_declaredFill_of_ownEntries` and `outcome_declaredMissing_of_ownEntries` say what comes
  of them as fill value and as missing values;
* `outcome_extract` takes an extraction apart, and `outcome_policyOfAttributes_eq_ok_iff` the making
  of a policy.
-/
import MissingSamples.Extraction
import MissingSamples.Proofs.Sample
import MissingSamples.Proofs.Value.Rows

namespace MissingSamples

/-- Beside samples of the type, the value makes a grid of one dimension that has that very type
and these entries. -/
def OwnEntries (t : ElementType) (s : Value) (entries : List Sample) : Prop :=
  ∃ e, numericGrid s t = .ok ⟨[entries.length], e⟩ ∧ e.type = t ∧ e.samples? = some entries

@[simp] lemma elements_atLeastOneDim (g : Grid Value) :
    g.atLeastOneDim.elements = g.elements := by
  obtain ⟨shape, elements⟩ := g
  cases shape <;> rfl

lemma numericGrid_of_grid? {s : Value} {g : Grid Value} (hs : s.grid? = some g)
    (t : ElementType) : numericGrid s t = .ok g.atLeastOneDim := by
  simp only [numericGrid, hs]

/-- The integers of an attribute take a type beside the variable unless they are stored. -/
lemma numericGrid_of_asGrid {v : Value} {g : Grid Value} (hv : v.asGrid = .ok g)
    (t : ElementType) : numericGrid v t = .ok { g.atLeastOneDim with
      elements := if v.grid?.isSome then g.elements else besideVariable t g.elements } := by
  cases hgrid : v.grid? with
  | some g' =>
    simp only [Value.asGrid, hgrid, Except.ok.injEq] at hv
    subst hv
    rw [numericGrid_of_grid? hgrid, Option.isSome_some, if_pos rfl, ← elements_atLeastOneDim]
  | none =>
    simp only [numericGrid, hgrid, hv, bind, Except.bind, pure, Except.pure, Option.isSome_none,
      Bool.false_eq_true, if_false, elements_atLeastOneDim]

/-- A row of single members makes a grid of one dimension, whose integers take the type that they
have beside the variable. -/
lemma numericGrid_of_isRow {v : Value} {members : List Value} (hv : v.IsRow members)
    (hsingle : ∀ m ∈ members, m.IsSingle) {e : Elements Value}
    (he : Elements.ofLeaves (typeOfLeaves members) members = .ok e) (t : ElementType) :
    numericGrid v t = .ok ⟨[members.length], besideVariable t e⟩ := by
  rw [numericGrid_of_asGrid (Value.asGrid_of_isRow hv hsingle he), Value.grid?_of_isRow hv]
  rfl

/-- A grid of the type with at most one dimension has its elements as entries. -/
lemma ownEntries_of_grid? {t : ElementType} {s : Value} {g : Grid Value} {entries : List Sample}
    (hs : s.grid? = some g) (ht : g.type = t)
    (hshape : g.shape = [entries.length] ∨ (g.shape = [] ∧ entries.length = 1))
    (he : g.elements.samples? = some entries) : OwnEntries t s entries := by
  refine ⟨g.elements, ?_, ht, he⟩
  obtain ⟨shape, elements⟩ := g
  rw [numericGrid_of_grid? hs]
  rcases hshape with rfl | ⟨rfl, hlen⟩
  · rfl
  · rw [hlen]
    rfl

/-! ## Values that are no entries -/

lemma isNumeric_ofLeaves {t : ElementType} {leaves : List Value} {e : Elements Value}
    (h : Elements.ofLeaves t leaves = .ok e) : e.type.isNumeric = t.isNumeric := by
  cases t with
  | float t =>
    obtain ⟨xs, -, hxs⟩ := Report.bind_eq_ok_iff.1 h
    cases hxs
    rfl
  | text size order =>
    obtain ⟨xs, -, hxs⟩ := Report.bind_eq_ok_iff.1 h
    cases hxs
    rfl
  | _ =>
    cases h
    rfl

lemma isNumeric_besideVariable (t : ElementType) (e : Elements Value) :
    (besideVariable t e).type.isNumeric = e.type.isNumeric := by
  cases e with
  | ints i xs =>
    cases t with
    | int v =>
      rw [besideVariable]
      split_ifs <;> rfl
    | _ => rfl
  | _ => rfl

/-- A value that is no grid makes a grid of numbers only if its leaves have a type of numbers. -/
lemma isNumeric_numericGrid {v : Value} {t : ElementType} {g : Grid Value} (hv : v.grid? = none)
    (h : numericGrid v t = .ok g) : g.type.isNumeric = (typeOfLeaves v.leaves).isNumeric := by
  simp only [numericGrid, hv] at h
  obtain ⟨g', hg', h⟩ := Report.bind_eq_ok_iff.1 h
  simp only [Value.asGrid, hv] at hg'
  obtain ⟨shape, -, hg'⟩ := Report.bind_eq_ok_iff.1 hg'
  obtain ⟨e, he, hg'⟩ := Report.bind_eq_ok_iff.1 hg'
  cases hg'
  cases h
  rw [Grid.type, isNumeric_besideVariable, elements_atLeastOneDim, isNumeric_ofLeaves he]

/-- What has entries is not nothing, and no text. -/
lemma ne_null_and_not_isString {t : ElementType} {s : Value} {entries : List Sample}
    (h : OwnEntries t s entries) : s ≠ .null ∧ s.isString = false := by
  obtain ⟨e, hgrid, -, he⟩ := h
  have hnumeric : e.type.isNumeric = true := by
    rw [← Elements.isSome_samples?, he]
    rfl
  -- a leaf of another type than numbers makes no numbers
  have hleaf : s.grid? = none → (typeOfLeaves s.leaves).isNumeric = true := by
    intro hs
    rw [← isNumeric_numericGrid hs hgrid]
    exact hnumeric
  -- a grid keeps its type, and a type of numbers is no type of texts
  have hgrid? : ∀ g, s.grid? = some g → g.type.isChar = false := by
    intro g hs
    rw [numericGrid_of_grid? hs, Except.ok.injEq] at hgrid
    have helements : g.elements = e := by
      rw [← elements_atLeastOneDim, hgrid]
    rw [Grid.type, helements]
    cases e <;> first | rfl | simp [Elements.samples?] at he
  constructor
  · rintro rfl
    exact absurd (hleaf rfl) Bool.false_ne_true
  · cases s with
    | grid g => exact hgrid? g rfl
    | scalar s => exact hgrid? s.grid rfl
    | text s => exact absurd (hleaf rfl) Bool.false_ne_true
    | bytes xs => exact absurd (hleaf rfl) Bool.false_ne_true
    | _ => rfl

/-- What stands under a name is given, unless it is nothing. -/
lemma Attributes.given?_of_find? {a : Attributes} {c : Convention} {v : Value}
    (hv : a.find? c.name = some v) (hnull : v ≠ .null) : a.given? c = some v := by
  rw [given?, hv]
  split
  · next heq => exact absurd (Option.some.inj heq) hnull
  · rfl

lemma Attributes.numeric?_of_find? {a : Attributes} {c : Convention} {v : Value}
    (hv : a.find? c.name = some v) (hnull : v ≠ .null) (hstring : v.isString = false) :
    a.numeric? c = some v := by
  rw [numeric?, given?_of_find? hv hnull]
  exact Option.filter_eq_some_iff.2 ⟨rfl, by rw [hstring, Bool.not_false]⟩

lemma given?_of_ownEntries {a : Attributes} {c : Convention} {t : ElementType} {s : Value}
    {entries : List Sample} (hs : a.find? c.name = some s) (h : OwnEntries t s entries) :
    a.given? c = some s :=
  Attributes.given?_of_find? hs (ne_null_and_not_isString h).1

lemma numeric?_of_ownEntries {a : Attributes} {c : Convention} {t : ElementType} {s : Value}
    {entries : List Sample} (hs : a.find? c.name = some s) (h : OwnEntries t s entries) :
    a.numeric? c = some s :=
  Attributes.numeric?_of_find? hs (ne_null_and_not_isString h).1 (ne_null_and_not_isString h).2

/-! ## How many elements there are -/

lemma size_atLeastOneDim (g : Grid Value) : g.atLeastOneDim.size = g.size := by
  rw [Grid.size, elements_atLeastOneDim, Grid.size]

lemma length_besideVariable (t : ElementType) (e : Elements Value) :
    (besideVariable t e).length = e.length := by
  cases e with
  | ints i xs =>
    cases t with
    | int v =>
      rw [besideVariable]
      split_ifs <;> rfl
    | _ => rfl
  | _ => rfl

lemma length_toUnsigned (unsigned : Bool) (e : Elements Value) :
    ((e.toUnsigned unsigned).result e).length = e.length := by
  cases e with
  | ints i xs =>
    rw [Elements.toUnsigned]
    split_ifs
    · exact List.length_map _
    · rfl
  | _ => rfl

/-- Reading a sentinel keeps the number of elements. -/
lemma exists_asGrid_of_sentinelGrid {v : Value} {t : ElementType} {unsigned : Bool} {g : Grid Value}
    (h : sentinelGrid v t unsigned = .ok g) : ∃ g', v.asGrid = .ok g' ∧ g.size = g'.size := by
  obtain ⟨n, hn, hg⟩ := Report.bind_eq_ok_iff.1 h
  have hsize : g.size = n.size := by
    rw [← Except.ok.inj hg, Grid.size, Grid.elements_toUnsigned, length_toUnsigned, Grid.size]
  cases hv : v.grid? with
  | some g' =>
    rw [numericGrid_of_grid? hv] at hn
    refine ⟨g', by simp only [Value.asGrid, hv], ?_⟩
    rw [hsize, ← Except.ok.inj hn, size_atLeastOneDim]
  | none =>
    simp only [numericGrid, hv] at hn
    obtain ⟨g', hg', hn⟩ := Report.bind_eq_ok_iff.1 hn
    refine ⟨g', hg', ?_⟩
    rw [hsize, ← Except.ok.inj hn, Grid.size, length_besideVariable, elements_atLeastOneDim,
      Grid.size]

/-! ## What is read out of them -/

lemma numberAt_of_samples? {e : Elements Value} {xs : List Sample} {x : Sample} {i : Nat}
    (he : e.samples? = some xs) (hx : xs[i]? = some x) :
    Grid.numberAt ⟨[xs.length], e⟩ i = .ok x.number := by
  obtain ⟨hi, -⟩ := List.getElem?_eq_some_iff.1 hx
  have hone : (xs.take (i + 1)).drop i = [x] := by
    rw [List.take_add_one, hx, Option.toList_some]
    exact List.drop_left' (List.length_take_of_le hi.le)
  have hslice := Elements.samples?_slice he i (i + 1)
  rw [hone] at hslice
  have hnumbers := Elements.numbers_of_numbers? Value.number
    (Elements.numbers?_of_samples? hslice)
  simp only [Grid.numberAt, hi, if_true, hnumbers]
  rfl

lemma numbers_of_samples? {e : Elements Value} {xs : List Sample} (he : e.samples? = some xs) :
    Grid.numbers ⟨[xs.length], e⟩ = .ok (xs.map Sample.number) :=
  Elements.numbers_of_numbers? Value.number (Elements.numbers?_of_samples? he)

/-- The grid of an attribute has the shape that it has as numbers, and elements read as unsigned if
so they are meant. -/
lemma sentinelGrid_of_numericGrid {v : Value} {t : ElementType} {g : Grid Value}
    (h : numericGrid v t = .ok g) (unsigned : Bool) :
    sentinelGrid v t unsigned
      = .ok ⟨g.shape, (g.elements.toUnsigned unsigned).result g.elements⟩ := by
  simp only [sentinelGrid, h, bind, Except.bind, pure, Except.pure, Grid.toUnsigned]
  cases g.elements.toUnsigned unsigned <;> rfl

/-- The grid of such an attribute holds its entries as they are meant. -/
lemma sentinelGrid_of_ownEntries {t : ElementType} {s : Value} {entries : List Sample}
    (h : OwnEntries t s entries) (unsigned : Bool) :
    ∃ e, sentinelGrid s t unsigned = .ok ⟨[entries.length], e⟩ ∧ e.type.rank = t.rank ∧
      e.samples? = some (entries.map (Sample.meant unsigned t)) := by
  obtain ⟨e, hgrid, ht, he⟩ := h
  refine ⟨(e.toUnsigned unsigned).result e, sentinelGrid_of_numericGrid hgrid unsigned, ?_, ?_⟩
  · rw [Elements.rank_type_toUnsigned, ht]
  · rw [Elements.samples?_toUnsigned he, ht]

section Attribute

variable {a : Attributes} {t : ElementType} {s : Value} {entries : List Sample}

/-- The first two entries of the attribute for both bounds are the bounds, as they are meant. -/
lemma rangeBounds_of_ownEntries {c d : Sample} (unsigned : Bool)
    (hs : a.find? Convention.validRange.name = some s) (h : OwnEntries t s (c :: d :: entries)) :
    ∃ b, rangeBounds a t unsigned
        = .ok (some ⟨some (c.meant unsigned t).number, some (d.meant unsigned t).number, some b⟩) ∧
      b.rank = t.rank := by
  obtain ⟨e, hgrid, hrank, he⟩ := sentinelGrid_of_ownEntries h unsigned
  have hfirst := numberAt_of_samples? (i := 0) he rfl
  have hsecond := numberAt_of_samples? (i := 1) he rfl
  rw [List.length_map] at hfirst hsecond
  have hsize : 1 < Grid.size ⟨[(c :: d :: entries).length], e⟩ := by
    rw [Grid.size, Elements.length_of_samples? he, List.length_map]
    simp
  refine ⟨e.type, ?_, hrank⟩
  simp only [rangeBounds, numeric?_of_ownEntries hs h, hgrid, bind, Except.bind, hsize, if_true,
    hfirst, hsecond]
  rfl

/-- The first entries of the attributes for one bound each are the bounds, as they are meant. -/
lemma singleBounds_of_ownEntries {low high : Value} {c d : Sample} {cs ds : List Sample}
    (unsigned : Bool) (hlow : a.find? Convention.validMin.name = some low)
    (hc : OwnEntries t low (c :: cs)) (hhigh : a.find? Convention.validMax.name = some high)
    (hd : OwnEntries t high (d :: ds)) :
    ∃ b, singleBounds a t unsigned
        = .ok ⟨some (c.meant unsigned t).number, some (d.meant unsigned t).number, some b⟩ ∧
      b.rank = t.rank := by
  obtain ⟨e, hgridLow, hrankLow, he⟩ := sentinelGrid_of_ownEntries hc unsigned
  obtain ⟨f, hgridHigh, hrankHigh, hf⟩ := sentinelGrid_of_ownEntries hd unsigned
  have hfirst := numberAt_of_samples? (i := 0) he rfl
  have hsecond := numberAt_of_samples? (i := 0) hf rfl
  rw [List.length_map] at hfirst hsecond
  have hlarger : ElementType.larger (some e.type) (some f.type) = some e.type := by
    rw [ElementType.larger, if_pos (by rw [hrankLow, hrankHigh])]
  refine ⟨e.type, ?_, hrankLow⟩
  simp only [singleBounds, numeric?_of_ownEntries hlow hc, numeric?_of_ownEntries hhigh hd,
    hgridLow, hgridHigh, bind, Except.bind, pure, Except.pure, hfirst, hsecond, Grid.type, hlarger]

/-- A fill value that is no text is the first number of its grid, unpacked. -/
lemma outcome_declaredFill_of_not_isString (hs : a.given? .fillValue = some s)
    (hstring : s.isString = false) (unsigned : Bool) (scaling : Scaling) (name : String) :
    (declaredFill a t unsigned scaling name).outcome = (do
      let g ← sentinelGrid s t unsigned
      return some (scaling.apply (← g.numberAt 0))) := by
  simp only [declaredFill, hs, hstring, Report.outcome_bind, Report.outcome_liftM,
    Report.outcome_pure, Bool.false_eq_true, if_false]
  rfl

/-- Missing values that are no text are the numbers of their grid, unpacked. -/
lemma outcome_declaredMissing_of_not_isString (hs : a.given? .missingValue = some s)
    (hstring : s.isString = false) (unsigned : Bool) (scaling : Scaling) (name : String) :
    (declaredMissing a t unsigned scaling name).outcome = (do
      let g ← sentinelGrid s t unsigned
      return some ((← g.numbers).map scaling.apply)) := by
  simp only [declaredMissing, hs, hstring, Report.outcome_bind, Report.outcome_liftM,
    Report.outcome_pure, Bool.false_eq_true, if_false]
  rfl

/-- The first entry of a fill value is the fill value, as it is meant and unpacked. -/
lemma outcome_declaredFill_of_ownEntries {c : Sample} (unsigned : Bool) (scaling : Scaling)
    (name : String) (hs : a.find? Convention.fillValue.name = some s)
    (h : OwnEntries t s (c :: entries)) :
    (declaredFill a t unsigned scaling name).outcome
      = .ok (some (scaling.apply (c.meant unsigned t).number)) := by
  obtain ⟨e, hgrid, -, he⟩ := sentinelGrid_of_ownEntries h unsigned
  have hfirst := numberAt_of_samples? (i := 0) he rfl
  rw [List.length_map] at hfirst
  rw [outcome_declaredFill_of_not_isString (given?_of_ownEntries hs h)
    (ne_null_and_not_isString h).2]
  exact Report.bind_eq_ok_iff.2 ⟨_, hgrid, Report.bind_eq_ok_iff.2 ⟨_, hfirst, rfl⟩⟩

/-- The entries of missing values are the missing values, as they are meant and unpacked. -/
lemma outcome_declaredMissing_of_ownEntries (unsigned : Bool) (scaling : Scaling)
    (name : String) (hs : a.find? Convention.missingValue.name = some s)
    (h : OwnEntries t s entries) :
    (declaredMissing a t unsigned scaling name).outcome
      = .ok (some (((entries.map (Sample.meant unsigned t)).map Sample.number).map
        scaling.apply)) := by
  obtain ⟨e, hgrid, -, he⟩ := sentinelGrid_of_ownEntries h unsigned
  have hall := numbers_of_samples? he
  rw [List.length_map] at hall
  rw [outcome_declaredMissing_of_not_isString (given?_of_ownEntries hs h)
    (ne_null_and_not_isString h).2]
  exact Report.bind_eq_ok_iff.2 ⟨_, hgrid, Report.bind_eq_ok_iff.2 ⟨_, hall, rfl⟩⟩

end Attribute

/-! ## Bounds stored packed -/

/-- Bounds of the rank of the samples are stored as the samples are. -/
lemma storedUnpacked_of_rank_eq {t bound : ElementType} (s : Scaling) (h : bound.rank = t.rank) :
    storedUnpacked t s (some bound) = false := by
  have hlt : decide (t.rank < bound.rank) = false := by
    rw [decide_eq_false_iff_not, h]
    exact lt_irrefl _
  rw [storedUnpacked, ElementType.rank?, hlt, Bool.and_false]

/-! ## A whole extraction -/

/-- What an extraction makes of its parts. -/
def assembled (t : ElementType) (unsigned : Bool) (scaling : Scaling) (bounds : Bounds)
    (fill : Option Double) (missing : Option (List Double)) : Declaration :=
  { declareBounds t scaling bounds with
    hasFillValue := fill.isSome
    fillValue := fill.getD (t.defaultFill unsigned)
    candidates := missing }

/-- The packing that an extraction goes by: the one that it is given, or else what the attributes
say. -/
def Scaling.inForce (a : Attributes) : Option Scaling → Except Failure Scaling
  | some s => .ok s
  | none => ofAttributes a

@[simp] lemma Scaling.inForce_none (a : Attributes) : inForce a none = ofAttributes a := rfl

/-- An extraction settles the packing, reads the bounds, the fill value and the missing values in
turn, and is put together from them. -/
theorem outcome_extract (a : Attributes) (t : ElementType) (scaling : Option Scaling)
    (name : Option String) :
    (extract a t scaling name).outcome = (do
      let s ← Scaling.inForce a scaling
      let b ← declaredBounds a t (a.isUnsigned t)
      let fill ← (declaredFill a t (a.isUnsigned t) s (noteName name)).outcome
      let missing ← (declaredMissing a t (a.isUnsigned t) s (noteName name)).outcome
      return assembled t (a.isUnsigned t) s b fill missing) := by
  cases scaling with
  | none =>
    simp only [extract, Report.outcome_bind, Report.outcome_liftM]
    rfl
  | some s =>
    simp only [extract, Report.outcome_bind, Report.outcome_liftM]
    rfl

/-- Once the packing and the bounds are read, an extraction succeeds exactly if the sentinels can be
read. -/
theorem outcome_extract_eq_ok_iff {a : Attributes} {t : ElementType} {scaling : Option Scaling}
    {name : Option String} {s : Scaling} {b : Bounds} (hs : Scaling.inForce a scaling = .ok s)
    (hb : declaredBounds a t (a.isUnsigned t) = .ok b) {d : Declaration} :
    (extract a t scaling name).outcome = .ok d ↔
      ∃ fill missing, (declaredFill a t (a.isUnsigned t) s (noteName name)).outcome = .ok fill ∧
        (declaredMissing a t (a.isUnsigned t) s (noteName name)).outcome = .ok missing ∧
        d = assembled t (a.isUnsigned t) s b fill missing := by
  have hrest : (extract a t scaling name).outcome = (do
      let fill ← (declaredFill a t (a.isUnsigned t) s (noteName name)).outcome
      let missing ← (declaredMissing a t (a.isUnsigned t) s (noteName name)).outcome
      return assembled t (a.isUnsigned t) s b fill missing) := by
    rw [outcome_extract, hs, hb]
    rfl
  simp only [hrest, Report.bind_eq_ok_iff]
  constructor
  · rintro ⟨fill, hfill, missing, hmissing, hd⟩
    exact ⟨fill, missing, hfill, hmissing, (Except.ok.inj hd).symm⟩
  · rintro ⟨fill, missing, hfill, hmissing, rfl⟩
    exact ⟨fill, hfill, missing, hmissing, rfl⟩

/-- An extraction that succeeds is put together from its parts. -/
lemma exists_eq_assembled {a : Attributes} {t : ElementType} {scaling : Option Scaling}
    {name : Option String} {d : Declaration} (h : (extract a t scaling name).outcome = .ok d) :
    ∃ s b fill missing, d = assembled t (a.isUnsigned t) s b fill missing := by
  simp only [outcome_extract, Report.bind_eq_ok_iff] at h
  obtain ⟨s, -, b, -, fill, -, missing, -, hd⟩ := h
  exact ⟨s, b, fill, missing, (Except.ok.inj hd).symm⟩

/-- A policy can be made of attributes if all of its parts can be read. -/
theorem outcome_policyOfAttributes_eq_ok_iff {a : Attributes} {t : ElementType} {flags : ModeFlags}
    {name : Option String} {p : Policy} :
    (policyOfAttributes a t flags none name).outcome = .ok p ↔
      ∃ s b fill missing, Scaling.ofAttributes a = .ok s ∧
        declaredBounds a t (a.isUnsigned t) = .ok b ∧
        (declaredFill a t (a.isUnsigned t) s (noteName name)).outcome = .ok fill ∧
        (declaredMissing a t (a.isUnsigned t) s (noteName name)).outcome = .ok missing ∧
        p = .make flags (assembled t (a.isUnsigned t) s b fill missing) := by
  simp only [policyOfAttributes, Report.outcome_bind, outcome_extract, Scaling.inForce_none,
    Report.bind_eq_ok_iff]
  constructor
  · rintro ⟨d, ⟨s, hs, b, hb, fill, hfill, missing, hmissing, hd⟩, hp⟩
    cases hd
    exact ⟨s, b, fill, missing, hs, hb, hfill, hmissing, (Except.ok.inj hp).symm⟩
  · rintro ⟨s, b, fill, missing, hs, hb, hfill, hmissing, rfl⟩
    exact ⟨_, ⟨s, hs, b, hb, fill, hfill, missing, hmissing, rfl⟩, rfl⟩

end MissingSamples
