/-
# Well-formed attributes can be read

Reading attributes can fail in many places: there is no first element, a grid has more dimensions
than one, an element has no number. None of them is reached if every attribute is of a form that
files hold: a text, a plain number, a row of such, or elements of a plain type in one dimension.
Everything that is not text then makes a grid of numbers, and every step reads such a grid.

* `Value.WellFormed` and `Attributes.WellFormed` say which attributes these are;
* `Value.WellFormed.yields_sentinelGrid` is the grid of one of them beside a variable of any type;
* `extractValue_of_wellFormed` says that extraction and the making of a policy succeed.
-/
import MissingSamples.Proofs.Extraction.TextSentinels
import MissingSamples.Proofs.Policy.FlagChanges
import MissingSamples.Proofs.Value.PlainNumbers

namespace MissingSamples

/-- Elements of the type are truth values, integers, floating numbers, texts or octets. -/
def ElementType.isPlain : ElementType → Bool
  | .bool | .int _ | .float _ | .bytes _ | .text .. => true
  | _ => false

/-- The value has a form in which files hold attributes. -/
inductive Value.WellFormed : Value → Prop
  /-- A text. -/
  | text (s : String) : WellFormed (.text s)
  /-- Octets. -/
  | bytes (xs : List UInt8) : WellFormed (.bytes xs)
  /-- A plain number. -/
  | number {v : Value} : v.IsPlainNumber → WellFormed v
  /-- A row of plain numbers with at least one member. -/
  | row {v : Value} {members : List Value} : v.IsRow members → members ≠ [] →
      (∀ m ∈ members, m.IsPlainNumber) → WellFormed v
  /-- One element of a plain type. -/
  | scalar {s : Scalar} : s.type.isPlain = true → WellFormed (.scalar s)
  /-- At least one element of a plain type, in one dimension or in none. -/
  | grid {g : Grid Value} : g.type.isPlain = true → g.atLeastOneDim.shape = [g.size] →
      0 < g.size → WellFormed (.grid g)

/-- Whatever the attributes say about missing samples or packing is well-formed. -/
def Attributes.WellFormed (a : Attributes) : Prop := ∀ c v, a.given? c = some v → v.WellFormed

/-! ## One attribute -/

lemma allNumbers_of_isPlain {e : Elements Value} (he : e.type.isPlain = true)
    (hchar : e.type.isChar = false) : e.AllNumbers := by
  cases e with
  | bools xs => exact .bools xs
  | ints t xs => exact .ints t xs
  | floats t xs => exact .floats t xs
  | bytes size xs => exact absurd hchar.symm Bool.false_ne_true
  | texts size order xs => exact absurd hchar.symm Bool.false_ne_true
  | _ => exact absurd he Bool.false_ne_true

lemma allNumbers_besideVariable {e : Elements Value} (he : e.AllNumbers) (t : ElementType) :
    (besideVariable t e).AllNumbers := by
  cases he with
  | ints i xs =>
    cases t with
    | int v =>
      rw [besideVariable]
      split_ifs <;> exact .ints _ xs
    | _ => exact .ints i xs
  | bools xs => exact .bools xs
  | floats i xs => exact .floats i xs
  | objects hxs => exact .objects hxs

lemma allNumbers_toUnsigned {e : Elements Value} (he : e.AllNumbers) (unsigned : Bool) :
    ((e.toUnsigned unsigned).result e).AllNumbers := by
  cases he with
  | ints i xs =>
    rw [Elements.toUnsigned]
    split_ifs <;> exact .ints _ _
  | bools xs => exact .bools xs
  | floats i xs => exact .floats i xs
  | objects hxs => exact .objects hxs

namespace Value.WellFormed

variable {v : Value} (hv : v.WellFormed)
include hv

lemma exists_asText (hstring : v.isString = true) : ∃ text, v.asText = .ok text := by
  refine (exists_asText_iff hstring).2 fun g hg => ?_
  subst hg
  cases hv with
  | number h => cases h
  | row h => cases h
  | grid _ _ hpos => exact hpos.ne'

variable (hstring : v.isString = false)
include hstring

/-- What is not text makes a grid of numbers. -/
lemma yields_asGrid : Yields (fun g => g.atLeastOneDim.OfNumbers) v.asGrid := by
  cases hv with
  | text s => exact absurd hstring.symm Bool.false_ne_true
  | bytes xs => exact absurd hstring.symm Bool.false_ne_true
  | number h => exact yields_asGrid_of_isPlainNumber h
  | row h hne hall => exact yields_asGrid_of_isRow h hne hall
  | @scalar s hplain =>
    refine .ok ⟨?_, ?_, allNumbers_of_isPlain hplain hstring⟩
    · cases s <;> rfl
    · cases s <;> exact Nat.zero_lt_one
  | grid hplain hshape hpos =>
    refine .ok ⟨?_, ?_, ?_⟩
    · rw [hshape, size_atLeastOneDim]
    · rwa [size_atLeastOneDim]
    · rw [elements_atLeastOneDim]
      exact allNumbers_of_isPlain hplain hstring

lemma yields_numericGrid (t : ElementType) : Yields Grid.OfNumbers (numericGrid v t) := by
  have hgrid := yields_asGrid hv hstring
  cases hsome : v.grid? with
  | some g =>
    rw [numericGrid_of_grid? hsome]
    obtain ⟨g', hg', hnumbers⟩ := hgrid
    simp only [asGrid, hsome, Except.ok.injEq] at hg'
    exact .ok (hg' ▸ hnumbers)
  | none =>
    simp only [numericGrid, hsome]
    refine hgrid.bind fun g hg => .ok ?_
    have hlength := length_besideVariable t g.atLeastOneDim.elements
    exact ⟨hg.shape.trans (congrArg (fun n => [n]) hlength.symm), hg.pos.trans_eq hlength.symm,
      allNumbers_besideVariable hg.numbers t⟩

/-- Beside a variable of any type, and read as unsigned or not, it is a grid of numbers. -/
theorem yields_sentinelGrid (t : ElementType) (unsigned : Bool) :
    Yields Grid.OfNumbers (sentinelGrid v t unsigned) := by
  obtain ⟨g, hgrid, hg⟩ := yields_numericGrid hv hstring t
  rw [sentinelGrid_of_numericGrid hgrid]
  have hlength := length_toUnsigned unsigned g.elements
  exact .ok ⟨hg.shape.trans (congrArg (fun n => [n]) hlength.symm), hg.pos.trans_eq hlength.symm,
    allNumbers_toUnsigned hg.numbers unsigned⟩

end Value.WellFormed

/-! ## All attributes -/

namespace Attributes.WellFormed

variable {a : Attributes} (ha : a.WellFormed) (t : ElementType) (unsigned : Bool)
include ha

lemma of_numeric? {c : Convention} {v : Value} (hv : a.numeric? c = some v) :
    v.WellFormed ∧ v.isString = false := by
  obtain ⟨hgiven, hstring⟩ := Option.filter_eq_some_iff.1 hv
  exact ⟨ha c v hgiven, by simpa using hstring⟩

lemma yields_factor {c : Convention} {v : Value} (hv : a.numeric? c = some v) :
    Yields (fun _ => True) (Scaling.factor v) := by
  obtain ⟨hwell, hstring⟩ := ha.of_numeric? hv
  refine (hwell.yields_asGrid hstring).bind fun g hg => ?_
  exact (Grid.yields_numberAt hg hg.pos).bind fun _ _ => .ok trivial

lemma yields_inForce (scaling : Option Scaling) :
    Yields (fun _ => True) (Scaling.inForce a scaling) := by
  cases scaling with
  | some s => exact .ok trivial
  | none =>
    rw [Scaling.inForce_none, Scaling.ofAttributes]
    cases hscale : a.numeric? .scaleFactor with
    | none =>
      cases hoffset : a.numeric? .addOffset with
      | none => exact .ok trivial
      | some v => exact (ha.yields_factor hoffset).bind fun _ _ => .ok trivial
    | some v =>
      refine (ha.yields_factor hscale).bind fun _ _ => ?_
      cases hoffset : a.numeric? .addOffset with
      | none => exact .ok trivial
      | some w => exact (ha.yields_factor hoffset).bind fun _ _ => .ok trivial

/-- The grid of an attribute and its first number can be read. -/
lemma yields_firstNumber {β : Type} {Q : β → Prop} {c : Convention} {v : Value}
    (hv : a.numeric? c = some v) {next : Grid Value → Double → Except Failure β}
    (h : ∀ g x, Yields Q (next g x)) :
    Yields Q (sentinelGrid v t unsigned >>= fun g => g.numberAt 0 >>= next g) := by
  obtain ⟨hwell, hstring⟩ := ha.of_numeric? hv
  refine (hwell.yields_sentinelGrid hstring t unsigned).bind fun g hg => ?_
  exact (Grid.yields_numberAt hg hg.pos).bind fun x _ => h g x

lemma yields_rangeBounds : Yields (fun _ => True) (rangeBounds a t unsigned) := by
  unfold rangeBounds
  cases hv : a.numeric? .validRange with
  | none => exact .ok trivial
  | some v =>
    obtain ⟨hwell, hstring⟩ := ha.of_numeric? hv
    refine (hwell.yields_sentinelGrid hstring t unsigned).bind fun g hg => ?_
    split_ifs with hsize
    · refine (Grid.yields_numberAt hg hg.pos).bind fun _ _ => ?_
      exact (Grid.yields_numberAt hg hsize).bind fun _ _ => .ok trivial
    · exact .ok trivial

lemma yields_singleBounds : Yields (fun _ => True) (singleBounds a t unsigned) := by
  unfold singleBounds
  cases hmin : a.numeric? .validMin with
  | none =>
    cases hmax : a.numeric? .validMax with
    | none => exact .ok trivial
    | some v => exact ha.yields_firstNumber t unsigned hmax fun _ _ => .ok trivial
  | some v =>
    refine ha.yields_firstNumber t unsigned hmin fun _ _ => ?_
    cases hmax : a.numeric? .validMax with
    | none => exact .ok trivial
    | some v => exact ha.yields_firstNumber t unsigned hmax fun _ _ => .ok trivial

lemma yields_declaredBounds : Yields (fun _ => True) (declaredBounds a t unsigned) := by
  refine (ha.yields_rangeBounds t unsigned).bind fun b _ => ?_
  cases b with
  | some b => exact .ok trivial
  | none => exact ha.yields_singleBounds t unsigned

lemma yields_declaredFill (s : Scaling) (name : String) :
    Yields (fun _ => True) (declaredFill a t unsigned s name).outcome := by
  cases hv : a.given? .fillValue with
  | none =>
    rw [outcome_declaredFill_of_not_given hv]
    exact .ok trivial
  | some v =>
    have hwell := ha .fillValue v hv
    cases hstring : v.isString with
    | true =>
      obtain ⟨text, htext⟩ := hwell.exists_asText hstring
      rw [outcome_declaredFill_of_isString hstring _ _ _ hv, htext]
      exact .ok trivial
    | false =>
      rw [outcome_declaredFill_of_not_isString hv hstring]
      refine (hwell.yields_sentinelGrid hstring t unsigned).bind fun g hg => ?_
      exact (Grid.yields_numberAt hg hg.pos).bind fun _ _ => .ok trivial

lemma yields_declaredMissing (s : Scaling) (name : String) :
    Yields (fun _ => True) (declaredMissing a t unsigned s name).outcome := by
  cases hv : a.given? .missingValue with
  | none =>
    rw [outcome_declaredMissing_of_not_given hv]
    exact .ok trivial
  | some v =>
    have hwell := ha .missingValue v hv
    cases hstring : v.isString with
    | true =>
      obtain ⟨text, htext⟩ := hwell.exists_asText hstring
      rw [outcome_declaredMissing_of_isString hstring _ _ _ hv, htext]
      exact .ok trivial
    | false =>
      rw [outcome_declaredMissing_of_not_isString hv hstring]
      refine (hwell.yields_sentinelGrid hstring t unsigned).bind fun g hg => ?_
      exact (Grid.yields_numbers hg).bind fun _ _ => .ok trivial

lemma yields_extract (scaling : Option Scaling) (name : Option String) :
    Yields (fun _ => True) (extract a t scaling name).outcome := by
  rw [outcome_extract]
  refine (ha.yields_inForce scaling).bind fun s _ => ?_
  refine (ha.yields_declaredBounds t _).bind fun b _ => ?_
  refine (ha.yields_declaredFill t _ s _).bind fun fill _ => ?_
  exact (ha.yields_declaredMissing t _ s _).bind fun missing _ => .ok trivial

end Attributes.WellFormed

/-- Extraction from well-formed attributes succeeds for a variable of any type, and so does the
making of a policy of what it declares, under any flags. -/
theorem extractValue_of_wellFormed {attributes typeName : Value} {a : Attributes} {t : ElementType}
    (hattributes : attributes.attributes? = some a) (htype : typeName.namedType = .ok t)
    (ha : a.WellFormed) (flags : ModeFlags) (scaling : Option Scaling) (name : Option String) :
    ∃ d, (extractValue attributes typeName scaling name).outcome = .ok d ∧
      Policy.ofInputs flags d.inputs = .ok (.make flags d) ∧
      (policyOfAttributes a t flags scaling name).outcome = .ok (.make flags d) := by
  obtain ⟨d, hd, -⟩ := ha.yields_extract t scaling name
  refine ⟨d, ?_, Policy.ofInputs_inputs flags d, ?_⟩
  · simp only [extractValue, hattributes, htype]
    exact hd
  · rw [policyOfAttributes, Report.outcome_bind, hd]
    rfl

/-- One attribute of each form: a row with an integer of more than eight octets, a text, a plain
number, one element, a row of truth values and doubles, and elements in one dimension. -/
def mixedForms : Attributes :=
  ⟨[("valid_range", .tuple [.int (-5), .int 1180591620717411303424]), ("add_offset", .text "none"),
    ("scale_factor", .float .nan), ("_FillValue", .scalar (.int ⟨true, .w16, .big⟩ (-1))),
    ("missing_value", .list [.bool true, .float (.infinite true)]),
    ("valid_min", .grid ⟨[2], .bools [true, false]⟩)]⟩

lemma mixedForms_wellFormed : mixedForms.WellFormed := by
  intro c v hv
  cases c <;> cases hv
  · refine .row .tuple (by simp) ?_
    simp only [List.forall_mem_cons, List.not_mem_nil, false_imp_iff, implies_true, and_true]
    exact ⟨.int (by decide +kernel), .int (by decide +kernel)⟩
  · exact .grid rfl rfl (by decide)
  · exact .scalar rfl
  · refine .row .list (by simp) ?_
    simp only [List.forall_mem_cons, List.not_mem_nil, false_imp_iff, implies_true, and_true]
    exact ⟨.bool true, .float _⟩
  · exact .number (.float _)
  · exact .text _

theorem extractValue_of_wellFormed_of_mixedForms :
    ∃ d, (extractValue (.mapping (mixedForms.entries.map fun e => (.text e.1, e.2)))
      (.elementType .object) none none).outcome = .ok d := by
  have hattributes : (Value.mapping (mixedForms.entries.map fun e => (.text e.1, e.2))).attributes?
      = some mixedForms := rfl
  obtain ⟨d, hd, -, -⟩ := extractValue_of_wellFormed hattributes
    (Value.namedType_elementType .object) mixedForms_wellFormed ⟨true, true, true⟩ none none
  exact ⟨d, hd⟩

end MissingSamples
