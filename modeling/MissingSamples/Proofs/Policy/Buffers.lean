/-
# What a conversion writes

The steps of a conversion write into a destination that may be the values themselves, and what they
write stays written. All the same a conversion is one function of what it reads: it fails before it
has written anything, and where it succeeds the destination holds what a conversion has to hold. A
policy with nothing to do comes to no test and to no write at all.

* `Policy.convertOn_eq` says that the steps do what the conversion of a value is;
* `Policy.convertOn_eq_error_iff` says when conversions fail, and that they leave everything as it
  was;
* `Policy.convertOn_of_not_hasMissing` says that a policy with nothing to do is right to do nothing.
-/
import MissingSamples.Policy.Buffers
import MissingSamples.Proofs.Policy.Conversion
import MissingSamples.Proofs.Sample

namespace MissingSamples

open Double

/-! ## Destinations -/

/-- Why the value is no destination for samples in the shape: the first test that it fails. -/
inductive Refused (shape : List Nat) : Value → Failure → Prop
  /-- It is no grid. -/
  | notArray {d : Value} (noGrid : ∀ o, d ≠ .grid o) : Refused shape d .outNotArray
  /-- It is a grid in another shape. -/
  | otherShape {o : Grid Value} (differs : o.shape ≠ shape) :
    Refused shape (.grid o) (.outShape o.shape shape)
  /-- It is a grid in the shape, but not of floating numbers. -/
  | notFloating {o : Grid Value} (fits : o.shape = shape) (noFloats : ∀ t, o.type ≠ .float t) :
    Refused shape (.grid o) (.outNotFloating o.type)

lemma Refused.family?_eq {shape : List Nat} {d : Value} {f : Failure} (h : Refused shape d f) :
    f.family? = some .invalidArgument := by
  cases h <;> rfl

lemma destinationType_of_not_grid (shape : List Nat) {d : Value} (h : ∀ o, d ≠ .grid o) :
    d.destinationType shape = .error .outNotArray := by
  cases d with
  | grid o => exact absurd rfl (h o)
  | _ => rfl

/-- A destination is refused exactly by the first test that it fails. -/
lemma destinationType_eq_error_iff {shape : List Nat} {d : Value} {f : Failure} :
    d.destinationType shape = .error f ↔ Refused shape d f := by
  constructor
  · intro h
    by_cases hgrid : ∃ o, d = .grid o
    · obtain ⟨⟨oshape, e⟩, rfl⟩ := hgrid
      simp only [Value.destinationType] at h
      split_ifs at h with hshape
      · split at h
        · cases h
        · next hfloats =>
          cases h
          refine .notFloating hshape fun t ht => ?_
          cases e with
          | floats s ys => exact hfloats s ys rfl
          | _ => cases ht
      · cases h
        exact .otherShape hshape
    · have hnone : ∀ o, d ≠ .grid o := fun o ho => hgrid ⟨o, ho⟩
      rw [destinationType_of_not_grid shape hnone] at h
      cases h
      exact .notArray hnone
  · intro h
    cases h with
    | notArray noGrid => exact destinationType_of_not_grid shape noGrid
    | otherShape differs => rw [Value.destinationType, if_neg differs]
    | @notFloating o fits noFloats =>
      rw [Value.destinationType, if_pos fits]
      split
      · next t ys he => exact absurd (congrArg Elements.type he) (noFloats t)
      · rfl

namespace Policy

variable (p : Policy)

/-- A conversion of samples into a destination is made as soon as the destination is accepted. -/
lemma convertInto_eq_map (hp : p.hasMissing = true) {g : Grid Value} {xs : List Double}
    (hx : g.elements.numbers? = some xs) (d : Value) :
    p.convertInto g d = (d.destinationType g.shape).map fun t =>
      .made ⟨g.shape, .floats t (blank (p.marks xs) (storedAs t.width g.elements))⟩ := by
  simp only [convertInto, hx, hp, if_true]
  cases d with
  | grid o =>
    simp only [Value.destinationType]
    split_ifs
    · cases o.elements <;> rfl
    · rfl
  | _ => rfl

/-! ## Running a conversion -/

/-- The steps of a conversion into a destination write all at once what the conversion makes, or
they write nothing. -/
lemma on_convertOnto (g : Grid Value) (d : Value) (b : Buffers) :
    (p.convertOnto g d).on b =
      match p.convertInto g d with
      | .error f => (.error f, b)
      | .ok .kept => (.ok .values, b)
      | .ok (.made h) => (.ok .destination, b.write h) := by
  cases hx : g.elements.numbers? with
  | none => simp only [convertOnto, convertInto, hx, Conversion.on_pure]
  | some xs =>
    cases hp : p.hasMissing with
    | false =>
      simp only [convertOnto, convertInto, hx, hp, Bool.false_eq_true, if_false,
        Conversion.on_pure]
    | true =>
      simp only [convertOnto, hx, hp, if_true, p.convertInto_eq_map hp hx, Conversion.on_bind,
        Conversion.on_ofOutcome]
      cases d.destinationType g.shape with
      | error f => rfl
      | ok t =>
        simp only [Conversion.on_assign, Conversion.on_blank_write, Conversion.on_pure, Except.map]

/-- The steps of a conversion come to what the conversion of the value is: they fail as it does and
have then written nothing, and otherwise they have written what it makes into the destination, if
there is one. -/
theorem convertOn_eq (b : Buffers) :
    p.convertOn b =
      match p.convertValue b.values b.destination? with
      | .error f => (.error f, b)
      | .ok .kept => (.ok .values, b)
      | .ok (.made h) =>
        if b.destination?.isSome then (.ok .destination, b.write h) else (.ok (.fresh h), b) := by
  simp only [convertOn, convertBuffers, Conversion.on_bind, Conversion.on_get,
    Conversion.on_ofOutcome]
  cases hg : b.values.asGrid with
  | error f => simp only [convertValue, hg, bind, Except.bind]
  | ok g =>
    cases hd : b.destination? with
    | none =>
      simp only [p.convertValue_none hg, Conversion.on_pure]
      cases p.convertMissing g <;> rfl
    | some d =>
      simp only [p.convertValue_some hg, on_convertOnto, Option.isSome_some, if_true]

section Idle

variable {p} {g : Grid Value} (h : g.type.isNumeric = false ∨ p.hasMissing = false)
include h

lemma convertMissing_of_idle : p.convertMissing g = .kept := by
  rcases p.convertMissing_eq g with hkept | ⟨t, xs, hx, -, -⟩
  · exact hkept
  · rcases h with hnumeric | hp
    · rw [Grid.type, ← Elements.isSome_numbers?, hx] at hnumeric
      cases hnumeric
    · rw [convertMissing, hp, if_neg Bool.false_ne_true]

lemma convertInto_of_idle (d : Value) : p.convertInto g d = .ok .kept := by
  rw [convertInto]
  split
  · rfl
  · next xs hx =>
    rcases h with hnumeric | hp
    · rw [Grid.type, ← Elements.isSome_numbers?, hx] at hnumeric
      cases hnumeric
    · rw [hp, if_neg Bool.false_ne_true]

/-- Where there are no numbers, or none could be missing, nothing is tested and nothing written. -/
lemma convertOn_of_idle {b : Buffers} (hg : b.values.asGrid = .ok g) :
    p.convertOn b = (.ok .values, b) := by
  have hkept : p.convertValue b.values b.destination? = .ok .kept := by
    cases b.destination? with
    | none => rw [p.convertValue_none hg, convertMissing_of_idle h]
    | some d => rw [p.convertValue_some hg, convertInto_of_idle h]
  rw [convertOn_eq, hkept]

end Idle

/-- A conversion into a destination fails exactly if there are numbers to convert, some sample could
be missing, and the destination is refused. -/
lemma convertInto_eq_error_iff {g : Grid Value} {d : Value} {f : Failure} :
    p.convertInto g d = .error f ↔
      g.type.isNumeric = true ∧ p.hasMissing = true ∧ Refused g.shape d f := by
  by_cases hbusy : g.type.isNumeric = true ∧ p.hasMissing = true
  · obtain ⟨hnumeric, hp⟩ := hbusy
    obtain ⟨xs, hx⟩ : ∃ xs, g.elements.numbers? = some xs := by
      rw [← Option.isSome_iff_exists, Elements.isSome_numbers?]
      exact hnumeric
    rw [p.convertInto_eq_map hp hx, ← destinationType_eq_error_iff]
    cases d.destinationType g.shape <;> simp [Except.map, hnumeric, hp]
  · have hidle : g.type.isNumeric = false ∨ p.hasMissing = false := by
      rwa [not_and_or, Bool.not_eq_true, Bool.not_eq_true] at hbusy
    rw [convertInto_of_idle hidle]
    exact iff_of_false nofun fun h => hbusy ⟨h.1, h.2.1⟩

/-- A conversion fails exactly if there are numbers to convert, some sample could be missing, and a
destination is given that is no grid, or else has another shape, or else cannot hold not-a-number.
The first of these is what it fails with, it is a mistake of the caller, and everything that the
caller brought is as it was. Where there is nothing to convert no destination is refused or
written. -/
theorem convertOn_eq_error_iff {b : Buffers} {g : Grid Value} (hg : b.values.asGrid = .ok g) :
    (∀ f after, p.convertOn b = (.error f, after) ↔
      after = b ∧ g.type.isNumeric = true ∧ p.hasMissing = true ∧
        ∃ d, b.destination? = some d ∧ Refused g.shape d f) ∧
    (∀ f, (p.convertOn b).1 = .error f → f.family? = some .invalidArgument) ∧
    (g.type.isNumeric = false ∨ p.hasMissing = false → p.convertOn b = (.ok .values, b)) := by
  have hfails : ∀ f after, p.convertOn b = (.error f, after) ↔
      after = b ∧ g.type.isNumeric = true ∧ p.hasMissing = true ∧
        ∃ d, b.destination? = some d ∧ Refused g.shape d f := by
    intro f after
    rw [convertOn_eq]
    cases hd : b.destination? with
    | none =>
      rw [p.convertValue_none hg]
      cases p.convertMissing g <;> simp
    | some d =>
      have hrefused : (∃ d', some d = some d' ∧ Refused g.shape d' f) ↔ Refused g.shape d f := by
        simp
      rw [p.convertValue_some hg, hrefused, ← p.convertInto_eq_error_iff]
      rcases p.convertInto g d with f' | ⟨⟩ | h <;> simp [and_comm, eq_comm]
  refine ⟨hfails, fun f hf => ?_, fun hidle => convertOn_of_idle hidle hg⟩
  obtain ⟨-, -, -, d, -, hrefused⟩ := (hfails f (p.convertOn b).2).1 (Prod.ext hf rfl)
  exact hrefused.family?_eq

/-- Integers that are their own destination, which no policy can mark in place. -/
def ownIntegers : Buffers := .shared (.grid ⟨[2], .ints ⟨true, .w16, .little⟩ [1, 5]⟩)

/-- A destination in another shape and not of floating numbers is refused for its shape, and
integers are refused as their own destination. They stay as they are. -/
theorem convertOn_eq_error_iff_of_integers :
    let p := make {} { hasFillValue := true, fillValue := 5 }
    let values : Value := .tuple [.int 1, .int 5]
    let other : Value := .grid ⟨[1, 2], .bools [true, false]⟩
    p.convertOn (.apart values other) = (.error (.outShape [1, 2] [2]), .apart values other) ∧
      p.convertOn ownIntegers
        = (.error (.outNotFloating (.int ⟨true, .w16, .little⟩)), ownIntegers) := by
  intro p values other
  have hvalues : values.asGrid = .ok ⟨[2], .ints .int64 [1, 5]⟩ := by rfl
  refine ⟨?_, ?_⟩
  · refine ((p.convertOn_eq_error_iff (b := .apart values other) hvalues).1 _ _).2
      ⟨rfl, rfl, rfl, other, rfl, .otherShape (by decide)⟩
  · refine ((p.convertOn_eq_error_iff (b := ownIntegers) rfl).1 _ _).2
      ⟨rfl, rfl, rfl, _, rfl, ?_⟩
    exact .notFloating (o := ⟨[2], .ints ⟨true, .w16, .little⟩ [1, 5]⟩) rfl fun t ht => by cases ht

/-! ## Nothing to do -/

/-- One stored number converted: not-a-number if it is missing, and what it is otherwise. -/
def convertSample (s : Sample) : Sample := if p.isMissing s.number then .float .nan else s

lemma convertSample_of_not_hasMissing (h : p.hasMissing = false) (s : Sample) :
    p.convertSample s = s := by
  rw [convertSample, p.isMissing_of_not_hasMissing h]
  cases s with
  | int i => rw [Sample.number, isNaN_ofInt, if_neg Bool.false_ne_true]
  | float x =>
    cases hx : x.isNaN with
    | true => rw [Sample.number, hx, if_pos rfl, eq_nan_of_isNaN hx]
    | false => rw [Sample.number, hx, if_neg Bool.false_ne_true]

/-- A policy with nothing to do calls nothing missing but not-a-number. So giving back the values as
they are, with the destination as it was, is what converting them one by one comes to. The other way
round, a policy that calls a number missing has something to do. -/
theorem convertOn_of_not_hasMissing :
    (p.hasMissing = false →
      (∀ x, (p.isMissing x = true ↔ x.isNaN = true) ∧ p.convert x = x) ∧
      ∀ (b : Buffers) (g : Grid Value) (xs : List Sample), b.values.asGrid = .ok g →
        g.elements.samples? = some xs →
          p.convertOn b = (.ok .values, b) ∧ xs.map p.convertSample = xs) ∧
    ∀ x, x.isNaN = false → p.isMissing x = true → p.hasMissing = true := by
  refine ⟨fun h => ⟨fun x => ?_, fun b g xs hg _ => ⟨convertOn_of_idle (Or.inr h) hg, ?_⟩⟩,
    fun x hx hmissing => hasMissing_of_isMissing hx hmissing⟩
  · exact ⟨by rw [p.isMissing_of_not_hasMissing h], p.convert_of_not_hasMissing h x⟩
  · rw [List.map_congr_left fun s _ => p.convertSample_of_not_hasMissing h s, List.map_id']

/-- Bounds that are given but not declared, and missing values whose rule is off, find nothing. -/
theorem convertOn_of_not_hasMissing_of_undeclared :
    let p := make ⟨true, true, false⟩ { validMin := 0, validMax := 1, candidates := some [5] }
    let values : Value := .grid ⟨[2], .floats ⟨.single, .big⟩ [5, .nan]⟩
    p.convertOn (.apart values (.int 0)) = (.ok .values, .apart values (.int 0)) ∧
      p.isMissing 5 = false ∧ (make {} { hasFillValue := true, fillValue := 5 }).hasMissing := by
  intro p values
  obtain ⟨hidle, -⟩ := p.convertOn_of_not_hasMissing
  obtain ⟨hmissing, hkept⟩ := hidle rfl
  obtain ⟨-, hbusy⟩ := (make {} { hasFillValue := true, fillValue := 5 }).convertOn_of_not_hasMissing
  refine ⟨(hkept (.apart values (.int 0)) _ [.float 5, .float .nan] rfl rfl).1, ?_,
    hbusy 5 (by decide +kernel) (by decide +kernel)⟩
  rw [Bool.eq_false_iff, ne_eq, (hmissing 5).1]
  decide +kernel

end Policy

end MissingSamples
