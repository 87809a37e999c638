/-
# What a conversion holds

A conversion puts not-a-number in place of the missing samples and keeps the others, in the type
that the samples have or in the type of a destination. Which samples are missing is told from
their doubles, and never from what is left of them in a narrower destination.

* `Policy.maskedAs` is what a conversion has to hold, element by element;
* `Policy.blank_marks_storedAs` and `Policy.converted?_eq` say that marking, storing and blanking
  come to that, in a destination and without one;
* `Policy.convert_of_not_hasMissing` says that a policy with nothing to do changes no number;
* `Policy.convertValue_idem` says that what is converted stays when it is converted again.
-/
import MissingSamples.Proofs.Policy.Marks

namespace MissingSamples

open Double

/-- An integer rounded to the format of doubles is the integer as a double. -/
lemma ofIntIn_binary64 (i : Int) : ofIntIn .binary64 i = ofInt i := by
  unfold ofIntIn ofInt
  generalize i.natAbs * unitsPerOne = n
  by_cases h : FloatFormat.binary64.round n 1 < twoPow FloatFormat.binary64.limit
  · have hleft := nearest_of_holds (decide (i < 0)) (FloatFormat.holds_round _ h)
    simp only [if_pos h, hleft]
    unfold nearest
    rw [dif_pos h]
  · simp only [if_neg h]
    unfold nearest
    rw [dif_neg h]

lemma store_self (width : FloatWidth) (x : Double) : width.store width x = x :=
  if_pos rfl

/-- What a conversion of the value gives back: the value itself, or a grid of its own. -/
def Change.returned (v : Value) : Change (Grid Value) → Value
  | kept => v
  | made g => .grid g

lemma Change.returned_grid (g : Grid Value) (change : Change (Grid Value)) :
    change.returned (.grid g) = .grid (change.result g) := by
  cases change <;> rfl

namespace Policy

variable {α : Type}

/-- What a conversion to floating numbers of the width has to hold: not-a-number for every element
whose double is missing, and every other element at that width. -/
def maskedAs (p : Policy) (width : FloatWidth) : Elements α → List Double
  | .ints _ is => is.map fun i => if p.isMissing (.ofInt i) then .nan else .ofIntIn width.format i
  | .floats t xs => xs.map fun x => if p.isMissing x then .nan else t.width.store width x
  | _ => []

lemma blank_map_map {β : Type} (missing : Double → Bool) (number f : β → Double) (xs : List β) :
    blank ((xs.map number).map missing) (xs.map f)
      = xs.map fun x => if missing (number x) then .nan else f x := by
  induction xs with
  | nil => rfl
  | cons x rest ih =>
    simp only [blank, List.map_cons, List.zipWith_cons_cons] at ih ⊢
    rw [ih]

/-- Blanking many numbers by their marks converts every one by itself. -/
lemma blank_marks (p : Policy) (xs : List Double) : blank (p.marks xs) xs = xs.map p.convert := by
  have hmap := blank_map_map p.isMissing id id xs
  rw [List.map_id] at hmap
  rw [marks_eq_map, hmap]
  rfl

/-- Blanking what is stored at a width by the marks of the doubles gives what a conversion to the
width has to hold. -/
lemma blank_marks_storedAs (p : Policy) (width : FloatWidth) {e : Elements α} {xs : List Double}
    (h : e.numbers? = some xs) : blank (p.marks xs) (storedAs width e) = p.maskedAs width e := by
  rw [marks_eq_map]
  cases e with
  | ints t is =>
    obtain rfl : is.map Double.ofInt = xs := by simpa [Elements.numbers?] using h
    rw [storedAs, maskedAs, blank_map_map]
  | floats t ys =>
    obtain rfl : ys = xs := by simpa [Elements.numbers?] using h
    have hmap := blank_map_map p.isMissing id (t.width.store width) ys
    rw [List.map_id] at hmap
    rw [storedAs, maskedAs, hmap]
    simp only [id]
  | _ => simp [Elements.numbers?] at h

lemma length_maskedAs (p : Policy) {e : Elements α} {xs : List Double} (h : e.numbers? = some xs)
    (width : FloatWidth) : (p.maskedAs width e).length = xs.length := by
  cases e with
  | ints t is =>
    obtain rfl : is.map Double.ofInt = xs := by simpa [Elements.numbers?] using h
    rw [maskedAs, List.length_map, List.length_map]
  | floats t ys =>
    obtain rfl : ys = xs := by simpa [Elements.numbers?] using h
    rw [maskedAs, List.length_map]
  | _ => simp [Elements.numbers?] at h

/-- There is not-a-number in the place of every sample that is missing. -/
lemma getElem?_maskedAs (p : Policy) {e : Elements α} {xs : List Double}
    (h : e.numbers? = some xs) (width : FloatWidth) {i : Nat} {x : Double} (hi : xs[i]? = some x)
    (hx : p.isMissing x = true) : (p.maskedAs width e)[i]? = some .nan := by
  cases e with
  | ints t is =>
    obtain rfl : is.map Double.ofInt = xs := by simpa [Elements.numbers?] using h
    obtain ⟨k, hk, rfl⟩ := by simpa [List.getElem?_map] using hi
    rw [maskedAs, List.getElem?_map, hk, Option.map_some, if_pos hx]
  | floats t ys =>
    obtain rfl : ys = xs := by simpa [Elements.numbers?] using h
    rw [maskedAs, List.getElem?_map, hi, Option.map_some, if_pos hx]
  | _ => simp [Elements.numbers?] at h

/-- The samples without the missing ones, at the width of the converted type. -/
lemma converted?_eq (p : Policy) {e : Elements α} (h : e.type.isNumeric = true) :
    ∃ t, e.type.converted = .float t ∧
      p.converted? e = some (.floats t (p.maskedAs t.width e)) := by
  cases e with
  | ints t is =>
    refine ⟨.float64, rfl, ?_⟩
    have hblank := p.blank_marks_storedAs .double (e := (.ints t is : Elements α)) rfl
    have hstored : storedAs .double (.ints t is : Elements α) = is.map Double.ofInt :=
      List.map_congr_left fun i _ => ofIntIn_binary64 i
    rw [hstored] at hblank
    simp only [converted?, hblank]
    rfl
  | floats t xs =>
    refine ⟨t, rfl, ?_⟩
    have hblank := p.blank_marks_storedAs t.width (e := (.floats t xs : Elements α)) rfl
    have hstored : storedAs t.width (.floats t xs : Elements α) = xs := by
      rw [storedAs, List.map_congr_left fun x _ => store_self t.width x, List.map_id']
    rw [hstored] at hblank
    simp only [converted?, hblank]
  | _ => simp [Elements.type, ElementType.isNumeric] at h

lemma convertValue_none (p : Policy) {v : Value} {g : Grid Value} (hv : v.asGrid = .ok g) :
    p.convertValue v none = .ok (p.convertMissing g) := by
  simp only [convertValue, hv, bind, Except.bind]
  rfl

lemma convertValue_some (p : Policy) {v : Value} {g : Grid Value} (hv : v.asGrid = .ok g)
    (out : Value) : p.convertValue v (some out) = p.convertInto g out := by
  simp only [convertValue, hv, bind, Except.bind]

/-- Samples come back themselves from a policy with nothing to do, and become what a conversion has
to hold otherwise. -/
lemma convertMissing_of_numbers? (p : Policy) {g : Grid α} {xs : List Double}
    (hx : g.elements.numbers? = some xs) :
    (p.hasMissing = false ∧ p.convertMissing g = .kept) ∨
      ∃ t : FloatType,
        p.convertMissing g = .made ⟨g.shape, .floats t (p.maskedAs t.width g.elements)⟩ := by
  have hnumeric : g.elements.type.isNumeric = true := by
    rw [← Elements.isSome_numbers?, hx, Option.isSome_some]
  obtain ⟨t, -, hconverted⟩ := p.converted?_eq hnumeric
  cases hp : p.hasMissing with
  | false => exact Or.inl ⟨rfl, by simp only [convertMissing, hp, Bool.false_eq_true, if_false]⟩
  | true => exact Or.inr ⟨t, by simp only [convertMissing, hp, hconverted, if_true]⟩

/-- So it is with a destination, if it takes the samples. -/
lemma convertInto_of_numbers? (p : Policy) {g : Grid Value} {xs : List Double}
    (hx : g.elements.numbers? = some xs) {out : Value} {change : Change (Grid Value)}
    (h : p.convertInto g out = .ok change) :
    (p.hasMissing = false ∧ change = .kept) ∨
      ∃ t : FloatType, change = .made ⟨g.shape, .floats t (p.maskedAs t.width g.elements)⟩ := by
  simp only [convertInto, hx, p.blank_marks_storedAs _ hx] at h
  cases hp : p.hasMissing with
  | false =>
    rw [hp] at h
    exact Or.inl ⟨rfl, (Except.ok.inj h).symm⟩
  | true =>
    rw [hp, if_pos rfl] at h
    split at h
    · split_ifs at h
      split at h
      · exact Or.inr ⟨_, (Except.ok.inj h).symm⟩
      · cases h
    · cases h

/-- Floating numbers in the shape of the samples are a destination that takes them. -/
lemma exists_convertInto_floats (p : Policy) (g : Grid Value) (t : FloatType) (zs : List Double) :
    ∃ change, p.convertInto g (.grid ⟨g.shape, .floats t zs⟩) = .ok change := by
  cases hx : g.elements.numbers? with
  | none => exact ⟨.kept, by simp only [convertInto, hx]⟩
  | some xs =>
    cases hp : p.hasMissing with
    | false => exact ⟨.kept, by simp only [convertInto, hx, hp, Bool.false_eq_true, if_false]⟩
    | true => exact ⟨_, by simp only [convertInto, hx, hp, if_true]; rfl⟩

/-- A policy with nothing to do calls nothing missing but not-a-number. -/
lemma isMissing_of_not_hasMissing (p : Policy) (h : p.hasMissing = false) (x : Double) :
    p.isMissing x = x.isNaN := by
  simp only [hasMissing, Bool.or_eq_false_iff] at h
  obtain ⟨⟨hinvalid, hfill⟩, hmissing⟩ := h
  simp only [isMissing_eq_or, hinvalid, hfill, hmissing, Bool.false_and, Bool.or_false]

/-- A policy that calls a number missing has something to do. -/
lemma hasMissing_of_isMissing {p : Policy} {x : Double} (hx : x.isNaN = false)
    (h : p.isMissing x = true) : p.hasMissing = true := by
  by_contra hno
  rw [p.isMissing_of_not_hasMissing (eq_false_of_ne_true hno), hx] at h
  exact Bool.false_ne_true h

/-- Where no sample could be missing, conversion changes none. -/
theorem convert_of_not_hasMissing (p : Policy) (h : p.hasMissing = false) (x : Double) :
    p.convert x = x := by
  rw [convert, p.isMissing_of_not_hasMissing h]
  cases hx : x.isNaN
  · rfl
  · rw [if_pos rfl, eq_nan_of_isNaN hx]

/-- A conversion gives back the grid itself or converts every number of it, and leaves floating
numbers. -/
theorem convertMissing_eq (p : Policy) (g : Grid α) :
    p.convertMissing g = .kept ∨
      ∃ t xs, g.elements.numbers? = some xs ∧ g.type.converted = .float t ∧
        p.convertMissing g = .made ⟨g.shape, .floats t (xs.map p.convert)⟩ := by
  obtain ⟨shape, e⟩ := g
  unfold convertMissing
  split_ifs
  · cases e with
    | ints t is =>
      exact Or.inr ⟨.float64, is.map ofInt, rfl, rfl, by simp only [converted?, blank_marks]⟩
    | floats t ys => exact Or.inr ⟨t, ys, rfl, rfl, by simp only [converted?, blank_marks]⟩
    | _ => exact Or.inl rfl
  · exact Or.inl rfl

/-- Converting floating samples converts every one by itself, also where there is nothing to do. -/
theorem result_convertMissing_floats (p : Policy) (shape : List Nat) (t : FloatType)
    (ys : List Double) :
    (p.convertMissing (⟨shape, .floats t ys⟩ : Grid α)).result ⟨shape, .floats t ys⟩
      = ⟨shape, .floats t (ys.map p.convert)⟩ := by
  cases hp : p.hasMissing with
  | true => simp only [convertMissing, hp, converted?, blank_marks, if_true, Change.result_made]
  | false =>
    have hmap : ys.map p.convert = ys := by
      rw [List.map_congr_left fun y _ => p.convert_of_not_hasMissing hp y, List.map_id']
    simp only [convertMissing, hp, hmap, Bool.false_eq_true, if_false, Change.result_kept]

/-! ## Converting what is converted -/

lemma convert_nan (p : Policy) : p.convert .nan = .nan := ite_self _

/-- A policy that calls the same samples missing changes nothing that is converted. -/
theorem convert_convert {p q : Policy} (h : ∀ x, q.isMissing x = p.isMissing x) (x : Double) :
    q.convert (p.convert x) = p.convert x := by
  by_cases hx : p.isMissing x = true
  · have hp : p.convert x = .nan := if_pos hx
    rw [hp, q.convert_nan]
  · have hp : p.convert x = x := if_neg hx
    have hq : q.convert x = x := if_neg (by rwa [h])
    rw [hp, hq]

lemma result_convertMissing_map_convert {p q : Policy} (h : ∀ x, q.isMissing x = p.isMissing x)
    (shape : List Nat) (t : FloatType) (xs : List Double) :
    (q.convertMissing (⟨shape, .floats t (xs.map p.convert)⟩ : Grid α)).result
        ⟨shape, .floats t (xs.map p.convert)⟩
      = ⟨shape, .floats t (xs.map p.convert)⟩ := by
  rw [result_convertMissing_floats, List.map_map]
  congr 2
  exact List.map_congr_left fun x _ => convert_convert h x

/-- A grid that is converted is not changed by converting it again. -/
theorem result_convertMissing_idem (p : Policy) {g h : Grid α}
    (hgh : (p.convertMissing g).result g = h) : (p.convertMissing h).result h = h := by
  rcases p.convertMissing_eq g with hkept | ⟨t, xs, -, -, hmade⟩
  · rw [hkept, Change.result_kept] at hgh
    rw [← hgh, hkept, Change.result_kept]
  · rw [hmade, Change.result_made] at hgh
    rw [← hgh]
    exact result_convertMissing_map_convert (fun _ => rfl) g.shape t xs

/-- Numeric samples come back themselves only from a policy with nothing to do. -/
lemma hasMissing_of_kept {p : Policy} {g : Grid α} {xs : List Double}
    (hx : g.elements.numbers? = some xs) (h : p.convertMissing g = .kept) :
    p.hasMissing = false := by
  rcases p.convertMissing_of_numbers? hx with ⟨hidle, -⟩ | ⟨t, hmade⟩
  · exact hidle
  · rw [h] at hmade
    cases hmade

/-- What a conversion leaves of numeric samples are numbers that it would not change, in the shape
that the samples had. -/
lemma numbers?_result_convertMissing (p : Policy) {g : Grid α} (hg : g.type.isNumeric = true) :
    ((p.convertMissing g).result g).shape = g.shape ∧
      ∃ xs, ((p.convertMissing g).result g).elements.numbers? = some xs ∧
        ∀ x ∈ xs, p.convert x = x := by
  obtain ⟨xs, hx⟩ : ∃ xs, g.elements.numbers? = some xs := by
    rw [← Option.isSome_iff_exists, Elements.isSome_numbers?]
    exact hg
  rcases p.convertMissing_eq g with hkept | ⟨t, ys, -, -, hmade⟩
  · rw [hkept]
    exact ⟨rfl, xs, hx, fun x _ => p.convert_of_not_hasMissing (hasMissing_of_kept hx hkept) x⟩
  · rw [hmade]
    refine ⟨rfl, ys.map p.convert, rfl, List.forall_mem_map.2 fun y _ => ?_⟩
    exact convert_convert (fun _ => rfl) y

/-- Converting numeric samples, and then converting what came back, gives the same elements of the
same type in the same shape as converting them once. None of these elements is missing, but for the
places that hold not-a-number by now. -/
theorem convertValue_idem (p : Policy) {v : Value} {g : Grid Value} (hv : v.asGrid = .ok g)
    (hg : g.type.isNumeric = true) :
    ∃ first again h xs, p.convertValue v none = .ok first ∧
      p.convertValue (first.returned v) none = .ok again ∧
      (first.returned v).asGrid = .ok h ∧
      (again.returned (first.returned v)).asGrid = .ok h ∧
      h.shape = g.shape ∧ h.elements.numbers? = some xs ∧ ∀ x ∈ xs, p.convert x = x := by
  obtain ⟨hshape, xs, hxs, hfixed⟩ := p.numbers?_result_convertMissing hg
  have hfirst := p.convertValue_none hv
  have hidem := p.result_convertMissing_idem (g := g) rfl
  cases hchange : p.convertMissing g with
  | kept =>
    -- the value itself came back, so the second conversion is the first one again
    rw [hchange] at hfirst hshape hxs
    exact ⟨.kept, .kept, g, xs, hfirst, hfirst, hv, hv, hshape, hxs, hfixed⟩
  | made h =>
    rw [hchange] at hfirst hshape hxs hidem
    refine ⟨.made h, p.convertMissing h, h, xs, hfirst, ?_, rfl, ?_, hshape, hxs, hfixed⟩
    · exact p.convertValue_none (v := .grid h) rfl
    · rw [Change.returned, Change.returned_grid, Value.asGrid_grid]
      exact congrArg Except.ok hidem

/-- An integer that is no double is rounded once, and not again. -/
theorem convertValue_idem_of_longIntegers :
    let p := make {} { hasFillValue := true, fillValue := 5 }
    let values : Value := .tuple [.int 9007199254740993, .int 5]
    let converted : Grid Value := ⟨[2], .floats .float64 [9007199254740992, .nan]⟩
    p.convertValue values none = .ok (.made converted) ∧
      ∃ again, p.convertValue (.grid converted) none = .ok again ∧
        (again.returned (.grid converted)).asGrid = .ok converted := by
  intro p values converted
  have hvalues : values.asGrid = .ok ⟨[2], .ints .int64 [9007199254740993, 5]⟩ := by rfl
  let numbers : List Double := [ofInt 9007199254740993, ofInt 5]
  have hblank : blank (p.marks numbers) numbers = [9007199254740992, .nan] := by decide +kernel
  have hconverted : converted = ⟨[2], .floats .float64 (blank (p.marks numbers) numbers)⟩ := by
    rw [hblank]
  have honce : p.convertValue values none = .ok (.made converted) := by
    rw [p.convertValue_none hvalues, hconverted]
    rfl
  obtain ⟨first, again, h, -, hfirst, hagain, hh, hsame, -⟩ := p.convertValue_idem hvalues rfl
  obtain rfl : Change.made converted = first := Except.ok.inj (honce.symm.trans hfirst)
  obtain rfl : converted = h := Except.ok.inj hh
  exact ⟨honce, again, hagain, hsame⟩

end Policy

end MissingSamples
