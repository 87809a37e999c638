/-
# Attributes read beside integers and beside doubles

Masking makes doubles of integers and leaves the attributes as they are, so that whoever reads them
again reads them beside samples of another type. That can matter in two ways. Beside unsigned
integers a threshold with a sign is read as unsigned, and beside doubles it is not. And bounds of
the type of unpacked samples count as unpacked if the samples are stored in a lesser type, which
doubles are not.

Reading succeeds beside doubles whenever it does beside integers. It gives the same, but for a fill
value that nobody declared, if neither of the two matters.

* `Follows` is this relation between two readings, and it is kept step by step;
* `Attributes.ReadsAlike` says that neither of the two matters;
* `follows_extract` is the result for the declaration and `follows_policyOfAttributes` for the
  policy.
-/
import MissingSamples.Proofs.Extraction
import MissingSamples.Proofs.Policy.Marks

namespace MissingSamples

/-! ## One reading after another -/

section Follows

variable {α β γ δ : Type}

/-- If the first reading succeeds, so does the second, and what comes of them is related. -/
def Follows (related : α → β → Prop) (first : Except Failure α) (second : Except Failure β) :
    Prop :=
  ∀ a, first = .ok a → ∃ b, second = .ok b ∧ related a b

namespace Follows

variable {related : α → β → Prop}

protected lemma pure {a : α} {b : β} (h : related a b) : Follows related (pure a) (pure b) := by
  rintro _ ⟨⟩
  exact ⟨b, rfl, h⟩

protected lemma rfl {related : α → α → Prop} (h : ∀ a, related a a) (e : Except Failure α) :
    Follows related e e :=
  fun a ha => ⟨a, ha, h a⟩

protected lemma error (f : Failure) (second : Except Failure β) :
    Follows related (.error f) second := by
  rintro a ⟨⟩

protected lemma bind {later : γ → δ → Prop} {first : Except Failure α} {second : Except Failure β}
    {next : α → Except Failure γ} {after : β → Except Failure δ} (h : Follows related first second)
    (hnext : ∀ a b, first = .ok a → related a b → Follows later (next a) (after b)) :
    Follows later (first >>= next) (second >>= after) := by
  intro c hc
  obtain ⟨a, ha, hc⟩ := Report.bind_eq_ok_iff.1 hc
  obtain ⟨b, hb, hab⟩ := h a ha
  obtain ⟨d, hd, hcd⟩ := hnext a b ha hab c hc
  exact ⟨d, Report.bind_eq_ok_iff.2 ⟨b, hb, hd⟩, hcd⟩

end Follows

end Follows

/-! ## Integers of other types -/

section Retyped

variable (same : Prop)

/-- The elements are the same, or all are integers, as many of one type as of the other. If `same`
holds, they are the same integers. -/
inductive Elements.Retyped : Elements Value → Elements Value → Prop where
  /-- The same elements. -/
  | refl (e : Elements Value) : Retyped e e
  /-- Integers of two types. -/
  | ints (t s : IntType) {xs ys : List Int} (hlength : xs.length = ys.length)
      (hsame : same → xs = ys) : Retyped (.ints t xs) (.ints s ys)

/-- Grids of one shape whose elements are the same but for the types of integers. -/
def Grid.Retyped (g h : Grid Value) : Prop :=
  g.shape = h.shape ∧ g.elements.Retyped same h.elements

end Retyped

section

variable {same : Prop} {e f : Elements Value} {g h : Grid Value}

lemma Elements.Retyped.length_eq (hef : e.Retyped same f) : e.length = f.length := by
  cases hef with
  | refl => rfl
  | ints t s hlength hsame => exact hlength

lemma Elements.Retyped.slice (hef : e.Retyped same f) (m n : Nat) :
    (e.slice m n).Retyped same (f.slice m n) := by
  cases hef with
  | refl => exact .refl _
  | ints t s hlength hsame =>
    refine .ints t s ?_ ?_
    · rw [List.length_drop, List.length_drop, List.length_take, List.length_take, hlength]
    · intro h
      rw [hsame h]

/-- As many numbers come of the elements, and the same ones of the same integers. -/
lemma Elements.Retyped.numbers (hef : e.Retyped same f) :
    Follows (fun xs ys => xs.length = ys.length ∧ (same → xs = ys))
      (e.numbers Value.number) (f.numbers Value.number) := by
  cases hef with
  | refl => exact Follows.rfl (fun xs => ⟨rfl, fun _ => rfl⟩) _
  | ints t s hlength hsame =>
    refine Follows.pure ⟨?_, ?_⟩
    · rw [List.length_map, List.length_map, hlength]
    · intro h
      rw [hsame h]

lemma Grid.Retyped.size_eq (hgh : g.Retyped same h) : g.size = h.size := hgh.2.length_eq

lemma Grid.Retyped.numberAt (hgh : g.Retyped same h) (i : Nat) :
    Follows (fun x y => same → x = y) (g.numberAt i) (h.numberAt i) := by
  obtain ⟨shape, e⟩ := g
  obtain ⟨_, f⟩ := h
  obtain ⟨⟨⟩, hef⟩ := hgh
  -- only in one dimension is there a number at a place
  cases shape with
  | nil => exact Follows.rfl (fun _ _ => rfl) _
  | cons n rest =>
    cases rest with
    | cons m rest => exact Follows.rfl (fun _ _ => rfl) _
    | nil =>
      unfold Grid.numberAt
      by_cases hi : i < n
      · simp only [hi, if_true]
        refine (hef.slice i (i + 1)).numbers.bind ?_
        rintro xs ys - ⟨hlength, hsame⟩
        cases xs with
        | nil => exact Follows.error _ _
        | cons x xs =>
          cases ys with
          | nil => cases hlength
          | cons y ys => exact Follows.pure fun h => (List.cons.inj (hsame h)).1
      · simp only [hi, if_false]
        exact Follows.rfl (fun _ _ => rfl) _

lemma Grid.Retyped.numbers (hgh : g.Retyped same h) :
    Follows (fun xs ys => same → xs = ys) g.numbers h.numbers := by
  obtain ⟨shape, e⟩ := g
  obtain ⟨_, f⟩ := h
  obtain ⟨⟨⟩, hef⟩ := hgh
  unfold Grid.numbers
  dsimp only
  split
  · intro xs hxs
    obtain ⟨ys, hys, -, hsame⟩ := hef.numbers xs hxs
    exact ⟨ys, hys, hsame⟩
  · exact Follows.rfl (fun _ _ => rfl) _
  · exact Follows.rfl (fun _ _ => rfl) _

end

/-! ## Attributes that are read alike -/

/-- Integers with a sign are the same if they are read as unsigned. -/
def Elements.fitsUnsigned : Elements Value → Bool
  | .ints t xs => !t.signed || xs.all fun i => unsignedOf t.width i == i
  | _ => true

/-- What the attributes say does not depend on whether they are read beside integers of the type or
beside doubles. -/
structure Attributes.ReadsAlike (a : Attributes) (t : IntType) : Prop where
  /-- If integers are meant to be unsigned, that changes no threshold. -/
  fits : a.isUnsigned (.int t) = true → ∀ c ∉ Convention.packing, ∀ v g,
    a.given? c = some v → numericGrid v (.int t) = .ok g → g.elements.fitsUnsigned = true
  /-- The bounds are stored packed. -/
  packed : ∀ s b, Scaling.ofAttributes a = .ok s →
    declaredBounds a (.int t) (a.isUnsigned (.int t)) = .ok b →
      storedUnpacked (.int t) s b.type = false

lemma retyped_besideVariable (t : ElementType) (e : Elements Value) :
    (besideVariable t e).Retyped True e := by
  cases e with
  | ints s xs =>
    cases t with
    | int v =>
      rw [besideVariable]
      split_ifs <;> exact .ints _ _ rfl fun _ => rfl
    | _ => exact .refl _
  | _ => exact .refl _

lemma follows_numericGrid (v : Value) (t : IntType) :
    Follows (Grid.Retyped True) (numericGrid v (.int t)) (numericGrid v .float64) := by
  cases hv : v.grid? with
  | some g =>
    rw [numericGrid_of_grid? hv, numericGrid_of_grid? hv]
    exact Follows.pure ⟨rfl, .refl _⟩
  | none =>
    -- what makes the grid is read the same way, and only then do integers take a type
    simp only [numericGrid, hv]
    refine Follows.bind (Follows.rfl (fun _ => rfl) v.asGrid) ?_
    rintro g _ - rfl
    refine Follows.pure ⟨rfl, ?_⟩
    have hself : besideVariable .float64 g.atLeastOneDim.elements = g.atLeastOneDim.elements := by
      cases g.atLeastOneDim.elements <;> rfl
    rw [hself]
    exact retyped_besideVariable (.int t) g.atLeastOneDim.elements

lemma Elements.Retyped.toUnsigned {same : Prop} {e f : Elements Value} (hef : e.Retyped True f)
    {unsigned : Bool} (hfits : same → unsigned = true → e.fitsUnsigned = true) :
    ((e.toUnsigned unsigned).result e).Retyped same f := by
  -- integers stay as many, and stay the same if they fit
  have hints : ∀ (t s : IntType) (xs : List Int), e = .ints t xs →
      (((Elements.ints t xs).toUnsigned unsigned).result (.ints t xs)).Retyped same
        (.ints s xs) := by
    rintro t s xs rfl
    rw [Elements.toUnsigned]
    split_ifs with hu
    · rw [Bool.and_eq_true] at hu
      refine .ints _ _ (by rw [List.length_map]) fun h => ?_
      have hall := hfits h hu.1
      simp only [fitsUnsigned, hu.2, Bool.not_true, Bool.false_or, List.all_eq_true,
        beq_iff_eq] at hall
      rw [List.map_congr_left hall, List.map_id']
    · exact .ints _ _ rfl fun _ => rfl
  cases hef with
  | ints t s hlength hsame =>
    obtain rfl := hsame trivial
    exact hints t s _ rfl
  | refl =>
    cases e with
    | ints t xs => exact hints t t xs rfl
    | _ => exact .refl _

/-- A threshold that fits is the same number beside both. -/
lemma follows_sentinelGrid {same : Prop} (v : Value) (t : IntType) (unsigned : Bool)
    (hfits : same → unsigned = true → ∀ g, numericGrid v (.int t) = .ok g →
      g.elements.fitsUnsigned = true) :
    Follows (Grid.Retyped same) (sentinelGrid v (.int t) unsigned)
      (sentinelGrid v .float64 false) := by
  refine Follows.bind (follows_numericGrid v t) ?_
  rintro g h hg ⟨hshape, helements⟩
  refine Follows.pure ⟨?_, ?_⟩
  · rw [Grid.shape_toUnsigned, Grid.shape_toUnsigned, hshape]
  · rw [Grid.elements_toUnsigned, Grid.elements_toUnsigned, Elements.toUnsigned_false]
    exact helements.toUnsigned fun hs hu => hfits hs hu g hg

section Attributes

variable {a : Attributes} {t : IntType}

lemma Attributes.given?_of_numeric? {c : Convention} {v : Value} (h : a.numeric? c = some v) :
    a.given? c = some v :=
  (Option.filter_eq_some_iff.1 h).1

lemma follows_threshold {c : Convention} (hc : c ∉ Convention.packing) {v : Value}
    (hv : a.given? c = some v) :
    Follows (Grid.Retyped (a.ReadsAlike t)) (sentinelGrid v (.int t) (a.isUnsigned (.int t)))
      (sentinelGrid v .float64 false) :=
  follows_sentinelGrid v t _ fun halike hu g hg => halike.fits hu c hc v g hv hg

/-! ## Bounds, fill values and missing values -/

/-- The bounds are the same but for their type if `same` holds. -/
def Bounds.Alike (same : Prop) (b c : Bounds) : Prop :=
  same → b.lower = c.lower ∧ b.upper = c.upper

lemma follows_rangeBounds :
    Follows (Option.Rel (Bounds.Alike (a.ReadsAlike t)))
      (rangeBounds a (.int t) (a.isUnsigned (.int t))) (rangeBounds a .float64 false) := by
  unfold rangeBounds
  cases hv : a.numeric? .validRange with
  | none => exact Follows.pure .none
  | some v =>
    refine (follows_threshold (by decide) (Attributes.given?_of_numeric? hv)).bind ?_
    intro g h _ hgh
    rw [hgh.size_eq]
    split_ifs
    · refine (hgh.numberAt 0).bind fun x x' _ hx => ?_
      refine (hgh.numberAt 1).bind fun y y' _ hy => ?_
      exact Follows.pure (.some fun halike => ⟨by rw [hx halike], by rw [hy halike]⟩)
    · exact Follows.pure .none

/-- The first number of a threshold. -/
lemma follows_first {c : Convention} (hc : c ∉ Convention.packing) {v : Value}
    (hv : a.given? c = some v) {β γ : Type} {related : β → γ → Prop}
    {next : Grid Value → Double → Except Failure β} {after : Grid Value → Double → Except Failure γ}
    (hnext : ∀ g h x y, (a.ReadsAlike t → x = y) → Follows related (next g x) (after h y)) :
    Follows related
      (do
        let g ← sentinelGrid v (.int t) (a.isUnsigned (.int t))
        next g (← g.numberAt 0))
      (do
        let g ← sentinelGrid v .float64 false
        after g (← g.numberAt 0)) :=
  (follows_threshold hc hv).bind fun g h _ hgh =>
    (hgh.numberAt 0).bind fun x y _ hxy => hnext g h x y hxy

lemma follows_singleBounds :
    Follows (Bounds.Alike (a.ReadsAlike t)) (singleBounds a (.int t) (a.isUnsigned (.int t)))
      (singleBounds a .float64 false) := by
  unfold singleBounds
  cases hmin : a.numeric? .validMin with
  | none =>
    cases hmax : a.numeric? .validMax with
    | none => exact Follows.pure fun _ => ⟨rfl, rfl⟩
    | some w =>
      refine follows_first (by decide) (Attributes.given?_of_numeric? hmax) ?_
      intro g h y y' hy
      exact Follows.pure fun halike => ⟨rfl, by rw [hy halike]⟩
  | some v =>
    refine follows_first (by decide) (Attributes.given?_of_numeric? hmin) ?_
    intro g h x x' hx
    cases hmax : a.numeric? .validMax with
    | none => exact Follows.pure fun halike => ⟨by rw [hx halike], rfl⟩
    | some w =>
      refine follows_first (by decide) (Attributes.given?_of_numeric? hmax) ?_
      intro g h y y' hy
      exact Follows.pure fun halike => ⟨by rw [hx halike], by rw [hy halike]⟩

lemma follows_declaredBounds :
    Follows (Bounds.Alike (a.ReadsAlike t)) (declaredBounds a (.int t) (a.isUnsigned (.int t)))
      (declaredBounds a .float64 false) := by
  refine follows_rangeBounds.bind ?_
  rintro _ _ - (hbc | -)
  · exact Follows.pure hbc
  · exact follows_singleBounds

lemma follows_declaredFill (s : Scaling) (name : String) :
    Follows (fun x y => a.ReadsAlike t → x = y)
      (declaredFill a (.int t) (a.isUnsigned (.int t)) s name).outcome
      (declaredFill a .float64 false s name).outcome := by
  unfold declaredFill
  cases hv : a.given? .fillValue with
  | none => exact Follows.rfl (fun _ _ => rfl) _
  | some v =>
    by_cases hstring : v.isString = true
    · simp only [hstring, if_true]
      exact Follows.rfl (fun _ _ => rfl) _
    · simp only [hstring, Bool.false_eq_true, if_false, Report.outcome_bind, Report.outcome_liftM,
        Report.outcome_pure]
      refine follows_first (by decide) hv ?_
      intro g h x y hxy
      exact Follows.pure fun halike => by rw [hxy halike]

lemma follows_declaredMissing (s : Scaling) (name : String) :
    Follows (fun xs ys => a.ReadsAlike t → xs = ys)
      (declaredMissing a (.int t) (a.isUnsigned (.int t)) s name).outcome
      (declaredMissing a .float64 false s name).outcome := by
  unfold declaredMissing
  cases hv : a.given? .missingValue with
  | none => exact Follows.rfl (fun _ _ => rfl) _
  | some v =>
    by_cases hstring : v.isString = true
    · simp only [hstring, if_true]
      exact Follows.rfl (fun _ _ => rfl) _
    · simp only [hstring, Bool.false_eq_true, if_false, Report.outcome_bind, Report.outcome_liftM,
        Report.outcome_pure]
      refine (follows_threshold (by decide) hv).bind fun g h _ hgh => ?_
      refine hgh.numbers.bind fun xs ys _ hxy => ?_
      exact Follows.pure fun halike => by rw [hxy halike]

end Attributes

/-! ## Declarations and policies -/

/-- The two declare the same, but for a fill value that is not declared. -/
def Declaration.Alike (d e : Declaration) : Prop :=
  e = { d with fillValue := e.fillValue } ∧ (d.hasFillValue = true → e.fillValue = d.fillValue)

/-- A fill value that is not declared has no part in what is missing. -/
theorem isMissing_make_of_alike {d e : Declaration} (h : d.Alike e) (flags : ModeFlags)
    (x : Double) : (Policy.make flags e).isMissing x = (Policy.make flags d).isMissing x := by
  obtain ⟨he, hfill⟩ := h
  cases hd : d.hasFillValue with
  | true =>
    rw [hfill hd] at he
    rw [he]
  | false =>
    have hkeeps : Declaration.keeps flags { d with fillValue := e.fillValue }
        = Declaration.keeps flags d := by
      funext v
      simp only [Declaration.keeps, hd, Bool.and_false, Bool.false_and, Declaration.fuzzyMin,
        Declaration.fuzzyMax]
    have hmissing : Declaration.missingValues flags { d with fillValue := e.fillValue }
        = Declaration.missingValues flags d := by
      rw [Declaration.missingValues, Declaration.missingValues, hkeeps]
    rw [he]
    simp only [Policy.isMissing_eq_or, Policy.make, Policy.hasMissingValue, Policy.hasValidData,
      hmissing, Declaration.fuzzyMin, Declaration.fuzzyMax]
    rw [hd, Bool.and_false, Bool.false_and, Bool.false_and]

lemma rank_le_float64 (t : ElementType) : t.rank ≤ ElementType.float64.rank := by
  have hfloat64 : ElementType.float64.rank = 5 := rfl
  rw [hfloat64]
  cases t with
  | int t => cases h : t.width <;> simp [ElementType.rank, h]
  | float t => cases h : t.width <;> simp [ElementType.rank, h]
  | _ => simp [ElementType.rank]

/-- No type is wider than doubles, so nothing is stored unpacked beside them. -/
lemma storedUnpacked_float64 (s : Scaling) (type : Option ElementType) :
    storedUnpacked .float64 s type = false := by
  have hrank : ElementType.rank? type ≤ ElementType.float64.rank := by
    cases type with
    | none => decide
    | some t => exact rank_le_float64 t
  rw [storedUnpacked, Bool.and_eq_false_iff]
  exact Or.inr (decide_eq_false (by omega))

lemma alike_assembled {t : IntType} {unsigned : Bool} {s : Scaling} {b c : Bounds}
    (hlower : b.lower = c.lower) (hupper : b.upper = c.upper)
    (hstored : storedUnpacked (.int t) s b.type = false) (fill : Option Double)
    (missing : Option (List Double)) :
    (assembled (.int t) unsigned s b fill missing).Alike
      (assembled .float64 false s c fill missing) := by
  have hbounds : declareBounds .float64 s c = declareBounds (.int t) s b := by
    simp only [declareBounds, hstored, storedUnpacked_float64, hlower, hupper]
  refine ⟨?_, ?_⟩
  · rw [assembled, assembled, hbounds]
  · intro hfill
    obtain ⟨x, rfl⟩ := Option.isSome_iff_exists.1 hfill
    rfl

section Attributes

variable (a : Attributes) (t : IntType)

/-- Attributes that are read alike declare the same beside integers and beside doubles. -/
theorem follows_extract (name : Option String) :
    Follows (fun d e => a.ReadsAlike t → d.Alike e) (extract a (.int t) none name).outcome
      (extract a .float64 none name).outcome := by
  have hfloat : a.isUnsigned .float64 = false := rfl
  rw [outcome_extract, outcome_extract, hfloat, Scaling.inForce_none]
  refine Follows.bind (Follows.rfl (fun _ => rfl) (Scaling.ofAttributes a)) ?_
  rintro s _ hs rfl
  refine follows_declaredBounds.bind fun b c hb hbc => ?_
  refine (follows_declaredFill s _).bind fun fill fill' _ hfill => ?_
  refine (follows_declaredMissing s _).bind fun missing missing' _ hmissing => ?_
  refine Follows.pure fun halike => ?_
  rw [← hfill halike, ← hmissing halike]
  exact alike_assembled (hbc halike).1 (hbc halike).2 (halike.packed s b hs hb) fill missing

/-- A policy can be made beside doubles if it can be made beside integers, and calls the same
samples missing if the attributes are read alike. -/
theorem follows_policyOfAttributes (flags : ModeFlags) (name : Option String) :
    Follows (fun p q => a.ReadsAlike t → ∀ x, q.isMissing x = p.isMissing x)
      (policyOfAttributes a (.int t) flags none name).outcome
      (policyOfAttributes a .float64 flags none name).outcome := by
  rw [policyOfAttributes, policyOfAttributes, Report.outcome_bind, Report.outcome_bind]
  refine (follows_extract a t name).bind fun d e _ hde => ?_
  exact Follows.pure fun halike => isMissing_make_of_alike (hde halike) flags

end Attributes

end MissingSamples
