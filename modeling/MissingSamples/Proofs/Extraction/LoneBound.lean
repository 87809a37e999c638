/-
# A lone bound of packed samples

A variable may declare one bound and not the other. Its samples and the bound are unpacked by one
map, and where the scale is positive the map keeps order: a sample that satisfies the bound as it is
stored is valid once it is unpacked, unless only the sample runs out of the finite numbers. Where
the scale is negative the map turns the order round, and an unpacked lower bound is an upper one.
But the policy still takes it for a lower bound: the bound is put in order with the end of the
finite numbers that stands in for the other one, and that changes nothing. So of the samples that
satisfy the bound, those that lie beyond it by more than the tolerance are invalid.

* `BoundSide` says which bound it is, and `BoundSide.range` is the valid range that comes of it;
* `isInvalid_of_loneBound` says which samples that satisfy a lone bound are invalid;
* `loneBound_reversed` is a sample that satisfies its bound and is invalid.
-/
import MissingSamples.Proofs.Extraction
import MissingSamples.Proofs.Extraction.Agreement
import MissingSamples.Proofs.Scaling

namespace MissingSamples

open Double

/-- Which bound of a valid range. -/
inductive BoundSide where
  /-- The lower bound. -/
  | lower
  /-- The upper bound. -/
  | upper

namespace BoundSide

/-- The attribute for the bound. -/
def convention : BoundSide → Convention
  | lower => .validMin
  | upper => .validMax

/-- The bound at the other end. -/
def other : BoundSide → BoundSide
  | lower => upper
  | upper => lower

/-- The bound alone, as it is declared. -/
def bounds (bound : Double) (type : ElementType) : BoundSide → Bounds
  | lower => ⟨some bound, none, some type⟩
  | upper => ⟨none, some bound, some type⟩

/-- The sample satisfies the bound, both as they are stored. -/
def admits (bound x : Sample) : BoundSide → Bool
  | lower => bound.le x
  | upper => x.le bound

/-- The number satisfies the bound. -/
def holds (bound x : Double) : BoundSide → Bool
  | lower => bound.le x
  | upper => x.le bound

/-- The number lies beyond the bound by more than the tolerance. -/
def isBeyond (bound x : Double) : BoundSide → Bool
  | lower => x.lt (bound - tolerance)
  | upper => (bound + tolerance).lt x

/-- The infinity on the side that is left open is the upper one for a lower bound. It is `true` for
the lower infinity, as a sign is. -/
def openEnd : BoundSide → Bool
  | lower => false
  | upper => true

/-- The two ends of the valid range that comes of the bound. The end of the finite numbers stands in
for the other bound, and an infinity beyond it changes places with it. -/
def range (bound : Double) : BoundSide → Double × Double
  | lower => if largest.lt bound then (largest, bound) else (bound, largest)
  | upper => if bound.lt (-largest) then (bound, -largest) else (-largest, bound)

end BoundSide

/-- The number is none, or lies outside the range widened by the tolerance. -/
def isOutside (range : Double × Double) (x : Double) : Bool :=
  x.isNaN || (range.2 + tolerance).lt x || x.lt (range.1 - tolerance)

/-! ## The ends of the finite numbers -/

lemma eq_infinite_or_isFinite {a : Double} (h : a.isNaN = false) (s : Bool) :
    a = infinite s ∨ a = infinite (!s) ∨ a.isFinite = true := by
  by_cases hfinite : a.isFinite = true
  · exact Or.inr (Or.inr hfinite)
  · obtain ⟨t, rfl⟩ := eq_infinite_of_not_isFinite h hfinite
    cases s <;> cases t <;> simp

/-! ## The valid range of a lone bound -/

namespace BoundSide

variable {bound x : Double}

lemma isNaN_of_holds (side : BoundSide) (h : side.holds bound x = true) : x.isNaN = false := by
  cases side with
  | lower => exact (le_iff.1 h).2.1
  | upper => exact (le_iff.1 h).1

lemma isBeyond_of_holds (side : BoundSide) (h : side.holds bound x = true) :
    side.isBeyond bound x = false := by
  cases side with
  | lower => exact lt_eq_false_of_le (sub_tolerance_le h)
  | upper => exact lt_eq_false_of_le (le_add_tolerance h)

/-- Only the infinity at the open end satisfies that infinity as a bound. -/
lemma eq_of_openEnd_holds (side : BoundSide) (h : side.holds (infinite side.openEnd) x = true) :
    x = infinite side.openEnd := by
  cases side with
  | lower => exact largest_lt_iff.1 (lt_of_lt_of_le (largest_lt_iff.2 rfl) h)
  | upper => exact lt_neg_largest_iff.1 (lt_of_le_of_lt h (lt_neg_largest_iff.2 rfl))

/-- The infinity at the other end satisfies no bound but itself. -/
lemma eq_of_holds_infinite (side : BoundSide)
    (h : side.holds bound (infinite (!side.openEnd)) = true) :
    bound = infinite (!side.openEnd) := by
  cases side with
  | lower => exact lt_neg_largest_iff.1 (lt_of_le_of_lt h (lt_neg_largest_iff.2 rfl))
  | upper => exact largest_lt_iff.1 (lt_of_lt_of_le (largest_lt_iff.2 rfl) h)

/-- Outside the range of a bound is what lies beyond the bound, and the infinity at the open end. -/
lemma isOutside_range_iff (side : BoundSide) (h : bound ≠ infinite side.openEnd) :
    isOutside (side.range bound) x = true ↔
      x.isNaN = true ∨ side.isBeyond bound x = true ∨ x = infinite side.openEnd := by
  -- no other bound than that infinity changes places with the end of the finite numbers
  cases side with
  | lower =>
    have hkept : largest.lt bound = false := by
      rwa [Bool.eq_false_iff, ne_eq, largest_lt_iff]
    simp only [isOutside, range, hkept, Bool.false_eq_true, if_false, largest_add_tolerance,
      Bool.or_eq_true, largest_lt_iff, isBeyond, openEnd]
    tauto
  | upper =>
    have hkept : bound.lt (-largest) = false := by
      rwa [Bool.eq_false_iff, ne_eq, lt_neg_largest_iff]
    simp only [isOutside, range, hkept, Bool.false_eq_true, if_false, neg_largest_sub_tolerance,
      Bool.or_eq_true, lt_neg_largest_iff, isBeyond, openEnd]
    tauto

/-- The infinity at the open end lies in its own range. -/
lemma isOutside_range_openEnd (side : BoundSide) :
    isOutside (side.range (infinite side.openEnd)) (infinite side.openEnd) = false := by
  cases side <;> decide +kernel

/-- A number that satisfies the bound lies outside its range only if it is infinite and the bound is
not. -/
theorem isOutside_range_of_holds (side : BoundSide) (h : side.holds bound x = true) :
    isOutside (side.range bound) x = false ↔ x.isFinite = true ∨ x = bound := by
  by_cases hopen : bound = infinite side.openEnd
  · -- nothing but the infinity satisfies itself
    subst hopen
    obtain rfl := side.eq_of_openEnd_holds h
    exact iff_of_true side.isOutside_range_openEnd (Or.inr rfl)
  · have hnan := side.isNaN_of_holds h
    have hbeyond := side.isBeyond_of_holds h
    rw [Bool.eq_false_iff, ne_eq, side.isOutside_range_iff hopen, hnan, hbeyond]
    constructor
    · intro hx
      rcases eq_infinite_or_isFinite hnan side.openEnd with rfl | rfl | hfinite
      · exact absurd (Or.inr (Or.inr rfl)) hx
      · exact Or.inr (side.eq_of_holds_infinite h).symm
      · exact Or.inl hfinite
    · rintro hx (hfalse | hfalse | rfl)
      · exact Bool.false_ne_true hfalse
      · exact Bool.false_ne_true hfalse
      · rcases hx with hfinite | heq
        · exact Bool.false_ne_true hfinite
        · exact hopen heq.symm

/-- A number on the wrong side of a finite bound lies outside its range exactly if it is beyond the
bound by more than the tolerance. -/
theorem isOutside_range_of_other_holds (side : BoundSide) (hfinite : bound.isFinite = true)
    (h : side.other.holds bound x = true) :
    isOutside (side.range bound) x = side.isBeyond bound x := by
  have hopen : bound ≠ infinite side.openEnd := by
    rintro rfl
    exact Bool.false_ne_true hfinite
  have hx : x ≠ infinite side.openEnd := by
    rintro rfl
    have hend : side.openEnd = !side.other.openEnd := by
      cases side <;> rfl
    rw [hend] at h hopen
    exact hopen (side.other.eq_of_holds_infinite h)
  rw [Bool.eq_iff_iff, side.isOutside_range_iff hopen, side.other.isNaN_of_holds h]
  simp [hx]

end BoundSide

/-! ## Declaring a lone bound -/

/-- The attributes declare the one bound, in the type of the samples, and neither the other one nor
both together. -/
structure Attributes.DeclaresLone (a : Attributes) (t : ElementType) (side : BoundSide)
    (bound : Sample) : Prop where
  /-- There is no attribute for both bounds. -/
  noRange : a.find? Convention.validRange.name = none
  /-- There is none for the other bound. -/
  noOther : a.find? side.other.convention.name = none
  /-- The attribute for the bound has an entry or more. -/
  found : ∃ value rest, a.find? side.convention.name = some value ∧
    OwnEntries t value (bound :: rest)

section Declared

variable {a : Attributes} {t : ElementType} {side : BoundSide} {bound : Sample}

/-- The bound is read as samples are, and its type has the rank of the samples. -/
lemma declaredBounds_of_declaresLone (h : a.DeclaresLone t side bound) (unsigned : Bool) :
    ∃ b, declaredBounds a t unsigned
        = .ok (side.bounds (bound.meant unsigned t).number b) ∧ b.rank = t.rank := by
  obtain ⟨value, rest, hvalue, hentries⟩ := h.found
  obtain ⟨e, hgrid, hrank, he⟩ := sentinelGrid_of_ownEntries hentries unsigned
  have hfirst := numberAt_of_samples? (i := 0) he rfl
  rw [List.length_map] at hfirst
  have hrange : rangeBounds a t unsigned = .ok none := by
    simp only [rangeBounds, Attributes.numeric?_eq_none h.noRange]
    rfl
  have hother := Attributes.numeric?_eq_none h.noOther
  have hown := numeric?_of_ownEntries hvalue hentries
  refine ⟨e.type, ?_, hrank⟩
  rw [declaredBounds, hrange]
  cases side with
  | lower =>
    change singleBounds a t unsigned = _
    simp only [BoundSide.other, BoundSide.convention] at hother hown
    simp only [singleBounds, hother, hown, hgrid, hfirst, bind, Except.bind, pure, Except.pure]
    rfl
  | upper =>
    change singleBounds a t unsigned = _
    simp only [BoundSide.other, BoundSide.convention] at hother hown
    simp only [singleBounds, hother, hown, hgrid, hfirst, bind, Except.bind, pure, Except.pure]
    rfl

/-- The valid range that is declared is that of the bound unpacked. -/
lemma declareBounds_bounds {b : ElementType} (s : Scaling) (h : b.rank = t.rank) (x : Double) :
    ((declareBounds t s (side.bounds x b)).validMin,
      (declareBounds t s (side.bounds x b)).validMax) = side.range (s.apply x) := by
  have hstored : storedUnpacked t s (some b) = false := storedUnpacked_of_rank_eq s h
  cases side with
  | lower =>
    simp only [declareBounds, hstored, BoundSide.bounds, BoundSide.range, Option.map_some,
      Option.map_none, Option.getD_some, Option.getD_none, Option.isSome_some, Bool.true_or,
      Bool.true_and, Bool.false_eq_true, if_false]
    split <;> rfl
  | upper =>
    simp only [declareBounds, hstored, BoundSide.bounds, BoundSide.range, Option.map_some,
      Option.map_none, Option.getD_some, Option.getD_none, Option.isSome_some, Bool.or_true,
      Bool.true_and, Bool.false_eq_true, if_false]
    split <;> rfl

/-! ## The samples that satisfy a lone bound -/

/-- The stored number as a double in unpacked units, beside attributes that say how it is meant. -/
def Attributes.unpackedNumber (a : Attributes) (t : ElementType) (s : Scaling) (x : Sample) :
    Double :=
  s.apply (x.meant (a.isUnsigned t) t).number

/-- What a policy calls invalid is what lies outside the range that comes of the lone bound. -/
lemma isInvalid_eq_isOutside {flags : ModeFlags} {name : Option String} {p : Policy} {s : Scaling}
    (hp : (policyOfAttributes a t flags none name).outcome = .ok p)
    (hs : Scaling.ofAttributes a = .ok s) (h : a.DeclaresLone t side bound) (x : Double) :
    p.isInvalid x = isOutside (side.range (a.unpackedNumber t s bound)) x := by
  obtain ⟨b, hb, hrank⟩ := declaredBounds_of_declaresLone h (a.isUnsigned t)
  -- the fill value and the missing values are read too, but play no part in what is invalid
  obtain ⟨s', b', fill, missing, hs', hb', -, -, rfl⟩ := outcome_policyOfAttributes_eq_ok_iff.1 hp
  obtain rfl : s = s' := Except.ok.inj (hs.symm.trans hs')
  obtain rfl := Except.ok.inj (hb.symm.trans hb')
  rw [Attributes.unpackedNumber, ← declareBounds_bounds s hrank]
  rfl

/-- Unpacking keeps a bound on its side, or moves it to the other one if the scale is negative. -/
lemma holds_apply {s : Scaling} (hpacked : s.isPacked = true) (hscale : s.scale.isFinite = true)
    (hoffset : s.offset.isFinite = true) {c x : Sample} (hx : side.admits c x = true) :
    ((0 : Double).lt s.scale = true → side.holds (s.apply c.number) (s.apply x.number) = true) ∧
      (s.scale.lt 0 = true →
        side.other.holds (s.apply c.number) (s.apply x.number) = true) := by
  have hzero : (0 : Double).level = 0 := by
    decide +kernel
  constructor
  · intro hpos
    have hlevel : 0 < s.scale.level := by
      rw [← hzero]
      exact (lt_iff.1 hpos).2.2
    cases side with
    | lower => exact s.apply_le_apply hscale hlevel hoffset (Sample.le_number hx)
    | upper => exact s.apply_le_apply hscale hlevel hoffset (Sample.le_number hx)
  · intro hneg
    have hlevel : s.scale.level < 0 := by
      rw [← hzero]
      exact (lt_iff.1 hneg).2.2
    cases side with
    | lower => exact s.apply_le_apply_of_neg hscale hlevel hoffset hpacked (Sample.le_number hx)
    | upper => exact s.apply_le_apply_of_neg hscale hlevel hoffset hpacked (Sample.le_number hx)

/-- A sample that satisfies a lone bound as it is stored is valid once it is unpacked by a positive
scale, unless it becomes an infinity that the bound does not become. Unpacked by a negative scale it
is invalid if it lies beyond the bound by more than the tolerance: there the order of the two is
reversed, and the bound is not. -/
theorem isInvalid_of_loneBound {flags : ModeFlags} {name : Option String} {p : Policy}
    {s : Scaling} {x : Sample} (hp : (policyOfAttributes a t flags none name).outcome = .ok p)
    (hs : Scaling.ofAttributes a = .ok s) (hpacked : s.isPacked = true)
    (hscale : s.scale.isFinite = true) (hoffset : s.offset.isFinite = true)
    (hlone : a.DeclaresLone t side bound)
    (hx : side.admits (bound.meant (a.isUnsigned t) t) (x.meant (a.isUnsigned t) t) = true) :
    ((0 : Double).lt s.scale = true → (p.isInvalid (a.unpackedNumber t s x) = false ↔
      (a.unpackedNumber t s x).isFinite = true ∨
        a.unpackedNumber t s x = a.unpackedNumber t s bound)) ∧
    (s.scale.lt 0 = true → (a.unpackedNumber t s bound).isFinite = true →
      p.isInvalid (a.unpackedNumber t s x)
        = side.isBeyond (a.unpackedNumber t s bound) (a.unpackedNumber t s x)) := by
  obtain ⟨hkeeps, hreverses⟩ := holds_apply hpacked hscale hoffset hx
  rw [isInvalid_eq_isOutside hp hs hlone]
  constructor
  · intro hpos
    exact side.isOutside_range_of_holds (hkeeps hpos)
  · intro hneg hfinite
    exact side.isOutside_range_of_other_holds hfinite (hreverses hneg)

end Declared

/-- Integers from zero on, stored with the given scale. -/
def fromZero (scale : Double) : Attributes :=
  ⟨[("valid_min", .scalar (.int ⟨true, .w16, .little⟩ 0)), ("scale_factor", .float scale),
    ("_Unsigned", .text "false")]⟩

lemma declaresLone_fromZero (scale : Double) :
    (fromZero scale).DeclaresLone (.int ⟨true, .w16, .little⟩) .lower (.int 0) where
  noRange := rfl
  noOther := rfl
  found := by
    have entries : OwnEntries (.int ⟨true, .w16, .little⟩)
        (.scalar (.int ⟨true, .w16, .little⟩ 0)) [.int 0] :=
      ownEntries_of_grid? rfl rfl (Or.inr ⟨rfl, rfl⟩) rfl
    exact ⟨_, _, rfl, entries⟩

/-- With a positive scale, five is valid. -/
theorem isInvalid_of_loneBound_of_positive :
    ∃ p, (policyOfAttributes (fromZero 2) (.int ⟨true, .w16, .little⟩) {} none none).outcome
        = .ok p ∧ p.isInvalid 10 = false := by
  obtain ⟨p, hp⟩ := Report.exists_eq_ok (show (policyOfAttributes (fromZero 2)
    (.int ⟨true, .w16, .little⟩) {} none none).outcome.isOk = true by decide +kernel)
  have hs : Scaling.ofAttributes (fromZero 2) = .ok ⟨2, 0, some .float64⟩ := rfl
  have hnumber : (fromZero 2).unpackedNumber (.int ⟨true, .w16, .little⟩) ⟨2, 0, some .float64⟩
      (.int 5) = 10 := by
    decide +kernel
  obtain ⟨hvalid, -⟩ := isInvalid_of_loneBound (x := .int 5) hp hs rfl (by decide +kernel)
    (by decide +kernel) (declaresLone_fromZero 2) (by decide +kernel)
  rw [hnumber] at hvalid
  exact ⟨p, hp, (hvalid (by decide +kernel)).2 (Or.inl (by decide +kernel))⟩

/-- With a negative scale, five is invalid, although no more than a lower bound of zero was
declared. -/
theorem loneBound_reversed :
    ¬∀ (a : Attributes) (t : IntType) (flags : ModeFlags) (name : Option String) (p : Policy)
      (s : Scaling) (side : BoundSide) (bound x : Sample),
      (policyOfAttributes a (.int t) flags none name).outcome = .ok p →
      Scaling.ofAttributes a = .ok s → s.isPacked = true → s.scale.isFinite = true →
      s.scale.isZero = false → s.offset.isFinite = true →
      a.DeclaresLone (.int t) side bound →
      side.admits (bound.meant (a.isUnsigned (.int t)) (.int t))
        (x.meant (a.isUnsigned (.int t)) (.int t)) = true →
        p.isInvalid (a.unpackedNumber (.int t) s x) = false := by
  intro h
  have hinvalid : (policyOfAttributes (fromZero (-1)) (.int ⟨true, .w16, .little⟩) {} none
      none).outcome.map (fun p => p.isInvalid ((fromZero (-1)).unpackedNumber
        (.int ⟨true, .w16, .little⟩) ⟨-1, 0, some .float64⟩ (.int 5))) = .ok true := by
    decide +kernel
  obtain ⟨p, hp⟩ := Report.exists_eq_ok (show (policyOfAttributes (fromZero (-1))
    (.int ⟨true, .w16, .little⟩) {} none none).outcome.isOk = true by decide +kernel)
  have hs : Scaling.ofAttributes (fromZero (-1)) = .ok ⟨-1, 0, some .float64⟩ := rfl
  have hvalid := h _ _ _ _ p _ .lower (.int 0) (.int 5) hp hs rfl (by decide +kernel)
    (by decide +kernel) (by decide +kernel) (declaresLone_fromZero (-1)) (by decide +kernel)
  rw [hp, Except.map, Except.ok.injEq, hvalid] at hinvalid
  exact Bool.false_ne_true hinvalid

end MissingSamples
