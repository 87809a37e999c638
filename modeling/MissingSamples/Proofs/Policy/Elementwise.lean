/-
# What a conversion leaves, sample by sample

A conversion that has something to do leaves one number for every sample. It is not-a-number if the
double of the sample, as it was before anything was written, is missing. Otherwise it is the sample
stored at the width of what the conversion fills: the same number if it stays at its own width, and
the nearest one if it does not.

* `Sample.StoredAs` is a sample stored at a width, without the way in which it is rounded, and
  `Policy.Becomes` is what becomes of it in a conversion;
* `Policy.convertOn_elementwise` says that conversions leave that: in a grid of their own, in a
  destination and in the samples themselves.
-/
import Mathlib.Data.List.Forall2
import MissingSamples.Proofs.Binary.Nearest
import MissingSamples.Proofs.Policy.Buffers

namespace MissingSamples

open Double

open FloatFormat (binary64)

lemma FloatWidth.isNarrow_format (w : FloatWidth) : w.format.IsNarrow := by
  cases w <;> decide

/-! ## Stored samples -/

namespace Sample

/-- What a sample of the type is once it is stored in floating numbers of the width. -/
inductive StoredAs : ElementType → FloatWidth → Sample → Double → Prop
  /-- A number stays as it is at its own width, and at the extended one, which has room for all. -/
  | kept {t : FloatType} {w : FloatWidth} {x : Double} (hasRoom : t.width = w ∨ w = .extended) :
    StoredAs (.float t) w (.float x) x
  /-- Not-a-number is there at every width. -/
  | nan {t : FloatType} {w : FloatWidth} : StoredAs (.float t) w (.float .nan) .nan
  /-- So are the infinities. -/
  | infinite {t : FloatType} {w : FloatWidth} {s : Bool} :
    StoredAs (.float t) w (.float (.infinite s)) (.infinite s)
  /-- A number is rounded to any other width. -/
  | rounded {t : FloatType} {w : FloatWidth} {s : Bool} {n : Nat} {hn : binary64.Holds n}
    {y : Double} (hasNoRoom : ¬(t.width = w ∨ w = .extended)) (rounds : RoundsTo w.format s n y) :
    StoredAs (.float t) w (.float (.finite s n hn)) y
  /-- An integer is itself at the extended width. -/
  | keptInt {t : IntType} {i : Int} (hi : binary64.Holds (i.natAbs * unitsPerOne)) :
    StoredAs (.int t) .extended (.int i) (.finite (decide (i < 0)) (i.natAbs * unitsPerOne) hi)
  /-- An integer is rounded to any other width. -/
  | roundedInt {t : IntType} {w : FloatWidth} {i : Int} {y : Double} (hasNoRoom : w ≠ .extended)
    (rounds : RoundsTo w.format (decide (i < 0)) (i.natAbs * unitsPerOne) y) :
    StoredAs (.int t) w (.int i) y

/-- The sample has its number at the width. Of the extended numbers only those are told that doubles
hold, so other integers have none there. -/
def IsToldAt (w : FloatWidth) (s : Sample) : Prop :=
  ∀ i, s = .int i → w = .extended → binary64.Holds (i.natAbs * unitsPerOne)

variable {t : ElementType} {w : FloatWidth} {s : Sample} {x y : Double}

/-- A sample is stored as one number and no other. -/
lemma StoredAs.unique (hx : s.StoredAs t w x) (hy : s.StoredAs t w y) : x = y := by
  cases hx with
  | kept hasRoom =>
    cases hy with
    | rounded hasNoRoom => exact absurd hasRoom hasNoRoom
    | _ => rfl
  | nan | infinite => cases hy <;> rfl
  | rounded hasNoRoom rounds =>
    cases hy with
    | kept hasRoom => exact absurd hasRoom hasNoRoom
    | rounded _ rounds' => exact rounds.unique rounds'
  | keptInt =>
    cases hy with
    | keptInt => rfl
    | roundedInt hasNoRoom => exact absurd rfl hasNoRoom
  | roundedInt hasNoRoom rounds =>
    cases hy with
    | keptInt => exact absurd rfl hasNoRoom
    | roundedInt _ rounds' => exact rounds.unique rounds'

/-- A double of the format is rounded to itself. -/
lemma narrow_binary64 (x : Double) : x.narrow binary64 = x := by
  cases x with
  | nan | infinite => rfl
  | finite s m hm =>
    rw [narrow, FloatFormat.round_of_holds _ hm, if_pos hm.1, nearest_of_holds s hm]

lemma storedAs_store (t : FloatType) (w : FloatWidth) (x : Double) :
    (Sample.float x).StoredAs (.float t) w (t.width.store w x) := by
  by_cases hroom : t.width = w ∨ w = .extended
  · have hstore : t.width.store w x = x := by
      rcases hroom with rfl | rfl
      · exact store_self _ x
      · rw [FloatWidth.store]
        split_ifs
        · rfl
        · exact narrow_binary64 x
    rw [hstore]
    exact .kept hroom
  · rw [FloatWidth.store, if_neg fun h => hroom (Or.inl h)]
    cases x with
    | nan => exact .nan
    | infinite => exact .infinite
    | finite s n hn => exact .rounded hroom (roundsTo_nearest w.isNarrow_format s n)

lemma storedAs_ofIntIn (t : IntType) {w : FloatWidth} {i : Int} (h : (Sample.int i).IsToldAt w) :
    (Sample.int i).StoredAs (.int t) w (ofIntIn w.format i) := by
  have hrounds := roundsTo_nearest w.isNarrow_format (decide (i < 0)) (i.natAbs * unitsPerOne)
  by_cases hroom : w = .extended
  · subst hroom
    have hi := h i rfl rfl
    have hself : ofIntIn FloatWidth.extended.format i = .finite (decide (i < 0)) _ hi :=
      hrounds.unique (.within (.of_holds hi) hi.1 hi)
    rw [hself]
    exact .keptInt hi
  · exact .roundedInt hroom hrounds

end Sample

/-! ## Converted samples -/

namespace Policy

variable {α : Type} {p : Policy} {t : ElementType} {w : FloatWidth} {s : Sample} {x y : Double}

/-- What becomes of a sample of the type in a conversion to floating numbers of the width. -/
inductive Becomes (p : Policy) (t : ElementType) (w : FloatWidth) (s : Sample) : Double → Prop
  /-- Not-a-number, if the double of the sample is missing. -/
  | missing (h : p.isMissing s.number = true) : Becomes p t w s .nan
  /-- The sample stored at the width, if it is not. -/
  | kept {y : Double} (h : p.isMissing s.number = false) (stored : s.StoredAs t w y) :
    Becomes p t w s y

lemma Becomes.unique (hx : p.Becomes t w s x) (hy : p.Becomes t w s y) : x = y := by
  cases hx with
  | missing h =>
    cases hy with
    | missing => rfl
    | kept h' => exact absurd (h.symm.trans h') (by decide)
  | kept h stored =>
    cases hy with
    | missing h' => exact absurd (h.symm.trans h') (by decide)
    | kept _ stored' => exact stored.unique stored'

lemma becomes_ite (h : s.StoredAs t w y) :
    p.Becomes t w s (if p.isMissing s.number then .nan else y) := by
  split_ifs with hmissing
  · exact .missing hmissing
  · exact .kept (eq_false_of_ne_true hmissing) h

/-- What a conversion has to hold is what becomes of its samples, one by one. -/
lemma forall₂_maskedAs (p : Policy) {e : Elements α} {xs : List Sample} (hx : e.samples? = some xs)
    (htold : ∀ s ∈ xs, s.IsToldAt w) :
    List.Forall₂ (p.Becomes e.type w) xs (p.maskedAs w e) := by
  cases e with
  | ints t is =>
    obtain rfl : is.map Sample.int = xs := by simpa [Elements.samples?] using hx
    rw [maskedAs, List.forall₂_map_left_iff, List.forall₂_map_right_iff, List.forall₂_same]
    intro i hi
    exact becomes_ite (Sample.storedAs_ofIntIn t (htold _ (List.mem_map_of_mem hi)))
  | floats t ys =>
    obtain rfl : ys.map Sample.float = xs := by simpa [Elements.samples?] using hx
    rw [maskedAs, List.forall₂_map_left_iff, List.forall₂_map_right_iff, List.forall₂_same]
    intro y hy
    exact becomes_ite (Sample.storedAs_store t w y)
  | _ => simp [Elements.samples?] at hx

/-- Nothing else becomes of them. -/
lemma eq_maskedAs (p : Policy) {e : Elements α} {xs : List Sample} (hx : e.samples? = some xs)
    (htold : ∀ s ∈ xs, s.IsToldAt w) {ys : List Double}
    (h : List.Forall₂ (p.Becomes e.type w) xs ys) : ys = p.maskedAs w e := by
  have hunique : Relator.RightUnique (p.Becomes e.type w) := fun _ _ _ hx hy => hx.unique hy
  exact hunique.forall₂ h (p.forall₂_maskedAs hx htold)

/-- Samples have their numbers at the width to which they are converted without a destination. -/
lemma isToldAt_converted {e : Elements α} {xs : List Sample} (hx : e.samples? = some xs)
    {t : FloatType} (ht : e.type.converted = .float t) : ∀ s ∈ xs, s.IsToldAt t.width := by
  rintro s hs i rfl hextended
  cases e with
  | ints =>
    obtain rfl : FloatType.float64 = t := ElementType.float.inj ht
    cases hextended
  | floats _ ys =>
    obtain rfl : ys.map Sample.float = xs := by simpa [Elements.samples?] using hx
    simp at hs
  | _ => simp [Elements.samples?] at hx

/-- Floating samples keep their type, and all others become doubles. -/
lemma eq_or_of_converted {t : ElementType} {s : FloatType} (h : t.converted = .float s) :
    t = .float s ∨ (∀ r, t ≠ .float r) ∧ s = .float64 := by
  cases t with
  | float => exact Or.inl h
  | _ => exact Or.inr ⟨nofun, (ElementType.float.inj h).symm⟩

/-- Floating numbers in the shape of the samples take what a conversion has to hold. -/
lemma convertInto_floats (hp : p.hasMissing = true) {g : Grid Value} {ns : List Double}
    (hns : g.elements.numbers? = some ns) (t : FloatType) (zs : List Double) :
    p.convertInto g (.grid ⟨g.shape, .floats t zs⟩)
      = .ok (.made ⟨g.shape, .floats t (p.maskedAs t.width g.elements)⟩) := by
  simp only [convertInto, hns, hp, if_true, p.blank_marks_storedAs t.width hns]

/-- A conversion of numeric samples by a policy that has something to do leaves not-a-number for
every sample whose double is missing and keeps the others.

Without a destination the numbers are in a grid of their own in the shape of the samples: of the
type that floating samples have, and of doubles for integers. If the samples are their own
destination the same numbers are in their place. A destination apart from the samples, in the same
shape and of any floating type, holds the samples rounded to its width, the missing ones being those
that were missing before rounding, and the samples are as they were. Integers that no double holds
are left out for an extended destination. -/
theorem convertOn_elementwise (p : Policy) (hp : p.hasMissing = true) {v : Value} {g : Grid Value}
    (hv : v.asGrid = .ok g) (hg : g.type.isNumeric = true) :
    ∃ xs, g.elements.samples? = some xs ∧
      (∃ t ys, (g.type = .float t ∨ (∀ s, g.type ≠ .float s) ∧ t = .float64) ∧
        List.Forall₂ (p.Becomes g.type t.width) xs ys ∧
        p.convertOn (.apart v .null)
          = (.ok (.fresh ⟨g.shape, .floats t ys⟩), .apart v .null) ∧
        ∀ zs, v = .grid ⟨g.shape, .floats t zs⟩ →
          p.convertOn (.shared v)
            = (.ok .destination, .shared (.grid ⟨g.shape, .floats t ys⟩))) ∧
      ∀ t zs, (∀ s ∈ xs, s.IsToldAt t.width) →
        ∃ ys, List.Forall₂ (p.Becomes g.type t.width) xs ys ∧
          p.convertOn (.apart v (.grid ⟨g.shape, .floats t zs⟩))
            = (.ok .destination, .apart v (.grid ⟨g.shape, .floats t ys⟩)) := by
  obtain ⟨xs, hxs⟩ : ∃ xs, g.elements.samples? = some xs := by
    rw [← Option.isSome_iff_exists, Elements.isSome_samples?]
    exact hg
  have hns := Elements.numbers?_of_samples? hxs
  obtain ⟨t, ht, hconverted⟩ := p.converted?_eq hg
  refine ⟨xs, hxs, ⟨t, _, eq_or_of_converted ht,
    p.forall₂_maskedAs hxs (isToldAt_converted hxs ht), ?_, ?_⟩, ?_⟩
  · rw [convertOn_eq]
    simp only [Buffers.values, Buffers.destination?, p.convertValue_none hv, convertMissing, hp,
      hconverted, if_true, Option.isSome_none, Bool.false_eq_true, if_false]
  · rintro zs rfl
    rw [convertOn_eq]
    simp only [Buffers.values, Buffers.destination?, p.convertValue_some hv,
      convertInto_floats hp hns, Option.isSome_some, if_true, Buffers.write]
  · intro t zs htold
    refine ⟨_, p.forall₂_maskedAs hxs htold, ?_⟩
    rw [convertOn_eq]
    simp only [Buffers.values, Buffers.destination?, p.convertValue_some hv,
      convertInto_floats hp hns, Option.isSome_some, if_true, Buffers.write]

/-- A sample that has become not-a-number, and one that is rounded down half way between two single
numbers; and a fill value that is taken out of the samples that hold it. -/
theorem convertOn_elementwise_of_singles :
    let p := make {} { hasFillValue := true, fillValue := 5 }
    let integers : Value := .grid ⟨[2], .ints ⟨true, .w32, .little⟩ [5, 16777217]⟩
    let singles (xs : List Double) : Value := .grid ⟨[xs.length], .floats ⟨.single, .big⟩ xs⟩
    p.convertOn (.apart integers (singles [1, 2]))
        = (.ok .destination, .apart integers (singles [.nan, 16777216])) ∧
      p.convertOn (.shared (singles [0, 5, .nan]))
        = (.ok .destination, .shared (singles [0, .nan, .nan])) := by
  intro p integers singles
  constructor
  · obtain ⟨xs, hxs, -, hinto⟩ := p.convertOn_elementwise rfl (v := integers) rfl rfl
    have htold : ∀ s ∈ xs, s.IsToldAt .single := by
      rintro s - i rfl hextended
      cases hextended
    obtain ⟨ys, hys, hrun⟩ := hinto ⟨.single, .big⟩ [1, 2] htold
    have hheld : p.maskedAs .single
        (.ints ⟨true, .w32, .little⟩ [5, 16777217] : Elements Value) = [.nan, 16777216] := by
      decide +kernel
    rw [p.eq_maskedAs hxs htold hys, hheld] at hrun
    exact hrun
  · obtain ⟨xs, hxs, ⟨t, ys, ht, hys, -, hself⟩, -⟩ :=
      p.convertOn_elementwise rfl (v := singles [0, 5, .nan]) rfl rfl
    obtain rfl : t = ⟨.single, .big⟩ := by
      rcases ht with ht | ⟨hnot, -⟩
      · exact (ElementType.float.inj ht).symm
      · exact absurd rfl (hnot ⟨.single, .big⟩)
    have hheld : p.maskedAs .single
        (.floats ⟨.single, .big⟩ [0, 5, .nan] : Elements Value) = [0, .nan, .nan] := by
      decide +kernel
    rw [p.eq_maskedAs hxs (isToldAt_converted hxs rfl) hys, hheld] at hself
    exact hself _ rfl

end Policy

end MissingSamples
