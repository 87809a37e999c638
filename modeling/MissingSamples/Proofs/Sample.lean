/-
# Single stored numbers

One element of a numeric grid as it is stored: an integer or a floating number. Stored integers
compare as integers and not as the doubles they become, and an integer that is meant to be
unsigned is another number than the one that is stored.

* `Elements.numbers?_of_samples?` says which doubles the elements become;
* `Elements.samples?_toUnsigned` says how reading integers as unsigned acts on single ones;
* `Sample.matching_number` and `Sample.le_number` say that what is the same, or in order, as
  stored is so as doubles.
-/
import MissingSamples.Value.Elements
import MissingSamples.Proofs.Comparison

namespace MissingSamples

open Double

/-- One stored number. -/
inductive Sample where
  /-- An integer. -/
  | int (i : Int)
  /-- A floating number. -/
  | float (x : Double)
deriving DecidableEq

namespace Sample

/-- The double that the number becomes. -/
def number : Sample → Double
  | int i => .ofInt i
  | float x => x

/-- The two are the same integer or the same floating number, or neither is a number. -/
def matching : Sample → Sample → Bool
  | int i, int j => i == j
  | float x, float y => x.matching y
  | _, _ => false

/-- The first is at most the second. -/
def le : Sample → Sample → Bool
  | int i, int j => decide (i ≤ j)
  | float x, float y => x.le y
  | _, _ => false

/-- The number that is meant by an element of the type: integers with a sign are read as unsigned
ones of the same width, if that is wanted. -/
def meant (unsigned : Bool) (t : ElementType) : Sample → Sample
  | int i =>
    match t with
    | .int t => if unsigned && t.signed then int (Elements.unsignedOf t.width i) else int i
    | _ => int i
  | float x => float x

lemma matching_meant {x y : Sample} (h : x.matching y = true) (unsigned : Bool)
    (t : ElementType) : (x.meant unsigned t).matching (y.meant unsigned t) = true := by
  cases x with
  | int i =>
    cases y with
    | float y => simp [matching] at h
    | int j =>
      obtain rfl : i = j := by simpa [matching] using h
      cases hm : (int i).meant unsigned t with
      | int k => exact beq_self_eq_true k
      | float z => exact matching_self z
  | float x =>
    cases y with
    | int j => simp [matching] at h
    | float y => exact h

lemma matching_number {x y : Sample} (h : x.matching y = true) :
    x.number.matching y.number = true := by
  cases x with
  | int i =>
    cases y with
    | float y => simp [matching] at h
    | int j =>
      obtain rfl : i = j := by simpa [matching] using h
      exact matching_self _
  | float x =>
    cases y with
    | int j => simp [matching] at h
    | float y => exact h

end Sample

/-! ## Integers as doubles -/

lemma isNaN_ofInt (i : Int) : (ofInt i).isNaN = false := isNaN_nearest _ _ _

lemma level_ofInt (i : Int) : (ofInt i).level = rounded (i * unitsPerOne) 1 := by
  have hunits : i * unitsPerOne = signed (decide (i < 0)) (i.natAbs * unitsPerOne) := by
    rw [signed_mul_natCast, signed_natAbs]
  rw [ofInt, level_nearest, hunits]

lemma ofInt_le_ofInt {i j : Int} (h : i ≤ j) : (ofInt i).le (ofInt j) = true := by
  rw [le_iff, level_ofInt, level_ofInt]
  exact ⟨isNaN_ofInt i, isNaN_ofInt j,
    rounded_mono (Int.mul_le_mul_of_nonneg_right h (Int.natCast_nonneg _))⟩

lemma Sample.le_number {x y : Sample} (h : x.le y = true) : x.number.le y.number = true := by
  cases x with
  | int i =>
    cases y with
    | float y => simp [Sample.le] at h
    | int j => exact ofInt_le_ofInt (by simpa [Sample.le] using h)
  | float x =>
    cases y with
    | int j => simp [Sample.le] at h
    | float y => exact h

/-! ## The samples of a grid -/

namespace Elements

variable {α : Type}

/-- Integers and floating numbers as they are stored. -/
def samples? : Elements α → Option (List Sample)
  | ints _ is => some (is.map .int)
  | floats _ xs => some (xs.map .float)
  | _ => none

lemma isSome_samples? (e : Elements α) : e.samples?.isSome = e.type.isNumeric := by
  cases e <;> rfl

lemma numbers?_of_samples? {e : Elements α} {xs : List Sample} (h : e.samples? = some xs) :
    e.numbers? = some (xs.map Sample.number) := by
  cases e with
  | ints t is =>
    obtain rfl : is.map Sample.int = xs := by simpa [samples?] using h
    rw [List.map_map]
    rfl
  | floats t ys =>
    obtain rfl : ys.map Sample.float = xs := by simpa [samples?] using h
    rw [List.map_map]
    exact congrArg some (List.map_id' ys).symm
  | _ => simp [samples?] at h

lemma length_of_samples? {e : Elements α} {xs : List Sample} (h : e.samples? = some xs) :
    e.length = xs.length := by
  rw [← length_numbers? (numbers?_of_samples? h), List.length_map]

/-- Reading the elements as unsigned reads every one as it is meant. -/
lemma samples?_toUnsigned {e : Elements α} {xs : List Sample} (h : e.samples? = some xs)
    (unsigned : Bool) :
    ((e.toUnsigned unsigned).result e).samples?
      = some (xs.map (Sample.meant unsigned e.type)) := by
  cases e with
  | ints t is =>
    obtain rfl : is.map Sample.int = xs := by simpa [samples?] using h
    cases hu : unsigned && t.signed
    · have hmeant : ∀ i, (Sample.int i).meant unsigned (.int t) = .int i := fun i => by
        simp [Sample.meant, hu]
      simp [toUnsigned, hu, samples?, type, Function.comp_def, hmeant]
    · have hmeant : ∀ i, (Sample.int i).meant unsigned (.int t)
          = .int (unsignedOf t.width i) := fun i => by simp [Sample.meant, hu]
      simp [toUnsigned, hu, samples?, type, Function.comp_def, hmeant]
  | floats t ys =>
    obtain rfl : ys.map Sample.float = xs := by simpa [samples?] using h
    rw [List.map_map]
    rfl
  | _ => simp [samples?] at h

lemma samples?_slice {e : Elements α} {xs : List Sample} (h : e.samples? = some xs) (m n : Nat) :
    (e.slice m n).samples? = some ((xs.take n).drop m) := by
  cases e with
  | ints t is =>
    obtain rfl : is.map Sample.int = xs := by simpa [samples?] using h
    simp only [slice, rearrange, samples?, List.map_take, List.map_drop]
  | floats t ys =>
    obtain rfl : ys.map Sample.float = xs := by simpa [samples?] using h
    simp only [slice, rearrange, samples?, List.map_take, List.map_drop]
  | _ => simp [samples?] at h

lemma rank_type_toUnsigned (e : Elements α) (unsigned : Bool) :
    ((e.toUnsigned unsigned).result e).type.rank = e.type.rank := by
  cases e with
  | ints t is =>
    rw [toUnsigned]
    split <;> rfl
  | _ => rfl

end Elements

namespace Grid

variable {α : Type}

lemma shape_toUnsigned (g : Grid α) (unsigned : Bool) :
    ((g.toUnsigned unsigned).result g).shape = g.shape := by
  rw [Grid.toUnsigned]
  split <;> rfl

lemma elements_toUnsigned (g : Grid α) (unsigned : Bool) :
    ((g.toUnsigned unsigned).result g).elements
      = (g.elements.toUnsigned unsigned).result g.elements := by
  rw [Grid.toUnsigned]
  split <;> simp_all

end Grid

end MissingSamples
