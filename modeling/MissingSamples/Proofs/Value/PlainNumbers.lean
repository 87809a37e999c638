/-
# Plain numbers

A plain number is a truth value, a double, or an integer that is not too large for one. Whether it
stands by itself or in a row, it makes a grid whose elements all have a number. The type of such a
grid is one of truth values, integers or floating numbers, or anything where an integer is too long
for these. The common type of two such types is such a type, and plain numbers can be made elements
of any of them.

* `Grid.OfNumbers` describes grids of numbers, and `Grid.yields_numberAt` and `Grid.yields_numbers`
  read them;
* `Value.yields_asGrid_of_isPlainNumber` and `Value.yields_asGrid_of_isRow` say that plain numbers
  make such grids.
-/
import MissingSamples.Proofs.Binary.Order
import MissingSamples.Proofs.Value.Rows
import MissingSamples.Scaling

namespace MissingSamples

/-! ## Numbers by themselves -/

/-- The value is a truth value, a double, or an integer below `2 ^ 1023` in magnitude. -/
inductive Value.IsPlainNumber : Value → Prop
  /-- A truth value. -/
  | bool (b : Bool) : IsPlainNumber (.bool b)
  /-- A double. -/
  | float (x : Double) : IsPlainNumber (.float x)
  /-- An integer. -/
  | int {i : Int} : i.natAbs < twoPow 1023 → IsPlainNumber (.int i)

lemma isFinite_nearest {num : Nat} (s : Bool) (h : num < twoPow 2097) :
    (Double.nearest s num 1).isFinite = true := by
  have hlt : FloatFormat.binary64.round num 1 < twoPow FloatFormat.binary64.limit := by
    refine (FloatFormat.round_le_twoPow _ (k := 2097) (by rwa [Nat.div_one]) ?_).trans_lt
      (twoPow_lt_twoPow (by decide))
    refine FloatFormat.quantum_le _ ?_ (by decide)
    rw [Nat.div_one]
    exact h.trans_le (twoPow_le_twoPow (Nat.le_add_right _ _))
  unfold Double.nearest
  rw [dif_pos hlt]
  rfl

/-- An integer below `2 ^ 1023` in magnitude is a finite double. -/
lemma isFinite_ofInt {i : Int} (h : i.natAbs < twoPow 1023) :
    (Double.ofInt i).isFinite = true := by
  refine isFinite_nearest _ ?_
  have hexponent : twoPow 2097 = twoPow (1023 + 1074) := congrArg twoPow (by decide)
  rw [hexponent, twoPow_add, Double.unitsPerOne]
  exact Nat.mul_lt_mul_of_pos_right h (twoPow_pos 1074)

namespace Value

variable {v : Value} (hv : v.IsPlainNumber)
include hv

lemma yields_number_of_isPlainNumber : Yields (fun _ => True) v.number := by
  cases hv with
  | bool b => exact .ok trivial
  | float x => exact .ok trivial
  | int hi => exact ⟨_, if_pos (isFinite_ofInt hi), trivial⟩

lemma isSingle_of_isPlainNumber : v.IsSingle := by
  cases hv <;> exact ⟨rfl, rfl, rfl⟩

lemma grid?_of_isPlainNumber : v.grid? = none := by
  cases hv <;> rfl

lemma leafValues_of_isPlainNumber : v.leafValues = [v] := by
  cases hv <;> rfl

/-- As a double of an array a plain number is one double. -/
lemma yields_leafDoubles_of_isPlainNumber :
    Yields (fun xs => xs.length = 1) v.leafDoubles := by
  obtain ⟨x, hx, -⟩ := yields_number_of_isPlainNumber hv
  have hleaf : v.leafDoubles = .ok [x] := by
    have hmember := memberNumber_of_number hx
    cases hv <;> simp only [leafDoubles, hmember] <;> rfl
  rw [hleaf]
  exact .ok rfl

end Value

/-! ## Their type -/

/-- Plain numbers may have this type: truth values, integers, floating numbers, or anything. -/
def ElementType.isOpenNumeric : ElementType → Bool
  | .bool | .int _ | .float _ | .object => true
  | _ => false

namespace ElementType

lemma isOpenNumeric_native {t : ElementType} (ht : t.isOpenNumeric = true) :
    t.native.isOpenNumeric = true := by
  cases t <;> first | rfl | exact absurd ht Bool.false_ne_true

lemma isOpenNumeric_commonInt (s t : IntType) : (commonInt s t).isOpenNumeric = true := by
  unfold commonInt
  dsimp only
  split_ifs
  · rfl
  · rfl
  · split <;> rfl
  · rfl
  · split <;> rfl

lemma isOpenNumeric_common {s t : ElementType} (hs : s.isOpenNumeric = true)
    (ht : t.isOpenNumeric = true) : (common s t).isOpenNumeric = true := by
  unfold common
  split_ifs
  · exact isOpenNumeric_native hs
  -- of all pairs that are left, only two types of integers take more than one look
  · cases s <;> first
      | exact absurd hs Bool.false_ne_true
      | cases t <;> first
        | exact absurd ht Bool.false_ne_true
        | exact isOpenNumeric_commonInt _ _
        | rfl

end ElementType

lemma isOpenNumeric_leafType {m : Value} (hm : m.IsPlainNumber) :
    m.leafType.isOpenNumeric = true := by
  cases hm with
  | bool b => rfl
  | float x => rfl
  | int hi =>
    rw [Value.leafType, typeOfInt]
    split_ifs <;> rfl

lemma isOpenNumeric_foldl {types : List ElementType} (h : ∀ t ∈ types, t.isOpenNumeric = true)
    {s : ElementType} (hs : s.isOpenNumeric = true) :
    (types.foldl ElementType.common s).isOpenNumeric = true := by
  induction types generalizing s with
  | nil => exact hs
  | cons t rest ih =>
    obtain ⟨ht, hrest⟩ := List.forall_mem_cons.1 h
    exact ih hrest (ElementType.isOpenNumeric_common hs ht)

/-! ## The elements of a grid of them -/

/-- Every element has a number. -/
inductive Elements.AllNumbers : Elements Value → Prop
  /-- Truth values count as zero and one. -/
  | bools (xs : List Bool) : AllNumbers (.bools xs)
  /-- Integers of a type are doubles. -/
  | ints (t : IntType) (xs : List Int) : AllNumbers (.ints t xs)
  /-- Floating numbers are doubles. -/
  | floats (t : FloatType) (xs : List Double) : AllNumbers (.floats t xs)
  /-- Values of any kind have to have a number. -/
  | objects {xs : List Value} : (∀ x ∈ xs, Yields (fun _ => True) x.number) →
      AllNumbers (.objects xs)

section Members

variable {members : List Value} (h : ∀ m ∈ members, m.IsPlainNumber)
include h

lemma isOpenNumeric_typeOfLeaves : (typeOfLeaves members).isOpenNumeric = true := by
  cases members with
  | nil => rfl
  | cons m rest =>
    obtain ⟨hm, hrest⟩ := List.forall_mem_cons.1 h
    refine isOpenNumeric_foldl ?_
      (ElementType.isOpenNumeric_native (isOpenNumeric_leafType hm))
    intro t ht
    obtain ⟨k, hk, rfl⟩ := List.mem_map.1 ht
    exact isOpenNumeric_leafType (hrest k hk)

/-- Plain numbers are elements of the type that they have together, one for each. -/
lemma yields_ofLeaves {t : ElementType} (ht : t.isOpenNumeric = true) :
    Yields (fun e => e.AllNumbers ∧ e.length = members.length)
      (Elements.ofLeaves t members) := by
  have hitems := items_of_isSingle fun m hm => Value.isSingle_of_isPlainNumber (h m hm)
  have hvalues := flatMap_eq_self fun m hm => Value.leafValues_of_isPlainNumber (h m hm)
  cases t with
  | bool => exact .ok ⟨.bools _, by rw [hitems, Elements.length, List.length_map]⟩
  | int t => exact .ok ⟨.ints _ _, by rw [hitems, Elements.length, List.length_map]⟩
  | float t =>
    refine (yields_mapM fun m hm => Value.yields_leafDoubles_of_isPlainNumber (h m hm)).bind ?_
    rintro xss ⟨hlength, hone⟩
    refine .ok ⟨.floats _ _, ?_⟩
    rw [Elements.length, List.length_flatten, List.map_congr_left hone, List.map_const',
      List.sum_replicate_nat, Nat.mul_one, hlength]
  | object =>
    refine .ok ⟨.objects fun m hm => ?_, by rw [hvalues, Elements.length]⟩
    rw [hvalues] at hm
    exact Value.yields_number_of_isPlainNumber (h m hm)
  | _ => exact absurd ht Bool.false_ne_true

end Members

/-! ## Reading numbers -/

namespace Elements

variable {e : Elements Value}

lemma AllNumbers.yields_numbers (he : e.AllNumbers) :
    Yields (fun xs => xs.length = e.length) (e.numbers Value.number) := by
  cases he with
  | bools xs => exact .ok (List.length_map _)
  | ints t xs => exact .ok (List.length_map _)
  | floats t xs => exact .ok rfl
  | objects hxs =>
    obtain ⟨ys, hys, hlength, -⟩ := yields_mapM hxs
    exact ⟨ys, hys, hlength⟩

lemma AllNumbers.slice (he : e.AllNumbers) (m n : Nat) : (e.slice m n).AllNumbers := by
  cases he with
  | bools xs => exact .bools _
  | ints t xs => exact .ints t _
  | floats t xs => exact .floats t _
  | objects hxs => exact .objects fun x hx => hxs x (List.mem_of_mem_take (List.mem_of_mem_drop hx))

lemma length_slice (e : Elements Value) (m n : Nat) :
    (e.slice m n).length = min n e.length - m := by
  cases e <;> simp only [Elements.slice, rearrange, Elements.length, List.length_drop,
    List.length_take]

end Elements

namespace Grid

/-- A grid of one dimension with at least one element, each of which has a number. -/
structure OfNumbers (g : Grid Value) : Prop where
  shape : g.shape = [g.size]
  pos : 0 < g.size
  numbers : g.elements.AllNumbers

variable {g : Grid Value} (hg : g.OfNumbers)
include hg

lemma yields_numberAt {i : Nat} (hi : i < g.size) :
    Yields (fun _ => True) (g.numberAt i) := by
  have hone : (g.elements.slice i (i + 1)).length = 1 := by
    rw [Elements.length_slice, min_eq_left hi, Nat.add_sub_cancel_left]
  simp only [numberAt, hg.shape, hi, if_true]
  refine (hg.numbers.slice i (i + 1)).yields_numbers.bind fun xs hxs => ?_
  rw [hone] at hxs
  cases xs with
  | nil => exact absurd hxs (by simp)
  | cons x rest => exact .ok trivial

lemma yields_numbers : Yields (fun _ => True) g.numbers := by
  simp only [Grid.numbers, hg.shape]
  obtain ⟨xs, hxs, -⟩ := hg.numbers.yields_numbers
  exact ⟨xs, hxs, trivial⟩

end Grid

/-! ## Their grids -/

namespace Value

variable {v : Value}

/-- A plain number makes a grid of numbers. -/
theorem yields_asGrid_of_isPlainNumber (hv : v.IsPlainNumber) :
    Yields (fun g => g.atLeastOneDim.OfNumbers) v.asGrid := by
  have hall : ∀ m ∈ [v], m.IsPlainNumber := by simpa using hv
  obtain ⟨e, he, hnumbers, hlength⟩ := yields_ofLeaves hall (isOpenNumeric_typeOfLeaves hall)
  rw [asGrid_of_isSingle (grid?_of_isPlainNumber hv) (isSingle_of_isPlainNumber hv) he]
  refine .ok ⟨?_, ?_, hnumbers⟩
  · exact congrArg (fun n => [n]) hlength.symm
  · exact Nat.zero_lt_one.trans_eq hlength.symm

/-- So does a row of plain numbers, if it has any. -/
theorem yields_asGrid_of_isRow {members : List Value} (hv : v.IsRow members)
    (hne : members ≠ []) (h : ∀ m ∈ members, m.IsPlainNumber) :
    Yields (fun g => g.atLeastOneDim.OfNumbers) v.asGrid := by
  obtain ⟨e, he, hnumbers, hlength⟩ := yields_ofLeaves h (isOpenNumeric_typeOfLeaves h)
  rw [asGrid_of_isRow hv (fun m hm => isSingle_of_isPlainNumber (h m hm)) he]
  refine .ok ⟨?_, ?_, hnumbers⟩
  · exact congrArg (fun n => [n]) hlength.symm
  · exact (List.length_pos_iff.2 hne).trans_eq hlength.symm

end Value

end MissingSamples
