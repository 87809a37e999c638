/-
# Rows of single values

A list whose members are neither lists nor grids makes a grid of one dimension, with the members in
order. Its shape and its leaves are each found by induction on the list and do not depend on what
the members are; only the type of the grid does, which has to be common to all of them.

* `Yields` says that a step succeeds, and `yields_mapM` that steps do so together;
* `Value.IsRow` says of what members a value is a list, whether it can grow or not;
* `Value.asGrid_of_isRow` is the grid that it makes;
* `typeOfLeaves_of_forall` is the type of members that agree in theirs.
-/
import Mathlib.Tactic.Lemma
import MissingSamples.Report
import MissingSamples.Value.Gather

namespace MissingSamples

/-! ## Steps that succeed -/

/-- The step succeeds, with a result of this kind. -/
def Yields {α : Type} (P : α → Prop) (e : Except Failure α) : Prop := ∃ a, e = .ok a ∧ P a

namespace Yields

variable {α β : Type} {P : α → Prop} {Q : β → Prop} {e : Except Failure α}

lemma ok {a : α} (h : P a) : Yields P (.ok a) := ⟨a, rfl, h⟩

lemma bind {next : α → Except Failure β} (he : Yields P e) (h : ∀ a, P a → Yields Q (next a)) :
    Yields Q (e >>= next) := by
  obtain ⟨a, rfl, ha⟩ := he
  exact h a ha

end Yields

section Many

variable {α β : Type} {f : α → Except Failure β} {xs : List α}

/-- Only what becomes of the members counts. -/
lemma mapM_congr {g : α → Except Failure β} (h : ∀ x ∈ xs, f x = g x) : xs.mapM f = xs.mapM g := by
  induction xs with
  | nil => rfl
  | cons x rest ih =>
    rw [List.mapM_cons, List.mapM_cons, h x List.mem_cons_self,
      ih fun y hy => h y (List.mem_cons_of_mem x hy)]

lemma mapM_eq_ok {g : α → β} (h : ∀ x ∈ xs, f x = .ok (g x)) : xs.mapM f = .ok (xs.map g) :=
  (mapM_congr h).trans List.mapM_pure

/-- Steps that succeed one by one succeed together, with a result for each. -/
lemma yields_mapM {P : β → Prop} (h : ∀ x ∈ xs, Yields P (f x)) :
    Yields (fun ys => ys.length = xs.length ∧ ∀ y ∈ ys, P y) (xs.mapM f) := by
  induction xs with
  | nil => exact .ok ⟨rfl, fun y hy => absurd hy List.not_mem_nil⟩
  | cons x rest ih =>
    rw [List.mapM_cons]
    refine (h x List.mem_cons_self).bind fun y hy => ?_
    refine (ih fun z hz => h z (List.mem_cons_of_mem x hz)).bind fun ys ⟨hlength, hys⟩ => .ok ?_
    refine ⟨by rw [List.length_cons, List.length_cons, hlength], ?_⟩
    exact List.forall_mem_cons.2 ⟨hy, hys⟩

/-- Steps succeed together exactly if they succeed one by one. -/
lemma exists_mapM_eq_ok_iff : (∃ ys, xs.mapM f = .ok ys) ↔ ∀ x ∈ xs, ∃ y, f x = .ok y := by
  constructor
  · rintro ⟨ys, hys⟩
    induction xs generalizing ys with
    | nil => exact fun x hx => absurd hx List.not_mem_nil
    | cons x rest ih =>
      rw [List.mapM_cons] at hys
      obtain ⟨y, hy, hys⟩ := Report.bind_eq_ok_iff.1 hys
      obtain ⟨zs, hzs, -⟩ := Report.bind_eq_ok_iff.1 hys
      exact List.forall_mem_cons.2 ⟨⟨y, hy⟩, ih zs hzs⟩
  · intro h
    obtain ⟨ys, hys, -⟩ := yields_mapM (P := fun _ => True) fun x hx => by
      obtain ⟨y, hy⟩ := h x hx
      exact ⟨y, hy, trivial⟩
    exact ⟨ys, hys⟩

end Many

/-- What is made of a result has no part in whether there is one. -/
lemma exists_pure_bind_eq_ok {α β : Type} {e : Except Failure α} {f : α → β} :
    (∃ b, (do return f (← e)) = .ok b) ↔ ∃ a, e = .ok a := by
  cases e with
  | error f =>
    constructor <;> rintro ⟨x, hx⟩ <;> cases hx
  | ok a => exact iff_of_true ⟨f a, rfl⟩ ⟨a, rfl⟩

/-! ## Rows -/

namespace Value

/-- The value is no list and no grid: it makes a grid of no dimensions, of which it is the leaf and
the only element. -/
structure IsSingle (v : Value) : Prop where
  shape : v.shape = .ok []
  leaves : v.leaves = [v]
  items : v.leafItems = [v]

/-- The value is a list of these members, one that can grow or one that cannot. -/
inductive IsRow (members : List Value) : Value → Prop
  /-- A list that can grow. -/
  | list : IsRow members (.list members)
  /-- A list that cannot grow. -/
  | tuple : IsRow members (.tuple members)

lemma isString_of_isRow {members : List Value} {v : Value} (h : v.IsRow members) :
    v.isString = false := by
  cases h <;> rfl

lemma grid?_of_isRow {members : List Value} {v : Value} (h : v.IsRow members) :
    v.grid? = none := by
  cases h <;> rfl

end Value

lemma flatMap_eq_self {members : List Value} {f : Value → List Value}
    (h : ∀ m ∈ members, f m = [m]) : members.flatMap f = members := by
  induction members with
  | nil => rfl
  | cons m rest ih =>
    obtain ⟨hm, hrest⟩ := List.forall_mem_cons.1 h
    rw [List.flatMap_cons, hm, ih hrest, List.singleton_append]

section Row

variable {members : List Value} (hsingle : ∀ m ∈ members, m.IsSingle)
include hsingle

lemma shapes_of_isSingle : shapes members = .ok (List.replicate members.length []) := by
  induction members with
  | nil => rfl
  | cons m rest ih =>
    rw [shapes, (hsingle m List.mem_cons_self).shape,
      ih fun k hk => hsingle k (List.mem_cons_of_mem m hk)]
    rfl

lemma leavesOfAll_of_isSingle : leavesOfAll members = members := by
  induction members with
  | nil => rfl
  | cons m rest ih =>
    rw [leavesOfAll, (hsingle m List.mem_cons_self).leaves,
      ih fun k hk => hsingle k (List.mem_cons_of_mem m hk)]
    rfl

lemma items_of_isSingle : members.flatMap Value.leafItems = members :=
  flatMap_eq_self fun m hm => (hsingle m hm).items

end Row

lemma stackedShape_replicate (n : Nat) : stackedShape (List.replicate n []) = .ok [n] := by
  cases n with
  | zero => rfl
  | succ n => simp [List.replicate_succ, stackedShape, maxDims]

/-- What is no list and no grid is a grid of no dimensions. -/
theorem Value.asGrid_of_isSingle {v : Value} (hv : v.grid? = none) (hsingle : v.IsSingle)
    {e : Elements Value} (he : Elements.ofLeaves (typeOfLeaves [v]) [v] = .ok e) :
    v.asGrid = .ok ⟨[], e⟩ := by
  simp only [asGrid, hv, hsingle.shape, hsingle.leaves, he, bind, Except.bind, pure, Except.pure]

/-- A row of single members is a grid of one dimension. -/
theorem Value.asGrid_of_isRow {members : List Value} {v : Value} (hv : v.IsRow members)
    (hsingle : ∀ m ∈ members, m.IsSingle) {e : Elements Value}
    (he : Elements.ofLeaves (typeOfLeaves members) members = .ok e) :
    v.asGrid = .ok ⟨[members.length], e⟩ := by
  have hshape : v.shape = .ok [members.length] := by
    have hstacked : (shapes members >>= stackedShape) = .ok [members.length] := by
      rw [shapes_of_isSingle hsingle]
      exact stackedShape_replicate members.length
    cases hv <;> rwa [Value.shape]
  have hleaves : v.leaves = members := by
    cases hv <;> rw [Value.leaves, leavesOfAll_of_isSingle hsingle]
  simp only [asGrid, grid?_of_isRow hv, hshape, hleaves, he, bind, Except.bind, pure, Except.pure]

/-! ## The type of a row -/

lemma foldl_common_of_forall {t : ElementType} (ht : t.native = t) {types : List ElementType}
    (h : ∀ s ∈ types, s = t) : types.foldl ElementType.common t = t := by
  induction types with
  | nil => rfl
  | cons s rest ih =>
    obtain rfl : s = t := h s List.mem_cons_self
    have hcommon : ElementType.common s s = s := by
      unfold ElementType.common
      rw [if_pos rfl, ht]
    rw [List.foldl_cons, hcommon]
    exact ih fun r hr => h r (List.mem_cons_of_mem s hr)

/-- Members of one type of this machine make a grid of that type. -/
lemma typeOfLeaves_of_forall {t : ElementType} (ht : t.native = t) {members : List Value}
    (hne : members ≠ []) (h : ∀ m ∈ members, m.leafType = t) : typeOfLeaves members = t := by
  cases members with
  | nil => exact absurd rfl hne
  | cons m rest =>
    have hrest : ∀ s ∈ rest.map Value.leafType, s = t := by
      intro s hs
      obtain ⟨k, hk, rfl⟩ := List.mem_map.1 hs
      exact h k (List.mem_cons_of_mem m hk)
    rw [typeOfLeaves, List.map_cons, h m List.mem_cons_self]
    dsimp only
    rw [ht]
    exact foldl_common_of_forall ht hrest

end MissingSamples
