/-
# Failures that are not the library's own

The library has failures of its own, for settings and arguments that break its contract. Everything
else that goes wrong comes from reading a value: a text spells no number, lists make no grid, a name
stands for no type. Reading the attributes of a variable meets only failures of the second kind, so
a caller who watches for the first kind is never misled by what a variable holds.

* `FailsPlainly` says that of a step, and `FailsPlainly.bind` carries it from step to step;
* `Value.failsPlainly_number`, `Value.failsPlainly_asGrid` and `Value.failsPlainly_namedType` say it
  of the three ways in which values are read.
-/
import Mathlib.Tactic.Lemma
import MissingSamples.Scaling
import MissingSamples.Value.TypeName

namespace MissingSamples

variable {α β : Type}

/-- The step succeeds, or fails in a way that is not the library's own. -/
inductive FailsPlainly : Except Failure α → Prop
  /-- It succeeds. -/
  | ok (a : α) : FailsPlainly (.ok a)
  /-- It fails, and the failure belongs to no family. -/
  | error {f : Failure} (plain : f.family? = none) : FailsPlainly (.error f)

namespace FailsPlainly

variable {e : Except Failure α}

lemma bind {next : α → Except Failure β} (he : FailsPlainly e)
    (hnext : ∀ a, FailsPlainly (next a)) : FailsPlainly (e >>= next) := by
  cases he with
  | ok a => exact hnext a
  | error plain => exact .error plain

lemma mapM {f : α → Except Failure β} {xs : List α} (h : ∀ x, FailsPlainly (f x)) :
    FailsPlainly (xs.mapM f) := by
  induction xs with
  | nil => exact .ok []
  | cons x xs ih =>
    rw [List.mapM_cons]
    exact (h x).bind fun y => ih.bind fun ys => .ok (y :: ys)

lemma ite {c : Prop} [Decidable c] {e' : Except Failure α} (he : FailsPlainly e)
    (he' : FailsPlainly e') : FailsPlainly (if c then e else e') := by
  split
  · exact he
  · exact he'

end FailsPlainly

/-! ## Numbers -/

lemma failsPlainly_numberOfText (s : String) : FailsPlainly (numberOfText s) := by
  unfold numberOfText
  split
  · exact .ok _
  · exact .error rfl

lemma failsPlainly_numberOfBytes (xs : List UInt8) : FailsPlainly (numberOfBytes xs) := by
  unfold numberOfBytes
  split
  · exact .ok _
  · exact .error rfl

lemma failsPlainly_numberOfInt (i : Int) : FailsPlainly (numberOfInt i) :=
  .ite (.ok _) (.error rfl)

lemma TimeType.failsPlainly_number (t : TimeType) (count : Int) :
    FailsPlainly (t.number count) :=
  .ite (.ok _) (.error rfl)

lemma Scalar.failsPlainly_number (s : Scalar) : FailsPlainly s.number := by
  cases s with
  | bool | int | float | complex => exact .ok _
  | bytes xs => exact failsPlainly_numberOfBytes xs
  | text s => exact failsPlainly_numberOfText s
  | time t count => exact t.failsPlainly_number count

lemma failsPlainly_numberOfFirst {number : α → Except Failure Double}
    (h : ∀ x, FailsPlainly (number x)) (xs : List α) :
    FailsPlainly (numberOfFirst number xs) := by
  cases xs with
  | nil => exact .error rfl
  | cons x xs => exact h x

mutual

theorem Value.failsPlainly_number (v : Value) : FailsPlainly v.number := by
  cases v with
  | bool | float => exact .ok _
  | int i => exact failsPlainly_numberOfInt i
  | text s => exact failsPlainly_numberOfText s
  | bytes xs => exact failsPlainly_numberOfBytes xs
  | scalar s => exact s.failsPlainly_number
  | grid g => exact failsPlainly_numberOfGrid g
  | _ => exact .error rfl

theorem failsPlainly_numberOfGrid (g : Grid Value) : FailsPlainly (numberOfGrid g) := by
  obtain ⟨shape, elements⟩ := g
  cases shape with
  | nil => exact failsPlainly_numberOfItem elements
  | cons n rest => exact .error rfl

theorem failsPlainly_numberOfItem (e : Elements Value) : FailsPlainly (numberOfItem e) := by
  cases e with
  | bools xs | ints t xs | floats t xs => exact failsPlainly_numberOfFirst (fun _ => .ok _) xs
  | complexes => exact .error rfl
  | bytes size xs => exact failsPlainly_numberOfFirst failsPlainly_numberOfBytes xs
  | texts size order xs => exact failsPlainly_numberOfFirst failsPlainly_numberOfText xs
  | times t xs => exact failsPlainly_numberOfFirst t.failsPlainly_number xs
  | objects xs => exact failsPlainly_numberOfObject xs

theorem failsPlainly_numberOfObject (xs : List Value) : FailsPlainly (numberOfObject xs) := by
  cases xs with
  | nil => exact .error rfl
  | cons v rest => exact v.failsPlainly_number

end

lemma Elements.failsPlainly_numbers (e : Elements Value) :
    FailsPlainly (e.numbers Value.number) := by
  cases e with
  | bools | ints | floats | complexes => exact .ok _
  | bytes size xs => exact .mapM failsPlainly_numberOfBytes
  | texts size order xs => exact .mapM failsPlainly_numberOfText
  | times t xs => exact .mapM t.failsPlainly_number
  | objects xs => exact .mapM Value.failsPlainly_number

lemma Value.failsPlainly_memberNumber (v : Value) : FailsPlainly v.memberNumber := by
  have hnumber := v.failsPlainly_number
  unfold memberNumber
  cases h : v.number with
  | ok x => exact .ok x
  | error f =>
    rw [h] at hnumber
    cases v with
    | null => exact .ok Double.nan
    | list | tuple | grid => exact .error rfl
    | _ => exact hnumber

/-! ## Grids -/

lemma failsPlainly_stackedShape (shapes : List (List Nat)) :
    FailsPlainly (stackedShape shapes) := by
  cases shapes with
  | nil => exact .ok [0]
  | cons s rest => exact .ite (.ok _) (.error rfl)

mutual

theorem Value.failsPlainly_shape (v : Value) : FailsPlainly v.shape := by
  cases v with
  | list xs | tuple xs => exact (failsPlainly_shapes xs).bind failsPlainly_stackedShape
  | _ => exact .ok _

theorem failsPlainly_shapes (xs : List Value) : FailsPlainly (shapes xs) := by
  cases xs with
  | nil => exact .ok []
  | cons x xs =>
    exact x.failsPlainly_shape.bind fun s => (failsPlainly_shapes xs).bind fun rest =>
      .ok (s :: rest)

end

lemma Value.failsPlainly_toText (v : Value) : FailsPlainly v.toText := by
  unfold toText
  split
  · exact .ite (.ok _) (.error rfl)
  · exact .ite (.ok _) (.error rfl)
  · exact .ok _

lemma Elements.failsPlainly_cast (e : Elements Value) : FailsPlainly e.cast := by
  unfold cast
  split
  · exact .ok _
  · exact .mapM Value.failsPlainly_memberNumber
  · exact failsPlainly_numbers e

lemma Value.failsPlainly_leafDoubles (v : Value) : FailsPlainly v.leafDoubles := by
  unfold leafDoubles
  split
  · exact Elements.failsPlainly_cast _
  · exact Elements.failsPlainly_cast _
  · exact v.failsPlainly_memberNumber.bind fun x => .ok [x]

lemma Elements.failsPlainly_ofLeaves (t : ElementType) (leaves : List Value) :
    FailsPlainly (Elements.ofLeaves t leaves) := by
  cases t with
  | float t => exact (FailsPlainly.mapM Value.failsPlainly_leafDoubles).bind fun _ => .ok _
  | text size order => exact (FailsPlainly.mapM Value.failsPlainly_toText).bind fun _ => .ok _
  | _ => exact .ok _

theorem Value.failsPlainly_asGrid (v : Value) : FailsPlainly v.asGrid := by
  unfold asGrid
  split
  · exact .ok _
  · exact v.failsPlainly_shape.bind fun _ =>
      (Elements.failsPlainly_ofLeaves _ _).bind fun _ => .ok _

lemma Value.failsPlainly_asDoubles (v : Value) : FailsPlainly v.asDoubles := by
  unfold asDoubles
  split
  · exact (Elements.failsPlainly_cast _).bind fun _ => .ok _
  · exact v.failsPlainly_shape.bind fun _ =>
      (FailsPlainly.mapM failsPlainly_leafDoubles).bind fun _ => .ok _

lemma Grid.failsPlainly_numberAt (g : Grid Value) (i : Nat) : FailsPlainly (g.numberAt i) := by
  unfold numberAt
  split
  · refine .ite ((Elements.failsPlainly_numbers _).bind fun xs => ?_) (.error rfl)
    cases xs with
    | nil => exact .error rfl
    | cons x rest => exact .ok x
  · exact .ite (.error rfl) (.error rfl)
  · exact .error rfl

lemma Grid.failsPlainly_numbers (g : Grid Value) : FailsPlainly g.numbers := by
  unfold numbers
  split
  · exact g.elements.failsPlainly_numbers
  · exact .ok []
  · exact .error rfl

/-! ## Texts and types -/

lemma Value.failsPlainly_asText (v : Value) : FailsPlainly v.asText := by
  unfold asText
  split
  · exact .ok _
  · split
    · exact .error rfl
    · exact .ok _

namespace ElementType

lemma failsPlainly_orMalformed (t : Option ElementType) :
    FailsPlainly (repeated.orMalformed t) := by
  cases t with
  | none => exact .error rfl
  | some t => exact .ok t

lemma failsPlainly_repeated (t : ElementType) (r : Repeat) : FailsPlainly (t.repeated r) := by
  unfold repeated
  split
  · split
    · exact failsPlainly_orMalformed _
    · exact failsPlainly_orMalformed _
    · exact failsPlainly_orMalformed _
    · exact .error rfl
  · split
    · exact .ok t
    · exact .ok t
    · exact failsPlainly_orMalformed _
    · exact failsPlainly_orMalformed _

lemma failsPlainly_isBigOrder (a b : Option Char) : FailsPlainly (isBigOrder a b) := by
  cases a with
  | none => exact .ok _
  | some a =>
    cases b with
    | none => exact .ok _
    | some b => exact .ite (.ok _) (.error rfl)

lemma failsPlainly_readPart (cs : List Char) : FailsPlainly (readPart cs).1 := by
  unfold readPart
  rcases orderMark cs with ⟨first, cs⟩
  dsimp only
  rcases repetition cs with ⟨repetition, cs⟩
  dsimp only
  rcases orderMark cs with ⟨second, cs⟩
  dsimp only
  rcases partName cs with ⟨word, cs⟩
  refine (failsPlainly_isBigOrder first second).bind fun isBig => .ite (.ok _) ?_
  cases Repeat.read? repetition with
  | some r => exact .ok _
  | none => exact .error rfl

lemma failsPlainly_readParts (fuel : Nat) (cs : List Char) : FailsPlainly (readParts fuel cs) := by
  induction fuel generalizing cs with
  | zero => exact .ok _
  | succ fuel ih =>
    have hpart := failsPlainly_readPart cs
    unfold readParts
    rcases hread : readPart cs with ⟨part, rest⟩
    rw [hread] at hpart
    refine .ite (hpart.bind fun _ => .ok _) ?_
    split
    · exact .error rfl
    · exact hpart.bind fun part => .ite (.ok _) ((ih _).bind fun _ => .ok _)

lemma failsPlainly_ofTextWithin (depth : Nat) (s : String) :
    FailsPlainly (ofTextWithin depth s) := by
  induction depth generalizing s with
  | zero => exact .error rfl
  | succ depth ih =>
    unfold ofTextWithin
    split
    · refine (failsPlainly_readParts _ _).bind fun _ => (FailsPlainly.mapM fun part => ?_).bind
        fun _ => ?_
      · refine (ih part.name).bind fun t => ?_
        split
        · exact t.failsPlainly_repeated _
        · exact .ok t
      · split <;> exact .ok _
    · split
      · exact .ok _
      · exact .error rfl

lemma failsPlainly_ofText (s : String) : FailsPlainly (ofText s) := failsPlainly_ofTextWithin _ s

end ElementType

/-- A named type that may be repeated. -/
lemma failsPlainly_repeated? {t r : Value} (h : FailsPlainly t.namedType) :
    FailsPlainly (do
      let t ← t.namedType
      match r.repeat? with
      | some r => t.repeated r
      | none => throw .unknownElementType) := by
  refine h.bind fun t => ?_
  split
  · exact t.failsPlainly_repeated _
  · exact .error rfl

mutual

theorem Value.failsPlainly_namedType (v : Value) : FailsPlainly v.namedType := by
  unfold namedType
  split
  · exact .ok _
  · exact .ok _
  · exact ElementType.failsPlainly_ofText _
  · exact ElementType.failsPlainly_ofText _
  · exact ElementType.failsPlainly_ofText _
  · exact ElementType.failsPlainly_ofText _
  · exact .ok _
  · next t r => exact failsPlainly_repeated? t.failsPlainly_namedType
  · next fields =>
    exact (Value.failsPlainly_fieldTypes fields).bind fun _ => .ite (.ok _) (.error rfl)
  · exact .ok _
  · exact .error rfl

theorem Value.failsPlainly_fieldType (v : Value) : FailsPlainly v.fieldType := by
  unfold fieldType
  split
  · next t => exact t.failsPlainly_namedType
  · next t r => exact failsPlainly_repeated? t.failsPlainly_namedType
  · exact .error rfl

theorem Value.failsPlainly_fieldTypes (xs : List Value) : FailsPlainly (Value.fieldTypes xs) := by
  cases xs with
  | nil => exact .ok []
  | cons x xs =>
    exact x.failsPlainly_fieldType.bind fun t =>
      (Value.failsPlainly_fieldTypes xs).bind fun types => .ok (t :: types)

end

end MissingSamples
