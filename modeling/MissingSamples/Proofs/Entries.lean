/-
# Names that repeat

Settings come in lists in which a name may stand several times, by itself or through several
spellings that count as one name, and the last counts.

* `lastWhere` is the last member of a list that a condition picks;
* `Entries.last?_filterMap` finds it among the entries that are made of a list;
* `Entries.filter_ofAssignments` says that names may be left out before or after entries are put in
  order;
* `Entries.lookup_filterMap` finds what a function gives for a name among what it gives for many.
-/
import Mathlib.Tactic.Lemma
import MissingSamples.Entries

namespace MissingSamples

variable {α β : Type}

/-- The last of those for which the condition holds. -/
def lastWhere (p : α → Bool) (xs : List α) : Option α := (xs.filter p).getLast?

lemma lastWhere_cons (p : α → Bool) (x : α) (xs : List α) :
    lastWhere p (x :: xs) = (lastWhere p xs).or (if p x then some x else none) := by
  cases h : p x with
  | true => simp [lastWhere, h, List.getLast?_cons]
  | false => simp [lastWhere, h]

namespace Entries

/-! ## The last entry -/

theorem last?_append (a b : List (String × α)) (name : String) :
    last? (a ++ b) name = (last? b name).or (last? a name) := by
  rw [last?, List.reverse_append, List.lookup_append]
  rfl

lemma last?_cons (e : String × α) (rest : List (String × α)) (name : String) :
    last? (e :: rest) name = (last? rest name).or (if e.1 = name then some e.2 else none) := by
  have hone : last? [e] name = if e.1 = name then some e.2 else none := by
    obtain ⟨k, x⟩ := e
    by_cases h : name = k
    · simp [last?, h]
    · have hb : (name == k) = false := beq_eq_false_iff_ne.2 h
      simp [last?, List.lookup_cons, hb, Ne.symm h]
  rw [← hone]
  exact last?_append [e] rest name

/-- The last entry under a name, where a condition tells which entries are made under it. -/
theorem last?_filterMap {entry : α → Option (String × β)} {name : String} {p : α → Bool}
    {f : α → β} (hmade : ∀ x, p x = true → entry x = some (name, f x))
    (hother : ∀ x e, p x = false → entry x = some e → e.1 ≠ name) (xs : List α) :
    last? (xs.filterMap entry) name = (lastWhere p xs).map f := by
  induction xs with
  | nil => rfl
  | cons x xs ih =>
    rw [lastWhere_cons, Option.map_or, ← ih]
    cases hp : p x with
    | true => simp [hmade x hp, last?_cons]
    | false =>
      cases he : entry x with
      | none => simp [he]
      | some e => simp [he, last?_cons, hother x e hp he]

/-! ## Entries in order -/

lemma filter_put (p : String → Bool) (entries : List (String × α)) (name : String) (x : α) :
    (put entries name x).filter (fun e => p e.1)
      = if p name then put (entries.filter fun e => p e.1) name x
        else entries.filter fun e => p e.1 := by
  -- writing keeps the names, so it lets the same entries through
  have hmap : (entries.map fun e => (e.1, if e.1 == name then x else e.2)).filter (fun e => p e.1)
      = (entries.filter fun e => p e.1).map fun e => (e.1, if e.1 == name then x else e.2) := by
    rw [List.filter_map]
    rfl
  unfold put
  cases hp : p name with
  | true =>
    rw [lookup_filter, if_pos hp, if_pos rfl]
    split
    · exact hmap
    · simp [hp]
  | false =>
    rw [if_neg Bool.false_ne_true]
    split
    · have hsame : ∀ e ∈ entries.filter (fun e => p e.1),
          (e.1, if e.1 == name then x else e.2) = id e := by
        intro e he
        have hne : (e.1 == name) = false := beq_eq_false_iff_ne.2 fun h => by
          rw [List.mem_filter, h, hp] at he
          exact Bool.false_ne_true he.2
        rw [hne, if_neg Bool.false_ne_true, id]
      rw [hmap, List.map_congr_left hsame, List.map_id]
    · simp [hp]

/-- Names may be left out before or after entries are put in order. -/
theorem filter_ofAssignments (p : String → Bool) (xs : List (String × α)) :
    (ofAssignments xs).filter (fun e => p e.1) = ofAssignments (xs.filter fun e => p e.1) := by
  have hfold : ∀ init : List (String × α),
      (xs.foldl (fun entries e => put entries e.1 e.2) init).filter (fun e => p e.1)
        = (xs.filter fun e => p e.1).foldl (fun entries e => put entries e.1 e.2)
            (init.filter fun e => p e.1) := by
    induction xs with
    | nil => exact fun _ => rfl
    | cons e rest ih =>
      intro init
      rw [List.foldl_cons, ih, filter_put]
      cases hp : p e.1 with
      | true => simp [hp]
      | false => simp [hp]
  exact hfold []

theorem lookup_filterMap (f : String → Option α) (name : String) (names : List String) :
    (names.filterMap fun n => (f n).map fun x => (n, x)).lookup name
      = if name ∈ names then f name else none := by
  induction names with
  | nil => rfl
  | cons n rest ih =>
    by_cases h : name = n
    · subst h
      cases hf : f name with
      | none => simp [hf, ih]
      | some x => simp [hf]
    · have hb : (name == n) = false := by simpa using h
      cases hf : f n with
      | none => simp [hf, h, ih]
      | some x => simp [hf, h, hb, ih, List.lookup_cons]

end Entries

end MissingSamples
