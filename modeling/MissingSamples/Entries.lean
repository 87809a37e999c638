/-
# Entries in order

Lists of names and what they stand for, in which every name stands once. Putting something under a
name that is there keeps the place of the name.

* `lookup_put_self` and `lookup_put_of_ne` say how putting shows;
* `lookup_filter` says how leaving out names shows;
* `last?` finds what stands last under a name in lists that may repeat names.
-/

namespace MissingSamples.Entries

variable {α : Type}

/-- The entries with a name standing for the given thing. -/
def put (entries : List (String × α)) (name : String) (x : α) : List (String × α) :=
  if (entries.lookup name).isSome then
    entries.map fun e => (e.1, if e.1 == name then x else e.2)
  else entries ++ [(name, x)]

/-- The entries that come of putting one thing after the other. -/
def ofAssignments (assignments : List (String × α)) : List (String × α) :=
  assignments.foldl (fun entries e => put entries e.1 e.2) []

/-- What stands last under a name. -/
def last? (entries : List (String × α)) (name : String) : Option α := entries.reverse.lookup name

theorem lookup_map (f : String × α → α) (name : String) (entries : List (String × α)) :
    (entries.map fun e => (e.1, f e)).lookup name
      = (entries.lookup name).map fun x => f (name, x) := by
  induction entries with
  | nil => rfl
  | cons e rest ih =>
    obtain ⟨k, x⟩ := e
    by_cases h : name == k
    · have hk : name = k := by simpa using h
      simp [hk]
    · simp [List.lookup_cons, h, ih]

theorem lookup_filter (p : String → Bool) (name : String) (entries : List (String × α)) :
    (entries.filter fun e => p e.1).lookup name = if p name then entries.lookup name else none := by
  induction entries with
  | nil => simp
  | cons e rest ih =>
    obtain ⟨k, x⟩ := e
    by_cases h : name == k
    · have hk : name = k := by simpa using h
      subst hk
      cases hp : p name <;> simp [hp, ih]
    · cases hp : p k <;> simp [hp, List.lookup_cons, h, ih]

@[simp] theorem lookup_put_self (entries : List (String × α)) (name : String) (x : α) :
    (put entries name x).lookup name = some x := by
  by_cases h : (entries.lookup name).isSome = true
  · obtain ⟨y, hy⟩ := Option.isSome_iff_exists.1 h
    rw [put, if_pos h, lookup_map, hy]
    simp
  · have hn : entries.lookup name = none := Option.not_isSome_iff_eq_none.1 h
    simp [put, List.lookup_append, hn]

theorem lookup_put_of_ne (entries : List (String × α)) {name other : String} (h : other ≠ name)
    (x : α) : (put entries name x).lookup other = entries.lookup other := by
  by_cases hn : (entries.lookup name).isSome = true
  · rw [put, if_pos hn, lookup_map]
    simp [h]
  · have hb : (other == name) = false := by simpa using h
    simp [put, hn, List.lookup_append, List.lookup_cons, hb]

end MissingSamples.Entries
