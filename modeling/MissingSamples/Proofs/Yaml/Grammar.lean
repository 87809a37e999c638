/-
# What nodes can be spoilt by

Tokens either make a node or they are malformed: finding the tree of a document looks at no text of
a scalar beyond its kind, so nothing else can go wrong. The readers call each other with less and
less fuel, and one argument goes through all of them.

* `Reading.Tidy` says of a reader that the tokens are malformed if it fails;
* `Node.tidy_read` and its companions say it of the readers of nodes and of their members;
* `Node.onlyMalformed_ofTokens` says what it means for whole documents.
-/
import MissingSamples.Proofs.Yaml.Tokens
import MissingSamples.Yaml.Node.Grammar

namespace MissingSamples.Yaml

variable {α β : Type}

/-- The step succeeds unless something is malformed. -/
abbrev OnlyMalformed (e : Except Problem α) : Prop := Ends (· = .malformed) (fun _ => True) e

namespace Reading

/-- The reader succeeds, whatever is left to read, unless the tokens are malformed. -/
def Tidy (m : Reading α) : Prop := ∀ r, OnlyMalformed (m.run r)

variable {m m' : Reading α}

lemma tidy_pure (a : α) : Tidy (pure a) := fun _ => .ok trivial

lemma tidy_throw : Tidy (throw .malformed : Reading α) := fun _ => .error rfl

lemma tidy_get : Tidy get := fun _ => .ok trivial

lemma tidy_modify (f : Remainder → Remainder) : Tidy (modify f) := fun _ => .ok trivial

lemma Tidy.bind {next : α → Reading β} (h : Tidy m) (hnext : ∀ a, Tidy (next a)) :
    Tidy (m >>= next) :=
  fun r => (h r).bind fun x _ => hnext x.1 x.2

lemma Tidy.ite {c : Prop} [Decidable c] (h : Tidy m) (h' : Tidy m') :
    Tidy (if c then m else m') := by
  split
  · exact h
  · exact h'

lemma tidy_peek : Tidy peek := tidy_get.bind fun _ => tidy_pure _

lemma tidy_skip : Tidy skip := tidy_modify _

lemma tidy_accept (t : Token) : Tidy (accept t) :=
  tidy_peek.bind fun _ => .ite (tidy_skip.bind fun _ => tidy_pure _) (tidy_pure _)

lemma tidy_expect (t : Token) : Tidy (expect t) :=
  (tidy_accept t).bind fun _ => .ite tidy_throw (tidy_pure _)

lemma tidy_isNext (ts : List Token) : Tidy (isNext ts) := tidy_peek.bind fun _ => tidy_pure _

lemma tidy_tagText (t : WrittenTag) : Tidy (tagText t) := by
  unfold tagText
  split
  · exact tidy_pure _
  · refine tidy_get.bind fun r => ?_
    split
    · exact tidy_pure _
    · exact tidy_throw

lemma tidy_anchor? : Tidy anchor? := by
  refine tidy_peek.bind fun t => ?_
  split
  · exact tidy_skip.bind fun _ => tidy_pure _
  · exact tidy_pure _

lemma tidy_tag? : Tidy tag? := by
  refine tidy_peek.bind fun t => ?_
  split
  · exact tidy_skip.bind fun _ => (tidy_tagText _).bind fun _ => tidy_pure _
  · exact tidy_pure _

lemma tidy_properties : Tidy properties := by
  refine tidy_anchor?.bind fun anchor => ?_
  split
  · exact tidy_tag?.bind fun _ => tidy_pure _
  · refine tidy_tag?.bind fun tag => ?_
    split
    · exact tidy_anchor?.bind fun _ => tidy_pure _
    · exact tidy_pure _

lemma tidy_checkNew (anchor : Option String) : Tidy (checkNew anchor) := by
  unfold checkNew
  split
  · exact tidy_get.bind fun _ => .ite tidy_throw (tidy_pure _)
  · exact tidy_pure _

lemma tidy_name (anchor : Option String) (n : Node) : Tidy (name anchor n) := by
  unfold name
  split
  · exact tidy_modify _
  · exact tidy_pure _

lemma tidy_named (name : String) : Tidy (named name) := by
  refine tidy_get.bind fun r => ?_
  split
  · exact tidy_pure _
  · exact tidy_throw

end Reading

namespace Node

open Reading

/-- A collection is named before its members are read, and again after. -/
lemma tidy_collection {anchor : Option String} (start : Node) (make : α → Node)
    {members : Reading α} (h : Tidy members) :
    Tidy (do
      name anchor start
      let n := make (← members)
      name anchor n
      return n) :=
  (tidy_name _ _).bind fun _ => h.bind fun _ => (tidy_name _ _).bind fun _ => tidy_pure _

/-- What a key stands for may be left out. -/
lemma tidy_valueOrAbsent {value : Reading Node} {next : Node → Reading α} (hvalue : Tidy value)
    (hnext : ∀ v, Tidy (next v)) :
    Tidy (do if ← accept .value then value >>= next else pure absent >>= next) :=
  (tidy_accept _).bind fun _ => .ite (hvalue.bind hnext) ((tidy_pure _).bind hnext)

/-- In front of all members but the first stands a mark. -/
lemma tidy_parted {first : Bool} {next : Unit → Reading α} (h : Tidy (next ())) :
    Tidy (if !first then expect .flowEntry >>= next else next ()) :=
  .ite ((tidy_expect _).bind fun _ => h) h

mutual

theorem tidy_read (block flat : Bool) (fuel : Nat) : Tidy (read block flat fuel) := by
  cases fuel with
  | zero => exact tidy_throw
  | succ fuel =>
    unfold read
    refine tidy_peek.bind fun t => ?_
    split
    · exact tidy_skip.bind fun _ => tidy_named _
    · refine tidy_properties.bind fun (anchor, tag) => (tidy_checkNew _).bind fun _ => ?_
      refine tidy_get.bind fun r => ?_
      have hscalar (n : Node) : Tidy (do name anchor n; return n) :=
        (tidy_name _ _).bind fun _ => tidy_pure _
      refine tidy_peek.bind fun t => ?_
      split
      · exact .ite (tidy_collection _ _ (tidy_flatItems fuel)) (.ite (hscalar _) tidy_throw)
      · exact tidy_skip.bind fun _ => hscalar _
      · exact tidy_skip.bind fun _ => tidy_collection _ _ (tidy_flowItems true fuel)
      · exact tidy_skip.bind fun _ => tidy_collection _ _ (tidy_flowEntries true fuel)
      · exact .ite (tidy_skip.bind fun _ => tidy_collection _ _ (tidy_blockItems fuel))
          (.ite (hscalar _) tidy_throw)
      · exact .ite (tidy_skip.bind fun _ => tidy_collection _ _ (tidy_blockEntries fuel))
          (.ite (hscalar _) tidy_throw)
      · exact .ite (hscalar _) tidy_throw
termination_by fuel

theorem tidy_readUnless (stops : List Token) (block flat : Bool) (fuel : Nat) :
    Tidy (readUnless stops block flat fuel) := by
  cases fuel with
  | zero => exact tidy_throw
  | succ fuel =>
    exact (tidy_isNext _).bind fun _ => .ite (tidy_pure _) (tidy_read block flat fuel)
termination_by fuel

theorem tidy_blockItems (fuel : Nat) : Tidy (blockItems fuel) := by
  cases fuel with
  | zero => exact tidy_throw
  | succ fuel =>
    refine (tidy_accept _).bind fun _ => .ite ?_ ((tidy_expect _).bind fun _ => tidy_pure _)
    exact (tidy_readUnless _ _ _ fuel).bind fun _ =>
      (tidy_blockItems fuel).bind fun _ => tidy_pure _
termination_by fuel

theorem tidy_flatItems (fuel : Nat) : Tidy (flatItems fuel) := by
  cases fuel with
  | zero => exact tidy_throw
  | succ fuel =>
    refine (tidy_accept _).bind fun _ => .ite ?_ (tidy_pure _)
    exact (tidy_readUnless _ _ _ fuel).bind fun _ =>
      (tidy_flatItems fuel).bind fun _ => tidy_pure _
termination_by fuel

theorem tidy_blockEntries (fuel : Nat) : Tidy (blockEntries fuel) := by
  cases fuel with
  | zero => exact tidy_throw
  | succ fuel =>
    refine (tidy_accept _).bind fun _ => .ite ?_ ((tidy_expect _).bind fun _ => tidy_pure _)
    refine (tidy_readUnless _ _ _ fuel).bind fun k => ?_
    exact tidy_valueOrAbsent (tidy_readUnless _ _ _ fuel) fun v =>
      (tidy_blockEntries fuel).bind fun _ => tidy_pure _
termination_by fuel

theorem tidy_flowItems (first : Bool) (fuel : Nat) : Tidy (flowItems first fuel) := by
  cases fuel with
  | zero => exact tidy_throw
  | succ fuel =>
    have hothers (n : Node) : Tidy (do return n :: (← flowItems false fuel)) :=
      (tidy_flowItems false fuel).bind fun _ => tidy_pure _
    refine (tidy_accept _).bind fun _ => .ite (tidy_pure _) (tidy_parted ?_)
    refine (tidy_accept _).bind fun _ => .ite ?_ ((tidy_accept _).bind fun _ => ?_)
    · refine (tidy_readUnless _ _ _ fuel).bind fun k => ?_
      exact tidy_valueOrAbsent (tidy_readUnless _ _ _ fuel) fun v => hothers _
    · exact .ite (tidy_pure _) ((tidy_read _ _ fuel).bind hothers)
termination_by fuel

theorem tidy_flowEntries (first : Bool) (fuel : Nat) : Tidy (flowEntries first fuel) := by
  cases fuel with
  | zero => exact tidy_throw
  | succ fuel =>
    have hothers (e : Node × Node) : Tidy (do return e :: (← flowEntries false fuel)) :=
      (tidy_flowEntries false fuel).bind fun _ => tidy_pure _
    refine (tidy_accept _).bind fun _ => .ite (tidy_pure _) (tidy_parted ?_)
    refine (tidy_accept _).bind fun _ => .ite ?_ ((tidy_accept _).bind fun _ => ?_)
    · refine (tidy_readUnless _ _ _ fuel).bind fun k => ?_
      exact tidy_valueOrAbsent (tidy_readUnless _ _ _ fuel) fun v => hothers _
    · exact .ite (tidy_pure _) ((tidy_read _ _ fuel).bind fun n => hothers (n, absent))
termination_by fuel

end

/-! ## Documents -/

lemma onlyMalformed_declaredHandles (directives : List Directive) :
    OnlyMalformed (declaredHandles directives) := by
  induction directives with
  | nil => exact .ok trivial
  | cons d rest ih =>
    cases d with
    | version major => exact .ite (fun _ => ih) fun _ => .error rfl
    | handle handle start =>
      exact ih.bind fun others _ => .ite (fun _ => .error rfl) fun _ => .ok trivial
    | other => exact ih

lemma onlyMalformed_ofContent (handles : List (String × String)) (tokens : List Token) :
    OnlyMalformed (ofContent handles tokens) :=
  (tidy_read _ _ _ _).bind fun _ _ => .ite (fun _ => .ok trivial) fun _ => .error rfl

/-- Tokens make a node, or none if there are none, unless they are malformed. -/
theorem onlyMalformed_ofTokens (tokens : List Token) : OnlyMalformed (ofTokens tokens) := by
  have hcontent (handles : List (String × String)) (content : List Token) :
      OnlyMalformed (if startsNothing content.head? then
        if content.all (· = .documentEnd) then pure (some absent) else throw .malformed
      else some <$> ofContent handles content) :=
    .ite (fun _ => .ite (fun _ => .ok trivial) fun _ => .error rfl) fun _ =>
      (onlyMalformed_ofContent _ _).map fun _ _ => trivial
  unfold ofTokens
  split
  · exact .ok trivial
  · refine (onlyMalformed_declaredHandles _).bind fun handles _ => ?_
    split
    · exact hcontent _ _
    · exact .error rfl
  · exact (onlyMalformed_declaredHandles _).bind fun handles _ => hcontent _ _
  · exact (onlyMalformed_ofContent _ _).map fun _ _ => trivial

end Node

end MissingSamples.Yaml
