/-
# What values can be spoilt by

A document whose form is right may still have no value: a scalar asks for a kind of value that its
text does not spell, a mapping asks to be a point in time, or collections lie too deep in each
other. Nothing else can go wrong, and whatever value there is is of a kind that documents have.

* `Tag.refusals` lists what a node can be refused for, and `ends_scalarValue` says that a text is
  refused for nothing else;
* `Node.occurs_of_flatten` says that a mapping takes in nothing from outside its own tree;
* `explains_valueOf` finds the node that is to blame for a tree without a value, and `ends_read`
  traces a whole document without a value to its cause.
-/
import MissingSamples.Proofs.Yaml.Grammar
import MissingSamples.Yaml.Document

namespace MissingSamples.Yaml

variable {α β : Type} {good : α → Prop}

/-! ## Scalars -/

/-- What a node of the tag can be refused for. -/
def Tag.refusals : Tag → List Failure
  | .bool => [.unknownTruthWord]
  | .int => [.noElement, .badNumeral]
  | .float => [.noElement, .badNumeral, .numberTooLarge]
  | .timestamp => [.badTimestamp, .noSuchDate, .timestampMapping]
  | _ => []

/-- The step succeeds, or is refused as a node of the tag can be. -/
abbrev Asks (tag : Tag) (e : Except Failure α) : Prop :=
  Ends (· ∈ tag.refusals) (fun _ => True) e

lemma asks_signedText {tag : Tag} (h : .noElement ∈ tag.refusals) (text : String) :
    Asks tag (signedText text) := by
  unfold signedText
  split
  · exact .error h
  · exact .ok trivial
  · exact .ok trivial
  · exact .ok trivial

lemma asks_wholeOf (base : Nat) (cs : List Char) : Asks .int (wholeOf base cs) := by
  unfold wholeOf
  split
  · exact .ok trivial
  · exact .error (by decide)

lemma asks_magnitude (cs : List Char) : Asks .int (magnitude cs) := by
  unfold magnitude
  split
  · exact .error (by decide)
  · exact .ok trivial
  · exact asks_wholeOf 2 _
  · exact asks_wholeOf 16 _
  · exact asks_wholeOf 8 _
  · exact .ite (fun _ => (Ends.mapM (asks_wholeOf 10)).bind fun _ _ => .ok trivial) fun _ =>
      asks_wholeOf 10 _

lemma asks_integer (text : String) : Asks .int (integer text) :=
  (asks_signedText (by decide) text).bind fun x _ =>
    (asks_magnitude x.2).bind fun _ _ => .ok trivial

lemma asks_numberOfText (s : String) : Asks .float (numberOfText s) := by
  unfold numberOfText
  split
  · exact .ok trivial
  · exact .error (by decide)

lemma asks_sixties (parts : List Double) (base : Int) (sum : Double) :
    Asks .float (sixties parts base sum) := by
  induction parts generalizing base sum with
  | nil => exact .ok trivial
  | cons d rest ih =>
    have hnumber : Asks .float (numberOfInt base) :=
      .ite (fun _ => .ok trivial) fun _ => .error (by decide)
    exact hnumber.bind fun b _ => ih _ _

lemma asks_floating (text : String) : Asks .float (floating text) := by
  refine (asks_signedText (by decide) _).bind fun x _ => ?_
  have hsign (y : Double) : Asks .float (pure (if x.1 then y.neg else y)) := .ok trivial
  refine .ite (fun _ => hsign _) fun _ => .ite (fun _ => hsign _) fun _ => ?_
  refine .ite (fun _ => ?_) fun _ => ?_
  · refine (Ends.mapM fun part => asks_numberOfText _).bind fun parts _ => ?_
    exact (asks_sixties _ _ _).bind fun y _ => hsign y
  · exact (asks_numberOfText _).bind fun y _ => hsign y

/-- Values of documents are of these kinds. -/
def isWritten : Value → Bool
  | .tuple _ | .grid _ | .scalar _ | .elementType _ => false
  | _ => true

lemma asks_time (text : String) :
    Ends (· ∈ Tag.timestamp.refusals) (fun v => isWritten v = true) (time text) := by
  unfold time
  split
  · exact .error (by decide)
  · refine .ite (fun _ => .error (by decide)) fun _ => ?_
    dsimp only
    split
    · exact .ok rfl
    · exact .ite (fun _ => .error (by decide)) fun _ =>
        .ite (fun _ => .error (by decide)) fun _ => .ok rfl

lemma ends_asked {tag : Tag} {make : α → Value} {good : α → Prop} {e : Except Failure α}
    (h : Ends (· ∈ tag.refusals) good e) (hmake : ∀ a, good a → isWritten (make a) = true) :
    Ends (fun p => ∀ f, p = .value f → f ∈ tag.refusals) (fun v => isWritten v = true)
      (match e with
        | .ok a => .ok (make a)
        | .error f => (.error (.value f) : Except Problem Value)) := by
  cases h with
  | ok h => exact .ok (hmake _ h)
  | error h =>
    refine .error ?_
    rintro f ⟨⟩
    exact h

/-- A text has a value of the kind that its tag asks for, or it is refused as such. -/
theorem ends_scalarValue (tag : Tag) (text : String) :
    Ends (fun p => ∀ f, p = .value f → f ∈ tag.refusals) (fun v => isWritten v = true)
      (scalarValue tag text) := by
  unfold scalarValue
  dsimp only
  -- what a text spells is not looked into here, only that it is refused as its tag can be
  split
  · exact .ok rfl
  · split
    · exact .ok rfl
    · refine .error ?_
      rintro f ⟨⟩
      decide
  · have hasks := asks_integer text
    generalize integer text = e at hasks ⊢
    exact ends_asked hasks fun _ _ => rfl
  · have hasks := asks_floating text
    generalize floating text = e at hasks ⊢
    exact ends_asked hasks fun _ _ => rfl
  · have hasks := asks_time text
    generalize time text = e at hasks ⊢
    exact ends_asked hasks fun _ h => h
  · exact .ok rfl
  · split
    · exact .ok rfl
    · exact .error nofun
  · exact .error nofun

/-! ## Nodes -/

namespace Node

/-- The node stands in a tree, at its top or below. -/
inductive Occurs (n : Node) : Node → Prop
  /-- It is the tree. -/
  | here : Occurs n n
  /-- It stands in a member of a list. -/
  | item {tag : Tag} {items : List Node} {m : Node} (member : m ∈ items) (inside : Occurs n m) :
      Occurs n (.sequence tag items)
  /-- It stands in a key. -/
  | key {tag : Tag} {entries : List (Node × Node)} {e : Node × Node} (member : e ∈ entries)
      (inside : Occurs n e.1) : Occurs n (.mapping tag entries)
  /-- It stands in what a key stands for. -/
  | value {tag : Tag} {entries : List (Node × Node)} {e : Node × Node} (member : e ∈ entries)
      (inside : Occurs n e.2) : Occurs n (.mapping tag entries)

variable {n : Node}

/-- The node stands in a key or in what the key stands for. -/
def OccursInEntry (n : Node) (e : Node × Node) : Prop := n.Occurs e.1 ∨ n.Occurs e.2

lemma occurs_of_occursInEntry {tag : Tag} {entries : List (Node × Node)} {e : Node × Node}
    (member : e ∈ entries) (h : n.OccursInEntry e) : n.Occurs (.mapping tag entries) :=
  h.elim (.key member) (.value member)

mutual

/-- What stands in the entries of a mapping, those that it takes in among them, stands in it. -/
theorem occurs_of_flatten {entries : List (Node × Node)} {flat : Entries}
    (h : flatten entries = some flat) {e : Node × Node} (he : e ∈ flat.all)
    (hn : n.OccursInEntry e) : ∃ e' ∈ entries, n.OccursInEntry e' := by
  cases entries with
  | nil =>
    cases h
    cases he
  | cons first rest =>
    obtain ⟨a, ha, h⟩ := Option.bind_eq_some_iff.1 h
    obtain ⟨b, hb, h⟩ := Option.bind_eq_some_iff.1 h
    cases h
    have hsplit : e ∈ a.all ∨ e ∈ b.all := by
      simp only [Entries.all, List.mem_append] at he ⊢
      exact or_or_or_comm.1 he
    rcases hsplit with he | he
    · exact ⟨first, List.mem_cons_self .., occurs_of_flattenEntry ha he hn⟩
    · obtain ⟨e', he', hn'⟩ := occurs_of_flatten hb he hn
      exact ⟨e', List.mem_cons_of_mem _ he', hn'⟩

theorem occurs_of_flattenEntry {first : Node × Node} {flat : Entries}
    (h : flattenEntry first = some flat) {e : Node × Node} (he : e ∈ flat.all)
    (hn : n.OccursInEntry e) : n.OccursInEntry first := by
  cases first with
  | mk k v =>
    unfold flattenEntry at h
    split at h
    · obtain ⟨merged, hmerged, h⟩ := Option.bind_eq_some_iff.1 h
      cases h
      rw [Entries.all, List.append_nil] at he
      exact .inr (occurs_of_mergedEntries hmerged he hn)
    · cases h
      obtain rfl := List.mem_singleton.1 he
      exact hn

theorem occurs_of_mergedEntries {v : Node} {merged : List (Node × Node)}
    (h : mergedEntries v = some merged) {e : Node × Node} (he : e ∈ merged)
    (hn : n.OccursInEntry e) : n.Occurs v := by
  cases v with
  | scalar => cases h
  | sequence tag items =>
    rw [mergedEntries] at h
    obtain ⟨m, hm, hn⟩ := occurs_of_mergedLists h he hn
    exact .item hm hn
  | mapping tag entries =>
    obtain ⟨flat, hflat, rfl⟩ := Option.map_eq_some_iff.1 h
    obtain ⟨e', he', hn⟩ := occurs_of_flatten hflat he hn
    exact occurs_of_occursInEntry he' hn

theorem occurs_of_mergedLists {items : List Node} {merged : List (Node × Node)}
    (h : mergedLists items = some merged) {e : Node × Node} (he : e ∈ merged)
    (hn : n.OccursInEntry e) : ∃ m ∈ items, n.Occurs m := by
  cases items with
  | nil =>
    cases h
    cases he
  | cons first rest =>
    obtain ⟨a, ha, h⟩ := Option.bind_eq_some_iff.1 h
    obtain ⟨b, hb, h⟩ := Option.bind_eq_some_iff.1 h
    cases h
    rcases List.mem_append.1 he with he | he
    · obtain ⟨m, hm, hn⟩ := occurs_of_mergedLists hb he hn
      exact ⟨m, List.mem_cons_of_mem _ hm, hn⟩
    · exact ⟨first, List.mem_cons_self .., occurs_of_mappingEntries ha he hn⟩

theorem occurs_of_mappingEntries {v : Node} {merged : List (Node × Node)}
    (h : mappingEntries v = some merged) {e : Node × Node} (he : e ∈ merged)
    (hn : n.OccursInEntry e) : n.Occurs v := by
  cases v with
  | scalar | sequence => cases h
  | mapping tag entries =>
    obtain ⟨flat, hflat, rfl⟩ := Option.map_eq_some_iff.1 h
    obtain ⟨e', he', hn⟩ := occurs_of_flatten hflat he hn
    exact occurs_of_occursInEntry he' hn

end

/-- What a node is refused for. -/
inductive Refuses : Node → Failure → Prop
  /-- Its text does not spell what its tag asks for. -/
  | text {n : Node} {isPlain : Nat → Bool} {s : String} {f : Failure}
    (text : n.text? isPlain = some s) (refused : scalarValue n.tag s = .error (.value f)) :
    Refuses n f
  /-- A mapping is no point in time. -/
  | timestamp {tag : Tag} {entries : List (Node × Node)} (isTime : tag = .timestamp) :
    Refuses (.mapping tag entries) .timestampMapping

lemma mem_refusals_of_refuses {f : Failure} (h : n.Refuses f) : f ∈ n.tag.refusals := by
  cases h with
  | text _ refused => exact (ends_scalarValue n.tag _).allowed_of_eq_error refused f rfl
  | timestamp isTime =>
    subst isTime
    exact List.mem_of_elem_eq_true rfl

/-- A problem that comes from a value is that of a node in the tree. -/
def Blames (n : Node) (p : Problem) : Prop :=
  ∀ f, p = .value f → ∃ m : Node, m.Occurs n ∧ m.Refuses f

lemma blames_malformed (n : Node) : n.Blames .malformed := nofun

lemma Occurs.trans {m k : Node} (inner : n.Occurs m) (outer : m.Occurs k) : n.Occurs k := by
  induction outer with
  | here => exact inner
  | item member _ ih => exact .item member ih
  | key member _ ih => exact .key member ih
  | value member _ ih => exact .value member ih

lemma Blames.of_occurs {m : Node} {p : Problem} (h : m.Blames p) (hm : m.Occurs n) :
    n.Blames p := by
  intro f hf
  obtain ⟨k, hk, hrefuses⟩ := h f hf
  exact ⟨k, hk.trans hm, hrefuses⟩

end Node

/-! ## Levels -/

namespace Outcome

variable {cause : Problem → Prop} {good' : β → Prop}

lemma ends_here {e : Except Problem α} (h : Ends cause good e) :
    Ends (fun p => cause p.2) good (here e) := by
  cases h with
  | ok h => exact .ok h
  | error h => exact .error h

lemma ends_below {o : Outcome α} (h : Ends (fun p => cause p.2) good o) :
    Ends (fun p => cause p.2) good o.below := by
  cases h with
  | ok h => exact .ok h
  | error h => exact .error h

lemma ends_both {a : Outcome α} {b : Outcome β} {allowed : Nat × Problem → Prop}
    (ha : Ends allowed good a) (hb : Ends allowed good' b) :
    Ends allowed (fun x => good x.1 ∧ good' x.2) (both a b) := by
  cases ha with
  | ok ha =>
    cases hb with
    | ok hb => exact .ok ⟨ha, hb⟩
    | error hb => exact .error hb
  | error ha =>
    cases hb with
    | ok hb => exact .error ha
    | error hb =>
      refine .error ?_
      split
      · exact hb
      · exact ha

lemma ends_all {os : List (Outcome α)} {allowed : Nat × Problem → Prop}
    (h : ∀ o ∈ os, Ends allowed (fun _ => True) o) : Ends allowed (fun _ => True) (all os) := by
  induction os with
  | nil => exact .ok trivial
  | cons o rest ih =>
    exact (ends_both (h o (List.mem_cons_self ..))
      (ih fun o ho => h o (List.mem_cons_of_mem _ ho))).map fun _ _ => trivial

/-- The outcomes of members, each by its number. -/
lemma ends_allMembers {xs : List β} {outcome : β × Nat → Outcome α}
    {allowed : Nat × Problem → Prop}
    (h : ∀ x ∈ xs, ∀ i, Ends allowed (fun _ => True) (outcome (x, i))) :
    Ends allowed (fun _ => True) (all (xs.zipIdx.map outcome)) := by
  refine ends_all fun o ho => ?_
  obtain ⟨⟨x, i⟩, hx, rfl⟩ := List.mem_map.1 ho
  exact h x (List.fst_mem_of_mem_zipIdx hx) i

end Outcome

/-- The outcome is a value of a document, or a node of the tree is to blame. -/
abbrev Explains (n : Node) (o : Outcome Value) : Prop :=
  Ends (fun p => n.Blames p.2) (fun v => isWritten v = true) o

section Members

variable {value : Nat → Node → Outcome Value}

lemma ends_asKey {n : Node} {o : Outcome Value} (h : Explains n o) : Explains n (asKey o) := by
  cases h with
  | ok h => exact .ite (fun _ => .ok h) fun _ => .error n.blames_malformed
  | @error p h =>
    obtain ⟨level, p⟩ := p
    cases level with
    | zero => exact .error h
    | succ level => exact .error n.blames_malformed

lemma ends_entriesOf {tag : Tag} {entries : List (Node × Node)}
    (h : ∀ i m, m.Occurs (.mapping tag entries) → Explains (.mapping tag entries) (value i m)) :
    Ends (fun p => (Node.mapping tag entries).Blames p.2) (fun _ => True)
      (entriesOf value entries) := by
  unfold entriesOf
  split
  · exact .error (Node.blames_malformed _)
  · next flat hflat =>
    refine (Outcome.ends_allMembers fun e he i => ?_).map fun _ _ => trivial
    have hentry {m : Node} (hm : m.OccursInEntry e) : m.Occurs (.mapping tag entries) := by
      obtain ⟨e', he', hm'⟩ := Node.occurs_of_flatten hflat he hm
      exact Node.occurs_of_occursInEntry he' hm'
    exact (Outcome.ends_both (ends_asKey (h _ _ (hentry (.inl .here))))
      (h _ _ (hentry (.inr .here)))).mono (fun _ hp => hp) fun _ _ => trivial

lemma ends_onlyEntry {n m : Node} (hm : m.Occurs n) :
    Ends (fun p => n.Blames p.2) (fun e => e.1.Occurs n ∧ e.2.Occurs n) (onlyEntry m) := by
  unfold onlyEntry
  split
  · next e =>
    have hmember : e ∈ [e] := List.mem_singleton.2 rfl
    exact .ok ⟨.trans (.key hmember .here) hm, .trans (.value hmember .here) hm⟩
  · exact .error n.blames_malformed

lemma ends_pairOf {n : Node} (h : ∀ i m, m.Occurs n → Explains n (value i m)) {m : Node}
    (hm : m.Occurs n) (i : Nat) :
    Ends (fun p => n.Blames p.2) (fun _ => True) (pairOf value (m, i)) :=
  (ends_onlyEntry hm).bind fun _ he =>
    (Outcome.ends_both (h _ _ he.1) (h _ _ he.2)).map fun _ _ => trivial

end Members

/-- A scalar, or what counts as one, has a value or is refused. -/
lemma explains_scalarValue {n : Node} {isPlain : Nat → Bool} {text : String}
    (htext : n.text? isPlain = some text) :
    Explains n (.here
      (scalarValue (if n.tag.ownPlace?.any isPlain then .str else n.tag) text)) := by
  refine Outcome.ends_here ?_
  split
  · exact .ok rfl
  · cases hmade : scalarValue n.tag text with
    | ok v => exact .ok ((ends_scalarValue n.tag text).good_of_eq_ok hmade)
    | error p => exact .error fun f hf => ⟨n, .here, .text htext (hf ▸ hmade)⟩

/-- The tree has a value of a document, or a node in it is to blame. -/
theorem explains_valueOf (keys : List PlainKey) (depth : Nat) (path : Path) (n : Node) :
    Explains n (valueOf keys depth path n) := by
  induction depth generalizing path n with
  | zero => exact .error n.blames_malformed
  | succ depth ih =>
    -- whatever stands in the tree blames a node of the tree
    have hvalue (i : Nat) (m : Node) (hm : m.Occurs n) :
        Explains n (valueOf keys depth (path ++ [i]) m) :=
      (ih _ m).mono (fun _ hp => hp.of_occurs hm) fun _ hv => hv
    unfold valueOf
    dsimp only
    split
    case h_1 =>
      refine (Outcome.ends_below (Outcome.ends_allMembers fun m hm i => ?_)).map fun _ _ => rfl
      exact (hvalue i m (.item hm .here)).mono (fun _ hp => hp) fun _ _ => trivial
    case h_2 | h_3 => exact (Outcome.ends_below (ends_entriesOf hvalue)).map fun _ _ => rfl
    case h_4 | h_5 =>
      refine (Outcome.ends_below (Outcome.ends_allMembers fun m hm i => ?_)).map fun _ _ => rfl
      exact ends_pairOf hvalue (.item hm .here) i
    case h_11 =>
      split
      · exact .error (Node.blames_malformed _)
      · next htag =>
        refine .error ?_
        rintro f ⟨⟩
        exact ⟨_, .here, .timestamp htag⟩
      · next text htext _ => exact explains_scalarValue htext
    all_goals exact .error (Node.blames_malformed _)

/-! ## Documents -/

/-- Why a document whose form is right has no value. -/
inductive Unmade (text : String) (f : Failure) : Prop
  /-- An escape asks for a character that does not exist. -/
  | escape (spoils : Spoils (unifyLines text.toList) (.value f))
  /-- Collections lie too deep in each other. -/
  | depth {ts : List Token} (hasTokens : tokens text.toList = .ok ts)
    (isDeep : isDeeper greatestDepth 0 ts = true) (isDepth : f = .nestedTooDeep)
  /-- A node is refused. -/
  | node {ts : List Token} {n m : Node} (hasTokens : tokens text.toList = .ok ts)
    (hasNode : Node.ofTokens ts = .ok (some n)) (occurs : m.Occurs n) (refuses : m.Refuses f)

/-- A document has a value, or it is malformed, or there is a cause for it to have none. -/
theorem ends_read (text : String) :
    Ends (fun p => ∀ f, p = .value f → Unmade text f) (fun v => isWritten v = true)
      (read text) := by
  unfold read
  cases hts : tokens text.toList with
  | error p =>
    refine .error ?_
    rintro f rfl
    exact .escape ((ends_tokens text.toList).allowed_of_eq_error hts)
  | ok ts =>
    refine .ite (fun hdeep => ?_) fun _ => ?_
    · refine .error ?_
      rintro f ⟨⟩
      exact .depth hts hdeep rfl
    · cases hn : Node.ofTokens ts with
      | error p =>
        refine .error ?_
        rintro f rfl
        cases (Node.onlyMalformed_ofTokens ts).allowed_of_eq_error hn
      | ok made =>
        cases made with
        | none => exact .ok rfl
        | some n =>
          have hvalue := explains_valueOf (plainKeys n.levels [] n) n.levels [] n
          dsimp only [bind, Except.bind]
          cases hv : valueOf (plainKeys n.levels [] n) n.levels [] n with
          | ok v => exact .ok (hvalue.good_of_eq_ok hv)
          | error p =>
            refine .error fun f hf => ?_
            obtain ⟨m, hm, hrefuses⟩ := hvalue.allowed_of_eq_error hv f hf
            exact .node hts hn hm hrefuses

end MissingSamples.Yaml
