/-
# Files that are refused

A configuration file has to be there, to follow the rules of its format and to hold a mapping, and
the settings that win have to be truth values. Loading refuses anything else as a fault of the
configuration, with two gaps. A file whose only value counts as nothing passes for an empty file,
whatever kind of value it is. And a value that cannot be made is no fault of the configuration but
fails by itself, before the file is looked at as a whole.

* `Value.IsHollow` lists the values that count as nothing, mappings apart;
* `Config.load_of_notMapping` says what comes of a file that holds no mapping;
* `Config.outcome_load_eq_error_iff` lists everything that loading can fail of, and
  `Yaml.Unmade` what is behind the failures that are not of the configuration.
-/
import MissingSamples.Proofs.Config
import MissingSamples.Proofs.Yaml.Values

namespace MissingSamples

/-! ## Values that count as nothing -/

namespace Value

/-- The value counts as nothing, and is no mapping. -/
inductive IsHollow : Value → Prop
  /-- Nothing. -/
  | null : IsHollow .null
  /-- The truth value that does not hold. -/
  | false : IsHollow (.bool false)
  /-- The integer zero. -/
  | zero : IsHollow (.int 0)
  /-- Zero as a double, of either sign. -/
  | zeroDouble {x : Double} (isZero : x.isZero = true) : IsHollow (.float x)
  /-- The empty text. -/
  | emptyText : IsHollow (.text "")
  /-- No octets. -/
  | emptyBytes : IsHollow (.bytes [])
  /-- The empty list. -/
  | emptyList : IsHollow (.list [])
  /-- The empty collection. -/
  | emptySet : IsHollow (.set [])

/-- Values of documents have a truth, and of those that are no mappings the hollow ones are
false. -/
lemma exists_truth_eq_ok {v : Value} (hwritten : Yaml.isWritten v = true)
    (hmapping : ∀ entries, v ≠ .mapping entries) :
    ∃ b, v.truth = .ok b ∧ (b = false ↔ v.IsHollow) := by
  cases v with
  | null => exact ⟨false, rfl, iff_of_true rfl .null⟩
  | bool b =>
    refine ⟨b, rfl, fun h => h ▸ .false, ?_⟩
    rintro ⟨⟩
    rfl
  | int i =>
    refine ⟨i != 0, rfl, fun h => ?_, ?_⟩
    · obtain rfl : i = 0 := by simpa using h
      exact .zero
    · rintro ⟨⟩
      rfl
  | float x =>
    refine ⟨x.truth, rfl, fun h => .zeroDouble (by simpa [Double.truth] using h), ?_⟩
    rintro ⟨⟩
    simpa [Double.truth]
  | text s =>
    refine ⟨!s.isEmpty, rfl, fun h => ?_, ?_⟩
    · obtain rfl : s = "" := by simpa using h
      exact .emptyText
    · rintro ⟨⟩
      rfl
  | bytes xs =>
    refine ⟨!xs.isEmpty, rfl, fun h => ?_, ?_⟩
    · obtain rfl : xs = [] := by simpa using h
      exact .emptyBytes
    · rintro ⟨⟩
      rfl
  | list xs =>
    refine ⟨!xs.isEmpty, rfl, fun h => ?_, ?_⟩
    · obtain rfl : xs = [] := by simpa using h
      exact .emptyList
    · rintro ⟨⟩
      rfl
  | set xs =>
    refine ⟨!xs.isEmpty, rfl, fun h => ?_, ?_⟩
    · obtain rfl : xs = [] := by simpa using h
      exact .emptySet
    · rintro ⟨⟩
      rfl
  | mapping entries => exact absurd rfl (hmapping entries)
  | date | moment => exact ⟨true, rfl, iff_of_false nofun nofun⟩
  | tuple | grid | scalar | elementType => cases hwritten

end Value

namespace Yaml

variable {text : String} {f : Failure}

/-- A value that cannot be made is no fault of the library's own. -/
lemma family?_of_unmade (h : Unmade text f) : f.family? = none := by
  cases h with
  | escape spoils =>
    cases spoils with
    | escape _ _ _ refuses =>
      unfold Quoted.character at refuses
      split at refuses
      · cases refuses
      · cases refuses
        split <;> rfl
  | depth _ _ isDepth => rw [isDepth]; rfl
  | @node _ _ m _ _ _ refuses =>
    have hf := Node.mem_refusals_of_refuses refuses
    have hplain : ∀ tag : Tag, ∀ g ∈ tag.refusals, g.family? = none := by
      intro tag
      cases tag <;> simp [Tag.refusals, Failure.family?]
    exact hplain _ f hf

end Yaml

namespace Config

variable {file : File} {text : String} {v : Value} {f : Failure}

/-! ## Files -/

lemma ofFile_of_missing (isMissing : file.text = none) :
    ofFile file = .error (.fileNotFound file.path) := by
  simp only [ofFile, isMissing]

lemma ofFile_of_malformed (isText : file.text = some text)
    (reads : Yaml.read text = .error .malformed) :
    ofFile file = .error (.fileUnparsable file.path) := by
  simp only [ofFile, isText, reads]

lemma ofFile_of_value (isText : file.text = some text)
    (reads : Yaml.read text = .error (.value f)) : ofFile file = .error f := by
  simp only [ofFile, isText, reads]

/-- A file that holds no mapping and no hollow value is refused. -/
lemma ofFile_of_notMapping (isText : file.text = some text) (reads : Yaml.read text = .ok v)
    (notMapping : ∀ entries, v ≠ .mapping entries) (notHollow : ¬v.IsHollow) :
    ofFile file = .error (.fileNotMapping v.kind) := by
  obtain ⟨b, htruth, hb⟩ :=
    Value.exists_truth_eq_ok ((Yaml.ends_read text).good_of_eq_ok reads) notMapping
  have htrue : b = true := by simpa using fun h => notHollow (hb.1 h)
  subst htrue
  simp only [ofFile, isText, reads, ofDocument, htruth, bind, Except.bind, if_true]
  cases v with
  | mapping entries => exact absurd rfl (notMapping entries)
  | _ => rfl

/-- A hollow value makes no settings. -/
lemma sets_of_isHollow (isText : file.text = some text) (reads : Yaml.read text = .ok v)
    (h : v.IsHollow) : Sets (some file) [] := by
  have hwritten := (Yaml.ends_read text).good_of_eq_ok reads
  have hmapping : ∀ entries, v ≠ .mapping entries := by
    rintro entries rfl
    cases h
  obtain ⟨b, htruth, hb⟩ := Value.exists_truth_eq_ok hwritten hmapping
  exact .blank isText reads (hb.2 h ▸ htruth)

/-- Loading stops at a file that is refused. -/
lemma load_of_ofFile_eq_error (h : ofFile file = .error f)
    (environment : Option (List (String × String))) (byHand : Settings) :
    load (some file) environment byHand = .fail f := by
  simp only [load, h]
  rfl

/-- What comes of a file whose value is no mapping.

Loading is refused as a fault of the configuration that names the kind of the value, whatever the
environment holds and whatever is set by hand. A hollow value alone is not refused: the file then
counts for as much as no file at all. -/
theorem load_of_notMapping (isText : file.text = some text) (reads : Yaml.read text = .ok v)
    (notMapping : ∀ entries, v ≠ .mapping entries)
    (environment : Option (List (String × String))) (byHand : Settings) :
    (¬v.IsHollow → load (some file) environment byHand = .fail (.fileNotMapping v.kind) ∧
      (Failure.fileNotMapping v.kind).family? = some .configuration ∧
      (Failure.fileNotMapping v.kind).message?
        = some ("Configuration file must contain a mapping, got " ++ v.kind)) ∧
    (v.IsHollow → load (some file) environment byHand = load none environment byHand) := by
  refine ⟨fun hsolid => ⟨?_, rfl, rfl⟩, fun hhollow => ?_⟩
  · exact load_of_ofFile_eq_error (ofFile_of_notMapping isText reads notMapping hsolid) _ _
  · rw [load_eq (sets_of_isHollow isText reads hhollow), load_eq .none]

/-- The kind of a value, and its truth if it has one. -/
def kindAndTruth (v : Value) : String × Option Bool := (v.kind, v.truth.toOption)

/-- A document of a value that is told by its kind and its truth. -/
lemma exists_read_eq_ok {kind : String} {b : Bool}
    (h : (Yaml.read text).toOption.map kindAndTruth = some (kind, some b)) :
    ∃ v, Yaml.read text = .ok v ∧ v.kind = kind ∧ v.truth = .ok b := by
  have hok {ε α : Type} {e : Except ε α} {a : α} (he : e.toOption = some a) : e = .ok a := by
    cases e <;> cases he
    rfl
  obtain ⟨v, hv, hkind⟩ := Option.map_eq_some_iff.1 h
  obtain ⟨hkind, htruth⟩ := Prod.mk.inj hkind
  exact ⟨v, hok hv, hkind, hok htruth⟩

/-- A list is refused. -/
theorem load_of_notMapping_of_list :
    load (some ⟨"flags.yaml", some "- FILL_VALUE_IS_MISSING\n"⟩) (some []) []
      = .fail (.fileNotMapping "list") := by
  obtain ⟨v, hread, hkind, htruth⟩ : ∃ v, Yaml.read "- FILL_VALUE_IS_MISSING\n" = .ok v ∧
      v.kind = "list" ∧ v.truth = .ok true :=
    exists_read_eq_ok (by decide +kernel)
  have hmapping : ∀ entries, v ≠ .mapping entries := by
    rintro entries rfl
    simp [Value.kind] at hkind
  have hhollow : ¬v.IsHollow := by
    intro h
    obtain ⟨b, hb, hfalse⟩ :=
      Value.exists_truth_eq_ok ((Yaml.ends_read _).good_of_eq_ok hread) hmapping
    rw [hfalse.2 h, htruth] at hb
    cases hb
  rw [← hkind]
  exact ((load_of_notMapping rfl hread hmapping (some []) []).1 hhollow).1

/-- The truth value that does not hold is neither a mapping nor nothing, and it is not refused. -/
theorem load_of_false :
    ¬∀ (file : File) (text : String) (v : Value) (environment : Option (List (String × String)))
      (byHand : Settings), file.text = some text → Yaml.read text = .ok v →
      (∀ entries, v ≠ .mapping entries) → v ≠ .null →
      ∃ f, (load (some file) environment byHand).outcome = .error f ∧
        f.family? = some .configuration := by
  intro h
  obtain ⟨v, hread, hkind, htruth⟩ : ∃ v, Yaml.read "false" = .ok v ∧
      v.kind = "bool" ∧ v.truth = .ok false :=
    exists_read_eq_ok (by decide +kernel)
  have hmapping : ∀ entries, v ≠ .mapping entries := by
    rintro entries rfl
    simp [Value.kind] at hkind
  have hnull : v ≠ .null := by
    rintro rfl
    simp [Value.kind] at hkind
  have hsets : Sets (some ⟨"flags.yaml", some "false"⟩) [] := .blank rfl hread htruth
  obtain ⟨f, hf, -⟩ := h ⟨"flags.yaml", some "false"⟩ _ v none [] rfl hread hmapping hnull
  rw [load_eq hsets] at hf
  cases hf

/-! ## All failures -/

/-- The flags for which the settings that win are no truth values, in order. -/
def rejectedFlags (fromFile : Settings) (environment : Option (List (String × String)))
    (byHand : Settings) : List (Flag × FlagProblem) :=
  Flag.all.filterMap fun flag =>
    match (winner fromFile environment byHand flag).asFlag with
    | .error p => some (flag, p)
    | .ok _ => none

lemma problems_layers (fromFile : Settings) (environment : Option (List (String × String)))
    (byHand : Settings) :
    problems (layers fromFile environment byHand) = rejectedFlags fromFile environment byHand := by
  have hproblem : problemOf (layers fromFile environment byHand) = fun flag =>
      match (winner fromFile environment byHand flag).asFlag with
      | .error p => some (flag, p)
      | .ok _ => none := by
    funext flag
    cases hread : (winner fromFile environment byHand flag).asFlag with
    | ok b => simp only [problemOf, flagOf_layers, hread]
    | error p => simp only [problemOf, flagOf_layers, hread]
  rw [problems, hproblem, rejectedFlags]

/-- What loading is refused for as a fault of the configuration. -/
inductive Rejects (environment : Option (List (String × String))) (byHand : Settings) :
    Option File → Failure → Prop
  /-- There is no file. -/
  | missing {file : File} (isMissing : file.text = none) :
    Rejects environment byHand (some file) (.fileNotFound file.path)
  /-- The file breaks the rules of its format. -/
  | malformed {file : File} {text : String} (isText : file.text = some text)
    (reads : Yaml.read text = .error .malformed) :
    Rejects environment byHand (some file) (.fileUnparsable file.path)
  /-- The file holds a value that is no mapping, and not hollow. -/
  | notMapping {file : File} {text : String} {v : Value} (isText : file.text = some text)
    (reads : Yaml.read text = .ok v) (notMapping : ∀ entries, v ≠ .mapping entries)
    (notHollow : ¬v.IsHollow) :
    Rejects environment byHand (some file) (.fileNotMapping v.kind)
  /-- Settings that win are no truth values. -/
  | flags {file : Option File} {fromFile : Settings} (sets : Sets file fromFile)
    (hasRejected : rejectedFlags fromFile environment byHand ≠ []) :
    Rejects environment byHand file (.flagsRejected (rejectedFlags fromFile environment byHand))

/-- What loading can fail of besides. -/
inductive Escapes : Option File → Failure → Prop
  /-- A value of the document cannot be made, for a cause that is in its text. -/
  | unmade {file : File} {text : String} {f : Failure} (isText : file.text = some text)
    (reads : Yaml.read text = .error (.value f)) (cause : Yaml.Unmade text f) :
    Escapes (some file) f

section Failures

variable {environment : Option (List (String × String))} {byHand : Settings} {file : Option File}

lemma family?_of_rejects (h : Rejects environment byHand file f) :
    f.family? = some .configuration := by
  cases h <;> rfl

lemma family?_of_escapes (h : Escapes file f) : f.family? = none := by
  obtain ⟨_, _, cause⟩ := h
  exact Yaml.family?_of_unmade cause

/-- A file makes settings, or it fails for a reason of its own. -/
lemma sets_or_fails (file : File) (environment : Option (List (String × String)))
    (byHand : Settings) :
    (∃ fromFile, Sets (some file) fromFile) ∨
      ∃ f, ofFile file = .error f ∧
        (Rejects environment byHand (some file) f ∨ Escapes (some file) f) := by
  cases isText : file.text with
  | none => exact .inr ⟨_, ofFile_of_missing isText, .inl (.missing isText)⟩
  | some text =>
    cases reads : Yaml.read text with
    | error p =>
      cases p with
      | malformed =>
        exact .inr ⟨_, ofFile_of_malformed isText reads, .inl (.malformed isText reads)⟩
      | value f =>
        have cause := (Yaml.ends_read text).allowed_of_eq_error reads f rfl
        exact .inr ⟨f, ofFile_of_value isText reads, .inr (.unmade isText reads cause)⟩
    | ok v =>
      by_cases hmapping : ∃ entries, v = .mapping entries
      · obtain ⟨entries, rfl⟩ := hmapping
        exact .inl ⟨_, .mapping isText reads⟩
      · have hother : ∀ entries, v ≠ .mapping entries := fun _ hv => hmapping ⟨_, hv⟩
        by_cases hhollow : v.IsHollow
        · exact .inl ⟨_, sets_of_isHollow isText reads hhollow⟩
        · exact .inr ⟨_, ofFile_of_notMapping isText reads hother hhollow,
            .inl (.notMapping isText reads hother hhollow)⟩

/-- Once the file makes settings, nothing but settings that win can be wrong. -/
lemma outcome_load_of_sets {fromFile : Settings} (sets : Sets file fromFile) :
    (load file environment byHand).outcome = .error f ↔
      rejectedFlags fromFile environment byHand ≠ [] ∧
        f = .flagsRejected (rejectedFlags fromFile environment byHand) := by
  rw [load_eq sets, ofSettings, problems_layers]
  split
  · next hnone =>
    refine ⟨fun h => ?_, fun h => absurd hnone h.1⟩
    cases h
  · next hsome =>
    refine ⟨fun h => ⟨hsome, (Except.error.inj h).symm⟩, fun h => ?_⟩
    rw [h.2]
    rfl

lemma outcome_load_of_rejects (h : Rejects environment byHand file f) :
    (load file environment byHand).outcome = .error f := by
  cases h with
  | missing isMissing =>
    rw [load_of_ofFile_eq_error (ofFile_of_missing isMissing)]
    rfl
  | malformed isText reads =>
    rw [load_of_ofFile_eq_error (ofFile_of_malformed isText reads)]
    rfl
  | notMapping isText reads notMapping notHollow =>
    rw [load_of_ofFile_eq_error (ofFile_of_notMapping isText reads notMapping notHollow)]
    rfl
  | flags sets hasRejected => exact (outcome_load_of_sets sets).2 ⟨hasRejected, rfl⟩

lemma outcome_load_of_escapes (h : Escapes file f) :
    (load file environment byHand).outcome = .error f := by
  cases h with
  | unmade isText reads _ =>
    rw [load_of_ofFile_eq_error (ofFile_of_value isText reads)]
    rfl

end Failures

/-- Everything that loading can fail of.

Loading fails as a fault of the configuration exactly if the file is missing, breaks the rules of
its format or holds a value that is neither a mapping nor hollow, or if settings that win are no
truth values. Otherwise it fails exactly if the document has a value that cannot be made: an escape
asks for a character that does not exist, collections lie too deep in each other, or a node does
not spell what its tag asks for. -/
theorem outcome_load_eq_error_iff (file : Option File)
    (environment : Option (List (String × String))) (byHand : Settings) (f : Failure) :
    (load file environment byHand).outcome = .error f ↔
      f.family? = some .configuration ∧ Rejects environment byHand file f ∨
      f.family? = none ∧ Escapes file f := by
  constructor
  · intro hf
    have hcause : Rejects environment byHand file f ∨ Escapes file f := by
      cases file with
      | none =>
        obtain ⟨hasRejected, rfl⟩ := (outcome_load_of_sets .none).1 hf
        exact .inl (.flags .none hasRejected)
      | some file =>
        obtain ⟨fromFile, sets⟩ | ⟨g, hg, hcause⟩ := sets_or_fails file environment byHand
        · obtain ⟨hasRejected, rfl⟩ := (outcome_load_of_sets sets).1 hf
          exact .inl (.flags sets hasRejected)
        · rw [load_of_ofFile_eq_error hg] at hf
          cases hf
          exact hcause
    exact hcause.imp (fun h => ⟨family?_of_rejects h, h⟩) fun h => ⟨family?_of_escapes h, h⟩
  · rintro (⟨-, h⟩ | ⟨-, h⟩)
    · exact outcome_load_of_rejects h
    · exact outcome_load_of_escapes h

/-- A document that sets a flag to a day that the calendar does not have. -/
def absentDay : String := "FILL_VALUE_IS_MISSING: 2001-02-30\n"

/-- A day that the calendar does not have is no fault of the configuration. -/
theorem load_of_absentDay :
    ¬∀ (file : Option File) (environment : Option (List (String × String))) (byHand : Settings)
      (f : Failure), (load file environment byHand).outcome = .error f →
      f.family? = some .configuration := by
  intro h
  have hread : (match Yaml.read absentDay with
      | .error p => some p
      | .ok _ => none) = some (.value .noSuchDate) := by
    decide +kernel
  have hdocument : Yaml.read absentDay = .error (.value .noSuchDate) := by
    cases hv : Yaml.read absentDay <;> rw [hv] at hread <;> cases hread
    rfl
  have hescapes : Escapes (some ⟨"flags.yaml", some absentDay⟩) .noSuchDate :=
    .unmade rfl hdocument
      ((Yaml.ends_read absentDay).allowed_of_eq_error hdocument _ rfl)
  cases h _ none [] _ (outcome_load_of_escapes hescapes)

end Config

end MissingSamples
