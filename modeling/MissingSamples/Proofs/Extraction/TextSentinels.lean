/-
# Sentinels that are text

A fill value or missing values may be text. A single text that spells a number is that number as it
stands, while a number is unpacked, so the two say the same only where unpacking leaves the number
alone. A single text that spells none is dropped. A list of texts is read as one of numbers, and
then a text that spells none makes extraction fail.

* `outcome_declaredFill_of_isString` and `outcome_declaredMissing_of_isString` say what is read out
  of a single text, and `sentinelGrid_of_texts` what out of a list;
* `extract_numeral_eq_iff` compares a text with the number that it spells;
* `exists_extract_texts_iff` says which texts can be read at all.
-/
import MissingSamples.Proofs.Extraction.OneSentinel
import MissingSamples.Proofs.Scaling

namespace MissingSamples

/-- The declaration with a single sentinel in place of what it has. -/
def Declaration.withSentinel (d : Declaration) : Convention → Double → Declaration
  | .fillValue, x => { d with hasFillValue := true, fillValue := x }
  | .missingValue, x => { d with candidates := some [x] }
  | _, _ => d

lemma Declaration.withSentinel_eq_iff {c : Convention} (hc : c.IsSentinel) (d : Declaration)
    (x y : Double) : d.withSentinel c x = d.withSentinel c y ↔ x = y := by
  constructor
  · intro h
    cases hc with
    | fillValue => exact congrArg Declaration.fillValue h
    | missingValue => simpa [withSentinel] using congrArg Declaration.candidates h
  · rintro rfl
    rfl

/-! ## Single texts and single numbers -/

/-- A single text can be read, unless it is an array without elements. -/
lemma Value.exists_asText_iff {v : Value} (hv : v.isString = true) :
    (∃ text, v.asText = .ok text) ↔ ∀ g, v = .grid g → g.size ≠ 0 := by
  cases v with
  | grid g =>
    obtain ⟨shape, e⟩ := g
    have hfirst : e.first?.isSome = true ↔ e.length ≠ 0 := by
      cases e <;> simp [Elements.first?, Elements.length]
    simp only [asText, grid?, Value.grid.injEq, forall_eq', Grid.size, ← hfirst]
    cases e.first? <;> simp
  | scalar s => cases s <;> simp [asText, grid?, Scalar.grid, Scalar.elements, Elements.first?]
  | text s => simp [asText, grid?]
  | bytes xs => simp [asText, grid?]
  | _ => exact absurd hv Bool.false_ne_true

/-- The number that a single text declares as a sentinel: what it spells, or on a variable that
holds text itself its first character. -/
def declaredNumber? (t : ElementType) (text : String) : Option Double :=
  if t.isChar then some (firstCharNumber text) else Numeral.read text

lemma declaredNumber?_of_not_isChar {t : ElementType} (ht : t.isChar = false) (text : String) :
    declaredNumber? t text = Numeral.read text := by
  rw [declaredNumber?, ht, if_neg Bool.false_ne_true]

section Single

variable {a : Attributes} {t : ElementType} {v : Value} (hv : v.isString = true) (unsigned : Bool)
  (s : Scaling) (name : String)
include hv

/-- A text as fill value is its number, and is ignored if it has none. -/
lemma outcome_declaredFill_of_isString (hgiven : a.given? .fillValue = some v) :
    (declaredFill a t unsigned s name).outcome = (do
      return declaredNumber? t (← v.asText)) := by
  simp only [declaredFill, hgiven, hv, if_true, Report.outcome_bind, Report.outcome_liftM]
  congr 1
  funext text
  unfold declaredNumber?
  split_ifs
  · rfl
  · cases Numeral.read text <;> rfl

/-- A text as missing value is its number, and is dropped if it has none. -/
lemma outcome_declaredMissing_of_isString (hgiven : a.given? .missingValue = some v) :
    (declaredMissing a t unsigned s name).outcome = (do
      return some (declaredNumber? t (← v.asText)).toList) := by
  simp only [declaredMissing, hgiven, hv, if_true, Report.outcome_bind, Report.outcome_liftM]
  congr 1
  funext text
  unfold declaredNumber?
  split_ifs
  · rfl
  · cases Numeral.read text <;> rfl

variable {text : String} (htext : v.asText = .ok text) (ht : t.isChar = false)
include htext ht

lemma outcome_declaredFill_of_asText (hgiven : a.given? .fillValue = some v) :
    (declaredFill a t unsigned s name).outcome = .ok (Numeral.read text) := by
  rw [outcome_declaredFill_of_isString hv _ _ _ hgiven, htext,
    ← declaredNumber?_of_not_isChar ht]
  rfl

lemma outcome_declaredMissing_of_asText (hgiven : a.given? .missingValue = some v) :
    (declaredMissing a t unsigned s name).outcome = .ok (some (Numeral.read text).toList) := by
  rw [outcome_declaredMissing_of_isString hv _ _ _ hgiven, htext,
    ← declaredNumber?_of_not_isChar ht]
  rfl

end Single

lemma sentinelGrid_float (x : Double) (t : ElementType) (unsigned : Bool) :
    sentinelGrid (.float x) t unsigned = .ok ⟨[1], .floats .float64 [x]⟩ := rfl

section Compared

variable {a : Attributes} {t : ElementType} {scaling : Option Scaling} {name : Option String}
  {c : Convention} (hc : c.IsSentinel)
include hc

/-- The packing does not depend on what a sentinel is. -/
lemma inForce_insert (w : Value) :
    Scaling.inForce (a.insert c.name w) scaling = Scaling.inForce a scaling := by
  rw [inForce_eq_of_agreeBut (a.agreeBut_insert_without c w) hc,
    inForce_eq_of_agreeBut (a.agreeBut_without c) hc]

variable {s : Scaling} (hs : Scaling.inForce a scaling = .ok s)
include hs

/-- A sentinel that is a text declares the number that it spells, as it stands. -/
lemma outcome_extract_insert_numeral {v : Value} {text : String} {x : Double}
    (hv : v.isString = true) (htext : v.asText = .ok text) (ht : t.isChar = false)
    (hx : Numeral.read text = some x) :
    (extract (a.insert c.name v) t scaling name).outcome
      = (extract (a.without [c.name]) t scaling name).outcome.map
        (Declaration.withSentinel · c x) := by
  have hnull : v ≠ .null := by
    rintro rfl
    exact absurd hv Bool.false_ne_true
  have hgiven := a.given?_insert_self c hnull
  have hab := a.agreeBut_insert_without c v
  have hforce := (inForce_insert hc v).trans hs
  cases hc with
  | fillValue =>
    refine outcome_extract_of_declaredFill hforce hab (a.given?_without_self _) ?_
    rw [outcome_declaredFill_of_asText hv _ _ _ htext ht hgiven, hx]
  | missingValue =>
    refine outcome_extract_of_declaredMissing hforce hab (a.given?_without_self _) ?_
    rw [outcome_declaredMissing_of_asText hv _ _ _ htext ht hgiven, hx]
    rfl

/-- A sentinel that is a number declares it unpacked. -/
lemma outcome_extract_insert_float (x : Double) :
    (extract (a.insert c.name (.float x)) t scaling name).outcome
      = (extract (a.without [c.name]) t scaling name).outcome.map
        (Declaration.withSentinel · c (s.apply x)) := by
  have hgiven := a.given?_insert_self c (v := .float x) nofun
  have hab := a.agreeBut_insert_without c (.float x)
  have hforce := (inForce_insert hc (.float x)).trans hs
  cases hc with
  | fillValue =>
    refine outcome_extract_of_declaredFill hforce hab (a.given?_without_self _) ?_
    rw [outcome_declaredFill_of_not_isString hgiven rfl, sentinelGrid_float]
    rfl
  | missingValue =>
    refine outcome_extract_of_declaredMissing hforce hab (a.given?_without_self _) ?_
    rw [outcome_declaredMissing_of_not_isString hgiven rfl, sentinelGrid_float]
    rfl

end Compared

/-- A sentinel that is a text declares the number that it spells as it stands, and the number in
its place declares it unpacked. So the two declare the same exactly if nothing can be declared at
all or unpacking leaves the number alone. -/
theorem extract_numeral_eq_iff {a : Attributes} {t : ElementType} {scaling : Option Scaling}
    {name : Option String} {c : Convention} {v : Value} {text : String} {x : Double}
    (hc : c.IsSentinel) (ht : t.isChar = false) (hv : v.isString = true)
    (htext : v.asText = .ok text) (hx : Numeral.read text = some x) :
    ((extract (a.insert c.name v) t scaling name).outcome
        = (extract (a.insert c.name (.float x)) t scaling name).outcome ↔
      ∀ s d, Scaling.inForce a scaling = .ok s →
        (extract (a.without [c.name]) t scaling name).outcome = .ok d → s.apply x = x) ∧
    ∀ s d, Scaling.inForce a scaling = .ok s →
      (extract (a.without [c.name]) t scaling name).outcome = .ok d →
      (extract (a.insert c.name v) t scaling name).outcome = .ok (d.withSentinel c x) ∧
      (extract (a.insert c.name (.float x)) t scaling name).outcome
        = .ok (d.withSentinel c (s.apply x)) := by
  refine ⟨⟨fun heq s d hs hd => ?_, fun hsame => ?_⟩, fun s d hs hd => ?_⟩
  · rw [outcome_extract_insert_numeral hc hs hv htext ht hx,
      outcome_extract_insert_float hc hs, hd] at heq
    exact ((d.withSentinel_eq_iff hc x (s.apply x)).1 (Except.ok.inj heq)).symm
  · cases hs : Scaling.inForce a scaling with
    | error f =>
      -- without a packing both fail before a sentinel is looked at
      rw [outcome_extract, outcome_extract, inForce_insert hc v,
        inForce_insert hc (.float x), hs]
      rfl
    | ok s =>
      rw [outcome_extract_insert_numeral hc hs hv htext ht hx, outcome_extract_insert_float hc hs]
      cases hd : (extract (a.without [c.name]) t scaling name).outcome with
      | error f => rfl
      | ok d => rw [hsame s d hs hd]
  · rw [outcome_extract_insert_numeral hc hs hv htext ht hx, outcome_extract_insert_float hc hs, hd]
    exact ⟨rfl, rfl⟩

/-- Where nothing is packed, the text and the number declare the same. -/
theorem extract_numeral_eq_iff_of_unpacked :
    (extract (({} : Attributes).insert Convention.fillValue.name (.text " 5e0 "))
        (.float ⟨.single, .little⟩) none none).outcome
      = (extract (({} : Attributes).insert Convention.fillValue.name (.float 5))
        (.float ⟨.single, .little⟩) none none).outcome := by
  refine (extract_numeral_eq_iff .fillValue rfl rfl rfl (by decide +kernel)).1.2 ?_
  intro s d hs _
  cases hs
  rfl

/-- A scale of two beside the fill value. -/
def doubledAttributes (fill : Value) : Attributes :=
  ⟨[("_FillValue", fill), ("scale_factor", .float 2)]⟩

/-- Beside a scale of two the text of five declares five, and the number five declares ten. -/
theorem numeral_may_stay_packed :
    ∃ d e, (extract (doubledAttributes (.text "5")) (.int ⟨true, .w16, .little⟩) none
        none).outcome = .ok d ∧
      (extract (doubledAttributes (.float 5)) (.int ⟨true, .w16, .little⟩) none
        none).outcome = .ok e ∧
      d.fillValue = 5 ∧ e.fillValue = 10 ∧ d ≠ e := by
  have hd : ∃ d, (extract (doubledAttributes (.text "5")) (.int ⟨true, .w16, .little⟩) none
      none).outcome = .ok d ∧ d.fillValue = 5 := ⟨_, rfl, by decide +kernel⟩
  have he : ∃ e, (extract (doubledAttributes (.float 5)) (.int ⟨true, .w16, .little⟩) none
      none).outcome = .ok e ∧ e.fillValue = 10 := ⟨_, rfl, by decide +kernel⟩
  obtain ⟨d, hd, hfive⟩ := hd
  obtain ⟨e, he, hten⟩ := he
  refine ⟨d, e, hd, he, hfive, hten, ?_⟩
  rintro rfl
  rw [hfive] at hten
  exact absurd hten (by decide +kernel)

/-! ## Lists of texts -/

/-- The number that a text in a list spells. Zero characters at its end do not count. -/
def listedNumber? (s : String) : Option Double := Numeral.read (storedText s.length s)

section Texts

variable {ss : List String}

lemma isSingle_texts (ss : List String) : ∀ m ∈ ss.map Value.text, m.IsSingle :=
  List.forall_mem_map.2 fun _ _ => ⟨rfl, rfl, rfl⟩

lemma common_text (m n : Nat) :
    ElementType.common (.text m .little) (.text n .little) = .text (max m n) .little := by
  by_cases h : m = n
  · rw [h, max_self]
    exact if_pos rfl
  · unfold ElementType.common
    rw [if_neg (by simpa [ElementType.native] using h)]
    rfl

/-- Texts have a type together whose elements are as long as the longest of them. -/
lemma foldl_common_texts (ss : List String) (n : Nat) :
    ∃ size, ((ss.map Value.text).map Value.leafType).foldl ElementType.common (.text n .little)
        = .text size .little ∧ n ≤ size ∧ ∀ s ∈ ss, s.length ≤ size := by
  -- on the list, for any size reached so far: one more text never makes it smaller
  induction ss generalizing n with
  | nil => exact ⟨n, rfl, le_rfl, fun s hs => absurd hs List.not_mem_nil⟩
  | cons s rest ih =>
    obtain ⟨size, hsize, hle, hrest⟩ := ih (max n (max 1 s.length))
    refine ⟨size, ?_, (le_max_left _ _).trans hle, ?_⟩
    · rw [List.map_cons, List.map_cons, List.foldl_cons, Value.leafType, common_text, hsize]
    · intro r hr
      rcases List.mem_cons.1 hr with rfl | hr
      · exact ((le_max_right 1 _).trans (le_max_right n _)).trans hle
      · exact hrest r hr

lemma typeOfLeaves_texts (hne : ss ≠ []) :
    ∃ size, typeOfLeaves (ss.map Value.text) = .text size .little ∧
      ∀ s ∈ ss, s.length ≤ size := by
  cases ss with
  | nil => exact absurd rfl hne
  | cons s rest =>
    obtain ⟨size, hsize, hle, hrest⟩ := foldl_common_texts rest (max 1 s.length)
    refine ⟨size, hsize, ?_⟩
    intro r hr
    rcases List.mem_cons.1 hr with rfl | hr
    · exact (le_max_right 1 _).trans hle
    · exact hrest r hr

/-- An element that has room for a text cuts nothing off. -/
lemma storedText_of_le {s : String} {size : Nat} (h : s.length ≤ size) :
    storedText size s = storedText s.length s := by
  have htake : ∀ n, s.length ≤ n → s.toList.take n = s.toList := fun n hn =>
    List.take_of_length_le (by rwa [String.length_toList])
  rw [storedText, storedText, htake size h, htake s.length le_rfl]

lemma ofLeaves_texts (ss : List String) (size : Nat) :
    Elements.ofLeaves (.text size .little) (ss.map Value.text)
      = .ok (.texts size .little (ss.map (storedText size))) := by
  have hitems := items_of_isSingle (isSingle_texts ss)
  have htexts : (ss.map Value.text).mapM Value.toText = .ok ss := by
    rw [List.mapM_map]
    exact (mapM_eq_ok (g := id) fun s _ => rfl).trans (by rw [List.map_id])
  simp only [Elements.ofLeaves, hitems, htexts, bind, Except.bind, pure, Except.pure]

/-- The number of a text in a list, which fails if there is none. -/
def numberOfListed (s : String) : Except Failure Double := numberOfText (storedText s.length s)

lemma exists_numberOfListed_iff {s : String} :
    (∃ x, numberOfListed s = .ok x) ↔ listedNumber? s ≠ none := by
  simp only [numberOfListed, numberOfText, listedNumber?]
  cases Numeral.read (storedText s.length s) <;> simp

lemma numberAt_zero_texts (n size : Nat) (order : ByteOrder) (s : String) (rest : List String) :
    Grid.numberAt ⟨[n + 1], .texts size order (s :: rest)⟩ 0 = numberOfText s := by
  have hone : ((Elements.texts size order (s :: rest) : Elements Value).slice 0 1).numbers
      Value.number = [s].mapM numberOfText := rfl
  simp only [Grid.numberAt, Nat.zero_lt_succ, if_true, Nat.zero_add, hone, List.mapM_cons,
    List.mapM_nil]
  cases numberOfText s <;> rfl

/-- A list of texts is read text by text as a list of numbers. -/
lemma sentinelGrid_of_texts {v : Value} (hv : v.IsRow (ss.map Value.text)) (t : ElementType)
    (unsigned : Bool) :
    ∃ g, sentinelGrid v t unsigned = .ok g ∧ g.numbers = ss.mapM numberOfListed ∧
      g.numberAt 0 = numberOfFirst numberOfListed ss := by
  cases ss with
  | nil =>
    -- a list without members has no type of text: it makes an empty grid of doubles
    have he : Elements.ofLeaves (typeOfLeaves []) [] = .ok (.floats .float64 []) := rfl
    exact ⟨_, sentinelGrid_of_numericGrid
      (numericGrid_of_isRow hv (isSingle_texts _) he t) unsigned, rfl, rfl⟩
  | cons s rest =>
    obtain ⟨size, hsize, hle⟩ := typeOfLeaves_texts (List.cons_ne_nil s rest)
    have he := ofLeaves_texts (s :: rest) size
    rw [← hsize] at he
    have hgrid : sentinelGrid v t unsigned = .ok ⟨[rest.length + 1],
        .texts size .little (storedText size s :: rest.map (storedText size))⟩ := by
      rw [sentinelGrid_of_numericGrid
        (numericGrid_of_isRow hv (isSingle_texts _) he t), List.length_map]
      rfl
    have hstored : ∀ r ∈ s :: rest, numberOfText (storedText size r) = numberOfListed r := by
      intro r hr
      rw [storedText_of_le (hle r hr), numberOfListed]
    refine ⟨_, hgrid, ?_, ?_⟩
    · change ((s :: rest).map (storedText size)).mapM numberOfText = _
      rw [List.mapM_map]
      refine mapM_congr fun r hr => ?_
      rw [Function.comp_apply]
      exact hstored r hr
    · rw [numberAt_zero_texts, hstored s List.mem_cons_self, numberOfFirst]

end Texts

/-! ## Which texts can be read -/

/-- The value is text: a single one, or a list of texts. -/
inductive Value.IsText : Value → Prop
  /-- A text, octets, or an array of either. -/
  | single {v : Value} : v.isString = true → IsText v
  /-- A list of texts. -/
  | row {v : Value} {ss : List String} : v.IsRow (ss.map .text) → IsText v

/-- The value is text that cannot be read as the sentinel. -/
inductive Value.Unreadable : Convention → Value → Prop
  /-- An array of text without elements. -/
  | empty {c : Convention} {g : Grid Value} : g.type.isChar = true → g.size = 0 →
      Unreadable c (.grid g)
  /-- A list of texts whose first spells no number, as fill value. -/
  | first {v : Value} {ss : List String} : v.IsRow (ss.map .text) →
      ss.head?.bind listedNumber? = none → Unreadable .fillValue v
  /-- A list of texts one of which spells no number, as missing values. -/
  | member {v : Value} {ss : List String} {s : String} : v.IsRow (ss.map .text) → s ∈ ss →
      listedNumber? s = none → Unreadable .missingValue v

namespace Value

lemma unreadable_iff_of_isString {c : Convention} {v : Value} (hv : v.isString = true) :
    v.Unreadable c ↔ ∃ g, v = .grid g ∧ g.size = 0 := by
  constructor
  · intro h
    cases h with
    | empty hchar hsize => exact ⟨_, rfl, hsize⟩
    | first hrow => exact absurd hv (by simp [isString_of_isRow hrow])
    | member hrow => exact absurd hv (by simp [isString_of_isRow hrow])
  · rintro ⟨g, rfl, hsize⟩
    exact .empty hv hsize

lemma texts_eq_of_isRow {v : Value} {ss rs : List String} (h : v.IsRow (ss.map .text))
    (h' : v.IsRow (rs.map .text)) : ss = rs := by
  have hmap : ss.map Value.text = rs.map .text := by
    generalize ss.map Value.text = members at h
    cases h <;> cases h' <;> rfl
  exact (List.map_inj_right fun _ _ h => Value.text.inj h).1 hmap

lemma unreadable_fillValue_iff_of_isRow {v : Value} {ss : List String}
    (hv : v.IsRow (ss.map .text)) :
    v.Unreadable .fillValue ↔ ss.head?.bind listedNumber? = none := by
  constructor
  · intro h
    cases h with
    | empty hchar => cases hv
    | first hrow hnone => rwa [texts_eq_of_isRow hv hrow]
  · exact .first hv

lemma unreadable_missingValue_iff_of_isRow {v : Value} {ss : List String}
    (hv : v.IsRow (ss.map .text)) :
    v.Unreadable .missingValue ↔ ∃ s ∈ ss, listedNumber? s = none := by
  constructor
  · intro h
    cases h with
    | empty hchar => cases hv
    | member hrow hs hnone => exact ⟨_, by rwa [texts_eq_of_isRow hv hrow], hnone⟩
  · rintro ⟨s, hs, hnone⟩
    exact .member hv hs hnone

end Value

section Readable

variable {a : Attributes} {t : ElementType}

lemma exists_declaredFill_iff (hgiven : ∀ v, a.given? .fillValue = some v → v.IsText)
    (unsigned : Bool) (s : Scaling) (name : String) :
    (∃ fill, (declaredFill a t unsigned s name).outcome = .ok fill) ↔
      ∀ v, a.given? .fillValue = some v → ¬ v.Unreadable .fillValue := by
  cases hv : a.given? .fillValue with
  | none =>
    exact iff_of_true ⟨none, outcome_declaredFill_of_not_given hv _ _ _⟩
      (fun v h => absurd h (by simp))
  | some v =>
    simp only [Option.some.injEq, forall_eq']
    cases hgiven v hv with
    | single hstring =>
      rw [outcome_declaredFill_of_isString hstring _ _ _ hv, exists_pure_bind_eq_ok,
        Value.exists_asText_iff hstring, Value.unreadable_iff_of_isString hstring]
      simp only [not_exists, not_and, ne_eq]
    | @row ss hrow =>
      obtain ⟨g, hgrid, -, hfirst⟩ := sentinelGrid_of_texts hrow t unsigned
      rw [outcome_declaredFill_of_not_isString hv (Value.isString_of_isRow hrow),
        Value.unreadable_fillValue_iff_of_isRow hrow, hgrid]
      refine exists_pure_bind_eq_ok.trans ?_
      rw [hfirst]
      cases ss with
      | nil => simp [numberOfFirst]
      | cons r rest =>
        rw [numberOfFirst, List.head?_cons, Option.bind_some]
        exact exists_numberOfListed_iff

lemma exists_declaredMissing_iff (hgiven : ∀ v, a.given? .missingValue = some v → v.IsText)
    (unsigned : Bool) (s : Scaling) (name : String) :
    (∃ missing, (declaredMissing a t unsigned s name).outcome = .ok missing) ↔
      ∀ v, a.given? .missingValue = some v → ¬ v.Unreadable .missingValue := by
  cases hv : a.given? .missingValue with
  | none =>
    exact iff_of_true ⟨none, outcome_declaredMissing_of_not_given hv _ _ _⟩
      (fun v h => absurd h (by simp))
  | some v =>
    simp only [Option.some.injEq, forall_eq']
    cases hgiven v hv with
    | single hstring =>
      rw [outcome_declaredMissing_of_isString hstring _ _ _ hv, exists_pure_bind_eq_ok,
        Value.exists_asText_iff hstring, Value.unreadable_iff_of_isString hstring]
      simp only [not_exists, not_and, ne_eq]
    | @row ss hrow =>
      obtain ⟨g, hgrid, hnumbers, -⟩ := sentinelGrid_of_texts hrow t unsigned
      rw [outcome_declaredMissing_of_not_isString hv (Value.isString_of_isRow hrow),
        Value.unreadable_missingValue_iff_of_isRow hrow, hgrid]
      refine exists_pure_bind_eq_ok.trans ?_
      rw [hnumbers, exists_mapM_eq_ok_iff]
      simp only [exists_numberOfListed_iff, ne_eq, not_exists, not_and]

end Readable

/-! ## A whole extraction -/

section Extraction

variable {a : Attributes} {t : ElementType} {scaling : Option Scaling} {name : Option String}

/-- Without attributes for it nothing is packed, unless a packing is given. -/
lemma exists_inForce_of_not_given (hscale : a.given? .scaleFactor = none)
    (hoffset : a.given? .addOffset = none) (scaling : Option Scaling) :
    ∃ s, Scaling.inForce a scaling = .ok s := by
  cases scaling with
  | none =>
    simp only [Scaling.inForce_none, Scaling.ofAttributes, Attributes.numeric?, hscale, hoffset]
    exact ⟨{}, rfl⟩
  | some s => exact ⟨s, rfl⟩

lemma declaredBounds_of_not_given (hrange : a.given? .validRange = none)
    (hmin : a.given? .validMin = none) (hmax : a.given? .validMax = none) (unsigned : Bool) :
    declaredBounds a t unsigned = .ok {} := by
  simp only [declaredBounds, rangeBounds, singleBounds, Attributes.numeric?, hrange, hmin, hmax]
  rfl

/-- An extraction from nothing but sentinels that are text succeeds exactly if none of them is
unreadable. A single text that spells no number is never the reason of a failure: on a variable
that holds no text itself, it leaves the fill value unset and the missing values without it. -/
theorem exists_extract_texts_iff
    (hgiven : ∀ c v, a.given? c = some v → c.IsSentinel ∧ v.IsText) :
    ((∃ d, (extract a t scaling name).outcome = .ok d) ↔
      ∀ c v, a.given? c = some v → ¬ v.Unreadable c) ∧
    ∀ d, (extract a t scaling name).outcome = .ok d → t.isChar = false →
      ∀ v text, v.isString = true → v.asText = .ok text →
        (a.given? .fillValue = some v → d.hasFillValue = (Numeral.read text).isSome) ∧
        (a.given? .missingValue = some v → d.candidates = some (Numeral.read text).toList) := by
  -- nothing is read before the sentinels, and so nothing fails before them
  have hnone : ∀ c : Convention, ¬ c.IsSentinel → a.given? c = none := by
    intro c hc
    cases hv : a.given? c with
    | none => rfl
    | some v => exact absurd (hgiven c v hv).1 hc
  obtain ⟨s, hs⟩ := exists_inForce_of_not_given (hnone .scaleFactor nofun)
    (hnone .addOffset nofun) scaling
  have hbounds := declaredBounds_of_not_given (t := t) (hnone .validRange nofun)
    (hnone .validMin nofun) (hnone .validMax nofun) (a.isUnsigned t)
  have hfill := exists_declaredFill_iff (t := t) (fun v hv => (hgiven .fillValue v hv).2)
    (a.isUnsigned t) s (noteName name)
  have hmissing := exists_declaredMissing_iff (t := t)
    (fun v hv => (hgiven .missingValue v hv).2) (a.isUnsigned t) s (noteName name)
  constructor
  · constructor
    · rintro ⟨d, hd⟩ c v hv
      obtain ⟨fill, missing, hf, hm, -⟩ := (outcome_extract_eq_ok_iff hs hbounds).1 hd
      cases (hgiven c v hv).1 with
      | fillValue => exact hfill.1 ⟨fill, hf⟩ v hv
      | missingValue => exact hmissing.1 ⟨missing, hm⟩ v hv
    · intro h
      obtain ⟨fill, hf⟩ := hfill.2 (h .fillValue)
      obtain ⟨missing, hm⟩ := hmissing.2 (h .missingValue)
      exact ⟨_, (outcome_extract_eq_ok_iff hs hbounds).2 ⟨fill, missing, hf, hm, rfl⟩⟩
  · intro d hd ht v text hv htext
    obtain ⟨fill, missing, hf, hm, rfl⟩ := (outcome_extract_eq_ok_iff hs hbounds).1 hd
    constructor
    · intro h
      rw [outcome_declaredFill_of_asText hv _ _ _ htext ht h, Except.ok.injEq] at hf
      rw [hf]
      rfl
    · intro h
      rw [outcome_declaredMissing_of_asText hv _ _ _ htext ht h, Except.ok.injEq] at hm
      rw [hm]
      rfl

end Extraction

/-- A fill value that spells no number, and a list of missing values that all do. -/
def textSentinels : Attributes :=
  ⟨[("_FillValue", .text "none"), ("missing_value", .list [.text "1", .text " 2e1"])]⟩

theorem exists_extract_texts_iff_of_textSentinels :
    ∃ d, (extract textSentinels (.float ⟨.single, .little⟩) none none).outcome = .ok d ∧
      d.hasFillValue = false := by
  have hgiven : ∀ c v, textSentinels.given? c = some v → c.IsSentinel ∧ v.IsText := by
    intro c v hv
    cases c <;> cases hv
    · exact ⟨.fillValue, .single rfl⟩
    · exact ⟨.missingValue, .row (.list : Value.IsRow (["1", " 2e1"].map .text) _)⟩
  have hread : ∀ c v, textSentinels.given? c = some v → ¬ v.Unreadable c := by
    intro c v hv
    cases c <;> cases hv
    · rw [Value.unreadable_iff_of_isString rfl]
      rintro ⟨g, hg, -⟩
      cases hg
    · have hnumbers : ¬ ∃ s ∈ ["1", " 2e1"], listedNumber? s = none := by decide +kernel
      exact fun h => hnumbers ((Value.unreadable_missingValue_iff_of_isRow .list).1 h)
  have hok : ∃ d, (extract textSentinels (.float ⟨.single, .little⟩) none none).outcome = .ok d :=
    (exists_extract_texts_iff hgiven).1.2 hread
  obtain ⟨d, hd⟩ := hok
  refine ⟨d, hd, ?_⟩
  rw [((exists_extract_texts_iff hgiven).2 d hd rfl (.text "none") "none" rfl rfl).1 rfl]
  decide +kernel

/-- In a list, even of one, a text that spells no number is not dropped. -/
theorem listed_text_may_fail :
    (extract ⟨[("missing_value", .list [.text "n/a"])]⟩ (.float ⟨.single, .little⟩) none
      none).outcome = .error .badNumeral := by
  rfl

end MissingSamples
