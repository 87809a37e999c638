/-
# One value in different containers

Readers of files give a single value in many forms: a text as itself, as octets or as an array of
one text, a number by itself, in an array of one number or in a list of one. Extraction looks into
all of them, so that the form does not matter, with two exceptions:

1. the mark of unsigned integers is not seen in an array with dimensions, nor in an array of octets
   without any;
2. a number in an array of more than one dimension cannot be read.

* `Content` is what a container holds, and `Content.HeldIn` says which containers hold it;
* `isUnsignedMark_of_heldIn` says where a mark is seen, and `readAlike_of_heldIn` how numbers are
  read;
* `extract_eq_of_heldIn` replaces a container by another.
-/
import MissingSamples.Proofs.Extraction.OneSentinel
import MissingSamples.Proofs.Extraction.UnsignedMark

namespace MissingSamples

/-! ## Contents and containers -/

/-- What an attribute holds, whatever the form. -/
inductive Content where
  /-- A text. -/
  | text (s : String)
  /-- A number without a type of its own. -/
  | loose (x : Value)
  /-- A number of a type. -/
  | stored (s : Scalar)

namespace Content

/-- The content is a text. -/
def isText : Content → Bool
  | text _ => true
  | _ => false

/-- The content is a text that says "true". -/
def isMark : Content → Bool
  | text s => saysTrue s
  | _ => false

end Content

/-- The value is an integer or a double. -/
inductive Value.IsLoose : Value → Prop
  /-- An integer of any size. -/
  | int (i : Int) : IsLoose (.int i)
  /-- A double. -/
  | float (x : Double) : IsLoose (.float x)

/-- The octets are those of the text in ASCII. -/
def Ascii.Spells (xs : List UInt8) (s : String) : Prop :=
  (∀ b ∈ xs, b.toNat < 0x80) ∧ String.ofList (xs.map fun b => Char.ofNat b.toNat) = s

/-- The only element of an array with so many dimensions. -/
def Grid.only (dims : Nat) (e : Elements Value) : Grid Value := ⟨List.replicate dims 1, e⟩

/-- The value holds the content and nothing else. -/
inductive Content.HeldIn : Content → Value → Prop
  /-- A text holds itself. -/
  | text (s : String) : HeldIn (.text s) (.text s)
  /-- Octets hold the text that they spell. -/
  | octets {xs : List UInt8} {s : String} : Ascii.Spells xs s → HeldIn (.text s) (.bytes xs)
  /-- A text may be a single element. -/
  | textElement (s : String) : HeldIn (.text s) (.scalar (.text s))
  /-- So may octets. -/
  | octetElement {xs : List UInt8} {s : String} :
    Ascii.Spells xs s → HeldIn (.text s) (.scalar (.bytes xs))
  /-- An array of one text, of any size and order. -/
  | texts (dims size : Nat) (order : ByteOrder) (s : String) :
    HeldIn (.text s) (.grid (.only dims (.texts size order [s])))
  /-- An array of one octet string. -/
  | octetStrings (dims size : Nat) {xs : List UInt8} {s : String} :
    Ascii.Spells xs s → HeldIn (.text s) (.grid (.only dims (.bytes size [xs])))
  /-- A number without a type holds itself. -/
  | loose {x : Value} : x.IsLoose → HeldIn (.loose x) x
  /-- A list of one such number. -/
  | row {x v : Value} : x.IsLoose → v.IsRow [x] → HeldIn (.loose x) v
  /-- A number of a type may be a single element. -/
  | element {s : Scalar} : s.IsNumber → HeldIn (.stored s) (.scalar s)
  /-- An array of one number. -/
  | numbers (dims : Nat) {s : Scalar} :
    s.IsNumber → HeldIn (.stored s) (.grid (.only dims s.elements))

namespace Value

/-- How many dimensions the array has that the value makes. -/
def dims : Value → Nat
  | grid g => g.shape.length
  | list _ | tuple _ => 1
  | _ => 0

/-- A mark is not seen in the value: it is an array with dimensions, or one that is not of texts. -/
def hidesMark : Value → Bool
  | grid ⟨[], .texts ..⟩ => false
  | grid _ => true
  | _ => false

end Value

/-! ## Texts -/

lemma Ascii.decode_of_spells {xs : List UInt8} {s : String} (h : Spells xs s) : decode xs = s := by
  obtain ⟨hascii, rfl⟩ := h
  rw [decode]
  congr 1
  exact List.map_congr_left fun b hb => if_pos (hascii b hb)

lemma Utf8.decode_of_spells {xs : List UInt8} {s : String} (h : Ascii.Spells xs s) :
    decode xs = s := by
  rw [decode_of_ascii h.1, h.2]

section Held

variable {k : Content} {v w : Value}

lemma isString_of_heldIn (hv : k.HeldIn v) : v.isString = k.isText := by
  cases hv with
  | loose hx => cases hx <;> rfl
  | row hx hrow => exact Value.isString_of_isRow hrow
  | element hs => cases hs <;> rfl
  | numbers dims hs => cases hs <;> rfl
  | _ => rfl

lemma ne_null_of_heldIn (hv : k.HeldIn v) : v ≠ .null := by
  rintro rfl
  cases hv with
  | loose hx => cases hx
  | row hx hrow => cases hrow

/-- The text of any container of a text is that text. -/
lemma asText_of_heldIn {s : String} (hv : (Content.text s).HeldIn v) : v.asText = .ok s := by
  cases hv with
  | text => rfl
  | octets h => exact congrArg _ (Utf8.decode_of_spells h)
  | textElement => rfl
  | octetElement h => exact congrArg _ (Utf8.decode_of_spells h)
  | texts => rfl
  | octetStrings dims size h => exact congrArg _ (Utf8.decode_of_spells h)

lemma asText_eq_of_heldIn (hv : k.HeldIn v) (hw : k.HeldIn w) (hk : k.isText = true) :
    v.asText = w.asText := by
  cases k with
  | text s => rw [asText_of_heldIn hv, asText_of_heldIn hw]
  | _ => cases hk

/-! ## The mark -/

/-- A text that is not hidden is what the mark says. -/
lemma flagText_of_heldIn {s : String} (hv : (Content.text s).HeldIn v)
    (hshown : v.hidesMark = false) : flagText v = s := by
  cases hv with
  | text => simp only [flagText, Value.shown]
  | octets h => exact Ascii.decode_of_spells h
  | textElement => simp only [flagText, Value.shown, Scalar.shown]
  | octetElement h => exact Ascii.decode_of_spells h
  | texts dims =>
    cases dims with
    | zero =>
      simp only [flagText, Grid.only, List.replicate_zero, Value.shown, shownGrid, shownElement,
        Elements.first?, List.head?_cons, Option.map_some, Scalar.alone, Scalar.shown]
    | succ dims => cases hshown
  | octetStrings dims => cases dims <;> cases hshown

lemma shown_only_elements {s : Scalar} (hs : s.IsNumber) :
    (Value.grid (.only 0 s.elements)).shown = s.shown := by
  cases hs <;> simp only [Scalar.elements, Grid.only, List.replicate_zero, Value.shown, shownGrid,
    shownElement, Elements.first?, List.head?_cons, Option.map_some, Scalar.alone]

lemma hasForeign_shown_of_isLoose (hv : v.IsLoose) : HasForeign v.shown := by
  cases hv with
  | int i =>
    simp only [Value.shown, Value.quoted]
    exact hasForeign_ofInt i
  | float x =>
    simp only [Value.shown, Value.quoted]
    exact Notation.hasForeign_text (rfl : FloatWidth.double.style.wholeMark = true) _ x

/-- A number says nothing that a mark says, and nor does a text that is hidden. -/
lemma hasForeign_flagText_of_heldIn (hv : k.HeldIn v)
    (hno : k.isText = false ∨ v.hidesMark = true) : HasForeign (flagText v) := by
  have hdims (dims : Nat) (e : Elements Value) :
      HasForeign (flagText (.grid (.only (dims + 1) e))) :=
    hasForeign_shown_of_dims (List.cons_ne_nil _ _) e
  cases hv with
  | texts dims =>
    cases dims with
    | zero => rcases hno with hno | hno <;> cases hno
    | succ dims => exact hdims _ _
  | octetStrings dims =>
    cases dims with
    | zero =>
      simp only [flagText, Grid.only, List.replicate_zero, Value.shown, shownGrid, shownElement,
        Elements.first?, List.head?_cons, Option.map_some, Scalar.alone]
      exact hasForeign_quoted_bytes _
    | succ dims => exact hdims _ _
  | loose hx => cases hx <;> exact hasForeign_shown_of_isLoose (by constructor)
  | row hx hrow => cases hrow <;> exact hasForeign_shown_of_isRow (by constructor)
  | element hs => cases hs <;> exact hasForeign_shown_of_isNumber (by constructor)
  | numbers dims hs =>
    cases dims with
    | zero =>
      change HasForeign (Value.shown _)
      rw [shown_only_elements hs]
      exact hasForeign_shown_of_isNumber hs
    | succ dims => exact hdims _ _
  | _ => rcases hno with hno | hno <;> cases hno

/-- A mark is seen unless the container hides it, and nothing else is ever taken for one. -/
theorem isUnsignedMark_of_heldIn (hv : k.HeldIn v) :
    isUnsignedMark v = (k.isMark && !v.hidesMark) := by
  change saysTrue (flagText v) = (k.isMark && !v.hidesMark)
  cases hhidden : v.hidesMark with
  | true =>
    rw [saysTrue_eq_false_of_hasForeign (hasForeign_flagText_of_heldIn hv (.inr hhidden)),
      Bool.not_true, Bool.and_false]
  | false =>
    rw [Bool.not_false, Bool.and_true]
    cases k with
    | text s => rw [flagText_of_heldIn hv hhidden, Content.isMark]
    | _ => exact saysTrue_eq_false_of_hasForeign (hasForeign_flagText_of_heldIn hv (.inl rfl))

end Held

/-! ## Numbers -/

namespace Content

/-- The only element of an array of the number. -/
def elements : Content → Except Failure (Elements Value)
  | text _ => .error .notNumber
  | loose x => Elements.ofLeaves (typeOfLeaves [x]) [x]
  | stored s => .ok s.elements

/-- The number has a type of its own. -/
def isStored : Content → Bool
  | stored _ => true
  | _ => false

end Content

lemma exists_elements_of_isLoose {x : Value} (hx : x.IsLoose) :
    ∃ e, (Content.loose x).elements = .ok e ∧ e.length = 1 := by
  cases hx with
  | int i =>
    have hint : (Content.loose (.int i)).elements
        = Elements.ofLeaves (typeOfInt i).native [.int i] := rfl
    rw [hint, typeOfInt]
    split_ifs <;> exact ⟨_, rfl, rfl⟩
  | float x => exact ⟨_, rfl, rfl⟩

lemma isSingle_of_isLoose {x : Value} (hx : x.IsLoose) : x.IsSingle := by
  cases hx <;> exact ⟨rfl, rfl, rfl⟩

/-- All containers of a number make an array of it, with dimensions of their own. -/
lemma exists_asGrid_of_heldIn {k : Content} {v : Value} (hv : k.HeldIn v) (hk : k.isText = false) :
    ∃ e, k.elements = .ok e ∧ e.length = 1 ∧ v.asGrid = .ok (.only v.dims e) ∧
      v.grid?.isSome = k.isStored := by
  cases hv with
  | loose hx =>
    obtain ⟨e, he, hlength⟩ := exists_elements_of_isLoose hx
    have hgrid : v.grid? = none := by cases hx <;> rfl
    have hdims : v.dims = 0 := by cases hx <;> rfl
    refine ⟨e, he, hlength, ?_, by rw [hgrid]; rfl⟩
    rw [Value.asGrid_of_isSingle hgrid (isSingle_of_isLoose hx) he, hdims]
    rfl
  | @row x _ hx hrow =>
    obtain ⟨e, he, hlength⟩ := exists_elements_of_isLoose hx
    have hdims : v.dims = 1 := by cases hrow <;> rfl
    refine ⟨e, he, hlength, ?_, by rw [Value.grid?_of_isRow hrow]; rfl⟩
    have hsingle : ∀ m ∈ [x], m.IsSingle := List.forall_mem_singleton.2 (isSingle_of_isLoose hx)
    rw [Value.asGrid_of_isRow hrow hsingle he, hdims]
    rfl
  | element hs => cases hs <;> exact ⟨_, rfl, rfl, rfl, rfl⟩
  | numbers dims hs =>
    refine ⟨_, rfl, by cases hs <;> rfl, ?_, rfl⟩
    rw [Value.asGrid_grid, Value.dims, Grid.only, List.length_replicate, Grid.only]
  | _ => cases hk

lemma atLeastOneDim_only (dims : Nat) (e : Elements Value) :
    (Grid.only dims e).atLeastOneDim = .only (max 1 dims) e := by
  cases dims with
  | zero => rfl
  | succ dims =>
    rw [Nat.max_eq_right (Nat.succ_le_succ (Nat.zero_le dims))]
    rfl

/-- The two grids are read alike: they have the same numbers at every place, of the same type. -/
structure Grid.ReadAlike (g h : Grid Value) : Prop where
  type : g.type = h.type
  numberAt : ∀ i, g.numberAt i = h.numberAt i
  numbers : g.numbers = h.numbers

/-- Arrays of one number are read alike if both have one dimension, or both more. -/
lemma Grid.readAlike_only {m n : Nat} (hm : 0 < m) (hn : 0 < n) (hmn : 1 < m ↔ 1 < n)
    (e : Elements Value) : (Grid.only m e).ReadAlike (.only n e) := by
  match m, n with
  | 1, 1 => exact ⟨rfl, fun _ => rfl, rfl⟩
  | m + 2, n + 2 => exact ⟨rfl, fun _ => rfl, rfl⟩
  | 1, n + 2 => omega
  | m + 2, 1 => omega

/-- The two values are read alike as numbers, beside a variable of any type. -/
structure Value.ReadAlike (v w : Value) : Prop where
  factor : Scaling.factor v = Scaling.factor w
  sentinel : ∀ t unsigned, ∃ g h, sentinelGrid v t unsigned = .ok g ∧
    sentinelGrid w t unsigned = .ok h ∧ g.ReadAlike h

/-- Containers of one number are read alike if the arrays that they make have no more than one
dimension, or if both have more. -/
theorem readAlike_of_heldIn {k : Content} {v w : Value} (hv : k.HeldIn v) (hw : k.HeldIn w)
    (hk : k.isText = false) (hdims : 1 < v.dims ↔ 1 < w.dims) : v.ReadAlike w := by
  obtain ⟨e, he, -, hv, hvstored⟩ := exists_asGrid_of_heldIn hv hk
  obtain ⟨_, he', -, hw, hwstored⟩ := exists_asGrid_of_heldIn hw hk
  obtain rfl := Except.ok.inj (he.symm.trans he')
  have halike := Grid.readAlike_only (m := max 1 v.dims) (n := max 1 w.dims) (by omega) (by omega)
    (by omega)
  constructor
  · simp only [Scaling.factor, hv, hw, bind, Except.bind, atLeastOneDim_only, (halike e).numberAt,
      (halike e).type]
  · intro t unsigned
    refine ⟨_, _, sentinelGrid_of_numericGrid (numericGrid_of_asGrid hv t) unsigned,
      sentinelGrid_of_numericGrid (numericGrid_of_asGrid hw t) unsigned, ?_⟩
    rw [hvstored, hwstored, atLeastOneDim_only, atLeastOneDim_only]
    exact halike _

/-! ## Extraction -/

lemma Report.liftM_ok_bind {α β : Type} (x : α) (next : α → Report β) :
    (liftM (Except.ok x : Except Failure α) : Report α) >>= next = next x := rfl

section Replaced

variable {a b : Attributes} {c : Convention} {k : Content} {v w : Value} {t : ElementType}

lemma numeric?_of_heldIn (ha : a.find? c.name = some v) (hv : k.HeldIn v) :
    a.numeric? c = if k.isText then none else some v := by
  rw [Attributes.numeric?, Attributes.given?_of_find? ha (ne_null_of_heldIn hv), Option.filter_some,
    isString_of_heldIn hv]
  cases k.isText <;> rfl

/-- An array of one number is no range. -/
lemma rangeBounds_of_heldIn (ha : a.find? Convention.validRange.name = some v) (hv : k.HeldIn v)
    (unsigned : Bool) : rangeBounds a t unsigned = .ok none := by
  simp only [rangeBounds, numeric?_of_heldIn ha hv]
  cases hk : k.isText with
  | true => rfl
  | false =>
    obtain ⟨e, -, hlength, hgrid, -⟩ := exists_asGrid_of_heldIn hv hk
    obtain ⟨g, -, hg, -, -⟩ := (readAlike_of_heldIn hv hv hk Iff.rfl).sentinel t unsigned
    obtain ⟨g', hg', hsize⟩ := exists_asGrid_of_sentinelGrid hg
    obtain rfl := Except.ok.inj (hgrid.symm.trans hg')
    have hone : ¬ 1 < g.size := by
      rw [hsize, Grid.size, Grid.only, hlength]
      exact lt_irrefl 1
    simp only [hg, Bool.false_eq_true, if_false, bind, Except.bind, hone]
    rfl

/-- For integers with a sign, the mark is seen unless its container hides it. -/
lemma isUnsigned_of_heldIn (ha : a.find? Convention.unsigned.name = some v) (hv : k.HeldIn v)
    (ht : t.isSignedInt = true) : a.isUnsigned t = (k.isMark && !v.hidesMark) := by
  cases t with
  | int i =>
    have hsigned : i.signed = true := ht
    rw [Attributes.isUnsigned, ha, hsigned, Bool.not_true, Bool.false_or, Option.getD_some,
      isUnsignedMark_of_heldIn hv]
  | _ => cases ht

variable (hab : a.AgreeBut c b) (ha : a.find? c.name = some v) (hb : b.find? c.name = some w)
  (hv : k.HeldIn v) (hw : k.HeldIn w)
  (hdims : c ≠ .validRange → c ≠ .unsigned → k.isText = false → (1 < v.dims ↔ 1 < w.dims))
include hab ha hb hv hw

/-- The samples have the same sign unless one container hides a mark that the other shows. -/
lemma isUnsigned_eq_iff_of_heldIn : a.isUnsigned t = b.isUnsigned t ↔
    (c = .unsigned → t.isSignedInt = true → k.isMark = true → v.hidesMark = w.hidesMark) := by
  by_cases hc : c = .unsigned
  · subst hc
    cases ht : t.isSignedInt with
    | false => exact iff_of_true (Attributes.isUnsigned_eq_of_not_isSignedInt ht) nofun
    | true =>
      rw [isUnsigned_of_heldIn ha hv ht, isUnsigned_of_heldIn hb hw ht]
      cases k.isMark with
      | false => exact iff_of_true rfl nofun
      | true => simp
  · exact iff_of_true (Attributes.isUnsigned_congr (hab _ (Ne.symm hc)) t)
      fun h => absurd h hc

include hdims

/-- What an attribute says as a number is the same, or is read alike. -/
lemma numeric?_eq_or_readAlike {d : Convention} (hrange : d ≠ .validRange) (hmark : d ≠ .unsigned) :
    a.numeric? d = b.numeric? d ∨
      ∃ x y, a.numeric? d = some x ∧ b.numeric? d = some y ∧ x.ReadAlike y := by
  by_cases hd : d = c
  · subst hd
    rw [numeric?_of_heldIn ha hv, numeric?_of_heldIn hb hw]
    cases hk : k.isText with
    | true => exact .inl rfl
    | false => exact .inr ⟨v, w, rfl, rfl, readAlike_of_heldIn hv hw hk (hdims hrange hmark hk)⟩
  · exact .inl (Attributes.numeric?_congr (hab d hd))

lemma ofAttributes_eq_of_heldIn : Scaling.ofAttributes a = Scaling.ofAttributes b := by
  have hscale := numeric?_eq_or_readAlike hab ha hb hv hw hdims (d := .scaleFactor) nofun nofun
  have hoffset := numeric?_eq_or_readAlike hab ha hb hv hw hdims (d := .addOffset) nofun nofun
  rcases hscale with hscale | ⟨x, y, hx, hy, hscale⟩ <;>
    rcases hoffset with hoffset | ⟨x', y', hx', hy', hoffset⟩
  · simp only [Scaling.ofAttributes, hscale, hoffset]
  · simp only [Scaling.ofAttributes, hscale, hx', hy', hoffset.factor]
  · simp only [Scaling.ofAttributes, hx, hy, hscale.factor, hoffset]
  · simp only [Scaling.ofAttributes, hx, hy, hscale.factor, hx', hy', hoffset.factor]

lemma singleBounds_eq_of_heldIn (unsigned : Bool) :
    singleBounds a t unsigned = singleBounds b t unsigned := by
  have hmin := numeric?_eq_or_readAlike hab ha hb hv hw hdims (d := .validMin) nofun nofun
  have hmax := numeric?_eq_or_readAlike hab ha hb hv hw hdims (d := .validMax) nofun nofun
  rcases hmin with hmin | ⟨x, y, hx, hy, hmin⟩ <;>
    rcases hmax with hmax | ⟨x', y', hx', hy', hmax⟩
  · simp only [singleBounds, hmin, hmax]
  · obtain ⟨g, h, hg, hh, halike⟩ := hmax.sentinel t unsigned
    simp only [singleBounds, hmin, hx', hy', hg, hh, bind, Except.bind, halike.numberAt,
      halike.type]
  · obtain ⟨g, h, hg, hh, halike⟩ := hmin.sentinel t unsigned
    simp only [singleBounds, hx, hy, hmax, hg, hh, bind, Except.bind, halike.numberAt, halike.type]
  · obtain ⟨g, h, hg, hh, halike⟩ := hmin.sentinel t unsigned
    obtain ⟨g', h', hg', hh', halike'⟩ := hmax.sentinel t unsigned
    simp only [singleBounds, hx, hy, hx', hy', hg, hh, hg', hh', bind, Except.bind,
      halike.numberAt, halike.type, halike'.numberAt, halike'.type]

lemma declaredBounds_eq_of_heldIn (unsigned : Bool) :
    declaredBounds a t unsigned = declaredBounds b t unsigned := by
  have hrange : rangeBounds a t unsigned = rangeBounds b t unsigned := by
    by_cases hc : c = .validRange
    · subst hc
      rw [rangeBounds_of_heldIn ha hv, rangeBounds_of_heldIn hb hw]
    · simp only [rangeBounds, Attributes.numeric?_congr (hab .validRange (Ne.symm hc))]
  rw [declaredBounds, declaredBounds, hrange,
    singleBounds_eq_of_heldIn hab ha hb hv hw hdims unsigned]

lemma declaredFill_eq_of_heldIn (unsigned : Bool) (s : Scaling) (name : String) :
    declaredFill a t unsigned s name = declaredFill b t unsigned s name := by
  by_cases hc : c = .fillValue
  · subst hc
    have hgiven := Attributes.given?_of_find? ha (ne_null_of_heldIn hv)
    have hgiven' := Attributes.given?_of_find? hb (ne_null_of_heldIn hw)
    have hstring := isString_of_heldIn hv
    have hstring' := isString_of_heldIn hw
    cases hk : k.isText with
    | true =>
      simp only [declaredFill, hgiven, hgiven', hstring, hstring', hk, if_true,
        asText_eq_of_heldIn hv hw hk]
    | false =>
      obtain ⟨g, h, hg, hh, halike⟩ :=
        (readAlike_of_heldIn hv hw hk (hdims (by decide) (by decide) hk)).sentinel t unsigned
      simp only [declaredFill, hgiven, hgiven', hstring, hstring', hk, Bool.false_eq_true, if_false,
        hg, hh, Report.liftM_ok_bind, halike.numberAt]
  · exact declaredFill_congr (hab .fillValue (Ne.symm hc)) t unsigned s name

lemma declaredMissing_eq_of_heldIn (unsigned : Bool) (s : Scaling) (name : String) :
    declaredMissing a t unsigned s name = declaredMissing b t unsigned s name := by
  by_cases hc : c = .missingValue
  · subst hc
    have hgiven := Attributes.given?_of_find? ha (ne_null_of_heldIn hv)
    have hgiven' := Attributes.given?_of_find? hb (ne_null_of_heldIn hw)
    have hstring := isString_of_heldIn hv
    have hstring' := isString_of_heldIn hw
    cases hk : k.isText with
    | true =>
      simp only [declaredMissing, hgiven, hgiven', hstring, hstring', hk, if_true,
        asText_eq_of_heldIn hv hw hk]
    | false =>
      obtain ⟨g, h, hg, hh, halike⟩ :=
        (readAlike_of_heldIn hv hw hk (hdims (by decide) (by decide) hk)).sentinel t unsigned
      simp only [declaredMissing, hgiven, hgiven', hstring, hstring', hk, Bool.false_eq_true,
        if_false, hg, hh, Report.liftM_ok_bind, halike.numbers]
  · exact declaredMissing_congr (hab .missingValue (Ne.symm hc)) t unsigned s name

end Replaced

/-- A value may be held in one container or in another, and the same is declared, with the same
notes or the same failure, so long as the samples are of the same sign. They are, unless the value
is the mark of unsigned integers, beside integers with a sign, and one container hides it and the
other does not. Of two containers of a number that is read, both or neither may have more than one
dimension. -/
theorem extract_eq_of_heldIn {a b : Attributes} {c : Convention} {k : Content} {v w : Value}
    {t : ElementType} (hab : a.AgreeBut c b) (ha : a.find? c.name = some v)
    (hb : b.find? c.name = some w) (hv : k.HeldIn v) (hw : k.HeldIn w)
    (hdims : c ≠ .validRange → c ≠ .unsigned → k.isText = false → (1 < v.dims ↔ 1 < w.dims))
    (scaling : Option Scaling) (name : Option String) :
    (a.isUnsigned t = b.isUnsigned t → extract a t scaling name = extract b t scaling name) ∧
      (a.isUnsigned t = b.isUnsigned t ↔
        (c = .unsigned → t.isSignedInt = true → k.isMark = true → v.hidesMark = w.hidesMark)) := by
  refine ⟨fun hsign => ?_, isUnsigned_eq_iff_of_heldIn hab ha hb hv hw⟩
  exact extract_eq_of_parts (fun _ => ofAttributes_eq_of_heldIn hab ha hb hv hw hdims) hsign
    (declaredBounds_eq_of_heldIn hab ha hb hv hw hdims)
    (declaredFill_eq_of_heldIn hab ha hb hv hw hdims)
    (declaredMissing_eq_of_heldIn hab ha hb hv hw hdims) name

/-- A missing value of octets with a sign, which a mark may say are meant without. -/
def markedOctets (mark : Value) : Attributes :=
  ⟨[("_Unsigned", mark), ("missing_value", .scalar (.int ⟨true, .w8, .little⟩ (-1)))]⟩

lemma agreeBut_markedOctets (v w : Value) :
    (markedOctets v).AgreeBut .unsigned (markedOctets w) := by
  intro d hd
  cases d <;> first | rfl | exact absurd rfl hd

/-- A text and its octets both set the mark. -/
theorem extract_eq_of_heldIn_of_octets :
    extract (markedOctets (.text "True")) (.int ⟨true, .w8, .little⟩) none none
        = extract (markedOctets (.bytes [84, 114, 117, 101])) (.int ⟨true, .w8, .little⟩) none
          none ∧
      (extract (markedOctets (.text "True")) (.int ⟨true, .w8, .little⟩) none none).outcome.map
        Declaration.candidates = .ok (some [255]) := by
  have hspells : Ascii.Spells [84, 114, 117, 101] "True" := ⟨by simp, rfl⟩
  obtain ⟨hsame, hsign⟩ := extract_eq_of_heldIn (t := .int ⟨true, .w8, .little⟩)
    (agreeBut_markedOctets _ _) rfl rfl (.text "True") (.octets hspells) nofun none none
  exact ⟨hsame (hsign.2 fun _ _ _ => rfl), by rfl⟩

/-- In an array of one text, the same mark is not seen. -/
theorem array_of_mark_may_change_extraction :
    ¬ ∀ (a b : Attributes) (c : Convention) (k : Content) (v w : Value) (t : ElementType),
      a.AgreeBut c b → a.find? c.name = some v → b.find? c.name = some w → k.HeldIn v →
        k.HeldIn w → v.dims ≤ 1 → w.dims ≤ 1 → extract a t none none = extract b t none none := by
  intro h
  have harray : (Content.text "true").HeldIn (.grid (.only 1 (.texts 4 .little ["true"]))) :=
    .texts 1 4 .little "true"
  have hsame := h _ _ .unsigned _ _ _ (.int ⟨true, .w8, .little⟩)
    (agreeBut_markedOctets (.text "true") _) rfl rfl (.text "true") harray (by decide) (by decide)
  have hshown : (extract (markedOctets (.text "true")) (.int ⟨true, .w8, .little⟩) none
      none).outcome.map Declaration.candidates = .ok (some [255]) := by rfl
  have hsign := isUnsigned_of_heldIn (a := markedOctets _) (t := .int ⟨true, .w8, .little⟩) rfl
    harray rfl
  have hhidden : (extract (markedOctets (.grid (.only 1 (.texts 4 .little ["true"]))))
      (.int ⟨true, .w8, .little⟩) none none).outcome.map Declaration.candidates
        = .ok (some [.ofInt (-1)]) := by
    rw [outcome_extract, hsign]
    rfl
  rw [hsame, hhidden, Except.ok.injEq] at hshown
  exact absurd hshown (by decide +kernel)

end MissingSamples
