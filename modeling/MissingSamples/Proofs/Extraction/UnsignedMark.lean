/-
# What sets the mark of unsigned integers

The mark is set by what says "true", with capitals or small, and with blanks around it or none. So a
text with a character in it that is neither a blank nor one of these letters says something else.
Digits, signs, points and brackets are such characters: no number sets the mark, no list does, and
no array that is written in brackets.

* `saysTrue_eq_false_of_hasForeign` says that one such character is enough;
* `hasForeign_shown_of_isNumber` finds one in a number, `hasForeign_shown_of_isRow` in a list and
  `hasForeign_shown_of_dims` in an array with dimensions.
-/
import Mathlib.Data.List.TakeWhile
import Mathlib.Tactic.IntervalCases
import Mathlib.Tactic.Lemma
import MissingSamples.Extraction
import MissingSamples.Proofs.Value.Rows

namespace MissingSamples

/-- The text says "true". -/
def saysTrue (s : String) : Bool := lowerAscii (strip s) == "true"

/-- The character stands in no text that says "true". -/
def isForeign (c : Char) : Bool := !isBlank c && !"true".toList.contains c.toLower

/-- There is a character in the text with which it cannot say "true". -/
def HasForeign (s : String) : Prop := ∃ c ∈ s.toList, isForeign c = true

/-! ## Foreign characters -/

lemma mem_dropWhile_of_not {p : Char → Bool} {c : Char} {cs : List Char} (hc : c ∈ cs)
    (hp : p c = false) : c ∈ cs.dropWhile p := by
  rw [← List.takeWhile_append_dropWhile (p := p) (l := cs)] at hc
  rcases List.mem_append.1 hc with hc | hc
  · rw [List.mem_takeWhile_imp hc] at hp
    cases hp
  · exact hc

/-- What `p` does not take off stays. -/
lemma mem_stripBy {p : Char → Bool} {c : Char} {cs : List Char} (hc : c ∈ cs) (hp : p c = false) :
    c ∈ stripBy p cs := by
  refine List.mem_reverse.2 (mem_dropWhile_of_not ?_ hp)
  exact List.mem_reverse.2 (mem_dropWhile_of_not hc hp)

lemma saysTrue_eq_false_of_hasForeign {s : String} (h : HasForeign s) : saysTrue s = false := by
  obtain ⟨c, hc, hforeign⟩ := h
  simp only [isForeign, Bool.and_eq_true, Bool.not_eq_true'] at hforeign
  obtain ⟨hblank, hletter⟩ := hforeign
  rw [saysTrue, beq_eq_false_iff_ne]
  intro htrue
  have hlower : c.toLower ∈ (lowerAscii (strip s)).toList := by
    rw [lowerAscii, String.toList_ofList, strip, String.toList_ofList]
    exact List.mem_map_of_mem (mem_stripBy hc hblank)
  rw [htrue] at hlower
  rw [List.contains_eq_mem, decide_eq_false_iff_not] at hletter
  exact hletter hlower

lemma isForeign_of_isDigit {c : Char} (h : c.isDigit = true) : isForeign c = true := by
  simp only [Char.isDigit, Bool.and_eq_true, decide_eq_true_eq] at h
  have hlow : 48 ≤ c.toNat := h.1
  have hhigh : c.toNat ≤ 57 := h.2
  rw [← Char.ofNat_toNat c]
  generalize c.toNat = n at hlow hhigh ⊢
  interval_cases n <;> decide

namespace HasForeign

variable {s : String} (h : HasForeign s)
include h

lemma append_left (r : String) : HasForeign (r ++ s) := by
  obtain ⟨c, hc, hforeign⟩ := h
  exact ⟨c, by rw [String.toList_append]; exact List.mem_append_right _ hc, hforeign⟩

lemma append_right (r : String) : HasForeign (s ++ r) := by
  obtain ⟨c, hc, hforeign⟩ := h
  exact ⟨c, by rw [String.toList_append]; exact List.mem_append_left _ hc, hforeign⟩

end HasForeign

/-! ## Numbers -/

lemma hasForeign_ofNat (n : Nat) : HasForeign n.repr := by
  obtain ⟨c, hc⟩ := List.exists_mem_of_ne_nil _ (Nat.toDigits_ne_nil (n := n) (b := 10))
  refine ⟨c, ?_, isForeign_of_isDigit (Nat.isDigit_of_mem_toDigits (by decide) le_rfl hc)⟩
  rwa [Nat.repr, String.toList_ofList]

lemma hasForeign_ofInt (i : Int) : HasForeign (toString i) := by
  cases i with
  | ofNat n => exact hasForeign_ofNat n
  | negSucc n => exact (hasForeign_ofNat _).append_left "-"

namespace Notation

lemma exists_isForeign_positional {style : Style} (h : style.wholeMark = true) (d : Decimal) :
    ∃ c ∈ positional style d, isForeign c = true := by
  refine ⟨'.', ?_, by decide⟩
  unfold positional
  split
  · rw [h, if_pos rfl]
    exact List.mem_append_right _ List.mem_cons_self
  · exact List.mem_append_right _ List.mem_cons_self

lemma exists_isForeign_withExponent (d : Decimal) : ∃ c ∈ withExponent d, isForeign c = true := by
  obtain ⟨c, hc, hforeign⟩ : ∃ c ∈
      exponentText 2 (d.exponent + (Nat.toDigits 10 d.digits).length - 1), isForeign c = true := by
    refine ⟨_, List.mem_cons_self, ?_⟩
    split_ifs <;> decide
  exact ⟨c, List.mem_append_right _ (List.mem_cons_of_mem _ hc), hforeign⟩

/-- A number of a style that marks whole numbers has a foreign character. -/
lemma hasForeign_text {style : Style} (h : style.wholeMark = true)
    (interval : Nat → Decimal.Interval) (x : Double) : HasForeign (text style interval x) := by
  cases x with
  | nan =>
    rw [text_nan]
    exact ⟨'n', by decide, by decide⟩
  | infinite negative =>
    rw [text]
    split_ifs
    · exact ⟨'-', by decide, by decide⟩
    · exact ⟨'i', by decide, by decide⟩
  | finite negative units holds =>
    obtain ⟨c, hc, hforeign⟩ : ∃ c ∈ if style.isPositional units
        then positional style (shortest interval units) else withExponent (shortest interval units),
        isForeign c = true := by
      split_ifs
      · exact exists_isForeign_positional h _
      · exact exists_isForeign_withExponent _
    refine ⟨c, ?_, hforeign⟩
    rw [text, String.toList_ofList]
    cases negative with
    | false => exact hc
    | true => exact List.mem_cons_of_mem _ hc

end Notation

lemma hasForeign_complexText (w : FloatWidth) (re im : Double) :
    HasForeign (complexText w re im) := by
  have hunit : HasForeign "j" := ⟨'j', by decide, by decide⟩
  unfold complexText
  dsimp only
  split_ifs
  · exact hunit.append_left _
  · exact hunit.append_left _
  · exact hunit.append_left _

lemma hasForeign_complexShown (w : FloatWidth) (re im : Double) :
    HasForeign (complexShown w re im) := by
  have htext := hasForeign_complexText w re im
  unfold complexShown
  dsimp only
  split_ifs
  · exact htext
  · exact (htext.append_left _).append_right _

/-- The element is an integer, a floating number or a complex number. -/
inductive Scalar.IsNumber : Scalar → Prop
  /-- An integer. -/
  | int (t : IntType) (i : Int) : IsNumber (.int t i)
  /-- A floating number. -/
  | float (t : FloatType) (x : Double) : IsNumber (.float t x)
  /-- A complex number. -/
  | complex (t : FloatType) (re im : Double) : IsNumber (.complex t re im)

/-- A number of a type by itself has a foreign character, whatever its type. -/
lemma hasForeign_shown_of_isNumber {s : Scalar} (hs : s.IsNumber) : HasForeign s.shown := by
  cases hs with
  | int t i => exact hasForeign_ofInt i
  | float t x => exact Notation.hasForeign_text rfl _ x
  | complex t re im => exact hasForeign_complexShown t.width re im

/-! ## Lists and arrays -/

lemma hasForeign_enclosed {opening : String} (h : HasForeign opening) (closing : String)
    (parts : List String) : HasForeign (enclosed opening closing parts) :=
  (h.append_right _).append_right closing

lemma hasForeign_shown_of_isRow {v : Value} {members : List Value} (h : v.IsRow members) :
    HasForeign v.shown := by
  have hround : HasForeign "(" := ⟨'(', by decide, by decide⟩
  have hsquare : HasForeign "[" := ⟨'[', by decide, by decide⟩
  cases h with
  | list =>
    simp only [Value.shown, Value.quoted]
    exact hasForeign_enclosed hsquare _ _
  | tuple =>
    -- a list of one that cannot grow is written in another way
    rcases members with _ | ⟨x, _ | ⟨y, rest⟩⟩
    · simp only [Value.shown, Value.quoted]
      exact hasForeign_enclosed hround _ _
    · simp only [Value.shown, Value.quoted]
      exact (hround.append_right _).append_right _
    · simp only [Value.shown, Value.quoted]
      exact hasForeign_enclosed hround _ _

lemma hasForeign_quoted_bytes (xs : List UInt8) : HasForeign (Scalar.bytes xs).quoted := by
  have hround : HasForeign "(" := ⟨'(', by decide, by decide⟩
  rw [Scalar.quoted, Scalar.named, if_neg Bool.false_ne_true]
  exact ((hround.append_left _).append_right _).append_right _

lemma hasForeign_inBrackets (indent s : String) : HasForeign (Setting.inBrackets indent s) := by
  have hsquare : HasForeign "[" := ⟨'[', by decide, by decide⟩
  exact (hsquare.append_right _).append_right _

/-- An array with dimensions is written in brackets. -/
lemma hasForeign_bracketed {g : Grid String} (h : g.shape ≠ []) : HasForeign g.bracketed := by
  obtain ⟨shape, e⟩ := g
  rw [Grid.bracketed, Grid.lines]
  split_ifs
  · exact ⟨'[', by decide, by decide⟩
  all_goals
    cases shape with
    | nil => exact absurd rfl h
    | cons n rest =>
      cases rest with
      | nil => exact hasForeign_inBrackets _ _
      | cons m rest => exact hasForeign_inBrackets _ _

lemma hasForeign_shown_of_dims {shape : List Nat} (h : shape ≠ []) (e : Elements Value) :
    HasForeign (Value.grid ⟨shape, e⟩).shown := by
  cases shape with
  | nil => exact absurd rfl h
  | cons n rest =>
    rw [Value.shown, shownGrid]
    · exact hasForeign_bracketed (List.cons_ne_nil n rest)
    · exact List.cons_ne_nil n rest

end MissingSamples
