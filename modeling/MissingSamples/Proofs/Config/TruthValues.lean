/-
# Truth values in settings

Which settings are truth values, and which one each of them is: a truth value itself, zero or one as
an integer or as a floating number, or one of twelve words, as text or as octets and without regard
to case. Other integers and words are the kind of thing that could be a truth value but say none,
and nothing else is of that kind.

The texts of an environment go through two tables of words. The first turns some words into truth
values and leaves the others as they are, but for the blanks around them; the second reads the words
that are left. The first holds no word that the second reads in another way.

* `Value.asFlag_eq_ok_iff` and `Value.asFlag_eq_unreadable_iff` say what a setting is as a flag;
* `Value.coercedAs_coerceText` says what becomes of a text of the environment, and
  `Value.asFlag_coerceText_eq_ok_iff` what it is as a flag.
-/
import MissingSamples.Config
import MissingSamples.Proofs.Binary.Order

namespace MissingSamples

open Double

/-- The number is the integer. -/
def Double.IsInt (x : Double) (i : Int) : Prop := x.isFinite = true ∧ x.level = i * unitsPerOne

namespace Value

/-! ## What settings mean -/

/-- The words for a truth value. -/
def wordsFor : Bool → List String
  | false => ["0", "off", "f", "false", "n", "no"]
  | true => ["1", "on", "t", "true", "y", "yes"]

/-- The value is a word: a text, or octets that spell one. -/
inductive IsWord : Value → String → Prop
  /-- A text. -/
  | text (s : String) : IsWord (.text s) s
  /-- A text of an array. -/
  | scalarText (s : String) : IsWord (.scalar (.text s)) s
  /-- Octets. -/
  | bytes (xs : List UInt8) : IsWord (.bytes xs) (Utf8.decode xs)
  /-- Octets of an array. -/
  | scalarBytes (xs : List UInt8) : IsWord (.scalar (.bytes xs)) (Utf8.decode xs)

/-- The value is an integer. -/
inductive IsInteger : Value → Int → Prop
  /-- An integer by itself. -/
  | int (i : Int) : IsInteger (.int i) i
  /-- An integer of an array. -/
  | scalar (t : IntType) (i : Int) : IsInteger (.scalar (.int t i)) i
  /-- An array of no dimensions. -/
  | grid (t : IntType) (i : Int) : IsInteger (.grid ⟨[], .ints t [i]⟩) i

/-- The value is a floating number, or a value of an array or an array. -/
inductive IsNumeric : Value → Prop
  | float (x : Double) : IsNumeric (.float x)
  | scalar (s : Scalar) : IsNumeric (.scalar s)
  | grid (g : Grid Value) : IsNumeric (.grid g)

/-- The value is no word and no integer, and has a number all the same. -/
structure IsNumber (v : Value) (x : Double) : Prop where
  isNumeric : v.IsNumeric
  notWord : ∀ word, ¬v.IsWord word
  notInteger : ∀ i, ¬v.IsInteger i
  number : v.number = .ok x

/-- The value is the truth value, as settings may have it. -/
inductive IsFlag (b : Bool) : Value → Prop
  /-- It is the truth value itself. -/
  | itself : IsFlag b (.bool b)
  /-- It is a word for it. -/
  | word {v : Value} {word : String} (isWord : v.IsWord word)
    (listed : lowerAscii word ∈ wordsFor b) : IsFlag b v
  /-- It is zero or one. -/
  | integer {v : Value} (isInteger : v.IsInteger b.toInt) : IsFlag b v
  /-- It is zero or one as a floating number. -/
  | number {v : Value} {x : Double} (isNumber : v.IsNumber x) (isInt : x.IsInt b.toInt) : IsFlag b v

/-- The value could be a truth value by its kind, but says none. -/
inductive IsUnclear : Value → Prop
  /-- It is a word for nothing. -/
  | word {v : Value} {word : String} (isWord : v.IsWord word)
    (unlisted : ∀ b, lowerAscii word ∉ wordsFor b) : IsUnclear v
  /-- It is another integer of eight octets. -/
  | integer {v : Value} {i : Int} (isInteger : v.IsInteger i) (other : ∀ b : Bool, i ≠ b.toInt)
    (fits : IntType.int64.least ≤ i ∧ i ≤ IntType.int64.greatest) : IsUnclear v
  /-- It is another integer of eight octets as a floating number, but for the least of them. -/
  | number {v : Value} {x : Double} {i : Int} (isNumber : v.IsNumber x) (isInt : x.IsInt i)
    (other : ∀ b : Bool, i ≠ b.toInt)
    (fits : IntType.int64.least < i ∧ i ≤ IntType.int64.greatest) : IsUnclear v

/-! ## Words -/

variable {word : String} {b : Bool} {i : Int} {v : Value} {x : Double}

lemma lookup_settingWords_eq_some_iff :
    settingWords.lookup word = some b ↔ word ∈ wordsFor b := by
  have hlisted : ∀ e ∈ settingWords, e.1 ∈ wordsFor e.2 := by decide
  have hfound : ∀ b, ∀ word ∈ wordsFor b, settingWords.lookup word = some b := by decide
  refine ⟨fun h => ?_, hfound b word⟩
  obtain ⟨before, after, hsplit, -⟩ := List.lookup_eq_some_iff.1 h
  exact hlisted (word, b) (by rw [hsplit]; simp)

lemma wordAsFlag_eq_ok_iff : wordAsFlag word = .ok b ↔ lowerAscii word ∈ wordsFor b := by
  rw [wordAsFlag, ← lookup_settingWords_eq_some_iff]
  cases settingWords.lookup (lowerAscii word) <;> simp

lemma wordAsFlag_eq_unreadable_iff :
    wordAsFlag word = .error .unreadable ↔ ∀ b, lowerAscii word ∉ wordsFor b := by
  simp only [← wordAsFlag_eq_ok_iff]
  rw [wordAsFlag]
  cases settingWords.lookup (lowerAscii word) <;> simp

/-! ## Integers -/

lemma intAsFlag_eq_ok_iff : intAsFlag i = .ok b ↔ i = b.toInt := by
  rw [intAsFlag]
  split_ifs with hzero hone <;> cases b <;> simp_all

lemma intAsFlag_eq_unreadable_iff :
    intAsFlag i = .error .unreadable ↔
      (∀ b : Bool, i ≠ b.toInt) ∧ IntType.int64.least ≤ i ∧ i ≤ IntType.int64.greatest := by
  rw [intAsFlag]
  split_ifs with hzero hone <;> simp_all

/-! ## Floating numbers -/

/-- A finite number is an integer if it is whole, and then it is the whole part with its sign. -/
lemma isInt_finite_iff {s : Bool} {n : Nat} {hn : FloatFormat.binary64.Holds n} :
    (finite s n hn).IsInt i ↔
      n % unitsPerOne = 0 ∧ (if s then -1 else 1) * ((n / unitsPerOne : Nat) : Int) = i := by
  have hsigned (k : Nat) : (if s then -1 else 1) * (k : Int) = signed s k := by
    cases s <;> simp [signed]
  have hone : (unitsPerOne : Int) ≠ 0 := by exact_mod_cast unitsPerOne_pos.ne'
  rw [hsigned]
  constructor
  · rintro ⟨-, hlevel⟩
    rw [level] at hlevel
    have hn : n = i.natAbs * unitsPerOne := by
      rw [← natAbs_signed s n, hlevel, Int.natAbs_mul, Int.natAbs_natCast]
    rw [hn, signed_mul_natCast] at hlevel
    rw [hn, Nat.mul_mod_left, Nat.mul_div_cancel _ unitsPerOne_pos]
    exact ⟨rfl, Int.eq_of_mul_eq_mul_right hone hlevel⟩
  · rintro ⟨hwhole, rfl⟩
    refine ⟨rfl, ?_⟩
    rw [level, ← signed_mul_natCast, Nat.div_mul_cancel (Nat.dvd_of_mod_eq_zero hwhole)]

/-- A number is read as the integer that it is. -/
lemma numberAsFlag_of_isInt (hx : v.number = .ok x) (hi : x.IsInt i) :
    v.numberAsFlag = if i = IntType.int64.least then .error .notTruth else intAsFlag i := by
  cases x with
  | nan | infinite => exact absurd hi.1 Bool.false_ne_true
  | finite s n hn =>
    obtain ⟨hwhole, rfl⟩ := isInt_finite_iff.1 hi
    simp only [numberAsFlag, hx, hwhole, true_and, ite_not]

lemma numberAsFlag_of_not_isInt (h : ¬∃ x i, v.number = .ok x ∧ x.IsInt i) :
    v.numberAsFlag = .error .notTruth := by
  rw [numberAsFlag]
  split
  · next s n hn hx =>
    refine if_neg fun hwhole => h ⟨_, _, hx, isInt_finite_iff.2 ⟨hwhole.1, rfl⟩⟩
  · rfl

lemma numberAsFlag_eq_ok_iff :
    v.numberAsFlag = .ok b ↔ ∃ x, v.number = .ok x ∧ x.IsInt b.toInt := by
  constructor
  · intro h
    by_cases hint : ∃ x i, v.number = .ok x ∧ x.IsInt i
    · obtain ⟨x, i, hx, hi⟩ := hint
      rw [numberAsFlag_of_isInt hx hi] at h
      split_ifs at h
      rw [← intAsFlag_eq_ok_iff.1 h]
      exact ⟨x, hx, hi⟩
    · rw [numberAsFlag_of_not_isInt hint] at h
      cases h
  · rintro ⟨x, hx, hi⟩
    have hleast : b.toInt ≠ IntType.int64.least := by cases b <;> decide
    rw [numberAsFlag_of_isInt hx hi, if_neg hleast, intAsFlag_eq_ok_iff]

lemma numberAsFlag_eq_unreadable_iff :
    v.numberAsFlag = .error .unreadable ↔
      ∃ x i, v.number = .ok x ∧ x.IsInt i ∧ (∀ b : Bool, i ≠ b.toInt) ∧
        IntType.int64.least < i ∧ i ≤ IntType.int64.greatest := by
  constructor
  · intro h
    by_cases hint : ∃ x i, v.number = .ok x ∧ x.IsInt i
    · obtain ⟨x, i, hx, hi⟩ := hint
      rw [numberAsFlag_of_isInt hx hi] at h
      split_ifs at h with hleast
      · cases h
      · obtain ⟨hother, hge, hle⟩ := intAsFlag_eq_unreadable_iff.1 h
        exact ⟨x, i, hx, hi, hother, lt_of_le_of_ne hge (Ne.symm hleast), hle⟩
    · rw [numberAsFlag_of_not_isInt hint] at h
      cases h
  · rintro ⟨x, i, hx, hi, hother, hlt, hle⟩
    rw [numberAsFlag_of_isInt hx hi, if_neg hlt.ne', intAsFlag_eq_unreadable_iff]
    exact ⟨hother, hlt.le, hle⟩

/-! ## All settings -/

lemma asFlag_of_isWord (h : v.IsWord word) : v.asFlag = wordAsFlag word := by
  cases h <;> rfl

lemma asFlag_of_isInteger (h : v.IsInteger i) : v.asFlag = intAsFlag i := by
  cases h <;> rfl

lemma asFlag_of_isNumeric (h : v.IsNumeric) (hword : ∀ word, ¬v.IsWord word)
    (hinteger : ∀ i, ¬v.IsInteger i) : v.asFlag = v.numberAsFlag := by
  cases h with
  | float x => rfl
  | scalar s =>
    cases s with
    | int t i => exact absurd (.scalar t i) (hinteger i)
    | text s => exact absurd (.scalarText s) (hword s)
    | bytes xs => exact absurd (.scalarBytes xs) (hword _)
    | _ => rfl
  | grid g =>
    rw [asFlag]
    rintro t i rfl
    exact hinteger i (.grid t i)

/-- A setting is a word, or an integer, or may have a number, or is a truth value, or else it is of
no use as one. -/
lemma asFlag_cases (v : Value) :
    (∃ word, v.IsWord word) ∨ (∃ i, v.IsInteger i) ∨
      (v.IsNumeric ∧ (∀ word, ¬v.IsWord word) ∧ ∀ i, ¬v.IsInteger i) ∨ (∃ b, v = .bool b) ∨
      v.asFlag = .error .notTruth := by
  by_cases hword : ∃ word, v.IsWord word
  · exact Or.inl hword
  by_cases hinteger : ∃ i, v.IsInteger i
  · exact Or.inr (Or.inl hinteger)
  rw [not_exists] at hword hinteger
  by_cases hnumeric : v.IsNumeric
  · exact Or.inr (Or.inr (Or.inl ⟨hnumeric, hword, hinteger⟩))
  cases v with
  | bool b => exact Or.inr (Or.inr (Or.inr (Or.inl ⟨b, rfl⟩)))
  | text s => exact absurd (.text s) (hword s)
  | bytes xs => exact absurd (.bytes xs) (hword _)
  | int i => exact absurd (.int i) (hinteger i)
  | float x => exact absurd (.float x) hnumeric
  | scalar s => exact absurd (.scalar s) hnumeric
  | grid g => exact absurd (.grid g) hnumeric
  | _ => exact Or.inr (Or.inr (Or.inr (Or.inr rfl)))

/-- A setting is the truth value if it is itself one, a word for it, or zero or one. -/
theorem asFlag_eq_ok_iff : v.asFlag = .ok b ↔ v.IsFlag b := by
  constructor
  · intro h
    rcases v.asFlag_cases with ⟨word, hword⟩ | ⟨i, hi⟩ | ⟨hv, hword, hint⟩ | ⟨c, rfl⟩ | hnone
    · rw [asFlag_of_isWord hword] at h
      exact .word hword (wordAsFlag_eq_ok_iff.1 h)
    · rw [asFlag_of_isInteger hi] at h
      exact .integer (intAsFlag_eq_ok_iff.1 h ▸ hi)
    · rw [asFlag_of_isNumeric hv hword hint] at h
      obtain ⟨x, hx, hi⟩ := numberAsFlag_eq_ok_iff.1 h
      exact .number ⟨hv, hword, hint, hx⟩ hi
    · rw [← Except.ok.inj h]
      exact .itself
    · rw [hnone] at h
      cases h
  · intro h
    cases h with
    | itself => rfl
    | word isWord listed => rw [asFlag_of_isWord isWord, wordAsFlag_eq_ok_iff.2 listed]
    | integer isInteger => rw [asFlag_of_isInteger isInteger, intAsFlag_eq_ok_iff]
    | number isNumber isInt =>
      rw [asFlag_of_isNumeric isNumber.isNumeric isNumber.notWord isNumber.notInteger]
      exact numberAsFlag_eq_ok_iff.2 ⟨_, isNumber.number, isInt⟩

/-- A setting is unreadable if it could be a truth value and says none. -/
theorem asFlag_eq_unreadable_iff : v.asFlag = .error .unreadable ↔ v.IsUnclear := by
  constructor
  · intro h
    rcases v.asFlag_cases with ⟨word, hword⟩ | ⟨i, hi⟩ | ⟨hv, hword, hint⟩ | ⟨c, rfl⟩ | hnone
    · rw [asFlag_of_isWord hword] at h
      exact .word hword (wordAsFlag_eq_unreadable_iff.1 h)
    · rw [asFlag_of_isInteger hi] at h
      obtain ⟨hother, hfits⟩ := intAsFlag_eq_unreadable_iff.1 h
      exact .integer hi hother hfits
    · rw [asFlag_of_isNumeric hv hword hint] at h
      obtain ⟨x, i, hx, hi, hother, hfits⟩ := numberAsFlag_eq_unreadable_iff.1 h
      exact .number ⟨hv, hword, hint, hx⟩ hi hother hfits
    · cases h
    · rw [hnone] at h
      cases h
  · intro h
    cases h with
    | word isWord unlisted =>
      rw [asFlag_of_isWord isWord, wordAsFlag_eq_unreadable_iff.2 unlisted]
    | integer isInteger other fits =>
      rw [asFlag_of_isInteger isInteger, intAsFlag_eq_unreadable_iff.2 ⟨other, fits⟩]
    | number isNumber isInt other fits =>
      rw [asFlag_of_isNumeric isNumber.isNumeric isNumber.notWord isNumber.notInteger]
      exact numberAsFlag_eq_unreadable_iff.2 ⟨_, _, isNumber.number, isInt, other, fits⟩

/-! ## Texts of the environment -/

/-- The value is what a text of the environment stands for: a truth value if it is one of eight
words, and otherwise itself, without the blanks around it. -/
inductive CoercedAs (s : String) : Value → Prop
  /-- It is a word for true. -/
  | yes (listed : lowerAscii (strip s) ∈ ["true", "yes", "on", "1"]) : CoercedAs s (.bool true)
  /-- It is a word for false. -/
  | no (listed : lowerAscii (strip s) ∈ ["false", "no", "off", "0"]) : CoercedAs s (.bool false)
  /-- It is none of these words. -/
  | itself (unlisted : lowerAscii (strip s) ∉
      ["true", "yes", "on", "1", "false", "no", "off", "0"]) : CoercedAs s (.text (strip s))

theorem coercedAs_coerceText (s : String) : CoercedAs s (coerceText s) := by
  rw [coerceText]
  cases hfound : plainWords.lookup (lowerAscii (strip s)) with
  | none =>
    refine .itself fun hlisted => ?_
    have hall : ∀ word ∈ ["true", "yes", "on", "1", "false", "no", "off", "0"],
        (plainWords.lookup word).isSome = true := by decide
    have hsome := hall _ hlisted
    rw [hfound] at hsome
    cases hsome
  | some b =>
    obtain ⟨before, after, hsplit, -⟩ := List.lookup_eq_some_iff.1 hfound
    have hmem : (lowerAscii (strip s), b) ∈ plainWords := by rw [hsplit]; simp
    have hall : ∀ e ∈ plainWords,
        e.1 ∈ if e.2 then ["true", "yes", "on", "1"] else ["false", "no", "off", "0"] := by
      decide
    have hlisted := hall (lowerAscii (strip s), b) hmem
    cases b with
    | true => exact .yes hlisted
    | false => exact .no hlisted

/-- The second table reads the words of the first as they were read there. -/
theorem asFlag_coerceText_eq_ok_iff {s : String} :
    (coerceText s).asFlag = .ok b ↔ lowerAscii (strip s) ∈ wordsFor b := by
  rw [← wordAsFlag_eq_ok_iff]
  have h := coercedAs_coerceText s
  generalize coerceText s = v at h
  cases h with
  | yes listed =>
    have hall : ∀ word ∈ ["true", "yes", "on", "1"], settingWords.lookup word = some true := by
      decide
    simp only [asFlag, wordAsFlag, hall _ listed]
  | no listed =>
    have hall : ∀ word ∈ ["false", "no", "off", "0"], settingWords.lookup word = some false := by
      decide
    simp only [asFlag, wordAsFlag, hall _ listed]
  | itself => rw [asFlag_of_isWord (.text _)]

end Value

end MissingSamples
