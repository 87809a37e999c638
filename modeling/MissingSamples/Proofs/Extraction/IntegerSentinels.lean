/-
# Integers as missing values of unsigned variables

A list of integers that have no type of their own takes one type as a whole: the type of the
variable, or the signed one of the same width, or eight octets with sign if it fits neither. At the
width of that type its negative members are read as unsigned. So what a negative integer stands for
depends on the greatest integer beside it, and what any other stands for does not.

* `listedWidth` is the width at which a member of a list is read;
* `sentinelGrid_of_integers` says that members are read at it, by the cases of the type;
* `outcome_extract_of_integers` is what comes of such a list, and when it is what a member alone
  would stand for.
-/
import MissingSamples.Proofs.Extraction.OneSentinel
import MissingSamples.Proofs.Scaling

namespace MissingSamples

open Elements (unsignedOf)

/-! ## Integers without a type -/

section Integers

variable {ns : List Int}

lemma isSingle_integers (ns : List Int) : ∀ m ∈ ns.map Value.int, m.IsSingle :=
  List.forall_mem_map.2 fun _ _ => ⟨rfl, rfl, rfl⟩

/-- Integers of at most eight octets have that type together. -/
lemma typeOfLeaves_integers (hne : ns ≠ [])
    (h : ∀ n ∈ ns, IntType.int64.least ≤ n ∧ n ≤ IntType.int64.greatest) :
    typeOfLeaves (ns.map Value.int) = .int .int64 := by
  exact typeOfLeaves_of_forall rfl (by simpa using hne)
    (List.forall_mem_map.2 fun n hn => if_pos (h n hn))

lemma ofLeaves_integers (t : IntType) (ns : List Int) :
    Elements.ofLeaves (.int t) (ns.map Value.int) = .ok (.ints t ns) := by
  have hitems := items_of_isSingle (isSingle_integers ns)
  have hintegers : (ns.map Value.int).map Value.toInt = ns := by
    rw [List.map_map]
    exact List.map_id' ns
  simp only [Elements.ofLeaves, hitems, hintegers]

lemma numericGrid_integers {v : Value} (hv : v.IsRow (ns.map Value.int)) (hne : ns ≠ [])
    (h : ∀ n ∈ ns, IntType.int64.least ≤ n ∧ n ≤ IntType.int64.greatest) (t : ElementType) :
    numericGrid v t = .ok ⟨[ns.length], besideVariable t (.ints .int64 ns)⟩ := by
  have he : Elements.ofLeaves (typeOfLeaves (ns.map Value.int)) (ns.map Value.int)
      = .ok (.ints .int64 ns) := by
    rw [typeOfLeaves_integers hne h, ofLeaves_integers]
  rw [numericGrid_of_isRow hv (isSingle_integers ns) he, List.length_map]

end Integers

/-! ## The width of a list -/

/-- The width at which an integer is read as unsigned in a list that stands beside integers of the
type. A negative integer is read at the width of the type only if no other is above the greatest
with sign. -/
def listedWidth (t : IntType) (ns : List Int) (n : Int) : IntWidth :=
  if 0 ≤ n ∨ ∀ m ∈ ns, m ≤ t.signedOf.greatest then t.width else .w64

/-- The integer has a place among the integers of the width of the type, with or without sign. -/
def IntType.Holds (t : IntType) (n : Int) : Prop := t.signedOf.least ≤ n ∧ n ≤ t.unsignedOf.greatest

section Width

variable {t : IntType} {ns : List Int}

lemma unsignedOf_of_holds {n : Int} (hn : t.Holds n) (hpos : 0 ≤ n) (w : IntWidth)
    (hw : t.width.octets ≤ w.octets) : unsignedOf w n = n := by
  have hgreatest : n < (twoPow t.width.bits : Int) := by
    have := hn.2
    simp only [IntType.greatest, IntType.unsignedOf, Bool.false_eq_true, if_false] at this
    omega
  have hwidth : (twoPow t.width.bits : Int) ≤ twoPow w.bits := by
    have hbits : t.width.bits ≤ w.bits := Nat.mul_le_mul_left 8 hw
    exact_mod_cast twoPow_le_twoPow hbits
  exact Int.emod_eq_of_lt hpos (by omega)

lemma holdsAll_iff : t.holdsAll ns = true ↔ ∀ n ∈ ns, t.least ≤ n ∧ n ≤ t.greatest := by
  simp only [IntType.holdsAll, List.all_eq_true, Bool.and_eq_true, decide_eq_true_eq]

/-- Integers that have a place at the width fit the signed type of it if none is too great. -/
lemma signedOf_holdsAll_iff (hns : ∀ n ∈ ns, t.Holds n) :
    t.signedOf.holdsAll ns = true ↔ ∀ n ∈ ns, n ≤ t.signedOf.greatest := by
  rw [holdsAll_iff]
  constructor
  · exact fun h n hn => (h n hn).2
  · exact fun h n hn => ⟨(hns n hn).1, h n hn⟩

/-- What reading integers of the type as unsigned makes of a list. -/
lemma result_toUnsigned_ints (u : IntType) (ns : List Int) :
    ((Elements.ints u ns : Elements Value).toUnsigned true).result (.ints u ns)
      = if u.signed then .ints u.unsignedOf (ns.map (unsignedOf u.width)) else .ints u ns := by
  cases hu : u.signed <;> simp [Elements.toUnsigned, hu]

/-- Whatever type the list takes beside the variable, every member is read at its width. -/
lemma toUnsigned_besideVariable (hne : ns ≠ []) (hns : ∀ n ∈ ns, t.Holds n) :
    ∃ u, ((besideVariable (.int t) (.ints .int64 ns)).toUnsigned true).result
        (besideVariable (.int t) (.ints .int64 ns))
      = .ints u (ns.map fun n => unsignedOf (listedWidth t ns n) n) := by
  have hempty : ns.isEmpty = false := by rwa [List.isEmpty_eq_false_iff]
  -- all members fit the signed type of the width
  have hfits : (∀ n ∈ ns, n ≤ t.signedOf.greatest) →
      ns.map (unsignedOf t.width) = ns.map fun n => unsignedOf (listedWidth t ns n) n := by
    intro h
    refine List.map_congr_left fun n _ => ?_
    rw [listedWidth, if_pos (Or.inr h)]
  have hbeside : besideVariable (.int t) (.ints .int64 ns)
      = if t.holdsAll ns then .ints t ns
        else if t.signedOf.holdsAll ns then .ints t.signedOf ns else .ints .int64 ns := by
    simp [besideVariable, hempty, IntType.int64]
  rw [hbeside]
  by_cases hvariable : t.holdsAll ns = true
  · rw [if_pos hvariable, result_toUnsigned_ints]
    have hall := holdsAll_iff.1 hvariable
    cases hsigned : t.signed with
    | true =>
      have hgreatest : t.signedOf.greatest = t.greatest := by
        simp [IntType.greatest, IntType.signedOf, hsigned]
      refine ⟨t.unsignedOf, ?_⟩
      rw [if_pos rfl, hfits fun n hn => by rw [hgreatest]; exact (hall n hn).2]
    | false =>
      -- an unsigned variable has nothing to reinterpret
      have hpos : ∀ n ∈ ns, 0 ≤ n := by
        intro n hn
        have := (hall n hn).1
        rwa [IntType.least, hsigned, if_neg Bool.false_ne_true] at this
      refine ⟨t, ?_⟩
      have hsame : ∀ n ∈ ns, unsignedOf (listedWidth t ns n) n = n := by
        intro n hn
        rw [listedWidth, if_pos (Or.inl (hpos n hn))]
        exact unsignedOf_of_holds (hns n hn) (hpos n hn) t.width le_rfl
      rw [if_neg Bool.false_ne_true, List.map_congr_left hsame, List.map_id']
  · rw [if_neg hvariable]
    by_cases hsigned : t.signedOf.holdsAll ns = true
    · rw [if_pos hsigned, result_toUnsigned_ints]
      exact ⟨t.unsignedOf, by
        rw [← hfits ((signedOf_holdsAll_iff hns).1 hsigned)]
        rfl⟩
    · rw [if_neg hsigned, result_toUnsigned_ints]
      have hgreat : ¬ ∀ n ∈ ns, n ≤ t.signedOf.greatest := by
        rwa [← signedOf_holdsAll_iff hns]
      refine ⟨.uint64, ?_⟩
      have hread : ∀ n ∈ ns, unsignedOf .w64 n = unsignedOf (listedWidth t ns n) n := by
        intro n hn
        by_cases hpos : 0 ≤ n
        · have hwide : t.width.octets ≤ IntWidth.w64.octets := by cases t.width <;> decide
          rw [listedWidth, if_pos (Or.inl hpos), unsignedOf_of_holds (hns n hn) hpos _ hwide,
            unsignedOf_of_holds (hns n hn) hpos _ le_rfl]
        · rw [listedWidth, if_neg (not_or.2 ⟨hpos, hgreat⟩)]
      rw [← List.map_congr_left hread]
      rfl

/-- A list beside unsigned integers is read member by member, at the width that the list has for
it. -/
lemma sentinelGrid_of_integers {v : Value} (hv : v.IsRow (ns.map Value.int)) (hne : ns ≠ [])
    (hw : t.width ≠ .w64) (hns : ∀ n ∈ ns, t.Holds n) :
    ∃ u, sentinelGrid v (.int t) true
      = .ok ⟨[ns.length], .ints u (ns.map fun n => unsignedOf (listedWidth t ns n) n)⟩ := by
  have hint64 : ∀ n ∈ ns, IntType.int64.least ≤ n ∧ n ≤ IntType.int64.greatest := by
    have hbounds : IntType.int64.least ≤ t.signedOf.least ∧
        t.unsignedOf.greatest ≤ IntType.int64.greatest := by
      unfold IntType.signedOf IntType.unsignedOf
      generalize t.width = w at hw
      cases w with
      | w64 => exact absurd rfl hw
      | _ => decide
    intro n hn
    exact ⟨hbounds.1.trans (hns n hn).1, (hns n hn).2.trans hbounds.2⟩
  obtain ⟨u, hu⟩ := toUnsigned_besideVariable hne hns
  refine ⟨u, ?_⟩
  rw [sentinelGrid_of_numericGrid (numericGrid_integers hv hne hint64 (.int t)), hu]

/-- Integers that lie far apart are different doubles. -/
lemma ofInt_ne_ofInt {i j : Int} (hi : i ≤ 4294967296) (hj : 9223372036854775808 ≤ j) :
    Double.ofInt i ≠ .ofInt j := by
  intro heq
  have hlt : (Double.ofInt 4294967296).lt (.ofInt 9223372036854775808) = true := by decide +kernel
  have habove := Double.lt_of_lt_of_le (Double.lt_of_le_of_lt (ofInt_le_ofInt hi) hlt)
    (ofInt_le_ofInt hj)
  rw [heq, Double.lt_iff] at habove
  exact lt_irrefl _ habove.2.2

/-- A negative member that is read at eight octets stands for another number than it would at the
width of the variable. -/
lemma ofInt_listedWidth_eq_iff {n : Int} (hw : t.width ≠ .w64) (hn : t.Holds n) :
    Double.ofInt (unsignedOf (listedWidth t ns n) n) = .ofInt (unsignedOf t.width n) ↔
      0 ≤ n ∨ ∀ m ∈ ns, m ≤ t.signedOf.greatest := by
  constructor
  · intro heq
    by_contra hnot
    rw [listedWidth, if_neg hnot] at heq
    have hnegative : n < 0 := by
      by_contra hpos
      exact hnot (Or.inl (not_lt.1 hpos))
    have hbounds : (twoPow t.width.bits : Int) ≤ 4294967296 ∧ -2147483648 ≤ t.signedOf.least := by
      unfold IntType.signedOf
      generalize t.width = w at hw
      cases w with
      | w64 => exact absurd rfl hw
      | _ => decide
    have hnarrow : unsignedOf t.width n ≤ 4294967296 := by
      have hlt : n % (twoPow t.width.bits : Int) < twoPow t.width.bits :=
        Int.emod_lt_of_pos n (by exact_mod_cast twoPow_pos t.width.bits)
      exact hlt.le.trans hbounds.1
    have hwide : 9223372036854775808 ≤ unsignedOf .w64 n := by
      have hleast := hbounds.2.trans hn.1
      change 9223372036854775808 ≤ n % 18446744073709551616
      omega
    exact ofInt_ne_ofInt hnarrow hwide heq.symm
  · intro h
    rw [listedWidth, if_pos h]

end Width

/-! ## A whole extraction -/

/-- A list of integers among the missing values of an unpacked variable of unsigned integers adds
nothing but its members to what is declared without it. Each of them is read as unsigned, at the
width that the list has for it, and that is the integer of the variable's width with the same
octets exactly if the member is not negative or no member is above the greatest with sign. -/
theorem outcome_extract_of_integers {a : Attributes} {t : IntType} {scaling : Option Scaling}
    {name : Option String} {s : Scaling} {v : Value} {ns : List Int}
    (hwidth : t.width ≠ .w64) (hunsigned : a.isUnsigned (.int t) = true)
    (hs : Scaling.inForce a scaling = .ok s) (hunpacked : s.isPacked = false)
    (hgiven : a.find? Convention.missingValue.name = some v) (hv : v.IsRow (ns.map Value.int))
    (hne : ns ≠ []) (hns : ∀ n ∈ ns, t.Holds n) :
    (extract a (.int t) scaling name).outcome
        = (extract (a.without [Convention.missingValue.name]) (.int t) scaling name).outcome.map
          (fun d => { d with
            candidates := some (ns.map fun n => .ofInt (unsignedOf (listedWidth t ns n) n)) }) ∧
    ∀ n ∈ ns, (Double.ofInt (unsignedOf (listedWidth t ns n) n) = .ofInt (unsignedOf t.width n) ↔
      0 ≤ n ∨ ∀ m ∈ ns, m ≤ t.signedOf.greatest) := by
  refine ⟨?_, fun n hn => ofInt_listedWidth_eq_iff hwidth (hns n hn)⟩
  obtain ⟨u, hgrid⟩ := sentinelGrid_of_integers hv hne hwidth hns
  have hgiven' : a.given? .missingValue = some v := by
    rw [Attributes.given?, hgiven]
    cases hv <;> rfl
  have hmissing : (declaredMissing a (.int t) (a.isUnsigned (.int t)) s (noteName name)).outcome
      = .ok (some (ns.map fun n => .ofInt (unsignedOf (listedWidth t ns n) n))) := by
    rw [outcome_declaredMissing_of_not_isString hgiven' (Value.isString_of_isRow hv), hunsigned]
    refine Report.bind_eq_ok_iff.2 ⟨_, hgrid, Report.bind_eq_ok_iff.2 ⟨_, rfl, ?_⟩⟩
    rw [Scaling.map_apply_of_not_isPacked hunpacked, List.map_map]
    rfl
  exact outcome_extract_of_declaredMissing hs (a.agreeBut_without _) (a.given?_without_self _)
    hmissing

/-- Three missing values beside octets without sign, all of which fit a signed octet. -/
def signedOctets : Attributes := ⟨[("missing_value", .list [.int (-1), .int 100, .int (-128)])]⟩

theorem outcome_extract_of_integers_of_signedOctets :
    ∃ d, (extract signedOctets (.int ⟨false, .w8, .little⟩) none none).outcome = .ok d ∧
      d.candidates = some [255, 100, 128] := by
  have hrow : Value.IsRow (([-1, 100, -128] : List Int).map .int)
      (.list [.int (-1), .int 100, .int (-128)]) := .list
  have hextract : (extract signedOctets (.int ⟨false, .w8, .little⟩) none none).outcome = _ :=
    (outcome_extract_of_integers (by decide) rfl rfl rfl rfl hrow (by decide)
      (by unfold IntType.Holds; decide)).1
  obtain ⟨d, hd⟩ := Report.exists_eq_ok (e := (extract
    (signedOctets.without [Convention.missingValue.name]) (.int ⟨false, .w8, .little⟩) none
    none).outcome) (by decide +kernel)
  rw [hd] at hextract
  exact ⟨_, hextract, congrArg some (by decide +kernel)⟩

/-- Beside 200 a list is read at eight octets, and so -1 does not stand for 255. -/
theorem integers_may_depend_on_others :
    ∃ d, (extract ⟨[("missing_value", .list [.int (-1), .int 200])]⟩
        (.int ⟨false, .w8, .little⟩) none none).outcome = .ok d ∧
      d.candidates = some [18446744073709551615, 200] ∧
      (18446744073709551615 : Double) ≠ .ofInt (unsignedOf .w8 (-1)) := by
  refine ⟨_, rfl, ?_, ?_⟩
  · decide +kernel
  · decide +kernel

end MissingSamples
