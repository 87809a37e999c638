/-
# What goes wrong in masking

Masking a variable reads its attributes, makes a policy of them, and unpacks the samples. Each of
these steps reads values, and so each fails as reading values does: never with a failure of the
library's own.

* `Variable.failsPlainly_maskMissing` says so of the masking of a variable.
-/
import MissingSamples.Proofs.Extraction
import MissingSamples.Proofs.Failure.Plain
import MissingSamples.Variable

namespace MissingSamples

namespace FailsPlainly

variable {α β : Type} {r : Report α}

lemma outcome_bind {next : α → Report β} (hr : FailsPlainly r.outcome)
    (hnext : ∀ a, FailsPlainly (next a).outcome) : FailsPlainly (r >>= next).outcome := by
  rw [Report.outcome_bind]
  exact hr.bind hnext

end FailsPlainly

/-! ## Reading attributes -/

lemma failsPlainly_sentinelGrid (v : Value) (t : ElementType) (unsigned : Bool) :
    FailsPlainly (sentinelGrid v t unsigned) := by
  have hgrid : FailsPlainly (numericGrid v t) := by
    unfold numericGrid
    split
    · exact .ok _
    · exact v.failsPlainly_asGrid.bind fun _ => .ok _
  exact hgrid.bind fun _ => .ok _

lemma failsPlainly_firstNumber {β : Type} {v : Value} {t : ElementType} {unsigned : Bool}
    {next : Grid Value → Double → Except Failure β} (h : ∀ g x, FailsPlainly (next g x)) :
    FailsPlainly (sentinelGrid v t unsigned >>= fun g => g.numberAt 0 >>= next g) :=
  (failsPlainly_sentinelGrid v t unsigned).bind fun g => (g.failsPlainly_numberAt 0).bind (h g)

lemma failsPlainly_rangeBounds (a : Attributes) (t : ElementType) (unsigned : Bool) :
    FailsPlainly (rangeBounds a t unsigned) := by
  unfold rangeBounds
  split
  · exact .ok none
  · refine (failsPlainly_sentinelGrid _ _ _).bind fun g => .ite ?_ (.ok none)
    exact (g.failsPlainly_numberAt 0).bind fun _ => (g.failsPlainly_numberAt 1).bind fun _ => .ok _

lemma failsPlainly_singleBounds (a : Attributes) (t : ElementType) (unsigned : Bool) :
    FailsPlainly (singleBounds a t unsigned) := by
  unfold singleBounds
  cases a.numeric? .validMin with
  | none =>
    cases a.numeric? .validMax with
    | none => exact .ok _
    | some v => exact failsPlainly_firstNumber fun _ _ => .ok _
  | some v =>
    refine failsPlainly_firstNumber fun g x => ?_
    cases a.numeric? .validMax with
    | none => exact .ok _
    | some v => exact failsPlainly_firstNumber fun _ _ => .ok _

lemma failsPlainly_declaredBounds (a : Attributes) (t : ElementType) (unsigned : Bool) :
    FailsPlainly (declaredBounds a t unsigned) := by
  refine (failsPlainly_rangeBounds a t unsigned).bind fun b => ?_
  cases b with
  | some b => exact .ok b
  | none => exact failsPlainly_singleBounds a t unsigned

lemma failsPlainly_declaredFill (a : Attributes) (t : ElementType) (unsigned : Bool)
    (scaling : Scaling) (name : String) :
    FailsPlainly (declaredFill a t unsigned scaling name).outcome := by
  unfold declaredFill
  split
  · exact .ok none
  · next v _ =>
    split
    · refine .outcome_bind v.failsPlainly_asText fun text => ?_
      split
      · exact .ok _
      · split <;> exact .ok _
    · refine .outcome_bind (failsPlainly_sentinelGrid v t unsigned) fun g => ?_
      exact .outcome_bind (g.failsPlainly_numberAt 0) fun _ => .ok _

lemma failsPlainly_declaredMissing (a : Attributes) (t : ElementType) (unsigned : Bool)
    (scaling : Scaling) (name : String) :
    FailsPlainly (declaredMissing a t unsigned scaling name).outcome := by
  unfold declaredMissing
  split
  · exact .ok none
  · next v _ =>
    split
    · refine .outcome_bind v.failsPlainly_asText fun text => ?_
      split
      · exact .ok _
      · split <;> exact .ok _
    · refine .outcome_bind (failsPlainly_sentinelGrid v t unsigned) fun g => ?_
      exact .outcome_bind g.failsPlainly_numbers fun _ => .ok _

namespace Scaling

lemma failsPlainly_factor (v : Value) : FailsPlainly (factor v) :=
  v.failsPlainly_asGrid.bind fun g =>
    (g.atLeastOneDim.failsPlainly_numberAt 0).bind fun _ => .ok _

lemma failsPlainly_ofAttributes (a : Attributes) : FailsPlainly (ofAttributes a) := by
  unfold ofAttributes
  cases a.numeric? .scaleFactor with
  | none =>
    cases a.numeric? .addOffset with
    | none => exact .ok _
    | some v => exact (failsPlainly_factor v).bind fun _ => .ok _
  | some v =>
    refine (failsPlainly_factor v).bind fun x => ?_
    cases a.numeric? .addOffset with
    | none => exact .ok _
    | some v => exact (failsPlainly_factor v).bind fun _ => .ok _

lemma failsPlainly_applyValue (s : Scaling) (v : Value) : FailsPlainly (s.applyValue v) := by
  refine v.failsPlainly_asDoubles.bind fun (shape, xs) => ?_
  cases v with
  | grid g => exact .ite (.ok _) (.ok _)
  | _ => exact .ok _

end Scaling

lemma failsPlainly_extract (a : Attributes) (t : ElementType) (scaling : Option Scaling)
    (name : Option String) : FailsPlainly (extract a t scaling name).outcome := by
  have hpacking : FailsPlainly (Scaling.inForce a scaling) := by
    cases scaling with
    | some s => exact .ok s
    | none => exact Scaling.failsPlainly_ofAttributes a
  rw [outcome_extract]
  exact hpacking.bind fun s =>
    (failsPlainly_declaredBounds a t _).bind fun _ =>
      (failsPlainly_declaredFill a t _ s _).bind fun _ =>
        (failsPlainly_declaredMissing a t _ s _).bind fun _ => .ok _

/-! ## Masking -/

namespace Variable

variable (v : Variable)

lemma failsPlainly_policyFor (flags : ModeFlags) : FailsPlainly (v.policyFor flags).outcome := by
  have htype : FailsPlainly v.rawType := by
    unfold rawType
    split
    · exact Value.failsPlainly_namedType _
    · exact .ok _
  exact .outcome_bind htype fun t =>
    .outcome_bind (failsPlainly_extract v.allAttributes t none v.name) fun _ => .ok _

lemma failsPlainly_unpack : FailsPlainly v.unpack :=
  (Scaling.failsPlainly_ofAttributes v.attributes).bind fun s =>
    (s.failsPlainly_applyValue _).bind fun _ => .ok _

/-- Masking a variable never fails with a failure of the library's own. -/
theorem failsPlainly_maskMissing (flags : ModeFlags) :
    FailsPlainly (v.maskMissing flags).outcome := by
  refine .outcome_bind (v.failsPlainly_policyFor flags) fun p => ?_
  unfold maskWith
  split
  · exact .outcome_bind (.ok _) fun _ => .outcome_bind v.failsPlainly_unpack fun _ => .ok _
  · split
    · exact .ok _
    · exact .ok _

end Variable

end MissingSamples
