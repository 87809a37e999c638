/-
# Units of time

How units of time compare. Weeks and all that is shorter have a fixed length; years and months
have none, but twelve months make a year.

* `TimeType.common?` is the type in whose steps two types of time can both be counted.
-/
import MissingSamples.ElementType

namespace MissingSamples

namespace TimeUnit

/-- The length of a unit in attoseconds, if it is fixed. -/
def attoseconds? : TimeUnit → Option Nat
  | .year | .month => none
  | .week => some 604800000000000000000000
  | .day => some 86400000000000000000000
  | .hour => some 3600000000000000000000
  | .minute => some 60000000000000000000
  | .second => some 1000000000000000000
  | .milli => some 1000000000000000
  | .micro => some 1000000000000
  | .nano => some 1000000000
  | .pico => some 1000000
  | .femto => some 1000
  | .atto => some 1

/-- The first unit is shorter than the second, or it is the same. -/
def isWithin (a b : TimeUnit) : Bool :=
  match a.attoseconds?, b.attoseconds? with
  | some x, some y => x ≤ y
  | some _, none => true
  | none, some _ => false
  | none, none => a == b || b == .year

/-- How many of the second unit make one of the first. A month next to a unit of fixed length, or
a year, counts as one. -/
def ratio (a b : TimeUnit) : Nat :=
  match a.attoseconds?, b.attoseconds? with
  | some x, some y => x / y
  | none, none => if a = .year ∧ b = .month then 12 else 1
  | _, _ => 1

/-- The unit has no fixed length, and the other one has. -/
def isUneven (a b : TimeUnit) : Bool := a.attoseconds?.isNone && b.attoseconds?.isSome

end TimeUnit

namespace TimeType

/-- Ratios of units have to lie below this. -/
def ratioLimit : Nat := twoPow 56

/-- Counts of units in one step have to lie below this. -/
def stepLimit : Nat := twoPow 31

/-- The longest step of which both steps are multiples, the unit of the first being within that of
the second. -/
def commonStep? (a b : Nat × TimeUnit) : Option (Nat × TimeUnit) :=
  let ratio := b.2.ratio a.2
  let n := Nat.gcd a.1 (b.1 * ratio)
  if ratio < ratioLimit ∧ n < stepLimit then some (n, a.2) else none

/-- The type in whose steps both types can be counted. Of a point in time and a span it is the one
of points. Spans of years or months have no common step with spans of fixed length; points do,
because the calendar tells where a year or a month starts. -/
def common? (s t : TimeType) : Option TimeType := do
  let isPoint := s.isPoint || t.isPoint
  match s.step, t.step with
  | none, step | step, none => return ⟨isPoint, step, .little⟩
  | some a, some b =>
    if (!s.isPoint && a.2.isUneven b.2) || (!t.isPoint && b.2.isUneven a.2) then none
    else
      let step ← if a.2.isWithin b.2 then commonStep? a b else commonStep? b a
      return ⟨isPoint, some step, .little⟩

end TimeType

end MissingSamples
