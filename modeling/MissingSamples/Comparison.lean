/-
# Comparing numbers with a tolerance

Two numbers are nearly equal when their difference is small next to the larger of them. There are
two forms of the test: `nearlyEqual` for two numbers, and `nearlyEqualEach` for many numbers and
one target, which takes no early exit and treats equal numbers apart.
-/
import MissingSamples.Decimal.Reading

namespace MissingSamples

/-- The tolerance of every comparison: one part in a hundred thousand. -/
def tolerance : Double := .ofDecimal false 1 (-5)

namespace Double

/-- The numbers are the same, or neither is a number. -/
def matching (a b : Double) : Bool := a.same b || (a.isNaN && b.isNaN)

/-- The second number if it is above the first, else the first. -/
def larger (a b : Double) : Double := if a.lt b then b else a

/-- The larger number; not-a-number, if either is not one. -/
def maximum (a b : Double) : Double :=
  if a.isNaN then a else if b.isNaN then b else if a.lt b then b else a

theorem matching_self (a : Double) : a.matching a = true := by
  cases a <;> simp [matching, same, isNaN]

end Double

open Double

/-- How far two numbers lie apart, next to the larger of them. Matching numbers have no difference.
Next to zero, or where the difference has lost significant bits, it is taken next to the smallest
normal number instead. -/
def relativeDifference (a b : Double) : Double :=
  if a.matching b then 0
  else
    let difference := (a - b).abs
    if a.isZero || b.isZero || difference.lt smallestNormal then difference / smallestNormal
    else difference / larger a.abs b.abs

/-- The numbers differ by less than the bound, relatively. -/
def nearlyEqual (a b : Double) (bound : Double := tolerance) : Bool :=
  (relativeDifference a b).lt bound

/-- What one of many numbers is next to the target: the bulk form of the test. -/
def nearTarget (target bound value : Double) : Bool :=
  let difference := (value - target).abs
  let equal := value.same target || (target.isNaN && value.isNaN)
  let tiny := value.isZero || target.isZero || difference.lt smallestNormal
  let scale := if tiny then smallestNormal else maximum value.abs target.abs
  equal || (difference / scale).lt bound

/-- Which of many numbers are nearly equal to the target. -/
def nearlyEqualEach (values : List Double) (target : Double) (bound : Double := tolerance) :
    List Bool :=
  values.map (nearTarget target bound)

theorem length_nearlyEqualEach (values : List Double) (target bound : Double) :
    (nearlyEqualEach values target bound).length = values.length := by
  simp [nearlyEqualEach]

end MissingSamples
