/-
# Decimals as doubles

`Double.ofDecimal` takes a whole number times a power of ten to the nearest double, ties to even.
Powers far outside the range of doubles are decided by the number of digits alone, so that an
exponent of any length costs nothing.
-/
import MissingSamples.Binary.Double

namespace MissingSamples

/-- How many decimal digits a positive number has; zero has one. -/
def digitCount (n : Nat) : Nat := (Nat.toDigits 10 n).length

namespace Double

/-- The double nearest to `digits * 10 ^ exponent`. -/
def ofDecimal (negative : Bool) (digits : Nat) (exponent : Int) : Double :=
  let size := exponent + digitCount digits
  if digits = 0 ∨ size < -330 then zero negative
  else if 310 < size then infinite negative
  else if exponent < 0 then nearest negative (digits * unitsPerOne) (Nat.pow 10 exponent.natAbs)
  else nearest negative (digits * Nat.pow 10 exponent.natAbs * unitsPerOne) 1

end Double

end MissingSamples
