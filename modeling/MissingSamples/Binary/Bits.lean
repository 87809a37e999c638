/-
# The interchange bits of doubles

The bits of a double below the sign are one number, and it grows with the magnitude: with `e` the
exponent of the quantum, the number is `e * 2 ^ 52 + units / 2 ^ e`. The hidden leading bit of a
number with all its significant bits adds the missing one to the exponent field, and a number with
fewer has exponent zero, so one formula serves both.
-/
import MissingSamples.Binary.Double

namespace MissingSamples.Double

/-- The interchange bits. -/
def toBits : Double → Nat
  | nan => 0x7ff8000000000000
  | infinite s => (if s then twoPow 63 else 0) + 0x7ff0000000000000
  | finite s m _ =>
    (if s then twoPow 63 else 0) + (FloatFormat.binary64.quantum m * twoPow 52
      + m / twoPow (FloatFormat.binary64.quantum m))

/-- The double with the given interchange bits; every pattern of not-a-number gives the one. -/
def ofBits (bits : Nat) : Double :=
  let negative := decide (bits / twoPow 63 % 2 = 1)
  let exponent := bits / twoPow 52 % twoPow 11
  let fraction := bits % twoPow 52
  if exponent = 2047 then if fraction = 0 then infinite negative else nan
  else if exponent = 0 then nearest negative fraction 1
  else nearest negative ((twoPow 52 + fraction) * twoPow (exponent - 1)) 1

end MissingSamples.Double
