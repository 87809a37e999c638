/-
# Doubles

A double is not-a-number, an infinity, or a sign together with a magnitude that the format of
doubles holds. There is one not-a-number, and the sign of a zero is kept, so two doubles are equal
here exactly when they have the same bits. Comparison as numbers is `lt` and `same`: zeros of both
signs are the same number, and not-a-number is neither below nor the same as anything.

Rounding happens in one place, `Double.nearest`; arithmetic on doubles is exact arithmetic on
units followed by it.
-/
import MissingSamples.Binary.Format

namespace MissingSamples

/-- A double-precision number. -/
inductive Double where
  /-- Not a number. -/
  | nan
  /-- An infinity, with its sign. -/
  | infinite (negative : Bool)
  /-- A finite number: its sign and its magnitude in units of `2 ^ -1074`. -/
  | finite (negative : Bool) (units : Nat) (holds : FloatFormat.binary64.Holds units)
deriving DecidableEq

namespace Double

/-- How many units make the number one. -/
def unitsPerOne : Nat := twoPow 1074

theorem unitsPerOne_pos : 0 < unitsPerOne := twoPow_pos _

/-- An integer from a sign and a magnitude. -/
def signed (negative : Bool) (units : Nat) : Int := if negative then -(units : Int) else units

/-- A zero of the given sign. -/
def zero (negative : Bool) : Double := .finite negative 0 FloatFormat.binary64.holds_zero

/-- The double nearest to `num / den` units, ties to even; beyond the largest it is an infinity. -/
@[irreducible]
def nearest (negative : Bool) (num den : Nat) : Double :=
  if h : FloatFormat.binary64.round num den < twoPow FloatFormat.binary64.limit then
    .finite negative (FloatFormat.binary64.round num den) (FloatFormat.holds_round _ h)
  else .infinite negative

theorem nearest_of_holds (negative : Bool) {n : Nat} (h : FloatFormat.binary64.Holds n) :
    nearest negative n 1 = .finite negative n h := by
  have hr := FloatFormat.round_of_holds _ h
  unfold nearest
  simp only [hr, dif_pos h.1]

/-- The double nearest to an integer. -/
def ofInt (i : Int) : Double := nearest (decide (i < 0)) (i.natAbs * unitsPerOne) 1

instance : Inhabited Double := ⟨nan⟩

instance (n : Nat) : OfNat Double n := ⟨ofInt n⟩

/-- The largest finite double. -/
def largest : Double := nearest false ((twoPow 53 - 1) * twoPow 2045) 1

/-- The smallest positive double with all its significant bits, `2 ^ -1022`. -/
def smallestNormal : Double := nearest false (twoPow 52) 1

/-- The number is not a number. -/
def isNaN : Double → Bool
  | nan => true
  | _ => false

/-- The number is neither an infinity nor not-a-number. -/
def isFinite : Double → Bool
  | finite .. => true
  | _ => false

/-- The first number is below the second. -/
def lt : Double → Double → Bool
  | nan, _ => false
  | _, nan => false
  | infinite s, infinite t => s && !t
  | infinite s, finite .. => s
  | finite .., infinite t => !t
  | finite s m _, finite t n _ => decide (signed s m < signed t n)

/-- The two are the same number, whatever the signs of zeros. -/
def same : Double → Double → Bool
  | nan, _ => false
  | _, nan => false
  | infinite s, infinite t => s == t
  | infinite _, finite .. => false
  | finite .., infinite _ => false
  | finite s m _, finite t n _ => decide (signed s m = signed t n)

/-- The number is a zero of either sign. -/
def isZero : Double → Bool
  | finite _ m _ => m == 0
  | _ => false

/-- The number with the other sign. -/
def neg : Double → Double
  | nan => nan
  | infinite s => infinite (!s)
  | finite s m h => finite (!s) m h

/-- The magnitude of the number. -/
def abs : Double → Double
  | nan => nan
  | infinite _ => infinite false
  | finite _ m h => finite false m h

/-- The sum, rounded. An exact zero is negative only as the sum of two negative zeros. -/
def add : Double → Double → Double
  | nan, _ => nan
  | _, nan => nan
  | infinite s, infinite t => if s = t then infinite s else nan
  | infinite s, finite .. => infinite s
  | finite .., infinite t => infinite t
  | finite s m _, finite t n _ =>
    if signed s m + signed t n = 0 then zero (s && t)
    else nearest (decide (signed s m + signed t n < 0)) (signed s m + signed t n).natAbs 1

/-- The difference, rounded. -/
def sub (a b : Double) : Double := add a (neg b)

/-- The product, rounded. -/
def mul : Double → Double → Double
  | nan, _ => nan
  | _, nan => nan
  | infinite s, infinite t => infinite (s != t)
  | infinite s, finite t n _ => if n = 0 then nan else infinite (s != t)
  | finite s m _, infinite t => if m = 0 then nan else infinite (s != t)
  | finite s m _, finite t n _ => nearest (s != t) (m * n) unitsPerOne

/-- The quotient, rounded. A nonzero number over zero is an infinity. -/
def div : Double → Double → Double
  | nan, _ => nan
  | _, nan => nan
  | infinite _, infinite _ => nan
  | infinite s, finite t _ _ => infinite (s != t)
  | finite s _ _, infinite t => zero (s != t)
  | finite s m _, finite t n _ =>
    if n = 0 then if m = 0 then nan else infinite (s != t)
    else nearest (s != t) (m * unitsPerOne) n

instance : Neg Double := ⟨neg⟩
instance : Add Double := ⟨add⟩
instance : Sub Double := ⟨sub⟩
instance : Mul Double := ⟨mul⟩
instance : Div Double := ⟨div⟩

/-- The number rounded to a narrower format, ties to even; beyond the format it is an infinity. -/
def narrow (f : FloatFormat) : Double → Double
  | nan => nan
  | infinite s => infinite s
  | finite s m _ => if f.round m 1 < twoPow f.limit then nearest s (f.round m 1) 1 else infinite s

end Double

end MissingSamples
