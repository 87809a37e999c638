/-
# Shortest decimals

The fewest digits that read back. A positive number of a binary format is the nearest one of an
interval of reals, and any decimal in it reads back as that number. For one digit, two, and so on,
the two decimals next to the number are tried; the first count of digits with a decimal in the
interval wins, and of two such decimals the nearer one.

Everything is whole-number arithmetic on small parts of a unit, in which the number itself, its
neighbours and the middles between them are all whole.

* `Decimal.shortest` has the fewest digits;
* `Decimal.shortestTo` has the fewest digits too, but none after a last place;
* `Decimal.cutAt` has its last digit at a given place, however few digits would do.
-/
import MissingSamples.Decimal.Reading

namespace MissingSamples

/-- A positive decimal: `digits * 10 ^ exponent`. -/
structure Decimal where
  /-- The digits, as one number. -/
  digits : Nat
  /-- The power of ten. -/
  exponent : Int
deriving DecidableEq, Repr

namespace Decimal

/-- The reals that round to one number of a format. All are counted in the same parts. -/
structure Interval where
  /-- The lower end. -/
  lower : Nat
  /-- The number itself. -/
  middle : Nat
  /-- The upper end. -/
  upper : Nat
  /-- The ends belong to the interval. -/
  closed : Bool
  /-- How many parts make one. -/
  one : Nat

/-- The reals that round to `units` in a format whose own units are `2 ^ finer` times finer, in
quarters of these. Just above a power of two the numbers below lie twice as close. -/
def intervalOf (f : FloatFormat) (units : Nat) (finer : Nat := 0) : Interval :=
  let n := units * twoPow finer
  let gap := twoPow (f.quantum n)
  let below := if n = gap * twoPow (f.precision - 1) ∧ f.least < f.quantum n then gap else 2 * gap
  { lower := 4 * n - below
    middle := 4 * n
    upper := 4 * n + 2 * gap
    closed := n / gap % 2 == 0
    one := 4 * (Double.unitsPerOne * twoPow finer) }

/-- `digits * 10 ^ exponent` in parts of which so many make one, and times the same power of ten as
`factor` says. -/
def scale (one : Nat) (exponent : Int) (digits : Nat) : Nat :=
  if exponent < 0 then digits * one else digits * Nat.pow 10 exponent.natAbs * one

/-- What a count of parts is multiplied by to compare it with `scale`. -/
def factor (exponent : Int) : Nat := if exponent < 0 then Nat.pow 10 exponent.natAbs else 1

/-- The decimal lies in the interval. -/
def inside (i : Interval) (exponent : Int) (digits : Nat) : Bool :=
  let x := scale i.one exponent digits
  let lower := i.lower * factor exponent
  let upper := i.upper * factor exponent
  if i.closed then lower ≤ x && x ≤ upper else lower < x && x < upper

/-- The distance of the decimal from the number. -/
def distance (i : Interval) (exponent : Int) (digits : Nat) : Nat :=
  ((scale i.one exponent digits : Int) - (i.middle * factor exponent : Nat)).natAbs

/-- The digits of the decimal with this power of ten that lies just below the number, or on it. -/
def below (i : Interval) (exponent : Int) : Nat := i.middle * factor exponent / scale i.one exponent 1

/-- The decimal with this power of ten that is nearest to the number; of two equally near ones, the
one with the even digit. -/
def nearestOn (i : Interval) (exponent : Int) : Decimal :=
  let low := below i exponent
  let nearLow := distance i exponent low
  let nearHigh := distance i exponent (low + 1)
  if nearLow < nearHigh ∨ (nearLow = nearHigh ∧ low % 2 = 0) then ⟨low, exponent⟩
  else ⟨low + 1, exponent⟩

/-- The decimal with this power of ten that reads back, if there is one, and the nearer if there
are two. -/
def onGrid (i : Interval) (exponent : Int) : Option Decimal :=
  let low := below i exponent
  match inside i exponent low, inside i exponent (low + 1) with
  | true, true => some (nearestOn i exponent)
  | true, false => some ⟨low, exponent⟩
  | false, true => some ⟨low + 1, exponent⟩
  | false, false => none

/-- The power of ten just above `units`: it lies below `10 ^ magnitude` and not below
`10 ^ (magnitude - 1)`. -/
def magnitude (units : Nat) : Int :=
  if Double.unitsPerOne ≤ units then digitCount (units / Double.unitsPerOne)
  else 1 - digitCount ((Double.unitsPerOne - 1) / units)

/-- The decimal without zeros at its end, no more than so many of them. -/
def dropZeros (digits : Nat) (exponent : Int) : Nat → Decimal
  | 0 => ⟨digits, exponent⟩
  | fuel + 1 =>
    if digits % 10 = 0 then dropZeros (digits / 10) (exponent + 1) fuel else ⟨digits, exponent⟩

/-- The decimal without zeros at its end. -/
def trim (d : Decimal) : Decimal := dropZeros d.digits d.exponent (digitCount d.digits)

/-- The first decimal that reads back, of those with a last digit at one of the places below `top`,
no more than so many of them. -/
def firstInside? (i : Interval) (top : Int) (places : Nat) : Option Decimal :=
  (List.range places).findSome? fun (n : Nat) => onGrid i (top - (n + 1))

/-- The shortest decimal that reads back as the positive number of `units`, given the interval
around it. Twenty-one digits are enough for sixty-four significant bits. -/
def shortest (i : Interval) (units : Nat) : Decimal :=
  ((firstInside? i (magnitude units) 21).getD ⟨units / Double.unitsPerOne, 0⟩).trim

/-- The decimal with its last digit at the place: one that reads back if there is one, and else the
nearest. -/
def cutAt (i : Interval) (exponent : Int) : Decimal :=
  (onGrid i exponent).getD (nearestOn i exponent)

/-- The shortest decimal, but without digits after the last place. -/
def shortestTo (i : Interval) (units : Nat) (last : Int) : Decimal :=
  let top := magnitude units
  ((firstInside? i top (top - last).toNat).getD (cutAt i last)).trim

end Decimal

end MissingSamples
