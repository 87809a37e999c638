/-
# Numbers as text

A double is written with its shortest digits: positionally while it is neither small nor large, and
with a power of ten otherwise. Where that changes is a `Notation.Style`; `Style.standard` is the
one in which this library shows numbers.
-/
import MissingSamples.Decimal.Shortest

namespace MissingSamples.Notation

/-- Where numbers get a power of ten. -/
structure Style where
  /-- Numbers below `10 ^ (-lowest)` get a power of ten. -/
  lowest : Nat
  /-- Numbers from `10 ^ highest` on get a power of ten. -/
  highest : Nat
  /-- Whole numbers written positionally end in a point and a zero. -/
  wholeMark : Bool

/-- Numbers from a ten-thousandth up to below ten quadrillions are written positionally, and whole
ones show that they are not integers. -/
def Style.standard : Style := ⟨4, 16, true⟩

/-- The style without the mark of whole numbers. -/
def Style.bare (style : Style) : Style := { style with wholeMark := false }

/-- The magnitude is written positionally. -/
def Style.isPositional (style : Style) (units : Nat) : Bool :=
  units = 0 || (Double.unitsPerOne ≤ units * Nat.pow 10 style.lowest
    && units < Nat.pow 10 style.highest * Double.unitsPerOne)

/-- So many zeros. -/
def zeros (n : Int) : List Char := List.replicate n.toNat '0'

/-- An exponent: its sign and at least so many digits. -/
def exponentText (width : Nat) (e : Int) : List Char :=
  let digits := Nat.toDigits 10 e.natAbs
  (if e < 0 then '-' else '+') :: zeros (width - digits.length) ++ digits

/-- A decimal with a power of ten: one digit, the others after a point, and the exponent. -/
def withExponent (d : Decimal) : List Char :=
  let digits := Nat.toDigits 10 d.digits
  let mantissa := match digits with
    | [only] => [only]
    | first :: rest => first :: '.' :: rest
    | [] => []
  mantissa ++ 'e' :: exponentText 2 (d.exponent + digits.length - 1)

/-- The digits of a decimal before the point, and those after it. -/
def aroundPoint (d : Decimal) : List Char × List Char :=
  let digits := Nat.toDigits 10 d.digits
  if 0 ≤ d.exponent then (digits ++ zeros d.exponent, [])
  else
    let places := d.exponent.natAbs
    let all := zeros (places + 1 - digits.length) ++ digits
    (all.take (all.length - places), all.drop (all.length - places))

/-- A decimal without a power of ten. -/
def positional (style : Style) (d : Decimal) : List Char :=
  match aroundPoint d with
  | (whole, []) => whole ++ if style.wholeMark then ['.', '0'] else []
  | (whole, places) => whole ++ '.' :: places

/-- The shortest decimal of a magnitude, given the interval around it; zero has the digit zero. -/
def shortest (interval : Nat → Decimal.Interval) (units : Nat) : Decimal :=
  if units = 0 then ⟨0, 0⟩ else Decimal.shortest (interval units) units

/-- A number as text, given the interval of reals around a magnitude. -/
def text (style : Style) (interval : Nat → Decimal.Interval) : Double → String
  | .nan => "nan"
  | .infinite negative => if negative then "-inf" else "inf"
  | .finite negative units _ =>
    let d := shortest interval units
    let body := if style.isPositional units then positional style d else withExponent d
    String.ofList (if negative then '-' :: body else body)

theorem text_nan (style : Style) (interval : Nat → Decimal.Interval) :
    text style interval .nan = "nan" := rfl

end MissingSamples.Notation
