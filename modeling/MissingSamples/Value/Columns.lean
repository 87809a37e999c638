/-
# Numbers in columns

How numbers look that stand together in an array: with one number of places before and after the
point, so that the points stand below each other, and with powers of ten for all of them or for
none. A number has at most eight places, and no more than it needs to read back.

* `FloatColumn.words` are the texts of floating numbers and `integerWords` those of integers.
-/
import MissingSamples.Decimal.Notation
import MissingSamples.Value.Elements

namespace MissingSamples

/-- A text with blanks in front up to the width. -/
def padLeft (width : Nat) (s : String) : String :=
  String.ofList (List.replicate (width - s.length) ' ') ++ s

/-- A text with blanks behind up to the width. -/
def padRight (width : Nat) (s : String) : String :=
  s ++ String.ofList (List.replicate (width - s.length) ' ')

/-- The most characters of some texts. -/
def widest (words : List String) : Nat := (words.map String.length).foldl max 0

/-- Texts with blanks in front, so that all are as wide as the widest. -/
def alignRight (words : List String) : List String := words.map (padLeft (widest words))

/-- Integers in a column. -/
def integerWords (xs : List Int) : List String := alignRight (xs.map toString)

namespace FloatWidth

/-- The reals that round to a magnitude among numbers of the width. Extended numbers have sixty-four
significant bits also next to the smallest double. -/
def interval (w : FloatWidth) (units : Nat) : Decimal.Interval :=
  match w with
  | .extended => Decimal.intervalOf .extended units 64
  | w => Decimal.intervalOf w.format units

/-- Up to which power of ten a number of the width is written positionally by itself. -/
def positionalBelow : FloatWidth → Nat
  | .half => 3
  | .single => 6
  | .double | .extended => 16

/-- Up to which power of ten numbers of the width are written positionally in a column. -/
def columnBelow : FloatWidth → Nat
  | .half => 3
  | .single => 6
  | .double | .extended => 8

/-- The style of a number of the width by itself. -/
def style (w : FloatWidth) : Notation.Style :=
  { Notation.Style.standard with highest := w.positionalBelow }

/-- A number of the width by itself as text. -/
def text (w : FloatWidth) (x : Double) : String := Notation.text w.style w.interval x

/-- The quotient of two positive numbers of the width is above a thousand. -/
def isFarAbove (w : FloatWidth) (high low : Double) : Bool :=
  match w, high, low with
  | .extended, .finite _ m _, .finite _ n _ => 1000 * n < m
  | w, high, low => (1000 : Double).lt ((high / low).narrow w.format)

end FloatWidth

namespace FloatColumn

/-- Places that a number in a column has at most. -/
def maxPlaces : Nat := 8

/-- A finite number: its sign and its magnitude. -/
structure Item where
  /-- The number is below zero, or it is the negative zero. -/
  negative : Bool
  /-- The magnitude. -/
  units : Nat

/-- The finite number that a double is. -/
def Item.of? : Double → Option Item
  | .finite negative units _ => some ⟨negative, units⟩
  | _ => none

/-- The sign of a number; numbers above zero have one only if all have. -/
def sign (signed negative : Bool) : String :=
  if negative then "-" else if signed then "+" else ""

/-- The numbers need powers of ten: one is large, one is small, or they lie far apart. -/
def needsExponent (w : FloatWidth) (xs : List Double) : Bool :=
  match (xs.filter fun x => x.isFinite && !x.isZero).map Double.abs with
  | [] => false
  | x :: rest =>
    let high := rest.foldl (fun a b => if a.lt b then b else a) x
    let low := rest.foldl (fun a b => if b.lt a then b else a) x
    !high.lt (.ofDecimal false 1 w.columnBelow)
      || low.lt ((Double.ofDecimal false 1 (-4)).narrow w.format)
      || w.isFarAbove high low

/-- The layout of a column: how many characters there are before the point, and after it. -/
structure Layout where
  /-- The sign and the digits before the point. -/
  left : Nat
  /-- All after the point. -/
  right : Nat

/-- The layout with room for the texts of what is not finite. -/
def Layout.roomFor (l : Layout) (signed : Bool) (xs : List Double) : Layout :=
  if xs.all Double.isFinite then l
  else
    let widest := if signed || xs.contains (.infinite true) then 4 else 3
    { l with left := max l.left (widest - (l.right + 1)) }

/-- The text of what is not finite, with its sign if numbers above zero have one. -/
def special (signed : Bool) : Double → String
  | .infinite negative => sign signed negative ++ "inf"
  | _ => sign signed false ++ "nan"

/-- The texts of numbers, given that of a finite one and the layout of the column. -/
def fill (layout : Layout) (signed : Bool) (item : Item → String) (xs : List Double) :
    List String :=
  xs.map fun x =>
    match Item.of? x with
    | some i => item i
    | none => padLeft (layout.left + layout.right + 1) (special signed x)

/-! ## Without powers of ten -/

/-- The digits of a magnitude before and after the point, no more than eight of the latter. -/
def places (w : FloatWidth) (units : Nat) : List Char × List Char :=
  if units = 0 then (['0'], [])
  else Notation.aroundPoint (Decimal.shortestTo (w.interval units) units (-maxPlaces))

/-- The texts of numbers without powers of ten. -/
def positionalWords (w : FloatWidth) (signed : Bool) (xs : List Double) : List String :=
  let part (i : Item) : String × String :=
    let (whole, places) := places w i.units
    (sign signed i.negative ++ String.ofList whole, String.ofList places)
  let parts := (xs.filterMap Item.of?).map part
  let layout : Layout := ⟨widest (parts.map (·.1)), widest (parts.map (·.2))⟩
  let layout := layout.roomFor signed xs
  fill layout signed (fun i =>
    let (whole, places) := part i
    padLeft layout.left whole ++ "." ++ padRight layout.right places) xs

/-! ## With powers of ten -/

/-- A magnitude with one digit before the point and so many after it. -/
def rounded (w : FloatWidth) (count units : Nat) : Decimal :=
  if units = 0 then ⟨0, -count⟩
  else
    let i := w.interval units
    let d := Decimal.cutAt i (Decimal.magnitude units - (count + 1))
    if d.digits < Nat.pow 10 (count + 1) then d else ⟨d.digits / 10, d.exponent + 1⟩

/-- The shortest decimal of a magnitude, with no more than nine digits. -/
def short (w : FloatWidth) (units : Nat) : Decimal :=
  if units = 0 then ⟨0, 0⟩
  else Decimal.shortestTo (w.interval units) units (Decimal.magnitude units - (maxPlaces + 1))

/-- The power of ten of the first digit. -/
def leading (d : Decimal) : Int := d.exponent + digitCount d.digits - 1

/-- The texts of numbers with powers of ten. All have as many places as the one that needs most. -/
def exponentWords (w : FloatWidth) (signed : Bool) (xs : List Double) : List String :=
  let finite := xs.filterMap Item.of?
  let decimals := finite.map fun i => short w i.units
  let count := (decimals.map fun d => digitCount d.digits - 1).foldl max 0
  let width := (decimals.map fun d => digitCount (leading d).natAbs).foldl max 2
  let layout : Layout :=
    ⟨if finite.any fun i => signed || i.negative then 2 else 1, count + width + 2⟩
  let layout := layout.roomFor signed xs
  fill layout signed (fun i =>
    let d := rounded w count i.units
    let digits := Nat.toDigits 10 d.digits
    let digits := digits ++ List.replicate (count + 1 - digits.length) '0'
    let exponent := if i.units = 0 then 0 else leading d
    padLeft layout.left (sign signed i.negative ++ String.ofList (digits.take 1)) ++ "."
      ++ String.ofList (digits.drop 1) ++ "e" ++ String.ofList (Notation.exponentText width exponent))
    xs

/-- The texts of numbers of the width in a column; with `signed` every number has a sign. -/
def words (w : FloatWidth) (signed : Bool) (xs : List Double) : List String :=
  if xs.all fun x => !x.isFinite then fill (Layout.roomFor ⟨0, 0⟩ signed xs) signed (fun _ => "") xs
  else if needsExponent w xs then exponentWords w signed xs
  else positionalWords w signed xs

/-- A text with a mark before the blanks at its end. -/
def markBeforeBlanks (mark : Char) (s : String) : String :=
  let back := s.toList.reverse
  String.ofList
    ((back.takeWhile (· == ' ') ++ mark :: back.dropWhile (· == ' ')).reverse)

/-- The texts of complex numbers in a column: one column for each part. -/
def complexWords (w : FloatWidth) (xs : List (Double × Double)) : List String :=
  List.zipWith (fun re im => re ++ markBeforeBlanks 'j' im) (words w false (xs.map (·.1)))
    (words w true (xs.map (·.2)))

end FloatColumn

end MissingSamples
