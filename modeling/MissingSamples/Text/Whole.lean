/-
# Integers in writing

The texts that spell an integer to a base: blanks around it, a sign, for the bases two, eight and
sixteen a mark of the base, and digits of any script. `Whole.read` takes a text to the integer it
spells.
-/
import MissingSamples.Text.Numeral

namespace MissingSamples.Whole

/-- The value of a digit; letters go on after the nine. -/
def digit? (c : Char) : Option Nat :=
  if c.isDigit then some (c.toNat - 48)
  else if 'a' ≤ c ∧ c ≤ 'z' then some (c.toNat - 87)
  else if 'A' ≤ c ∧ c ≤ 'Z' then some (c.toNat - 55)
  else none

/-- The value of a digit of the base. -/
def digitOf? (base : Nat) (c : Char) : Option Nat := (digit? c).filter (· < base)

/-- The letter that marks a base after a zero. -/
def mark? (base : Nat) : Option Char := [(2, 'b'), (8, 'o'), (16, 'x')].lookup base

/-- The characters without a mark of the base in front. -/
def unmarked (base : Nat) : List Char → List Char
  | '0' :: c :: rest => if mark? base = some c.toLower then rest else '0' :: c :: rest
  | cs => cs

/-- How many digits a number to the base of ten may have. -/
def longest : Nat := 4300

/-- The number that digits of the base spell. -/
def magnitude (base : Nat) (digits : List Char) : Option Nat :=
  if digits.isEmpty || (base == 10 && longest < digits.length) then none
  else digits.foldlM (fun n c => (digitOf? base c).map (n * base + ·)) 0

/-- The integer that a text spells to the base. -/
def read (base : Nat) (cs : List Char) : Option Int :=
  let (negative, cs) := Numeral.signed (stripBy Numeral.isAsciiBlank (cs.map Numeral.plain))
  (magnitude base (unmarked base cs)).map fun n => if negative then -(n : Int) else n

end MissingSamples.Whole
