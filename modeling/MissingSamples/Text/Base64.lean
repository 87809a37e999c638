/-
# Octets in base 64

Four characters of the alphabet spell three octets. A last group of two or three characters spells
one or two and is filled up with equals signs, after which nothing counts any more. Characters
beyond the alphabet do not count anywhere.
-/

namespace MissingSamples.Base64

/-- The value of a character of the alphabet. -/
def value? (c : Char) : Option Nat :=
  if 'A' ≤ c ∧ c ≤ 'Z' then some (c.toNat - 65)
  else if 'a' ≤ c ∧ c ≤ 'z' then some (c.toNat - 71)
  else if c.isDigit then some (c.toNat + 4)
  else if c = '+' then some 62
  else if c = '/' then some 63
  else none

/-- A group of which some characters have been read. -/
structure Group where
  /-- How many characters have been read. -/
  size : Nat := 0
  /-- The bits of the last one that are not in an octet yet. -/
  bits : Nat := 0
  /-- How many equals signs follow the last character. -/
  pads : Nat := 0

/-- The octet that a character completes, if any, and the group with the character. -/
def Group.push (g : Group) (v : Nat) : List UInt8 × Group :=
  match g.size with
  | 0 => ([], ⟨1, v, 0⟩)
  | 1 => ([UInt8.ofNat (g.bits * 4 + v / 16)], ⟨2, v % 16, 0⟩)
  | 2 => ([UInt8.ofNat (g.bits * 16 + v / 4)], ⟨3, v % 4, 0⟩)
  | _ => ([UInt8.ofNat (g.bits * 64 + v)], {})

/-- The octets that the characters spell after the group. -/
def read : Group → List Char → Option (List UInt8)
  | g, [] => if g.size = 0 then some [] else none
  | g, c :: rest =>
    if c = '=' then
      if 2 ≤ g.size then
        if 4 ≤ g.size + g.pads + 1 then some [] else read { g with pads := g.pads + 1 } rest
      else read g rest
    else
      match value? c with
      | none => read g rest
      | some v => (read (g.push v).2 rest).map ((g.push v).1 ++ ·)

/-- The octets that a text spells, if it is all ASCII and its last group is whole or filled up. -/
def decode (s : String) : Option (List UInt8) :=
  if s.toList.all fun c => c.toNat < 0x80 then read {} s.toList else none

end MissingSamples.Base64
