/-
# Octets read as UTF-8

`Utf8.decode` reads octets as UTF-8 and never fails: octets that cannot start or go on with a
character become replacement characters, one for each longest stretch that a character could have
started with. The reader is a machine that holds what it has of a character; an octet that cannot
follow closes the unfinished character and is read again from the start.

* `decode_of_ascii` says that ASCII octets are their characters.
-/

namespace MissingSamples.Utf8

/-- What stands in for octets that are no character. -/
def replacement : Char := Char.ofNat 0xfffd

/-- An unfinished character: the value so far, how many octets it still lacks, and the least and
the greatest octet that may come next. -/
structure Pending where
  /-- The bits read so far. -/
  value : Nat
  /-- How many octets are to come, less one. -/
  more : Nat
  /-- The least octet that may come next. -/
  low : Nat
  /-- The greatest octet that may come next. -/
  high : Nat

/-- What an octet starts: a character of its own, an unfinished one, or nothing. -/
inductive Lead where
  /-- The octet is a character. -/
  | whole (c : Char)
  /-- The octet is the first of several. -/
  | part (p : Pending)
  /-- No character starts with the octet. -/
  | refused

/-- What the octet starts. -/
def lead (b : Nat) : Lead :=
  if b < 0x80 then .whole (Char.ofNat b)
  else if b < 0xc2 then .refused
  else if b < 0xe0 then .part ⟨b - 0xc0, 0, 0x80, 0xbf⟩
  else if b = 0xe0 then .part ⟨0, 1, 0xa0, 0xbf⟩
  else if b = 0xed then .part ⟨0xd, 1, 0x80, 0x9f⟩
  else if b < 0xf0 then .part ⟨b - 0xe0, 1, 0x80, 0xbf⟩
  else if b = 0xf0 then .part ⟨0, 2, 0x90, 0xbf⟩
  else if b < 0xf4 then .part ⟨b - 0xf0, 2, 0x80, 0xbf⟩
  else if b = 0xf4 then .part ⟨4, 2, 0x80, 0x8f⟩
  else .refused

/-- Reads on from the start of a character. -/
def start (b : Nat) (go : Option Pending → List Char) : List Char :=
  match lead b with
  | .whole c => c :: go none
  | .part p => go (some p)
  | .refused => replacement :: go none

/-- The characters of the octets, given what is unfinished before them. -/
def read : Option Pending → List UInt8 → List Char
  | none, [] => []
  | some _, [] => [replacement]
  | none, b :: rest => start b.toNat fun p => read p rest
  | some p, b :: rest =>
    if p.low ≤ b.toNat ∧ b.toNat ≤ p.high then
      match p.more with
      | 0 => Char.ofNat (p.value * 64 + b.toNat % 64) :: read none rest
      | more + 1 => read (some ⟨p.value * 64 + b.toNat % 64, more, 0x80, 0xbf⟩) rest
    else replacement :: start b.toNat fun p => read p rest

/-- The text that the octets spell, with replacement characters for what spells none. -/
def decode (bytes : List UInt8) : String := String.ofList (read none bytes)

theorem read_of_ascii {bytes : List UInt8} (h : ∀ b ∈ bytes, b.toNat < 0x80) :
    read none bytes = bytes.map fun b => Char.ofNat b.toNat := by
  induction bytes with
  | nil => rfl
  | cons b rest ih =>
    have hb : b.toNat < 0x80 := h b (by simp)
    rw [read, start, lead, if_pos hb, List.map_cons, ih fun c hc => h c (by simp [hc])]

theorem decode_of_ascii {bytes : List UInt8} (h : ∀ b ∈ bytes, b.toNat < 0x80) :
    decode bytes = String.ofList (bytes.map fun b => Char.ofNat b.toNat) := by
  rw [decode, read_of_ascii h]

end MissingSamples.Utf8

namespace MissingSamples.Ascii

/-- The text that the octets spell in ASCII, with replacement characters for octets beyond it. -/
def decode (bytes : List UInt8) : String :=
  String.ofList <| bytes.map fun b =>
    if b.toNat < 0x80 then Char.ofNat b.toNat else Utf8.replacement

end MissingSamples.Ascii
