/-
# Quoted scalars

A scalar between quotes may hold anything. Between single quotes a quote is written twice. Between
double quotes a backslash starts an escape: a letter for a character that is hard to write, or the
number of a character in two, four or eight hexadecimal digits. Breaks are folded as in plain
scalars, and a backslash at the end of a line joins it to the next.
-/
import MissingSamples.Yaml.Scalar.Plain

namespace MissingSamples.Yaml.Quoted

/-- The characters that have an escape of one letter. -/
def shortEscapes : List (Char × Nat) :=
  [('0', 0), ('a', 7), ('b', 8), ('t', 9), ('\t', 9), ('n', 10), ('v', 11), ('f', 12), ('r', 13),
   ('e', 27), (' ', 32), ('"', 34), ('/', 47), ('\\', 92), ('N', 0x85), ('_', 0xa0),
   ('L', 0x2028), ('P', 0x2029)]

/-- How many digits follow the letter of an escape by number. -/
def numberedEscapes : List (Char × Nat) := [('x', 2), ('u', 4), ('U', 8)]

/-- The value of a hexadecimal digit. -/
def hexDigit? (c : Char) : Option Nat :=
  if c.isDigit then some (c.toNat - 48)
  else if 'a' ≤ c ∧ c ≤ 'f' then some (c.toNat - 87)
  else if 'A' ≤ c ∧ c ≤ 'F' then some (c.toNat - 55)
  else none

/-- The number that hexadecimal digits spell. -/
def hexNumber? (digits : List Char) : Option Nat :=
  digits.foldlM (fun n c => (hexDigit? c).map (n * 16 + ·)) 0

/-- The character of a number. Halves of a pair stand for the replacement character. -/
def character (n : Nat) : Except Problem Char :=
  if n < 0x110000 then .ok (if 0xd800 ≤ n ∧ n < 0xe000 then Char.ofNat 0xfffd else Char.ofNat n)
  else .error (.value (if n < twoPow 31 then .noSuchCharacter else .numberTooLarge))

/-- The empty lines from here on, and the first place that is no blank or break. -/
def emptyLines : Nat → Cursor → Except Problem (List Char × Cursor)
  | 0, _ => .error .malformed
  | fuel + 1, c =>
    if c.isSeparator then .error .malformed
    else
      let c := c.skipBlanks
      match c.lineBreak? with
      | none => .ok ([], c)
      | some (b, c) => do
        let (bs, c) ← emptyLines fuel c
        return (b :: bs, c)

/-- The blanks or the breaks that stand here. -/
def gap (c : Cursor) : Except Problem (List Char × Cursor) :=
  let (spaces, c) := c.span fun x => x == ' ' || x == '\t'
  match c.lineBreak? with
  | none => .ok (spaces, c)
  | some (b, c) => do
    let (bs, c) ← emptyLines (c.rest.length + 1) c
    return (folded b bs, c)

/-- What the escape after a backslash stands for. -/
def escape (c : Cursor) : Except Problem (List Char × Cursor) :=
  match c.peek with
  | none => .error .malformed
  | some x =>
    match shortEscapes.lookup x, numberedEscapes.lookup x with
    | some n, _ => .ok ([Char.ofNat n], c.next)
    | none, some width =>
      let digits := c.next.rest.take width
      match hexNumber? digits with
      | some n =>
        if digits.length = width then do
          return ([← character n], c.next.skip width)
        else .error .malformed
      | none => .error .malformed
    | none, none =>
      match c.lineBreak? with
      | some (_, c) => emptyLines (c.rest.length + 1) c
      | none => .error .malformed

/-- The part that stands here of a scalar between such quotes; nothing, if the scalar ends here. -/
def part (quote : Char) (c : Cursor) : Except Problem (Option (List Char × Cursor)) :=
  match c.peek with
  | none => .error .malformed
  | some x =>
    if x = quote then
      if x = '\'' ∧ c.peekAt 1 = some '\'' then .ok (some (['\''], c.skip 2)) else .ok none
    else if x = '\\' ∧ quote = '"' then some <$> escape c.next
    else if endsWord (some x) then some <$> gap c
    else .ok (some ([x], c.next))

/-- The rest of a scalar between such quotes, and the place after the closing quote. -/
def more (quote : Char) : Nat → Cursor → Except Problem (List Char × Cursor)
  | 0, _ => .error .malformed
  | fuel + 1, c => do
    match ← part quote c with
    | none => return ([], c.next)
    | some (text, c) =>
      let (others, c) ← more quote fuel c
      return (text ++ others, c)

/-- The scalar between the quote that stands here and its partner, and the place after it. -/
def scan (quote : Char) (c : Cursor) : Except Problem (List Char × Cursor) :=
  more quote c.rest.length c.next

end MissingSamples.Yaml.Quoted
