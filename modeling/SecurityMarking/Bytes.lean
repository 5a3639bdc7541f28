/-
Bytes, as base 64 writes them.

Base 64 writes three bytes as four characters, six bits each.  What is no such
character says nothing, wherever it stands, and an equals sign ends the text where the
characters before it make up a byte but not three.  The bits that are left over when
the last byte is complete say nothing either.

In a message bytes stand between quotes after a `b`, as text does, those that are no
printable character of ASCII by two hexadecimal digits.
-/
import SecurityMarking.Text.Quoted

namespace SecurityMarking

/-- Some bytes, in order. -/
abbrev Bytes := List UInt8

namespace Bytes

/-- The six bits that a character writes in base 64. -/
def sixBits? (c : Char) : Option Nat :=
  let n := c.toNat
  if 0x41 ≤ n ∧ n ≤ 0x5a then some (n - 0x41)
  else if 0x61 ≤ n ∧ n ≤ 0x7a then some (n - 0x61 + 26)
  else if 0x30 ≤ n ∧ n ≤ 0x39 then some (n - 0x30 + 52)
  else if c == '+' then some 62
  else if c == '/' then some 63
  else none

/-- The characters of base 64 that count, by their bits, and whether they are ended as they have to
be.  The number of those since the last three bytes comes first, then that of the equals signs since
the last of them. -/
def sixes (since signs : Nat) : Text → List Nat × Bool
  | [] => ([], since == 0)
  | c :: t =>
    if c == '=' then
      if since < 2 then sixes since signs t
      else if 4 ≤ since + signs + 1 then ([], true)
      else sixes since (signs + 1) t
    else
      match sixBits? c with
      | none => sixes since signs t
      | some bits =>
        let (more, ended) := sixes ((since + 1) % 4) 0 t
        (bits :: more, ended)

/-- The bytes in groups of six bits. -/
def ofSixes : List Nat → Bytes
  | a :: b :: c :: d :: rest =>
    (4 * a + b / 16).toUInt8 :: (16 * (b % 16) + c / 4).toUInt8 :: (64 * (c % 4) + d).toUInt8
      :: ofSixes rest
  | [a, b, c] => [(4 * a + b / 16).toUInt8, (16 * (b % 16) + c / 4).toUInt8]
  | [a, b] => [(4 * a + b / 16).toUInt8]
  | _ => []

/-- The bytes that a text of ASCII writes in base 64, if it is ended as it has to be. -/
def ofBase64? (t : Text) : Option Bytes :=
  if t.all fun c => c.toNat < 0x80 then
    let (groups, ended) := sixes 0 0 t
    if ended then some (ofSixes groups) else none
  else none

/-- A byte inside quotes. -/
def quoteByte (quote : Char) (b : UInt8) : Text :=
  let c := Char.ofNat b.toNat
  if c = quote ∨ c = '\\' then ['\\', c]
  else if c = '\n' then ['\\', 'n']
  else if c = '\r' then ['\\', 'r']
  else if c = '\t' then ['\\', 't']
  else if ' ' ≤ c ∧ c ≤ '~' then [c]
  else '\\' :: 'x' :: Text.hexDigits 2 b.toNat

/-- The quoted form of bytes. -/
def quoted (bs : Bytes) : Text :=
  let quote := Text.quoteFor (bs.map fun b => Char.ofNat b.toNat)
  'b' :: quote :: bs.flatMap (quoteByte quote) ++ [quote]

end Bytes

end SecurityMarking
