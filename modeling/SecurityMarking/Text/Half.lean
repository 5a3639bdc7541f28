/-
Halves of pairs of UTF-16 units.

A character beyond the first plane is a pair of UTF-16 units, and a code point in the
range of these units is half of such a pair.  It is no character, but a text may be
made to hold one by its code point.  The character that stands for it here is the one
as far beyond the beginning of the last plane: a character for private use.

So there are 2048 characters, from U+10D800 to U+10DFFF, that a text cannot hold for
themselves.  Where a code point is told, in a quoted text, in JSON or where a text is
encoded, they are taken for halves.  And halves follow all other characters in the order
of texts, where their own code points come before U+E000.
-/
import SecurityMarking.Text.Basic

namespace SecurityMarking.Text

/-- The beginning of the last plane. -/
def lastPlane : Nat := 0x100000

/-- Whether a code point is half of a pair. -/
def isHalf (n : Nat) : Bool := 0xd800 ≤ n && n < 0xe000

/-- The character that stands for half of a pair. -/
def ofHalf (n : Nat) : Char := Char.ofNat (lastPlane + n)

/-- The half of a pair that a character stands for. -/
def half? (c : Char) : Option Nat :=
  if lastPlane ≤ c.toNat && isHalf (c.toNat - lastPlane) then some (c.toNat - lastPlane) else none

end SecurityMarking.Text
