/-
The quoted form of a text.

A quoted text stands between single quotes, or between double quotes if it holds
a single quote and no double one.  Inside, the backslash and the quote in use
follow a backslash, line feed, carriage return and tab are written by their
letters, and every other character that is not printable is written by its code
point in lower-case hexadecimal digits: two after `x`, four after `u`, or eight
after `U`, whichever is the shortest that holds it.  Half of a pair of UTF-16 units is
written by its own code point.
-/
import SecurityMarking.Text.Printable
import SecurityMarking.Text.Half

namespace SecurityMarking.Text

/-- The hexadecimal digit of a number below sixteen. -/
def hexDigit (n : Nat) : Char := Nat.digitChar (n % 16)

/-- The last `width` hexadecimal digits of a number. -/
def hexDigits : Nat → Nat → Text
  | 0, _ => []
  | width + 1, n => hexDigits width (n / 16) ++ [hexDigit n]

/-- The quote that a text is written between. -/
def quoteFor (t : Text) : Char :=
  if t.contains '\'' && !t.contains '"' then '"' else '\''

/-- A character by its code point. -/
def codeEscape (c : Char) : Text :=
  match half? c with
  | some n => '\\' :: 'u' :: hexDigits 4 n
  | none =>
    if c.toNat < 0x100 then '\\' :: 'x' :: hexDigits 2 c.toNat
    else if c.toNat < 0x10000 then '\\' :: 'u' :: hexDigits 4 c.toNat
    else '\\' :: 'U' :: hexDigits 8 c.toNat

/-- A character inside quotes. -/
def quoteChar (quote c : Char) : Text :=
  if c = quote ∨ c = '\\' then ['\\', c]
  else if c = '\n' then ['\\', 'n']
  else if c = '\r' then ['\\', 'r']
  else if c = '\t' then ['\\', 't']
  else if isPrintable c then [c]
  else codeEscape c

/-- The quoted form of a text. -/
def quoted (t : Text) : Text :=
  let quote := quoteFor t
  quote :: t.flatMap (quoteChar quote) ++ [quote]

end SecurityMarking.Text
