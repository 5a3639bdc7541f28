/-
Blank characters.

A character is blank if Unicode gives it the property White_Space or the
bidirectional type of a separator: the tab to the carriage return, the four
information separators, the space, and the spaces and line ends beyond ASCII.
Words are the longest runs of characters that are not blank.
-/
import SecurityMarking.Text.Basic

namespace SecurityMarking.Text

/-- Whether a character separates words. -/
def isBlank (c : Char) : Bool :=
  let n := c.toNat
  (0x09 ≤ n && n ≤ 0x0d) || (0x1c ≤ n && n ≤ 0x20) || n == 0x85 || n == 0xa0 || n == 0x1680
    || (0x2000 ≤ n && n ≤ 0x200a) || n == 0x2028 || n == 0x2029 || n == 0x202f || n == 0x205f
    || n == 0x3000

/-- A blank that is also accepted around a numeral: every blank but the four information
separators of ASCII. -/
def isNumeralPadding (c : Char) : Bool :=
  isBlank c && !(0x1c ≤ c.toNat && c.toNat ≤ 0x1f)

/-- A text without the characters at both of its ends that satisfy `p`. -/
def trimBy (p : Char → Bool) (t : Text) : Text :=
  ((t.dropWhile p).reverse.dropWhile p).reverse

/-- A text without the blanks at both of its ends. -/
def trim (t : Text) : Text := trimBy isBlank t

/-- The words of a text: its longest runs of characters that are not blank. -/
def words : Text → List Text
  | [] => []
  | [c] => if isBlank c then [] else [[c]]
  | c :: next :: cs =>
    if isBlank c then words (next :: cs)
    else if isBlank next then [c] :: words (next :: cs)
    else (words (next :: cs)).modifyHead (c :: ·)

end SecurityMarking.Text
