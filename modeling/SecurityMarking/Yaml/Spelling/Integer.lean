/-
Spellings of integers.

An integer is binary after `0b`, hexadecimal after `0x`, octal after a nought, and
else decimal; colons part the places of a number in base sixty.  An underscore
between digits says nothing.

What looks like an integer always says one, but for a prefix without digits and for
more digits than a numeral may have.  A tag may ask for the integer of any text, and so
for that of one that does not look like an integer: digits may then be those of any
script, with blanks around them, and behind the prefix may be a sign and, in either
case of its letter, a mark of the base.
-/
import SecurityMarking.Yaml.Fault

namespace SecurityMarking.Yaml

/-- A text without the line feed that may end it. -/
def withoutLineEnd (t : Text) : Text := if t.getLast? == some '\n' then t.dropLast else t

/-! ### What looks like an integer -/

/-- Whether a character is a digit or an underscore. -/
def isDigitOrGap (c : Char) : Bool := c.isDigit || c == '_'

/-- What follows the sign of a number, or all of it. -/
def afterSign : Text → Text
  | '+' :: t => t
  | '-' :: t => t
  | t => t

/-- Whether a text is a colon and one or two digits, less than sixty, and goes on that way. -/
def areSixtieths (t : Text) : Bool :=
  (t.splitOn ':').drop 1 |>.all fun place =>
    match place with
    | [c] => c.isDigit
    | [c, d] => '0' ≤ c && c ≤ '5' && d.isDigit
    | _ => false

/-- Whether a text looks like an integer. -/
def looksLikeNumber (t : Text) : Bool :=
  match afterSign t with
  | ['0'] => true
  | '0' :: 'b' :: t => !t.isEmpty && t.all fun c => c == '0' || c == '1' || c == '_'
  | '0' :: 'x' :: t => !t.isEmpty && t.all fun c => (Text.hexDigitValue? c).isSome || c == '_'
  | '0' :: t => !t.isEmpty && t.all fun c => ('0' ≤ c && c ≤ '7') || c == '_'
  | c :: t =>
    let places := t.dropWhile isDigitOrGap
    c.isDigit && (places.isEmpty || (places.head? == some ':' && areSixtieths places))
  | [] => false

/-! ### What an integer says -/

/-- A text without its underscores. -/
def withoutGaps (t : Text) : Text := t.filter (· != '_')

/-- The decimal integer that a text says. -/
def readDecimal (t : Text) : Except Fault Int :=
  match Numeral.readPadded t with
  | .ok n => .ok n
  | .error .malformed => .error (.misuse (.notAnInteger 10 t))
  | .error (.tooLong size) => .error (.misuse (.tooManyDigits size))

/-- A text with digits of ASCII for those of other scripts. -/
def withAsciiDigits (t : Text) : Text :=
  t.map fun c => ((Text.digitValue? c).map Nat.digitChar).getD c

/-- The letters of the mark of a base. -/
def baseLetters (base : Nat) : List Char :=
  if base == 2 then ['b', 'B'] else if base == 8 then ['o', 'O'] else ['x', 'X']

/-- What follows the mark of a base, or all of a text without one. -/
def afterBaseMark (base : Nat) : Text → Text
  | '0' :: c :: t => if (baseLetters base).contains c then t else '0' :: c :: t
  | t => t

/-- The value of digits in a base. -/
def valueInBase? (base : Nat) (t : Text) : Option Nat := do
  let digits ← t.mapM fun c => (Text.hexDigitValue? c).filter (· < base)
  if digits.isEmpty then none else some (digits.foldl (base * · + ·) 0)

/-- The integer that a text says in a base, which is a power of two. -/
def readInBase (base : Nat) (t : Text) : Except Fault Int :=
  let said := withAsciiDigits (Text.trimBy Text.isNumeralPadding t)
  match valueInBase? base (afterBaseMark base (afterSign said)) with
  | some n => .ok (if said.head? == some '-' then -n else n)
  | none => .error (.misuse (.notAnInteger base t))

/-- The integer that a text without a sign says. -/
def readUnsigned (t : Text) : Except Fault Int :=
  match t with
  | [] => .error (.misuse .emptyInteger)
  | ['0'] => .ok 0
  | '0' :: 'b' :: t => readInBase 2 t
  | '0' :: 'x' :: t => readInBase 16 t
  | '0' :: _ => readInBase 8 t
  | _ =>
    if t.contains ':' then do
      let places ← (t.splitOn ':').mapM readDecimal
      return places.foldl (60 * · + ·) 0
    else readDecimal t

/-- The integer that a text says. -/
def readNumber (t : Text) : Except Fault Int :=
  match withoutGaps t with
  | '-' :: t => (readUnsigned t).map (- ·)
  | '+' :: t => readUnsigned t
  | t => readUnsigned t

end SecurityMarking.Yaml
