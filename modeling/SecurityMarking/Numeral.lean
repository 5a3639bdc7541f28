/-
Numerals: integers as markings write them.

A numeral is an optional sign and decimal digits of any script, where a single
underscore may stand between two digits.  It has at most 4300 digits; leading
zeros count, signs and underscores do not.  The digits are counted before what
follows them is looked at, so a text that begins with too many is refused for
that, whatever comes after them.  An integer is written in ASCII digits with a
minus sign if it is negative, so that what is written is again a numeral of the
same value as long as it keeps to the limit.
-/
import SecurityMarking.Text.Digit
import SecurityMarking.Text.Blank

namespace SecurityMarking.Numeral

/-- The most digits that a numeral may have. -/
def maxDigits : Nat := 4300

/-- Why a text is no numeral. -/
inductive Fault
  /-- It is not an optional sign followed by digits. -/
  | malformed
  /-- It begins with that many digits. -/
  | tooLong (digits : Nat)
deriving DecidableEq

/-- The digits that a text begins with, where single underscores may stand between them, and what
follows the last of them.  There has to be one, and an underscore has to lead to another. -/
def digits? : Text → Option (List Nat × Text)
  | [] => none
  | [c] => (Text.digitValue? c).map fun d => ([d], [])
  | c :: '_' :: cs => do
    let d ← Text.digitValue? c
    let (ds, rest) ← digits? cs
    return (d :: ds, rest)
  | c :: c' :: cs => do
    let d ← Text.digitValue? c
    if (Text.digitValue? c').isSome then
      let (ds, rest) ← digits? (c' :: cs)
      return (d :: ds, rest)
    else return ([d], c' :: cs)

/-- The value of decimal digits, the most significant first. -/
def valueOfDigits (ds : List Nat) : Nat := ds.foldl (fun n d => 10 * n + d) 0

/-- The value of an unsigned numeral. -/
def readUnsigned (t : Text) : Except Fault Nat :=
  match digits? t with
  | none => .error .malformed
  | some (ds, rest) =>
    if maxDigits < ds.length then .error (.tooLong ds.length)
    else if rest.isEmpty then .ok (valueOfDigits ds)
    else .error .malformed

/-- The value of a numeral. -/
def read : Text → Except Fault Int
  | '+' :: t => (readUnsigned t).map Int.ofNat
  | '-' :: t => (readUnsigned t).map fun n : Nat => -(n : Int)
  | t => (readUnsigned t).map Int.ofNat

/-- The value of a numeral, if the text is one. -/
def read? (t : Text) : Option Int := (read t).toOption

/-- The value of a numeral that blanks may surround. -/
def readPadded (t : Text) : Except Fault Int := read (Text.trimBy Text.isNumeralPadding t)

/-- An integer in ASCII digits, with a minus sign if it is negative. -/
def write : Int → Text
  | .ofNat n => Nat.toDigits 10 n
  | .negSucc n => '-' :: Nat.toDigits 10 (n + 1)

/-- Whether an integer can be written, which takes no more digits than a numeral may have. -/
def isWritable (n : Int) : Bool := n.natAbs < Nat.pow 10 maxDigits

end SecurityMarking.Numeral
