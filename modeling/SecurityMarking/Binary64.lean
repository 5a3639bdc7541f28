/-
Binary numbers of 64 bits.

A finite number is a significand times a power of two, counted in units of the
least number above nought, 2^-1074.  The significand has at most 53 bits, and all
53 unless the power is nought, so each number has one form.  A ratio that is no
such number is rounded to the nearest, and from the middle to the even
significand; what is too large for the greatest power is infinite.

What is no number carries a mark, by which one such is told from another.

A number is written by the fewest decimal digits that are rounded to it, and of
those the digits nearest to it.  All of it is exact arithmetic on naturals.
-/
import SecurityMarking.Numeral

namespace SecurityMarking

/-- A binary number of 64 bits. -/
inductive Binary64
  | nan (mark : Nat)
  | infinite (negative : Bool)
  /-- The significand times two to the power, in units of 2^-1074. -/
  | finite (negative : Bool) (significand power : Nat)
deriving DecidableEq

/-- A quotient rounded to the nearest natural, from the middle to the even one. -/
def roundedQuotient (n d : Nat) : Nat :=
  let q := n / d
  let twice := 2 * (n % d)
  if twice < d then q else if d < twice then q + 1 else q + q % 2

namespace Binary64

/-- The number of units in one. -/
def unitsInOne : Nat := Nat.pow 2 1074

/-- The greatest power of a finite number. -/
def maxPower : Nat := 2045

/-- The number nearest to a ratio. -/
def ofRatio (negative : Bool) (n d : Nat) : Binary64 :=
  let units := n * unitsInOne
  let power := (units / d).log2 - 52
  let significand := roundedQuotient units (d * Nat.pow 2 power)
  let (significand, power) :=
    if significand == Nat.pow 2 53 then (Nat.pow 2 52, power + 1) else (significand, power)
  if maxPower < power then infinite negative else finite negative significand power

/-- The most decimal digits before the point of a finite number. -/
def maxDigitsBefore : Int := 309

/-- Noughts after the point that leave nothing of a number. -/
def maxNoughtsAfter : Int := 324

/-- The number nearest to some digits times a power of ten. -/
def ofDecimal (negative : Bool) (digits : Nat) (exponent : Int) : Binary64 :=
  let length : Int := (Nat.toDigits 10 digits).length
  if digits == 0 || exponent + length < -maxNoughtsAfter then finite negative 0 0
  else if maxDigitsBefore < exponent + length then infinite negative
  else if 0 ≤ exponent then ofRatio negative (digits * Nat.pow 10 exponent.toNat) 1
  else ofRatio negative digits (Nat.pow 10 (-exponent).toNat)

/-- The number with the other sign. -/
def negate : Binary64 → Binary64
  | nan mark => nan mark
  | infinite negative => infinite !negative
  | finite negative significand power => finite (!negative) significand power

/-- Whether a number is nought. -/
def isZero : Binary64 → Bool
  | finite _ significand _ => significand == 0
  | _ => false

/-- The integer that a number is, if it is one. -/
def toInt? : Binary64 → Option Int
  | finite negative significand power =>
    let units := significand * Nat.pow 2 power
    if units % unitsInOne == 0 then
      let n : Int := units / unitsInOne
      some (if negative then -n else n)
    else none
  | _ => none

/-! ### Places -/

/-- A ratio that may be negative, as the number nearest to it. -/
def ofSignedRatio (n : Int) (d : Nat) : Binary64 := ofRatio (n < 0) n.natAbs d

/-- The units in a finite number. -/
def units (negative : Bool) (significand power : Nat) : Int :=
  let magnitude : Nat := significand * Nat.pow 2 power
  if negative then -magnitude else magnitude

/-- The sum of two numbers; one that is not finite decides, unless the other is infinite the other
way. -/
def plus : Binary64 → Binary64 → Binary64
  | finite a m p, finite b n q => ofSignedRatio (units a m p + units b n q) unitsInOne
  | infinite a, infinite b => if a == b then infinite a else nan 0
  | infinite _, nan mark => nan mark
  | finite .., y => y
  | x, _ => x

/-- The product with a finite number above nought; a number that is not finite stays as it is. -/
def times : Binary64 → Binary64 → Binary64
  | finite a m p, finite b n q =>
    ofSignedRatio (units a m p * units b n q) (unitsInOne * unitsInOne)
  | x, _ => x

/-- The sum of places in base sixty, the least first, of which the first counts as often as is said;
every step is rounded.  There is no sum if a place counts more often than a number can say. -/
def sumOfSixtieths (sum : Binary64) (weight : Nat) : List Binary64 → Option Binary64
  | [] => some sum
  | place :: places =>
    match ofRatio false weight 1 with
    | infinite _ => none
    | w => sumOfSixtieths (sum.plus (place.times w)) (60 * weight) places

/-- The number whose places in base sixty are given, the least last. -/
def ofSixtieths? (places : List Binary64) : Option Binary64 :=
  sumOfSixtieths (finite false 0 0) 1 places.reverse

/-! ### Writing -/

/-- The exponent of the first decimal digit of a ratio that is not nought. -/
def leadingExponent (n d : Nat) : Int :=
  if d ≤ n then (Nat.toDigits 10 (n / d)).length - 1
  else
    let noughts := (Nat.toDigits 10 (d / n)).length
    if d ≤ n * Nat.pow 10 (noughts - 1) then 1 - (noughts : Int) else -(noughts : Int)

/-- The digits nearest to a number, of those that end at an exponent and are rounded to the
number. -/
def digitsAt? (significand power : Nat) (exponent : Int) : Option Nat :=
  let n := significand * Nat.pow 2 power * Nat.pow 10 (-exponent).toNat
  let d := unitsInOne * Nat.pow 10 exponent.toNat
  let below := n / d
  let reads (digits : Nat) : Bool :=
    ofDecimal false digits exponent == finite false significand power
  let near := roundedQuotient n d
  if reads near then some near
  else if reads below then some below
  else if reads (below + 1) then some (below + 1)
  else none

/-- The digits, the exponents of whose last is tried downwards, that are the first to be rounded to
the number. -/
def digitsFrom (significand power : Nat) (exponent : Int) : Nat → Nat × Int
  | 0 => (0, exponent)
  | more + 1 =>
    match digitsAt? significand power exponent with
    | some digits => (digits, exponent)
    | none => digitsFrom significand power (exponent - 1) more

/-- The most digits that a number can need. -/
def maxDigits : Nat := 17

/-- The fewest digits that are rounded to a number, and the exponent of the last. -/
def shortest (significand power : Nat) : Nat × Int :=
  if significand == 0 then (0, 0)
  else
    digitsFrom significand power (leadingExponent (significand * Nat.pow 2 power) unitsInOne)
      maxDigits

/-- A text without the noughts at its end. -/
def withoutNoughts (t : Text) : Text := (t.reverse.dropWhile (· == '0')).reverse

/-- Digits with an exponent: one before the point, and two or more of the exponent. -/
def scientific (digits : Text) (exponent : Int) : Text :=
  let rest := digits.drop 1
  let size := Nat.toDigits 10 exponent.natAbs
  Text.concat [digits.take 1, if rest.isEmpty then [] else '.' :: rest,
    if exponent < 0 then "e-" else "e+", List.replicate (2 - size.length) '0', size]

/-- Digits with a point after the one of exponent nought; there is a digit on both sides of it. -/
def positional (digits : Text) (exponent : Int) : Text :=
  if exponent < 0 then
    Text.concat ["0.", List.replicate (-exponent - 1).toNat '0', digits]
  else
    let whole := digits.take (exponent.toNat + 1)
    let rest := digits.drop (exponent.toNat + 1)
    Text.concat [whole, List.replicate (exponent.toNat + 1 - whole.length) '0', ".",
      if rest.isEmpty then "0" else rest]

/-- A number that is finite and has no sign.  It has an exponent below 0.0001 and from 10^16 on. -/
def writeMagnitude (significand power : Nat) : Text :=
  let (digits, last) := shortest significand power
  let all := Nat.toDigits 10 digits
  let exponent := last + all.length - 1
  let digits := if digits == 0 then ['0'] else withoutNoughts all
  if -4 ≤ exponent ∧ exponent < 16 then positional digits exponent else scientific digits exponent

/-- A number as it is written. -/
def write : Binary64 → Text
  | nan _ => "nan"
  | infinite negative => if negative then "-inf" else "inf"
  | finite negative significand power =>
    (if negative then ['-'] else []) ++ writeMagnitude significand power

end Binary64

end SecurityMarking
