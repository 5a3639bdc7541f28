/-
Spellings of binary numbers.

A binary number has a point among its digits, and the part before the point may have
places in base sixty.  An exponent has a sign.  Two words after a point stand for what
is infinite and for what is no number.
-/
import SecurityMarking.Yaml.Spelling.Integer
import SecurityMarking.Text.Lower

namespace SecurityMarking.Yaml

/-! ### What looks like a binary number -/

/-- Whether a text is nothing, or the exponent of a number with its sign. -/
def isExponent : Text → Bool
  | [] => true
  | e :: sign :: t =>
    (e == 'e' || e == 'E') && (sign == '+' || sign == '-') && !t.isEmpty && t.all Char.isDigit
  | _ => false

/-- Whether a text looks like a binary number: digits with a point among them, of which only the
first place may have more places before it. -/
def looksLikeReal (t : Text) : Bool :=
  let u := afterSign t
  let whole := u.takeWhile fun c => isDigitOrGap c || c == ':'
  let rest := u.drop whole.length
  match rest with
  | '.' :: t' =>
    let exponent := t'.dropWhile isDigitOrGap
    if whole.isEmpty then
      ([".inf", ".Inf", ".INF"].map String.toList).contains rest
        || (u.length == t.length
          && (([".nan", ".NaN", ".NAN"].map String.toList).contains rest
            || (t'.head?.any Char.isDigit && isExponent exponent)))
    else if !whole.head?.any Char.isDigit then false
    else if whole.contains ':' then
      exponent.isEmpty && areSixtieths (whole.dropWhile isDigitOrGap)
    else isExponent exponent
  | _ => false

/-! ### What a binary number says -/

/-- The value of digits of any script. -/
def digits? (t : Text) : Option Nat := do return Numeral.valueOfDigits (← t.mapM Text.digitValue?)

/-- The exponent that follows the digits of a number, nought if none does. -/
def exponent? : Text → Option Int
  | [] => some 0
  | 'e' :: '-' :: t => if t.isEmpty then none else do return -(← digits? t)
  | 'e' :: '+' :: t => if t.isEmpty then none else do return (← digits? t)
  | 'e' :: t => if t.isEmpty then none else do return (← digits? t)
  | _ => none

/-- The binary number that small letters and digits without a sign say. -/
def magnitude? (t : Text) : Option Binary64 :=
  if t == "inf".toList || t == "infinity".toList then some (.infinite false)
  else if t == "nan".toList then some (.nan 0)
  else do
    let isDigit (c : Char) : Bool := (Text.digitValue? c).isSome
    let whole := t.takeWhile isDigit
    let t := t.dropWhile isDigit
    let (part, t) :=
      match t with
      | '.' :: t => (t.takeWhile isDigit, t.dropWhile isDigit)
      | t => ([], t)
    if whole.isEmpty && part.isEmpty then none
    let exponent ← exponent? t
    return .ofDecimal false (← digits? (whole ++ part)) (exponent - part.length)

/-- The binary number that a text says, as blanks and a sign may stand before it. -/
def readFraction (t : Text) : Except Fault Binary64 :=
  let padded := Text.trimBy Text.isNumeralPadding t
  let said :=
    match padded with
    | '-' :: t => (magnitude? t).map .negate
    | '+' :: t => magnitude? t
    | t => magnitude? t
  match said with
  | some x => .ok x
  | none => .error (.misuse (.notAReal t))

/-- The binary number that a text without a sign says; it may have places in base sixty.  What is no
number gets a mark of its own unless its own word says it. -/
def readPlaces (mark : Nat) (t : Text) : Except Fault Binary64 :=
  let marked (x : Binary64) : Binary64 :=
    match x with
    | .nan _ => .nan mark
    | x => x
  if t == ".inf".toList then .ok (.infinite false)
  else if t == ".nan".toList then .ok (.nan 0)
  else if t.contains ':' then do
    match Binary64.ofSixtieths? (← (t.splitOn ':').mapM readFraction) with
    | some x => return marked x
    | none => throw (.misuse .tooLargeForReal)
  else (readFraction t).map marked

/-- The binary number that a text says. -/
def readReal (mark : Nat) (t : Text) : Except Fault Binary64 :=
  match Text.lower (withoutGaps t) with
  | '-' :: t => (readPlaces mark t).map .negate
  | '+' :: t => readPlaces mark t
  | [] => .error (.misuse .emptyInteger)
  | t => readPlaces mark t

end SecurityMarking.Yaml
