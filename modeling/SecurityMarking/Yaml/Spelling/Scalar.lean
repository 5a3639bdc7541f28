/-
What scalars say.

A scalar is text, and what the text says depends on what it is taken for.  A plain
scalar without a tag is taken for what its spelling looks like: one of the words for
nothing, true and false, an integer, a binary number, a date or a moment; all else
is text.  A tag may ask for one of these of any text, and a text that does not say
such a thing is then misused.  A line feed that ends a text does not change what the
text looks like.
-/
import SecurityMarking.Yaml.Spelling.Moment
import SecurityMarking.Yaml.Tag

namespace SecurityMarking.Yaml

/-! ### Words -/

/-- The spellings of nothing. -/
def nullWords : List Text := ["", "~", "null", "Null", "NULL"]

/-- The spellings of true. -/
def trueWords : List Text := ["yes", "Yes", "YES", "true", "True", "TRUE", "on", "On", "ON"]

/-- The spellings of false. -/
def falseWords : List Text := ["no", "No", "NO", "false", "False", "FALSE", "off", "Off", "OFF"]

/-- The flag that a word says, in letters of any case. -/
def readFlag (t : Text) : Except Fault Bool :=
  let word := t.lower
  if trueWords.contains word then .ok true
  else if falseWords.contains word then .ok false
  else .error (.misuse (.notAFlag word))

/-- The bytes that a text writes. -/
def readBytes (t : Text) : Except Fault Bytes := orMalformed (Bytes.ofBase64? t)

/-! ### Scalars -/

/-- What a text looks like. -/
def Tag.ofWord (t : Text) : Tag :=
  if nullWords.contains t then .null
  else if trueWords.contains t || falseWords.contains t then .flag
  else if looksLikeReal t then .real
  else if looksLikeNumber t then .number
  else if looksLikeMoment t then .moment
  else if t == "<<".toList then .merge
  else if t == "=".toList then .stand
  else .text

/-- What a scalar is taken for by its spelling. -/
def Tag.ofSpelling (t : Text) : Tag :=
  if t == ['\n'] then .text else .ofWord (withoutLineEnd t)

/-- The scalar that a text says, given what it is taken for.  The mark is for what is no number. -/
def Tag.readScalar (mark : Nat) (t : Text) : Tag → Except Fault Scalar
  | .null => .ok .null
  | .flag => .flag <$> readFlag t
  | .number => .number <$> readNumber t
  | .real => .real <$> readReal mark t
  | .moment => readMoment t
  | .bytes => .bytes <$> readBytes t
  | .text => .ok (.text t)
  | .list | .map | .set | .pairs | .merge | .stand | .unknown => .error .malformed

end SecurityMarking.Yaml
