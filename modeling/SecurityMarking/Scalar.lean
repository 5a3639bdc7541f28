/-
Scalars: the values without parts.

Scalars that are equal are the same key: a flag equals the number it counts as, one
for true and nought for false, a binary number the integer it is, and a moment what it
is in universal time.  What is no number equals only what has the same mark.

A scalar has two forms in messages.  Its quoted form shows texts between quotes and
dates by what builds them; its shown form is the same but for a text or a date, which
stands as it is.  An integer has either form only if it has no more digits than a
numeral may have.
-/
import SecurityMarking.Bytes
import SecurityMarking.Binary64
import SecurityMarking.Calendar

namespace SecurityMarking

/-- A value without parts. -/
inductive Scalar
  | null
  | flag (b : Bool)
  | number (n : Int)
  | real (x : Binary64)
  | date (d : Date)
  | moment (m : Moment)
  | bytes (bs : Bytes)
  | text (t : Text)
deriving DecidableEq

/-! ### Kinds -/

/-- The kinds of values, as messages tell them apart. -/
inductive Kind
  | null
  | flag
  | number
  | real
  | date
  | moment
  | bytes
  | text
  | pair
  | set
  | list
  | map
deriving DecidableEq

namespace Kind

/-- The word for a kind in a message. -/
def word : Kind → Text
  | null => "NoneType"
  | flag => "bool"
  | number => "int"
  | real => "float"
  | date => "datetime.date"
  | moment => "datetime.datetime"
  | bytes => "bytes"
  | text => "str"
  | pair => "tuple"
  | set => "set"
  | list => "list"
  | map => "dict"

/-- The word for a kind without the family that it belongs to. -/
def ownWord : Kind → Text
  | date => "date"
  | moment => "datetime"
  | kind => kind.word

end Kind

namespace Scalar

def kind : Scalar → Kind
  | null => .null
  | flag _ => .flag
  | number _ => .number
  | real _ => .real
  | date _ => .date
  | moment _ => .moment
  | bytes _ => .bytes
  | text _ => .text

/-! ### Keys -/

/-- The scalar that stands for all those that are the same key. -/
def key : Scalar → Scalar
  | flag true => number 1
  | flag false => number 0
  | real x =>
    match x.toInt? with
    | some n => number n
    | none => real x
  | moment m => moment m.universal
  | s => s

/-- Whether two scalars are the same key. -/
def same (a b : Scalar) : Bool := a.key = b.key

/-- A text is the same key as itself only. -/
@[simp] theorem same_text_text (s t : Text) : same (.text s) (.text t) = decide (s = t) := by
  simp [same, key]

/-- What stands for a key among some entries. -/
def valueIn? {α : Type} (key : Scalar) (entries : List (Scalar × α)) : Option α :=
  (entries.find? fun e => e.1.same key).map (·.2)

/-- The entries with something for a key: a key that is present keeps its place, and another comes
last. -/
def insertIn {α : Type} (key : Scalar) (v : α) : List (Scalar × α) → List (Scalar × α)
  | [] => [(key, v)]
  | (k, w) :: rest => if k.same key then (k, v) :: rest else (k, w) :: key.insertIn v rest

/-! ### Forms -/

/-- The scalar with texts between quotes and dates by what builds them. -/
def quoted : Scalar → Text
  | null => "None"
  | flag true => "True"
  | flag false => "False"
  | number n => Numeral.write n
  | real x => x.write
  | date d => d.expression
  | moment m => m.expression
  | bytes bs => bs.quoted
  | text t => t.quoted

/-- The scalar as it stands in a sentence. -/
def shown : Scalar → Text
  | date d => d.write
  | moment m => m.write
  | text t => t
  | s => s.quoted

/-- Whether a scalar can be written. -/
def isWritable : Scalar → Bool
  | number n => Numeral.isWritable n
  | _ => true

/-- Whether a scalar says something: nothing, false, nought and the empty text do not. -/
def isFilled : Scalar → Bool
  | null => false
  | flag b => b
  | number n => n != 0
  | real x => !x.isZero
  | date _ | moment _ => true
  | bytes bs => !bs.isEmpty
  | text t => !t.isEmpty

end Scalar

end SecurityMarking
