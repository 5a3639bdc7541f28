/-
Values in JSON.

A list or a map that is not empty takes a line for each item, two spaces further
in than the line that it begins on; keys and values have a colon and a space
between them.  Only ASCII is written: every other character, and the control
characters, are written by their UTF-16 units in hexadecimal digits.  Keys that
are no texts are written as the texts of their values.

Not every value can be written: there are no dates, bytes and sets in JSON, no list or
map stands inside itself, and an integer may have too many digits.  `fault?` tells the
first thing in a value that stands in the way.
-/
import SecurityMarking.Failure

namespace SecurityMarking.Json

/-- The UTF-16 units of a character: one, or two beyond the first plane. -/
def units (c : Char) : List Nat :=
  let n := c.toNat
  if let some half := Text.half? c then [half]
  else if n < 0x10000 then [n]
  else [0xd800 + (n - 0x10000) / 0x400, 0xdc00 + (n - 0x10000) % 0x400]

/-- A UTF-16 unit by its hexadecimal digits. -/
def unitEscape (n : Nat) : Text := '\\' :: 'u' :: Text.hexDigits 4 n

/-- A character of a text between double quotes. -/
def charText (c : Char) : Text :=
  if c = '"' ∨ c = '\\' then ['\\', c]
  else if c = '\n' then ['\\', 'n']
  else if c = '\r' then ['\\', 'r']
  else if c = '\t' then ['\\', 't']
  else if c = '\x08' then ['\\', 'b']
  else if c = '\x0c' then ['\\', 'f']
  else if ' ' ≤ c ∧ c ≤ '~' then [c]
  else (units c).flatMap unitEscape

/-- A text between double quotes. -/
def textLiteral (t : Text) : Text := '"' :: t.flatMap charText ++ ['"']

/-- A binary number. -/
def realText : Binary64 → Text
  | .nan _ => "NaN"
  | .infinite false => "Infinity"
  | .infinite true => "-Infinity"
  | x => x.write

/-- A scalar; dates and bytes have no other form than they have elsewhere. -/
def scalarText : Scalar → Text
  | .null => "null"
  | .flag true => "true"
  | .flag false => "false"
  | .number n => Numeral.write n
  | .real x => realText x
  | .date d => textLiteral d.write
  | .moment m => textLiteral m.write
  | .bytes bs => textLiteral bs.quoted
  | .text t => textLiteral t

/-- A key, which has to be a text. -/
def keyText : Scalar → Text
  | .text t => textLiteral t
  | s => textLiteral (scalarText s)

/-- The beginning of a line at a depth. -/
def newLine (depth : Nat) : Text := '\n' :: List.replicate (2 * depth) ' '

/-- Items between brackets at a depth, each on a line of its own. -/
def bracketed (opening closing : Char) (depth : Nat) (items : List Text) : Text :=
  if items.isEmpty then [opening, closing]
  else
    opening :: newLine (depth + 1) ++ (',' :: newLine (depth + 1)).intercalate items
      ++ newLine depth ++ [closing]

mutual

/-- A value that begins on a line at a depth; a pair and a set are written as lists. -/
def render (depth : Nat) : Value → Text
  | .scalar s => scalarText s
  | .pair x y => bracketed '[' ']' depth [render (depth + 1) x, render (depth + 1) y]
  | .set members => bracketed '[' ']' depth (members.map scalarText)
  | .list items => bracketed '[' ']' depth (renderItems (depth + 1) items)
  | .map entries => bracketed '\x7b' '\x7d' depth (renderEntries (depth + 1) entries)
  | .knot _ v => render depth v
  | .again _ kind => textLiteral (Value.dots kind)

/-- Several values at a depth. -/
def renderItems (depth : Nat) : List Value → List Text
  | [] => []
  | v :: vs => render depth v :: renderItems depth vs

/-- The entries of a map at a depth. -/
def renderEntries (depth : Nat) : List (Scalar × Value) → List Text
  | [] => []
  | (k, v) :: rest => (keyText k ++ ':' :: ' ' :: render depth v) :: renderEntries depth rest

end

/-- A value by itself. -/
def write (v : Value) : Text := render 0 v

/-! ### What cannot be written -/

/-- Why a scalar cannot be written. -/
def scalarFault? (s : Scalar) : Option Misuse :=
  match s with
  | .date _ | .moment _ | .bytes _ => some (.notInJson s.kind)
  | s => if s.isWritable then none else some .tooLongToWrite

/-- Why a key cannot be written. -/
def keyFault? (s : Scalar) : Option Misuse :=
  match s with
  | .date _ | .moment _ | .bytes _ => some (.notAKeyInJson s.kind)
  | s => if s.isWritable then none else some .tooLongToWrite

mutual

/-- Why a value cannot be written. -/
def fault? : Value → Option Misuse
  | .scalar s => scalarFault? s
  | .pair x y => (fault? x).or (fault? y)
  | .set _ => some (.notInJson .set)
  | .list items => faultOfItems? items
  | .map entries => faultOfEntries? entries
  | .knot _ v => fault? v
  | .again _ _ => some .endlessInJson

/-- Why one of several values cannot be written. -/
def faultOfItems? : List Value → Option Misuse
  | [] => none
  | v :: vs => (fault? v).or (faultOfItems? vs)

/-- Why a key or a value of a map cannot be written. -/
def faultOfEntries? : List (Scalar × Value) → Option Misuse
  | [] => none
  | (k, v) :: rest => ((keyFault? k).or (fault? v)).or (faultOfEntries? rest)

end

/-- A value by itself, if it can be written. -/
def writeIfPossible (v : Value) : Except Failure Text :=
  match fault? v with
  | none => .ok (write v)
  | some fault => .error (.misuse fault)

end SecurityMarking.Json
