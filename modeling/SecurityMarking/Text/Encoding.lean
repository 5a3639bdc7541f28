/-
Encodings in which texts are written.

An encoding has a code for some characters and none for others, and each one used here has codes
for all of ASCII.  A text can be written if there is a code for every character of it.
Otherwise it is refused as a whole, and `fault?` tells of the first characters without a code, as
many as stand side by side.

Errors are to be told in any case, so in their texts the characters without a code are
written by their code points: `escape`.
-/
import SecurityMarking.Text.Quoted
import SecurityMarking.Numeral

namespace SecurityMarking

/-- An encoding. -/
structure Encoding where
  name : Text
  /-- What is said of characters that have no code. -/
  reason : Text
  /-- Whether a character has a code. -/
  covers : Char → Bool
  covers_ascii : ∀ c : Char, c.toNat < 0x80 → covers c = true

/-- Some characters side by side that have no code. -/
structure Encoding.Fault where
  encoding : Text
  reason : Text
  first : Char
  /-- The position of the first. -/
  position : Nat
  /-- How many follow the first. -/
  further : Nat
deriving DecidableEq

namespace Encoding

/-- UTF-8 has no codes for halves of pairs of UTF-16 units. -/
def utf8 : Encoding where
  name := "utf-8"
  reason := "surrogates not allowed"
  covers c := (Text.half? c).isNone
  covers_ascii c h := by
    have hplane : ¬ Text.lastPlane ≤ c.toNat := by
      unfold Text.lastPlane
      omega
    simp [Text.half?, hplane]

def ascii : Encoding where
  name := "ascii"
  reason := "ordinal not in range(128)"
  covers c := c.toNat < 0x80
  covers_ascii _ h := decide_eq_true h

/-- What a fault says. -/
def Fault.message (fault : Fault) : Text :=
  let position := Numeral.write fault.position
  let characters : Text :=
    if fault.further = 0 then
      Text.concat ["character '", Text.codeEscape fault.first, "' in position ", position]
    else
      Text.concat ["characters in position ", position, "-",
        Numeral.write (fault.position + fault.further)]
  Text.concat ["'", fault.encoding, "' codec can't encode ", characters, ": ", fault.reason]

/-- The first characters of a text that have no code. -/
def fault? (e : Encoding) (t : Text) : Option Fault :=
  match t.dropWhile e.covers with
  | [] => none
  | first :: rest =>
    some ⟨e.name, e.reason, first, (t.takeWhile e.covers).length,
      (rest.takeWhile fun c => !e.covers c).length⟩

/-- A text in which the characters that have no code are escaped. -/
def escape (e : Encoding) (t : Text) : Text :=
  t.flatMap fun c => if e.covers c then [c] else Text.codeEscape c

end Encoding

end SecurityMarking
