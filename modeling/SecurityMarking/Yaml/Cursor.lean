/-
Places in a document.

The layout of a YAML document carries meaning, so a reader has to know at which
column and on which line it stands as well as what lies ahead.  Columns count
from nought, and a mark of byte order takes none.  Lines may end in a carriage
return, a line feed or both, which is the same line end, or in one of three
characters beyond ASCII.

A document holds printable text: apart from tabs and line ends, a control
character anywhere makes it no document at all.
-/
import SecurityMarking.Text.Basic

namespace SecurityMarking.Yaml

/-! ### Characters -/

/-- Whether a character may stand in a document. -/
def isAllowed (c : Char) : Bool :=
  let n := c.toNat
  n == 0x09 || n == 0x0a || n == 0x0d || (0x20 ≤ n && n ≤ 0x7e) || n == 0x85
    || (0xa0 ≤ n && n ≤ 0xd7ff) || (0xe000 ≤ n && n ≤ 0xfffd) || 0x10000 ≤ n

/-- Whether a character ends a line; carriage returns have become line feeds. -/
def isBreak (c : Char) : Bool := c == '\n' || c == '\u0085' || c == '\u2028' || c == '\u2029'

/-- A line end as it is kept. -/
def keptBreak (c : Char) : Char := if c == '\u0085' then '\n' else c

/-- Whether a character parts tokens. -/
def isGap (c : Char) : Bool := c == ' ' || c == '\t' || isBreak c

/-- Every carriage return, with the line feed after it if there is one, as a line feed. -/
def unifyBreaks : Text → Text
  | '\r' :: '\n' :: cs => '\n' :: unifyBreaks cs
  | '\r' :: cs => '\n' :: unifyBreaks cs
  | c :: cs => c :: unifyBreaks cs
  | [] => []

/-- Whether what lies ahead ends here or goes on with a gap. -/
def startsWithGap : Text → Bool
  | [] => true
  | c :: _ => isGap c

/-- Whether what lies ahead ends here or goes on with a space or a line end. -/
def startsWithSpace : Text → Bool
  | [] => true
  | c :: _ => c == ' ' || isBreak c

/-- Whether what lies ahead is the three characters of a document marker. -/
def isMarker (mark : Char) : Text → Bool
  | a :: b :: c :: cs => a == mark && b == mark && c == mark && startsWithGap cs
  | _ => false

/-- Whether a marker ends the document before what lies ahead of the beginning of a line. -/
def isEnd (t : Text) : Bool := isMarker '-' t || isMarker '.' t

/-! ### Places -/

/-- A place in a document. -/
structure Place where
  /-- The number of characters before it. -/
  index : Nat
  line : Nat
  column : Nat

/-- The place after a character. -/
def Place.past (p : Place) (c : Char) : Place :=
  if isBreak c then ⟨p.index + 1, p.line + 1, 0⟩
  else if c == '\ufeff' then ⟨p.index + 1, p.line, p.column⟩
  else ⟨p.index + 1, p.line, p.column + 1⟩

/-- A place in a document, with what lies ahead of it. -/
structure Cursor extends Place where
  rest : Text

namespace Cursor

/-- The beginning of a document. -/
def start (t : Text) : Cursor := ⟨⟨0, 0, 0⟩, t⟩

/-- The place after the next character. -/
def next (cur : Cursor) : Cursor :=
  match cur.rest with
  | [] => cur
  | c :: cs => ⟨cur.past c, cs⟩

/-- The place after as many characters. -/
def advance (cur : Cursor) : Nat → Cursor
  | 0 => cur
  | n + 1 => cur.next.advance n

/-- The characters ahead that have a property, and the place after them. -/
def span (p : Char → Bool) (cur : Cursor) : Text × Cursor :=
  let t := cur.rest.takeWhile p
  (t, cur.advance t.length)

/-- The place after the characters ahead that have a property. -/
def skipWhile (p : Char → Bool) (cur : Cursor) : Cursor := (cur.span p).2

/-- The place after the spaces ahead. -/
def skipSpaces (cur : Cursor) : Cursor := cur.skipWhile (· == ' ')

/-- The place of the end of the line. -/
def skipLine (cur : Cursor) : Cursor := cur.skipWhile fun c => !isBreak c

/-- Passes over spaces, comments and line ends; `comment` says whether a comment is open. -/
def skipFrom (comment : Bool) (p : Place) : Text → Cursor
  | [] => ⟨p, []⟩
  | c :: cs =>
    if isBreak c then skipFrom false (p.past c) cs
    else if comment || c == ' ' then skipFrom comment (p.past c) cs
    else if c == '#' then skipFrom true (p.past c) cs
    else ⟨p, c :: cs⟩

/-- The place of the next token: spaces, comments and line ends are passed over, tabs are not. -/
def skip (cur : Cursor) : Cursor := skipFrom false cur.toPlace cur.rest

/-- The place after a line that holds nothing more than spaces and a comment. -/
def skipEmptyRest? (cur : Cursor) : Option Cursor :=
  let cur := cur.skipSpaces
  let cur := if cur.rest.head? == some '#' then cur.skipLine else cur
  match cur.rest with
  | [] => some cur
  | c :: _ => if isBreak c then some cur.next else none

end Cursor

end SecurityMarking.Yaml
