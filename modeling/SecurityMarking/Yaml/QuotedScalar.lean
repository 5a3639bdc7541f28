/-
Scalars in quotes.

Between single quotes every character stands for itself, and a quote is written
twice.  Between double quotes a backslash begins an escape: a letter for a control
character, or the code point of any character in two, four or eight hexadecimal
digits, or at the end of a line the continuation of the text on the next.  In both,
blanks around a line end go, the line end becomes a space, and each empty line a
line end.
-/
import SecurityMarking.Yaml.PlainScalar
import SecurityMarking.Yaml.Fault
import SecurityMarking.Text.Digit
import SecurityMarking.Text.Half

namespace SecurityMarking.Yaml

/-- Where the reader of a quoted scalar stands. -/
inductive QuotedState
  /-- After this many blanks on a line. -/
  | blanks (n : Nat)
  /-- After a line end and the line ends that follow it, the last first. -/
  | lines (first : Char) (more : Text)
  /-- After a backslash. -/
  | escape
  /-- After a backslash at a line end and the line ends that follow it, the last first. -/
  | continued (more : Text)
  /-- In the digits of a code point: those that are to come, and the value of those read. -/
  | code (toCome value : Nat)
  /-- After a single quote, which ends the scalar unless another follows. -/
  | quote

/-- The character that an escape of one letter stands for. -/
def escaped? (c : Char) : Option Char :=
  match c with
  | '0' => some '\x00'
  | 'a' => some '\x07'
  | 'b' => some '\x08'
  | 't' => some '\t'
  | '\t' => some '\t'
  | 'n' => some '\n'
  | 'v' => some '\x0b'
  | 'f' => some '\x0c'
  | 'r' => some '\r'
  | 'e' => some '\x1b'
  | ' ' => some ' '
  | '"' => some '"'
  | '\\' => some '\\'
  | '/' => some '/'
  | 'N' => some '\u0085'
  | '_' => some '\u00a0'
  | 'L' => some '\u2028'
  | 'P' => some '\u2029'
  | _ => none

/-- The number of digits of a code point after the letter of its escape. -/
def codeWidth? (c : Char) : Option Nat :=
  match c with
  | 'x' => some 2
  | 'u' => some 4
  | 'U' => some 8
  | _ => none

/-- The character with a code point, or the one that stands for half of a pair. -/
def charOfCode (n : Nat) : Except Fault Char :=
  if n.isValidChar then .ok (Char.ofNat n)
  else if Text.isHalf n then .ok (Text.ofHalf n)
  else .error (.misuse (.notACodePoint n))

/-- The reader's state and its characters so far, the last first, after one more character of the
text proper; nothing once the closing quote is reached. -/
def readContent (double : Bool) (acc : Text) (blanks : Nat) (c : Char) :
    Option (QuotedState × Text) :=
  if isBreak c then some (.lines (keptBreak c) [], acc.drop blanks)
  else if c == ' ' || c == '\t' then some (.blanks (blanks + 1), c :: acc)
  else if double && c == '"' then none
  else if double && c == '\\' then some (.escape, acc)
  else if !double && c == '\'' then some (.quote, acc)
  else some (.blanks 0, c :: acc)

/-- Reads a quoted scalar to its closing quote; `acc` holds its characters so far, the last
first. -/
def quotedFrom (double : Bool) (state : QuotedState) (acc : Text) (p : Place) :
    Text → Except Fault (Text × Cursor)
  | [] =>
    match state with
    | .quote => .ok (acc.reverse, ⟨p, []⟩)
    | _ => .error .malformed
  | c :: cs =>
    let goOn (read : Option (QuotedState × Text)) (whole : Text) : Except Fault (Text × Cursor) :=
      match read with
      | some (state, acc) => quotedFrom double state acc (p.past c) cs
      | none => .ok (whole.reverse, ⟨p.past c, cs⟩)
    match state with
    | .blanks n => goOn (readContent double acc n c) acc
    | .lines first more =>
      if p.column == 0 && isEnd (c :: cs) then .error .malformed
      else if c == ' ' || c == '\t' then goOn (some (state, acc)) acc
      else if isBreak c then goOn (some (.lines first (keptBreak c :: more), acc)) acc
      else
        let whole := (folded first more.reverse).reverse ++ acc
        goOn (readContent double whole 0 c) whole
    | .continued more =>
      if p.column == 0 && isEnd (c :: cs) then .error .malformed
      else if c == ' ' || c == '\t' then goOn (some (state, acc)) acc
      else if isBreak c then goOn (some (.continued (keptBreak c :: more), acc)) acc
      else goOn (readContent double (more ++ acc) 0 c) (more ++ acc)
    | .escape =>
      if isBreak c then goOn (some (.continued [], acc)) acc
      else
        match escaped? c, codeWidth? c with
        | some e, _ => goOn (some (.blanks 0, e :: acc)) acc
        | none, some width => goOn (some (.code width 0, acc)) acc
        | none, none => .error .malformed
    | .code toCome value =>
      match Text.hexDigitValue? c with
      | none => .error .malformed
      | some d =>
        if toCome ≤ 1 then
          match charOfCode (16 * value + d) with
          | .ok e => goOn (some (.blanks 0, e :: acc)) acc
          | .error fault => .error fault
        else goOn (some (.code (toCome - 1) (16 * value + d), acc)) acc
    | .quote =>
      if c == '\'' then goOn (some (.blanks 0, c :: acc)) acc
      else .ok (acc.reverse, ⟨p, c :: cs⟩)

/-- Reads a scalar in quotes from its opening quote on, and tells the place after it. -/
def quoted (double : Bool) (cur : Cursor) : Except Fault (Text × Cursor) :=
  quotedFrom double (.blanks 0) [] cur.next.toPlace cur.next.rest

end SecurityMarking.Yaml
