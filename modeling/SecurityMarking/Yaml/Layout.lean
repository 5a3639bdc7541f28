/-
The layout of a document.

A block collection begins where the first of its items or keys does, further to the
right than the one around it, and ends before what begins further to the left.

A key stands on one line, and its colon comes at most 1024 characters after its
beginning.  It may begin where a line does, after the mark of an item or of a marked
key or value, and anywhere after the marks that shape a flow collection; so a key
never follows the end of a value on the same line.  Where nothing but a key can
stand, in the column of a block collection, what turns out to be none is refused.
-/
import SecurityMarking.Yaml.BlockScalar
import SecurityMarking.Yaml.QuotedScalar
import SecurityMarking.Yaml.Token

namespace SecurityMarking.Yaml

/-- A place where something began that may turn out to be a key. -/
structure KeyStart where
  place : Place
  /-- The number of tokens before it. -/
  tokens : Nat
  /-- Whether nothing but a key can stand there. -/
  isRequired : Bool

/-- Where the reader of tokens stands. -/
structure Layout where
  cursor : Cursor
  /-- The tokens so far, the last first. -/
  tokens : List Token
  /-- The columns of the block collections that are open, the innermost first. -/
  blocks : List Nat
  /-- What may be a key in the innermost collection. -/
  start : Option KeyStart
  /-- What may be a key in the collections around the flow collections that are open, the innermost
  first. -/
  outer : List (Option KeyStart)
  /-- Whether a key may begin here. -/
  mayBegin : Bool

namespace Layout

/-- The beginning of a document. -/
def ofText (t : Text) : Layout := ⟨.start t, [], [], none, [], true⟩

/-- Whether a flow collection is open. -/
def inFlow (s : Layout) : Bool := !s.outer.isEmpty

/-- The least column of what belongs to the innermost block collection. -/
def indent (s : Layout) : Nat := (s.blocks.head?.map (· + 1)).getD 0

/-- The layout after one more token, at another place. -/
def push (s : Layout) (t : Token) (cur : Cursor) : Layout :=
  { s with cursor := cur, tokens := t :: s.tokens }

/-! ### Keys -/

/-- The greatest distance from the beginning of a key to its colon. -/
def maxKeyLength : Nat := 1024

/-- What may still be a key at a place. -/
def keptStart (p : Place) : Option KeyStart → Except Fault (Option KeyStart)
  | none => .ok none
  | some start =>
    let q := start.place
    if q.line == p.line && p.index ≤ q.index + maxKeyLength then .ok (some start)
    else if start.isRequired then .error .malformed
    else .ok none

/-- The layout without what is too far behind to be a key. -/
def dropStale (s : Layout) : Except Fault Layout := do
  let p := s.cursor.toPlace
  return { s with start := ← keptStart p s.start, outer := ← s.outer.mapM (keptStart p) }

/-- The layout where what began last in the innermost collection is no key. -/
def dropStart (s : Layout) : Except Fault Layout :=
  if s.start.any (·.isRequired) then .error .malformed else .ok { s with start := none }

/-- The layout where what begins here may be a key, if one may begin here. -/
def saveStart (s : Layout) : Except Fault Layout :=
  if s.mayBegin then do
    let s ← s.dropStart
    let isRequired := !s.inFlow && s.blocks.head? == some s.cursor.column
    return { s with start := some ⟨s.cursor.toPlace, s.tokens.length, isRequired⟩ }
  else .ok s

/-! ### Block collections -/

/-- The layout where the block collections to the right of a column are ended. -/
def closeBlocks (s : Layout) (isRight : Nat → Bool) : Layout :=
  if s.inFlow then s
  else
    { s with
      blocks := s.blocks.dropWhile isRight
      tokens := (s.blocks.takeWhile isRight).map (fun _ => .blockEnd) ++ s.tokens }

/-- The layout where a block collection is open in a column, which begins with a token unless one is
open there. -/
def openBlock (s : Layout) (t : Token) (column : Nat) : Layout :=
  if s.indent ≤ column then { s with blocks := column :: s.blocks, tokens := t :: s.tokens } else s

/-! ### Reading -/

/-- Reads the mark of a directive, or of the beginning or the end of a document. -/
def readOutside (s : Layout) (t : Token) (cur : Cursor) : Except Fault Layout := do
  let s ← (s.closeBlocks fun _ => true).dropStart
  return { s.push t cur with mayBegin := false }

/-- Reads the opening mark of a flow collection. -/
def readOpening (s : Layout) (t : Token) : Except Fault Layout := do
  let s ← s.saveStart
  return { s.push t s.cursor.next with
    start := none, outer := s.start :: s.outer, mayBegin := true }

/-- Reads the closing mark of a flow collection. -/
def readClosing (s : Layout) (t : Token) : Except Fault Layout := do
  match s.outer with
  | [] => throw .malformed
  | start :: outer =>
    return { s.push t s.cursor.next with start := start, outer := outer, mayBegin := false }

/-- Reads a comma between the items of a flow collection. -/
def readComma (s : Layout) : Except Fault Layout := do
  return { (← s.dropStart).push .comma s.cursor.next with mayBegin := true }

/-- Reads the mark of an item of a block sequence. -/
def readItem (s : Layout) : Except Fault Layout := do
  let s ←
    if s.inFlow then .ok s
    else if s.mayBegin then .ok (s.openBlock .blockSequence s.cursor.column)
    else .error .malformed
  return { (← s.dropStart).push .item s.cursor.next with mayBegin := true }

/-- Reads the mark of a key, or that of a value without a key before it on the line. -/
def readMark (s : Layout) (t : Token) : Except Fault Layout := do
  let s ←
    if s.inFlow then .ok s
    else if s.mayBegin then .ok (s.openBlock .blockMapping s.cursor.column)
    else .error .malformed
  return { (← s.dropStart).push t s.cursor.next with mayBegin := !s.inFlow }

/-- Reads the mark of a value, which makes a key of what may be one. -/
def readValue (s : Layout) : Except Fault Layout :=
  match s.start with
  | none => s.readMark .value
  | some start =>
    let (after, before) := s.tokens.splitAt (s.tokens.length - start.tokens)
    let s := { s with tokens := before, start := none }
    let s := if s.inFlow then s else s.openBlock .blockMapping start.place.column
    .ok { s with
      tokens := .value :: after ++ .key :: s.tokens
      cursor := s.cursor.next
      mayBegin := false }

/-- Reads a token that may be a key or stand before one. -/
def readPart (s : Layout) (read : Except Fault (Token × Cursor)) : Except Fault Layout := do
  let s ← s.saveStart
  let (t, after) ← read
  return { s.push t after with mayBegin := false }

/-- Reads a scalar in a block of lines. -/
def readBlock (s : Layout) (isFolded : Bool) : Except Fault Layout := do
  let s ← s.dropStart
  let (text, after) ← orMalformed (block? isFolded s.indent s.cursor.next)
  return { s.push (.scalar false text) after with mayBegin := true }

/-- Reads the token that begins at a place with a character. -/
def readToken (s : Layout) (c : Char) (cs : Text) : Except Fault Layout :=
  let cur := s.cursor
  let isLone := startsWithGap cs
  if cur.column == 0 && c == '%' then do
    let (d, after) ← directive cur
    s.readOutside (.directive d) after
  else if cur.column == 0 && isMarker '-' cur.rest then
    s.readOutside .documentStart (cur.advance 3)
  else if cur.column == 0 && isMarker '.' cur.rest then s.readOutside .documentEnd (cur.advance 3)
  else if c == '[' then s.readOpening .openSequence
  else if c == '\x7b' then s.readOpening .openMapping
  else if c == ']' then s.readClosing .closeSequence
  else if c == '\x7d' then s.readClosing .closeMapping
  else if c == ',' then s.readComma
  else if c == '-' && isLone then s.readItem
  else if c == '?' && (s.inFlow || isLone) then s.readMark .key
  else if c == ':' && (s.inFlow || isLone) then s.readValue
  else if c == '*' then
    s.readPart (orMalformed ((anchorName? cur).map fun (name, after) => (.alias name, after)))
  else if c == '&' then
    s.readPart (orMalformed ((anchorName? cur).map fun (name, after) => (.anchor name, after)))
  else if c == '!' then
    s.readPart (orMalformed ((tag? cur).map fun (t, after) => (.tag t, after)))
  else if c == '|' && !s.inFlow then s.readBlock false
  else if c == '>' && !s.inFlow then s.readBlock true
  else if c == '\'' || c == '"' then
    s.readPart ((quoted (c == '"') cur).map fun (text, after) => (.scalar false text, after))
  else if startsPlain s.inFlow (c :: cs) then
    let (text, after) := plain s.inFlow s.indent cur
    s.readPart (.ok (.scalar true text, after))
  else .error .malformed

/-- The layout at the place of the next token. -/
def skip (s : Layout) : Layout :=
  let here := s.cursor.skip
  { s with
    cursor := here
    mayBegin := s.mayBegin || (!s.inFlow && here.line != s.cursor.line) }

/-- Reads what stands before the next token and the token; `none` at the end of the text, with all
that is open ended. -/
def step (s : Layout) : Except Fault (Layout × Bool) := do
  let s ← s.skip.dropStale
  match s.cursor.rest with
  | [] => return (← (s.closeBlocks fun _ => true).dropStart, false)
  | c :: cs =>
    let s := s.closeBlocks (s.cursor.column < ·)
    return (← s.readToken c cs, true)

/-- The tokens from a place on, after those so far.  Each step reads a character at least, so the
bound is the number of characters and one more. -/
def tokensFrom : Nat → Layout → List Token
  | 0, s => (.fault .malformed :: s.tokens).reverse
  | bound + 1, s =>
    match s.step with
    | .error f => (.fault f :: s.tokens).reverse
    | .ok (s, goesOn) => if goesOn then tokensFrom bound s else s.tokens.reverse

end Layout

/-- The tokens of a document. -/
def tokens (t : Text) : List Token := Layout.tokensFrom (t.length + 1) (.ofText t)

end SecurityMarking.Yaml
