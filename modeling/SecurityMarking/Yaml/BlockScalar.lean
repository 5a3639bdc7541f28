/-
Scalars in blocks of lines.

A block scalar begins on the line after its header and goes on as long as the lines
are indented; empty lines may be indented by less.  The indent is that of the first
line that is not empty, or what the header says.  In a literal block every line end
stays.  In a folded block a line end between two lines that both begin with more
than a blank becomes a space, or goes if empty lines follow it.  The line end of the
last line stays, and the empty lines after it go, unless the header says otherwise.
-/
import SecurityMarking.Yaml.Cursor

namespace SecurityMarking.Yaml

/-- What becomes of the line ends at the end of a block scalar. -/
inductive Chomping
  /-- That of the last line stays. -/
  | clip
  /-- None stays. -/
  | strip
  /-- All stay. -/
  | keep

/-- What the header of a block scalar says. -/
structure BlockHeader where
  chomping : Chomping
  /-- How far the lines are indented beyond what the block stands in. -/
  indent : Option Nat

/-! ### Headers -/

/-- The chomping that a character stands for. -/
def chompingOf? : Char → Option Chomping
  | '-' => some .strip
  | '+' => some .keep
  | _ => none

/-- The indent that a character stands for. -/
def indentOf? (c : Char) : Option Nat :=
  if '1' ≤ c ∧ c ≤ '9' then some (c.toNat - 0x30) else none

/-- The header that a block scalar begins with, and the place after it. -/
def blockHeader (cur : Cursor) : BlockHeader × Cursor :=
  let chomped (c : Option Char) : Chomping := ((c.bind chompingOf?).getD .clip)
  match cur.rest with
  | a :: t =>
    match chompingOf? a, indentOf? a with
    | some chomping, _ =>
      match t.head?.bind indentOf? with
      | some n => (⟨chomping, some n⟩, cur.next.next)
      | none => (⟨chomping, none⟩, cur.next)
    | none, some n =>
      if (t.head?.bind chompingOf?).isSome then (⟨chomped t.head?, some n⟩, cur.next.next)
      else (⟨.clip, some n⟩, cur.next)
    | none, none => (⟨.clip, none⟩, cur)
  | [] => (⟨.clip, none⟩, cur)

/-! ### Lines -/

/-- Where the reader of a block scalar stands. -/
inductive BlockState
  /-- In the indent of a line.  It knows the line end of the last line and whether that line begins
  with more than a blank, if there was one, and the line ends of the empty lines, the last first. -/
  | margin (last : Option (Char × Bool)) (empty : Text)
  /-- In a line that begins with more than a blank or not. -/
  | line (full : Bool)

/-- The lines that a block scalar holds. -/
structure BlockLines where
  /-- The text up to the end of the last line, the last character first. -/
  text : Text
  /-- The line end of the last line, if there is one. -/
  last : Option Char
  /-- The line ends of the empty lines after it, the last first. -/
  empty : Text

/-- What stands between two lines, the last character first; `full` says whether the second begins
with more than a blank. -/
def betweenLines (isFolded full : Bool) (last : Option (Char × Bool)) (empty : Text) : Text :=
  match last with
  | none => empty
  | some (lineEnd, wasFull) =>
    if isFolded && lineEnd == '\n' && wasFull && full then
      if empty.isEmpty then [' '] else empty
    else empty ++ [lineEnd]

/-- Reads the lines of a block scalar that are indented by `indent`. -/
def blockLinesFrom (isFolded : Bool) (indent : Nat) (state : BlockState) (acc : Text) (p : Place) :
    Text → BlockLines × Cursor
  | [] =>
    match state with
    | .margin last empty => (⟨acc, last.map (·.1), empty⟩, ⟨p, []⟩)
    | .line _ => (⟨acc, none, []⟩, ⟨p, []⟩)
  | c :: cs =>
    match state with
    | .line full =>
      if isBreak c then
        blockLinesFrom isFolded indent (.margin (some (keptBreak c, full)) []) acc (p.past c) cs
      else blockLinesFrom isFolded indent state (c :: acc) (p.past c) cs
    | .margin last empty =>
      if isBreak c then
        blockLinesFrom isFolded indent (.margin last (keptBreak c :: empty)) acc (p.past c) cs
      else if c == ' ' && p.column < indent then
        blockLinesFrom isFolded indent state acc (p.past c) cs
      else if p.column == indent then
        let full := c != ' ' && c != '\t'
        blockLinesFrom isFolded indent (.line full)
          (c :: (betweenLines isFolded full last empty ++ acc)) (p.past c) cs
      else (⟨acc, last.map (·.1), empty⟩, ⟨p, c :: cs⟩)

/-- The empty lines at the beginning of a block scalar: their line ends, the last first, the widest
indent up to the first line that is not empty, and the place where that begins. -/
def leadingFrom (empty : Text) (widest : Nat) (p : Place) : Text → Text × Nat × Cursor
  | [] => (empty, widest, ⟨p, []⟩)
  | c :: cs =>
    if isBreak c then leadingFrom (keptBreak c :: empty) widest (p.past c) cs
    else if c == ' ' then leadingFrom empty (max widest (p.past c).column) (p.past c) cs
    else (empty, widest, ⟨p, c :: cs⟩)

/-- The text that lines come to. -/
def BlockLines.chomp (ls : BlockLines) : Chomping → Text
  | .strip => ls.text.reverse
  | .clip => ls.text.reverse ++ ls.last.toList
  | .keep => ls.text.reverse ++ ls.last.toList ++ ls.empty.reverse

/-- Reads a block scalar from the place after its mark on; its lines are indented by at least
`indent`. -/
def block? (isFolded : Bool) (indent : Nat) (cur : Cursor) : Option (Text × Cursor) := do
  let (header, cur) := blockHeader cur
  if !startsWithSpace cur.rest then none
  let cur ← cur.skipEmptyRest?
  let least := max 1 indent
  let (lines, after) :=
    match header.indent with
    | some more =>
      blockLinesFrom isFolded (least + more - 1) (.margin none []) [] cur.toPlace cur.rest
    | none =>
      let (empty, widest, here) := leadingFrom [] 0 cur.toPlace cur.rest
      blockLinesFrom isFolded (max least widest) (.margin none empty) [] here.toPlace here.rest
  return (lines.chomp header.chomping, after)

end SecurityMarking.Yaml
