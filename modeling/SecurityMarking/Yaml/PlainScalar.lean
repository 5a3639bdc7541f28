/-
Scalars without quotes.

A plain scalar runs on over spaces and over line ends to more text that is
indented far enough.  A line end inside it becomes a space, and each empty line a
line end.  It stops before a colon that parts a key from its value, before a
comment, before a tab, and in a flow collection before the characters that shape
one.  What ends it, spaces and line ends included, is not part of it.
-/
import SecurityMarking.Yaml.Cursor

namespace SecurityMarking.Yaml

/-- What a line end inside a scalar becomes, given the line ends after it: a space, or those of the
empty lines.  One of the two line ends that are separators of their own kind stays. -/
def folded (first : Char) (more : Text) : Text :=
  (if first == '\u2028' || first == '\u2029' then [first] else if more.isEmpty then [' '] else [])
    ++ more

/-- Where the reader of a plain scalar stands. -/
inductive PlainState
  /-- After this many spaces on a line. -/
  | spaces (n : Nat)
  /-- After a line end and the line ends that follow it, the last first. -/
  | lines (first : Char) (more : Text)

/-- The characters that shape a flow collection. -/
def isFlowMark (c : Char) : Bool :=
  c == ',' || c == '[' || c == ']' || c == '\x7b' || c == '\x7d'

/-- Whether a plain scalar can begin with what lies ahead. -/
def startsPlain (flow : Bool) : Text → Bool
  | [] => false
  | c :: cs =>
    if c == '-' then !startsWithGap cs
    else if c == '?' || c == ':' then !flow && !startsWithGap cs
    else !isGap c && !isFlowMark c
      && !(['#', '&', '*', '!', '|', '>', '\'', '"', '%', '@', '\x60'].contains c)

/-- Whether a plain scalar ends before what lies ahead, apart from spaces and line ends. -/
def endsPlain (flow : Bool) : Text → Bool
  | [] => true
  | c :: cs =>
    c == '\t'
      || (c == ':' && (startsWithGap cs || (flow && cs.head?.any isFlowMark)))
      || (flow && (c == '?' || isFlowMark c))

/-- Reads a plain scalar; `acc` holds its characters so far, the last first, and `stop` is the place
after them. -/
def plainFrom (flow : Bool) (indent : Nat) (state : PlainState) (acc : Text) (stop : Cursor)
    (p : Place) : Text → Text × Cursor
  | [] => (acc.reverse, stop)
  | c :: cs =>
    match state with
    | .spaces n =>
      if c == ' ' then plainFrom flow indent (.spaces (n + 1)) acc stop (p.past c) cs
      else if isBreak c then
        plainFrom flow indent (.lines (keptBreak c) []) acc stop (p.past c) cs
      else if endsPlain flow (c :: cs) || (0 < n && c == '#') then (acc.reverse, stop)
      else
        plainFrom flow indent (.spaces 0) (c :: (List.replicate n ' ' ++ acc)) ⟨p.past c, cs⟩
          (p.past c) cs
    | .lines first more =>
      if p.column == 0 && isEnd (c :: cs) then (acc.reverse, stop)
      else if c == ' ' then plainFrom flow indent state acc stop (p.past c) cs
      else if isBreak c then
        plainFrom flow indent (.lines first (keptBreak c :: more)) acc stop (p.past c) cs
      else if endsPlain flow (c :: cs) || c == '#' || (!flow && p.column < indent) then
        (acc.reverse, stop)
      else
        plainFrom flow indent (.spaces 0) (c :: ((folded first more.reverse).reverse ++ acc))
          ⟨p.past c, cs⟩ (p.past c) cs

/-- Reads a plain scalar, in a flow collection or with continuation lines indented by at least
`indent`, and tells the place after it. -/
def plain (flow : Bool) (indent : Nat) (cur : Cursor) : Text × Cursor :=
  plainFrom flow indent (.spaces 0) [] cur cur.toPlace cur.rest

end SecurityMarking.Yaml
