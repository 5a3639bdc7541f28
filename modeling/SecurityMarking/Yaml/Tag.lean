/-
Tags: what a node is taken for.

A node may say by a tag what it is to be taken for.  A tag is a handle and a suffix,
and the handle stands for what a directive says, or else for what it stands for in
every document.  Of all tags a few have a meaning here; the others are known only to
be tags.
-/
import SecurityMarking.Yaml.Cursor
import SecurityMarking.Text.Digit

namespace SecurityMarking.Yaml

/-- What a node is taken for. -/
inductive Tag
  | null
  | flag
  | number
  | real
  | moment
  | bytes
  | text
  | list
  | map
  | set
  /-- A list of maps of one entry each, which are its pairs. -/
  | pairs
  /-- A key whose value is merged into the map. -/
  | merge
  /-- The key of the value that stands for a map. -/
  | stand
  | unknown
deriving DecidableEq

/-! ### Names -/

/-- What the tags of every document begin with. -/
def commonLead : Text := "tag:yaml.org,2002:"

/-- The tags that have a meaning, by what follows their common beginning. -/
def commonTags : List (Text × Tag) :=
  [("null", .null), ("bool", .flag), ("int", .number), ("float", .real), ("timestamp", .moment),
   ("binary", .bytes), ("str", .text), ("seq", .list), ("map", .map), ("set", .set),
   ("omap", .pairs), ("pairs", .pairs), ("merge", .merge), ("value", .stand)]

/-- The tag of a name. -/
def Tag.ofName (name : Text) : Tag :=
  ((Text.after? commonLead name).bind fun suffix => commonTags.lookup suffix).getD .unknown

/-! ### Handles -/

/-- A tag as it is written. -/
inductive WrittenTag
  /-- The mark of a tag and no more: the node is taken for what its spelling says. -/
  | bare
  | named (name : Text)
  | handled (handle suffix : Text)
deriving DecidableEq

/-- What handles stand for. -/
abbrev Handles := List (Text × Text)

/-- What handles stand for in every document. -/
def Handles.common : Handles := [("!", "!"), ("!!", commonLead)]

/-- What a tag says, given what handles stand for: nothing if it is the bare mark. -/
def WrittenTag.resolve? (handles : Handles) : WrittenTag → Option (Option Tag)
  | .bare => some none
  | .named name => some (if name == ['!'] then none else some (.ofName name))
  | .handled handle suffix => do
    let name := (← handles.lookup handle) ++ suffix
    return if name == ['!'] then none else some (.ofName name)

/-! ### Reading -/

/-- Whether a character may stand in a name. -/
def isNameChar (c : Char) : Bool := c.isAlphanum || c == '-' || c == '_'

/-- Whether a character may stand in the suffix of a tag. -/
def isTagChar (c : Char) : Bool :=
  c.isAlphanum || "-;/?:@&=+$,_.!~*'()[]%".toList.contains c

/-- The value of a byte in two hexadecimal digits. -/
def byteOf? (a b : Char) : Option UInt8 := do
  let a ← Text.hexDigitValue? a
  let b ← Text.hexDigitValue? b
  return (16 * a + b).toUInt8

/-- The bytes that are written one after another as percent signs and two hexadecimal digits, and
the text after them. -/
def escapedBytes? : Text → Option (List UInt8 × Text)
  | '%' :: a :: b :: t => do
    let byte ← byteOf? a b
    let (bytes, rest) ← escapedBytes? t
    return (byte :: bytes, rest)
  | '%' :: _ => none
  | t => some ([], t)

/-- The text that bytes encode. -/
def decodeBytes? (bytes : List UInt8) : Option Text :=
  (String.fromUTF8? ⟨bytes.toArray⟩).map String.toList

/-- A text with the bytes that are escaped in it decoded; a bound on its length comes first. -/
def unescape? : Nat → Text → Option Text
  | 0, _ => some []
  | _, [] => some []
  | bound + 1, c :: t =>
    if c == '%' then do
      let (bytes, rest) ← escapedBytes? (c :: t)
      return (← decodeBytes? bytes) ++ (← unescape? bound rest)
    else do return c :: (← unescape? bound t)

/-- The suffix of a tag, which is not empty, and the place after it. -/
def tagSuffix? (cur : Cursor) : Option (Text × Cursor) := do
  let (written, after) := cur.span isTagChar
  if written.isEmpty then none
  return (← unescape? written.length written, after)

/-- A handle: a mark, or a name between two marks; one mark counts only before a space. -/
def handle? (cur : Cursor) : Option (Text × Cursor) := do
  if cur.rest.head? != some '!' then none
  let (name, after) := cur.next.span isNameChar
  if name.isEmpty && after.rest.head? == some ' ' then return (['!'], after)
  if after.rest.head? != some '!' then none
  return ('!' :: name ++ ['!'], after.next)

/-- The tag that begins at a place, and the place after it; a space or a line end follows. -/
def tag? (cur : Cursor) : Option (WrittenTag × Cursor) := do
  let inside := cur.next
  let (tag, after) ←
    if inside.rest.head? == some '<' then do
      let (name, after) ← tagSuffix? inside.next
      if after.rest.head? == some '>' then some (.named name, after.next) else none
    else if startsWithGap inside.rest then some (.bare, inside)
    else if (inside.rest.takeWhile fun c => c != ' ' && !isBreak c).contains '!' then do
      let (handle, after) ← handle? cur
      let (suffix, after) ← tagSuffix? after
      some (.handled handle suffix, after)
    else do
      let (suffix, after) ← tagSuffix? inside
      some (.handled ['!'] suffix, after)
  if startsWithSpace after.rest then some (tag, after) else none

/-- The name of an anchor from its mark on, and the place after it. -/
def anchorName? (cur : Cursor) : Option (Text × Cursor) :=
  let (name, after) := cur.next.span isNameChar
  let ends :=
    match after.rest with
    | [] => true
    | c :: _ => isGap c || "?:,]\x7d%@\x60".toList.contains c
  if name.isEmpty || !ends then none else some (name, after)

end SecurityMarking.Yaml
