/-
Tokens: a document with its layout made plain.

Where block collections begin and end is told by columns alone, and that a scalar is
a key is told by the colon after it.  Tokens say both outright: a block collection
stands between a token for its beginning and one for its end, and a key has a token
before it.  A reader of tokens needs no columns.
-/
import SecurityMarking.Yaml.Directive

namespace SecurityMarking.Yaml

/-- A token of a document. -/
inductive Token
  | directive (d : Directive)
  | documentStart
  | documentEnd
  | blockSequence
  | blockMapping
  | blockEnd
  | openSequence
  | closeSequence
  | openMapping
  | closeMapping
  | comma
  | item
  | key
  | value
  | alias (name : Text)
  | anchor (name : Text)
  | tag (t : WrittenTag)
  | scalar (isPlain : Bool) (text : Text)
  /-- No token can be read from here on. -/
  | fault (f : Fault)
deriving DecidableEq

end SecurityMarking.Yaml
