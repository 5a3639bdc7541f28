/-
Documents.

The value of a document is what its node says, if the text is one document and no more;
an empty document says nothing.
-/
import SecurityMarking.Yaml.NodeReader
import SecurityMarking.Yaml.Untangling

namespace SecurityMarking.Yaml

/-- The text of a document after the mark of byte order that may begin it. -/
def withoutMark : Text → Text
  | '\ufeff' :: t => t
  | t => t

/-- The value that a document says. -/
def read (t : Text) : Except Fault Value := do
  let t := withoutMark (unifyBreaks t)
  if !t.all isAllowed then throw .malformed
  let (root, nodes) ← Nodes.ofTokens (tokens t)
  match root with
  | none => return .null
  | some id => return (← Objects.ofNodes nodes id).value id

end SecurityMarking.Yaml
