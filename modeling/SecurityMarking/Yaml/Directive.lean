/-
Directives.

A directive stands on a line of its own before a document.  One tells the version of
the language, one gives a meaning to a handle of tags, and others are passed over.
-/
import SecurityMarking.Yaml.Tag
import SecurityMarking.Yaml.Fault

namespace SecurityMarking.Yaml

/-- What a directive says. -/
inductive Directive
  /-- The document is of a version with this first number. -/
  | version (major : Nat)
  /-- The handle stands for what tags begin with. -/
  | handle (handle lead : Text)
  | other
deriving DecidableEq

/-- The number that a version begins or ends with, and the place after it. -/
def versionNumber (cur : Cursor) : Except Fault (Nat × Cursor) :=
  let (digits, after) := cur.span Char.isDigit
  match Numeral.readUnsigned digits with
  | .ok n => .ok (n, after)
  | .error .malformed => .error .malformed
  | .error (.tooLong size) => .error (.misuse (.tooManyDigits size))

/-- A version: two numbers with a point between them, and the place after it. -/
def version (cur : Cursor) : Except Fault (Directive × Cursor) := do
  let (major, after) ← versionNumber cur.skipSpaces
  if after.rest.head? != some '.' then throw .malformed
  let (_, after) ← versionNumber after.next
  if startsWithSpace after.rest then return (.version major, after) else throw .malformed

/-- A handle and what it stands for, and the place after them. -/
def handleMeaning? (cur : Cursor) : Option (Directive × Cursor) := do
  let (handle, after) ← handle? cur.skipSpaces
  if after.rest.head? != some ' ' then none
  let (lead, after) ← tagSuffix? after.skipSpaces
  if startsWithSpace after.rest then some (.handle handle lead, after) else none

/-- The directive that begins at a place, and the place after its line. -/
def directive (cur : Cursor) : Except Fault (Directive × Cursor) := do
  let (name, after) := cur.next.span isNameChar
  if name.isEmpty || !startsWithSpace after.rest then throw .malformed
  let (said, after) ←
    if name == "YAML".toList then version after
    else if name == "TAG".toList then orMalformed (handleMeaning? after)
    else .ok (.other, after.skipLine)
  return (said, ← orMalformed after.skipEmptyRest?)

/-- What the handles of a document stand for, given the directives before it.  A handle may be given
a meaning once, the version be told once, and its first number be one. -/
def handlesOf (directives : List Directive) : Except Fault Handles := do
  let versions := directives.filterMap fun d =>
    match d with
    | .version major => some major
    | _ => none
  let handles := directives.filterMap fun d =>
    match d with
    | .handle handle lead => some (handle, lead)
    | _ => none
  if 1 < versions.length || versions.any (· != 1) then throw .malformed
  if !(handles.map (·.1)).Nodup then throw .malformed
  return handles ++ Handles.common

end SecurityMarking.Yaml
