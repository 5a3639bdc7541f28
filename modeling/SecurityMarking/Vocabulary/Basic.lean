/-
Vocabularies.

A vocabulary maps the names of registries to sections, and a section has a
description and the rows of the controls of its registry.  A vocabulary is read
from a document, where it is the map of registries.  Nothing in it is checked
until it is used: a registry is built from a section of a vocabulary when it is
wanted, and a listing of the descriptions looks at nothing else.
-/
import SecurityMarking.Registry.Rows

namespace SecurityMarking

/-- The sections of a vocabulary by the names of their registries, in order. -/
abbrev Vocabulary := List (Scalar × Value)

namespace Vocabulary

/-- The vocabulary that a document from `path` holds. -/
def ofDocument (path : Text) (document : Value) : Except Failure Vocabulary :=
  let registries := document.entries?.bind (Scalar.valueIn? (.text "registries"))
  match registries.bind Value.entries? with
  | some sections => .ok sections
  | none => .error (.configuration (.noRegistries path))

/-- The rows of the section of a registry, if there is such a section and it has rows. -/
def rows? (name : Scalar) (vocabulary : Vocabulary) : Option Value := do
  let fields ← (← name.valueIn? vocabulary).entries?
  let rows ← Scalar.valueIn? (.text "controls") fields
  if rows.isFilled then some rows else none

/-- The registry of that name that the vocabulary describes. -/
def build (name : Scalar) (vocabulary : Vocabulary) : Except Failure Registry :=
  match rows? name vocabulary with
  | some rows => Registry.ofRows name rows
  | none => .error (.configuration (.noControls name))

/-- The registry of that name that a value describes, which has to be a map to be asked. -/
def buildFrom (name : Scalar) (v : Value) : Except Failure Registry :=
  match v.entries? with
  | some sections => build name sections
  | none => .error (.misuse (.notAMap v.kind))

/-- The description of a section: empty if it has none or says nothing. -/
def descriptionOf (v : Value) : Except Failure Value :=
  if v.isFilled then
    match v.entries? with
    | some fields => .ok ((Scalar.valueIn? (.text "description") fields).getD (.text []))
    | none => .error (.misuse (.notAMap v.kind))
  else .ok (.text [])

/-- The descriptions of all sections by the names of their registries, in order. -/
def descriptions : Vocabulary → Except Failure (List (Scalar × Value))
  | [] => .ok []
  | (name, v) :: rest => do
    let description ← descriptionOf v
    return (name, description) :: (← descriptions rest)

end Vocabulary

end SecurityMarking
