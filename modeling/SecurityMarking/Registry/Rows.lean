/-
Registries from rows of configuration.

A row is a map with a key and two fields of names, each either one name or
several.  All rows are read before any is checked against another, so a row that
cannot be read is reported before a name that is used twice, wherever the two
stand.
-/
import SecurityMarking.Registry.Basic

namespace SecurityMarking

/-- A row whose key and names are texts, as tables of controls are written. -/
structure Row where
  key : Text
  bannerNames : List Text
  portionNames : List Text

/-- The row as configuration. -/
def Row.toValue (row : Row) : Value :=
  .map [(.text "key", .text row.key),
    (.text "banner_names", .list (row.bannerNames.map .text)),
    (.text "portion_names", .list (row.portionNames.map .text))]

namespace Entry

/-- The names that a field gives: a text is one name. -/
def namesOfField : Value → Except RowFault (List Value)
  | .scalar (.text t) => .ok [.text t]
  | v =>
    match v.items? with
    | some names => .ok names
    | none => .error (.notSeveral v.kind)

/-- A field of a row. -/
def fieldOfRow (field : Text) (row : Value) : Except RowFault Value :=
  match row.entries? with
  | none => .error (.noFields row.kind)
  | some fields =>
    match Scalar.valueIn? (.text field) fields with
    | some v => .ok v
    | none => .error (.missingField field)

/-- The control at a position that a row describes. -/
def ofRow (position : Nat) (row : Value) : Except RowFault Entry := do
  let key ← fieldOfRow "key" row
  let bannerNames ← namesOfField (← fieldOfRow "banner_names" row)
  let portionNames ← namesOfField (← fieldOfRow "portion_names" row)
  return ⟨key, position, bannerNames, portionNames⟩

/-- The key of a row as a report of its fault shows it; empty if the row has none. -/
def shownKeyOfRow (row : Value) : Except Failure Text :=
  match row.entries?.bind (Scalar.valueIn? (.text "key")) with
  | some key => key.shownIfPossible
  | none => .ok []

/-- The controls that rows describe, from a position on. -/
def ofRows (registry : Scalar) : Nat → List Value → Except Failure (List Entry)
  | _, [] => .ok []
  | position, row :: rows =>
    match ofRow position row with
    | .error fault => do
      let key ← shownKeyOfRow row
      throw (.configuration (.malformedRow registry position fault key))
    | .ok e => do return e :: (← ofRows registry (position + 1) rows)

end Entry

namespace Registry

/-- The registry that rows describe.  They are the items of a value that has several. -/
def ofRows (name : Scalar) (rows : Value) : Except Failure Registry :=
  match rows.items? with
  | none => .error (.misuse (.notSeveral rows.kind))
  | some rows => do ofEntries name (← Entry.ofRows name 0 rows)

end Registry

end SecurityMarking
