/-
Controls of a vocabulary.

A control has a key, by which programs name it, and two lists of names: those
that stand for it in a banner and those that stand for it in a portion marking.
The first name of each list is the one that it is shown by.  Names come from a
configuration and are texts in every vocabulary that is of use, but nothing
forces them to be, so whatever takes a name for a text says what happens if it
is none.
-/
import SecurityMarking.Failure

namespace SecurityMarking

/-- A control of a vocabulary. -/
structure Entry where
  key : Value
  /-- The position of the control in its vocabulary, from nought. -/
  ordinal : Int
  bannerNames : List Value
  portionNames : List Value

namespace Entry

/-- A control whose key and names are texts. -/
def ofTexts (key : Text) (ordinal : Int) (bannerNames portionNames : List Text) : Entry :=
  ⟨.text key, ordinal, bannerNames.map .text, portionNames.map .text⟩

/-- The first of several names. -/
def firstName : List Value → Except Failure Value
  | [] => .error (.misuse .noFirstName)
  | name :: _ => .ok name

/-- The banner name that the control is shown by. -/
def name (e : Entry) : Except Failure Value := firstName e.bannerNames

/-- The portion name that the control is shown by. -/
def portionName (e : Entry) : Except Failure Value := firstName e.portionNames

/-- The control as it stands in a sentence: its name, which has to be a text. -/
def shown (e : Entry) : Except Failure Text := do
  match ← e.name with
  | .scalar (.text t) => return t
  | v => .error (.misuse (.shownNameNotText v.kind))

/-- A control is shown by its first banner name, if that is a text. -/
theorem shown_eq_ok_iff {e : Entry} {t : Text} :
    e.shown = .ok t ↔ ∃ rest, e.bannerNames = .text t :: rest := by
  obtain ⟨key, ordinal, bannerNames, portionNames⟩ := e
  constructor
  · intro h
    cases bannerNames with
    | nil => cases h
    | cons v rest =>
      cases v with
      | scalar s =>
        cases s with
        | text name =>
          cases h
          exact ⟨rest, rfl⟩
        | _ => cases h
      | _ => cases h
  · rintro ⟨rest, rfl⟩
    rfl

/-- What a report says of a control. -/
structure Summary where
  key : Value
  name : Value
  portionName : Value
  bannerNames : List Value
  portionNames : List Value

/-- What a report says of the control.  It needs a name of each sort. -/
def summary (e : Entry) : Except Failure Summary := do
  let name ← e.name
  let portionName ← e.portionName
  return ⟨e.key, name, portionName, e.bannerNames, e.portionNames⟩

/-- The expression that builds the control, if it can be written. -/
def expression (e : Entry) : Except Failure Text :=
  if e.key.isWritable && e.bannerNames.all Value.isWritable
      && e.portionNames.all Value.isWritable then
    .ok <| Text.concat ["ControlEntry(key=", e.key.quoted, ", ordinal=", Numeral.write e.ordinal,
      ", banner_names=", quotedTuple (e.bannerNames.map Value.quoted),
      ", portion_names=", quotedTuple (e.portionNames.map Value.quoted), ")"]
  else .error (.misuse .tooLongToWrite)

/-- Whether two controls agree in everything. -/
def same (a b : Entry) : Bool :=
  a.key.same b.key && a.ordinal == b.ordinal
    && Value.sameItems a.bannerNames b.bannerNames && Value.sameItems a.portionNames b.portionNames

end Entry

/-! ### The text beginning with a name -/

/-- Whether a text begins with one of the names.  They are tried in order until one fits, and one
that is no text cannot be tried. -/
def beginsWithName (t : Text) : List Value → Except Failure Bool
  | [] => .ok false
  | .scalar (.text name) :: rest => if name.isPrefixOf t then .ok true else beginsWithName t rest
  | v :: _ => .error (.misuse (.nameNotText v.kind))

/-- Whether a text begins with a banner name or, failing that, a portion name of the control. -/
def Entry.begins (t : Text) (e : Entry) : Except Failure Bool := do
  if ← beginsWithName t e.bannerNames then return true
  beginsWithName t e.portionNames

/-- A control whose names could be tried on a text can be shown: its first banner name was tried, so
it is a text. -/
theorem Entry.exists_shown_of_begins {t : Text} {e : Entry} {answer : Bool}
    (hnamed : e.bannerNames ≠ []) (h : e.begins t = .ok answer) : ∃ name, e.shown = .ok name := by
  obtain ⟨v, rest, hnames⟩ := List.exists_cons_of_ne_nil hnamed
  unfold begins at h
  rw [hnames] at h
  cases v with
  | scalar s =>
    cases s with
    | text name => exact ⟨name, shown_eq_ok_iff.mpr ⟨rest, hnames⟩⟩
    | _ => cases h
  | _ => cases h

end SecurityMarking
