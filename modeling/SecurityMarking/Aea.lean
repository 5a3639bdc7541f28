/-
AEA markings: information under the Atomic Energy Act.

A marking begins with a name of an AEA type and goes on with modifiers, each
after a dash: `RESTRICTED DATA-N-SIGMA 1 2`.  Blanks around a modifier do not
count.  `N` marks Critical Nuclear Weapon Design Information, and `SIGMA` or, for
short, `SG` lists SIGMA categories by number.  Words of such a list that are no
numerals are passed over, several lists make one, and every other modifier says
nothing.

The type is the first in the order of declaration that has a name which begins
the marking, so what stands between that name and the first dash says nothing
either.  A marking is written with the name that its type is shown by, the first banner
name.  It is the first that is tried on a text, and only texts can be tried, so a type that
was found has such a name.
-/
import SecurityMarking.Text.Split
import SecurityMarking.Registry.Basic

namespace SecurityMarking

/-- The modifier for Critical Nuclear Weapon Design Information. -/
def cnwdiModifier : Text := "N"

/-- What begins a list of SIGMA categories. -/
def sigmaModifier : Text := "SIGMA"

/-- What begins a list of SIGMA categories for short. -/
def shortSigmaModifier : Text := "SG"

/-- The numbers among the words of a list of SIGMA categories. -/
def sigmasOfText (t : Text) : List Int := t.words.filterMap Numeral.read?

/-- The words of a list of SIGMA categories that are no numbers. -/
def skippedSigmas (t : Text) : List Text := t.words.filter fun w => (Numeral.read? w).isNone

/-- What one modifier of an AEA marking says. -/
inductive Modifier
  | cnwdi
  /-- SIGMA categories, as yet unread. -/
  | sigmas (list : Text)
  | other
deriving DecidableEq

namespace Modifier

/-- What a text between dashes says. -/
def ofText (t : Text) : Modifier :=
  let word := t.trim
  if word = cnwdiModifier then .cnwdi
  else
    match Text.after? sigmaModifier word with
    | some list => .sigmas list
    | none =>
      match Text.after? shortSigmaModifier word with
      | some list => .sigmas list
      | none => .other

/-- Whether the modifier is the mark of CNWDI. -/
def isCnwdi : Modifier → Bool
  | .cnwdi => true
  | _ => false

/-- The list of SIGMA categories of the modifier; empty if it has none. -/
def sigmaList : Modifier → Text
  | .sigmas list => list
  | _ => []

end Modifier

/-- The modifiers of a marking: all that follows its first dash, cut at dashes. -/
def modifiersOfText (t : Text) : List Modifier := (t.pieces .dash).tail.map Modifier.ofText

/-- What the modifiers of an AEA marking say together. -/
structure Modifiers where
  cnwdi : Bool
  sigmas : List Int
deriving DecidableEq

namespace Modifiers

/-- What modifiers say together: CNWDI if one of them does, and the categories of all. -/
def ofList (ms : List Modifier) : Modifiers :=
  ⟨ms.any Modifier.isCnwdi, ms.flatMap fun m => sigmasOfText m.sigmaList⟩

/-- What the modifiers of a marking say together. -/
def ofText (t : Text) : Modifiers := ofList (modifiersOfText t)

/-- The words in the lists of SIGMA categories of a marking that are no numbers. -/
def skipped (t : Text) : List Text :=
  (modifiersOfText t).flatMap fun m => skippedSigmas m.sigmaList

end Modifiers

/-- An AEA marking. -/
structure AeaMarking where
  /-- The AEA type. -/
  type : Entry
  /-- The name that the type is shown by. -/
  typeName : Text
  type_shown : type.shown = .ok typeName
  cnwdi : Bool
  sigmas : List Int

namespace AeaMarking

/-- The text of an AEA marking whose type goes by the given name. -/
def renderParts (name : Text) (cnwdi : Bool) (sigmas : List Int) : Text :=
  Text.join .dash <|
    [name] ++ (if cnwdi then [cnwdiModifier] else [])
      ++ (if sigmas.isEmpty then []
          else [Text.join .space (sigmaModifier :: sigmas.map Numeral.write)])

/-- The text of a marking, as it stands in a banner. -/
def banner (m : AeaMarking) : Text := renderParts m.typeName m.cnwdi m.sigmas

/-- The marking of a type, shown by that name, that a text writes. -/
def ofType {type : Entry} {name : Text} (hshown : type.shown = .ok name) (t : Text) : AeaMarking :=
  let said := Modifiers.ofText t
  ⟨type, name, hshown, said.cnwdi, said.sigmas⟩

/-- The marking of a type that a text writes.  The type has to have a name that it is shown by. -/
def ofType? (type : Entry) (t : Text) : Except Failure AeaMarking :=
  match h : type.shown with
  | .ok _ => .ok (ofType h t)
  | .error failure => .error failure

/-- A type that is shown by a name has the marking that a text writes. -/
theorem ofType?_eq_ok {type : Entry} {name : Text} (hshown : type.shown = .ok name) (t : Text) :
    ofType? type t = .ok (ofType hshown t) := by
  unfold ofType?
  split
  · rename_i found hfound
    cases hfound.symm.trans hshown
    rfl
  · rename_i failure hfailure
    cases hfailure.symm.trans hshown

/-- The marking that a text writes, given the registry of AEA types. -/
def ofText? (types : Registry) (text : Option Text) : Except Failure AeaMarking := do
  match text, ← types.match? text with
  | some t, some type => ofType? type t
  | some t, none => .error (.noAeaType t)
  | none, _ => .error (.missingMarking "match")

/-- Whether two markings have types of one key and the same modifiers. -/
def same (a b : AeaMarking) : Bool :=
  a.type.key.same b.type.key && a.cnwdi == b.cnwdi && a.sigmas == b.sigmas

/-- The expression that builds the marking from its banner text. -/
def expression (m : AeaMarking) : Text := Text.concat ["AeaMarking(", m.banner.quoted, ")"]

end AeaMarking

end SecurityMarking
