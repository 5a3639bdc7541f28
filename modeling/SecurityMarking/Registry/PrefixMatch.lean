/-
Finding a control at the beginning of a text.

Text that runs on after a marking is searched for a name that begins it.  Three
questions only ask whether there is one, of a given sort or of any; the fourth
asks which control has it, and of several takes the one declared first.  A
missing text has no beginning, so each question refuses it in its own name.
-/
import SecurityMarking.Registry.Entry

namespace SecurityMarking.PrefixMatch

/-- The text that an operation needs. -/
def require (operation : Text) : Option Text → Except Failure Text
  | none => .error (.missingMarking operation)
  | some t => .ok t

/-- Whether the text begins with a banner name of one of the controls. -/
def beginsWithBannerName (es : List Entry) (text : Option Text) : Except Failure Bool := do
  let t ← require "prefix_banner_match" text
  beginsWithName t (es.flatMap Entry.bannerNames)

/-- Whether the text begins with a portion name of one of the controls. -/
def beginsWithPortionName (es : List Entry) (text : Option Text) : Except Failure Bool := do
  let t ← require "prefix_portion_match" text
  beginsWithName t (es.flatMap Entry.portionNames)

/-- Whether the text begins with a name of one of the controls; banner names are tried first. -/
def beginsWithAnyName (es : List Entry) (text : Option Text) : Except Failure Bool := do
  let t ← require "prefix_match" text
  if ← beginsWithName t (es.flatMap Entry.bannerNames) then return true
  beginsWithName t (es.flatMap Entry.portionNames)

/-- The first of the controls that has a name which begins `t`. -/
def firstMatch? (t : Text) : List Entry → Except Failure (Option Entry)
  | [] => .ok none
  | e :: es => do
    if ← e.begins t then return some e
    firstMatch? t es

/-- The first of the controls that has a name which begins the text. -/
def find? (es : List Entry) (text : Option Text) : Except Failure (Option Entry) := do
  let t ← require "match" text
  firstMatch? t es

end SecurityMarking.PrefixMatch
