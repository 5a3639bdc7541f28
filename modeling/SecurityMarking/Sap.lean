/-
SAP controls: Special Access Programs.

A SAP control has one of three shapes.  Without programs it is HVSACO or the
control for multiple programs; otherwise it lists programs, written with slashes
between them.  In a banner all but HVSACO follow `SAR-`.  A banner lists at most
three programs and stands for more by MULTIPLE PROGRAMS, a rule that holds for
writing a banner and not for reading one.
-/
import SecurityMarking.Text.Split
import SecurityMarking.Failure

namespace SecurityMarking

/-- A SAP control. -/
inductive SapControl
  | hvsaco
  | multiple
  | programs (names : List Text)
deriving DecidableEq

namespace SapControl

/-- The banner of the control that has no programs. -/
def hvsacoBanner : Text := "HVSACO"

/-- What stands for multiple programs. -/
def multiplePrograms : Text := "MULTIPLE PROGRAMS"

/-- What begins the banner of every other control. -/
def marker : Text := "SAR-"

/-- The most programs that a banner lists. -/
def maxListed : Nat := 3

/-- The programs that a text lists. -/
def programsOfText (t : Text) : List Text := Text.split .slash t

/-- The control that a text without marker writes. -/
def ofText (t : Text) : SapControl :=
  if t = multiplePrograms then .multiple else .programs (programsOfText t)

/-- The control that a text writes; no text writes HVSACO. -/
def ofText? : Option Text → SapControl
  | none => .hvsaco
  | some t => ofText t

/-- The control that a banner segment writes, with or without marker. -/
def ofSegment (t : Text) : SapControl :=
  if t = hvsacoBanner then .hvsaco else ofText ((Text.after? marker t).getD t)

/-- What a banner lists for programs: the programs, or what stands for them if they are more than
it lists. -/
def listedInBanner (ps : List Text) : List Text :=
  if maxListed < ps.length then [multiplePrograms] else ps

/-- The control that a banner carries for programs. -/
def forBanner (ps : List Text) : SapControl :=
  if listedInBanner ps = [multiplePrograms] then .multiple else .programs (listedInBanner ps)

/-- The control that two marks and a list of programs describe.  The mark of HVSACO comes before
that of multiple programs, and either before the list. -/
def ofMarks (isHvsaco isMultiple : Bool) (ps : List Text) : SapControl :=
  if isHvsaco then .hvsaco else if isMultiple then .multiple else .programs ps

/-- The programs of a control. -/
def names : SapControl → List Text
  | .programs ps => ps
  | _ => []

def isHvsaco : SapControl → Bool
  | .hvsaco => true
  | _ => false

def isMultiple : SapControl → Bool
  | .multiple => true
  | _ => false

/-- The word for the shape of a control. -/
def shape : SapControl → Text
  | .hvsaco => "hvsaco"
  | .multiple => "multiple"
  | .programs _ => "programs"

/-- The text of a control, as it stands in a banner. -/
def banner : SapControl → Text
  | .hvsaco => hvsacoBanner
  | .multiple => marker ++ multiplePrograms
  | .programs ps => marker ++ Text.join .slash ps

/-- The expression that builds the control. -/
def expression : SapControl → Text
  | .hvsaco => "SapControl()"
  | .multiple => Text.concat ["SapControl(", multiplePrograms.quoted, ")"]
  | .programs ps => Text.concat ["SapControl.of_programs(", quotedTexts ps, ")"]

end SapControl

end SecurityMarking
