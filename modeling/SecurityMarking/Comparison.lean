/-
Comparing markings of all sorts.

Controls of one sort are equal by what they say: SCI and SAP controls in all their
parts, AEA markings by the key of their type and their modifiers, entries in all
four of their fields.  Things of different sorts are never equal, so a control does
not equal its own banner.
-/
import SecurityMarking.Sci
import SecurityMarking.Sap
import SecurityMarking.Aea

namespace SecurityMarking

/-- Something that can be compared with markings. -/
inductive Comparable
  | sci (control : SciControl)
  | sap (control : SapControl)
  | aea (marking : AeaMarking)
  | entry (entry : Entry)
  | text (t : Text)

namespace Comparable

/-- Whether two things are equal. -/
def same : Comparable → Comparable → Bool
  | .sci a, .sci b => a = b
  | .sap a, .sap b => a = b
  | .aea a, .aea b => a.same b
  | .entry a, .entry b => a.same b
  | .text a, .text b => a = b
  | _, _ => false

/-- One of each of several things, the first that equals it. -/
def distinct (xs : List Comparable) : List Comparable :=
  xs.foldl (fun found x => if found.any (·.same x) then found else found ++ [x]) []

end Comparable

end SecurityMarking
