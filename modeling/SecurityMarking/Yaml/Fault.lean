/-
Why a text is no document that can be read.

Most texts that are refused break a rule of YAML, and it does not matter which.
Some keep all of them and hold a scalar whose spelling says something that there
is not, such as the thirtieth of February.
-/
import SecurityMarking.Failure

namespace SecurityMarking.Yaml

/-- Why a text cannot be read. -/
inductive Fault
  /-- It breaks a rule of YAML. -/
  | malformed
  /-- A scalar says what there is not. -/
  | misuse (cause : Misuse)
deriving DecidableEq

/-- The failure of a reader that only tells whether it succeeded. -/
def orMalformed {α : Type} : Option α → Except Fault α
  | some x => .ok x
  | none => .error .malformed

end SecurityMarking.Yaml
