/-
SCI controls: Sensitive Compartmented Information.

An SCI control is written as its name and its compartments with dashes between
them, and a compartment as its name and its sub-compartments with spaces between
them: `SI-G GOLF-TK ALFA BRAVO`.  A control lists its compartments by name,
ascending by code point, whatever order they were written in, and of several
compartments with one name the last is the one that counts.  Sub-compartments
keep the order in which they were written.

Compartments are kept in a list that each new one is inserted into, which sorts
and replaces in one pass.  `Compartment.find?` is the view of that list: an
insertion changes what it finds for one name only.
-/
import SecurityMarking.Text.Split
import SecurityMarking.Failure

namespace SecurityMarking

/-- A compartment of an SCI control, with its sub-compartments in order. -/
structure Compartment where
  name : Text
  subs : List Text
deriving DecidableEq

/-- An SCI control with its compartments, ascending by name. -/
structure SciControl where
  control : Text
  compartments : List Compartment
deriving DecidableEq

namespace Compartment

/-- The compartment that a text between dashes writes: a name and sub-compartments.  A text of
spaces alone writes the empty name. -/
def ofText (t : Text) : Compartment :=
  match Text.split .space t with
  | [] => ⟨[], []⟩
  | name :: subs => ⟨name, subs⟩

/-- The text of a compartment. -/
def render (c : Compartment) : Text := Text.join .space (c.name :: c.subs)

/-- Puts a compartment at its place among others that ascend by name, instead of one that has its
name. -/
def insert (c : Compartment) : List Compartment → List Compartment
  | [] => [c]
  | x :: xs =>
    if c.name < x.name then c :: x :: xs
    else if c.name = x.name then c :: xs
    else x :: insert c xs

/-- Several compartments ascending by name; of those with one name the last counts. -/
def sorted (cs : List Compartment) : List Compartment :=
  cs.foldl (fun ordered c => insert c ordered) []

/-- The sub-compartments of the compartment of that name. -/
def find? (name : Text) (cs : List Compartment) : Option (List Text) :=
  (cs.find? fun c => c.name = name).map subs

/-- Puts a compartment in the place of one that has its name, or after all others. -/
def replace (c : Compartment) : List Compartment → List Compartment
  | [] => [c]
  | x :: xs => if x.name = c.name then c :: xs else x :: replace c xs

/-- Several compartments in the order in which their names first appear; of those with one name the
last counts. -/
def distinct (cs : List Compartment) : List Compartment :=
  cs.foldl (fun ordered c => replace c ordered) []

@[simp] theorem find?_nil (name : Text) : find? name [] = none := rfl

theorem find?_cons (name : Text) (c : Compartment) (cs : List Compartment) :
    find? name (c :: cs) = if c.name = name then some c.subs else find? name cs := by
  by_cases h : c.name = name <;> simp [find?, h]

/-- An insertion changes what is found for its own name only. -/
theorem find?_insert (name : Text) (c : Compartment) (cs : List Compartment) :
    find? name (insert c cs) = if c.name = name then some c.subs else find? name cs := by
  induction cs with
  | nil => simp [insert, find?_cons]
  | cons x xs ih =>
    by_cases hlt : c.name < x.name
    · rw [insert, if_pos hlt, find?_cons]
    by_cases heq : c.name = x.name
    · rw [insert, if_neg hlt, if_pos heq, find?_cons, find?_cons, ← heq]
      split <;> rfl
    rw [insert, if_neg hlt, if_neg heq, find?_cons, find?_cons, ih]
    by_cases h : c.name = name
    · simp [h, show x.name ≠ name from fun hx => heq (h.trans hx.symm)]
    · simp [h]

end Compartment

namespace SciControl

/-- The control that a text writes. -/
def ofText (t : Text) : SciControl :=
  match Text.split .dash t with
  | [] => ⟨[], []⟩
  | control :: tokens => ⟨control, Compartment.sorted (tokens.map Compartment.ofText)⟩

/-- The control that a text writes, where one is needed. -/
def ofText? : Option Text → Except Failure SciControl
  | none => .error (.missingMarking "SciControl")
  | some t => .ok (ofText t)

/-- The text of a control and compartments, in the order in which they are given. -/
def renderParts (control : Text) (compartments : List Compartment) : Text :=
  Text.join .dash (control :: compartments.map Compartment.render)

/-- The text of a control, as it stands in a banner. -/
def banner (x : SciControl) : Text := renderParts x.control x.compartments

/-- The sub-compartments of a compartment of the control. -/
def subCompartments? (x : SciControl) (name : Text) : Option (List Text) :=
  Compartment.find? name x.compartments

/-- The expression that builds the control from its banner text. -/
def expression (x : SciControl) : Text := Text.concat ["SciControl(", x.banner.quoted, ")"]

end SciControl

end SecurityMarking
