/-
Cutting a text at a delimiter.

A delimiter is one or more characters.  `Text.pieces` cuts a text at every
occurrence of it, from left to right and without overlap: what comes before the
first occurrence, what lies between two of them, and what follows the last.
There is always at least one piece, and joining the pieces with the delimiter
gives the text back.

Marking text is cut by `Text.split`, which keeps a text without the delimiter
whole and otherwise drops the empty pieces at the end.  Empty pieces before a
non-empty one stay: they are the empty names that a doubled or a leading
delimiter writes.
-/
import SecurityMarking.Text.Basic

namespace SecurityMarking

/-- A text that pieces are cut at.  The empty text separates nothing. -/
structure Delimiter where
  /-- The characters of the delimiter. -/
  text : Text
  /-- There is at least one of them. -/
  nonempty : text ≠ []
deriving DecidableEq

namespace Delimiter

/-- The delimiter that a text spells, if it is not empty. -/
def ofText? (t : Text) : Option Delimiter := if h : t = [] then none else some ⟨t, h⟩

/-- A delimiter of one character. -/
def char (c : Char) : Delimiter := ⟨[c], by simp⟩

/-- Between the control and the compartments of an SCI control, and between the modifiers of an AEA
marking. -/
def dash : Delimiter := .char '-'

/-- Between a compartment and its sub-compartments. -/
def space : Delimiter := .char ' '

/-- Between controls, and between the programs of a SAP control. -/
def slash : Delimiter := .char '/'

/-- Between the names in a list that a scenario writes. -/
def comma : Delimiter := .char ','

end Delimiter

namespace Text

/-- Cuts at every occurrence of `d`, after passing over `skip` characters: those of an occurrence
whose first character has been met. -/
def cutFrom (d : Text) : Nat → Text → List Text
  | _, [] => [[]]
  | skip + 1, _ :: cs => cutFrom d skip cs
  | 0, c :: cs =>
    if d.isPrefixOf (c :: cs) then [] :: cutFrom d (d.length - 1) cs
    else (cutFrom d 0 cs).modifyHead (c :: ·)

/-- The pieces of a text between the occurrences of a delimiter. -/
def pieces (d : Delimiter) (t : Text) : List Text := cutFrom d.text 0 t

/-- The texts less the empty ones at the end. -/
def dropEmptyEnd : List Text → List Text
  | [] => []
  | p :: ps =>
    let rest := dropEmptyEnd ps
    if p.isEmpty && rest.isEmpty then [] else p :: rest

/-- The pieces of marking text: a text without the delimiter is its own single piece, and of any
other the empty pieces at the end are dropped. -/
def split (d : Delimiter) (t : Text) : List Text :=
  match pieces d t with
  | [p] => [p]
  | ps => dropEmptyEnd ps

/-- The texts in order, with the delimiter between each two. -/
def join (d : Delimiter) (ps : List Text) : Text := d.text.intercalate ps

/-! ### One equation per case of cutting -/

@[simp] theorem pieces_nil (d : Delimiter) : pieces d [] = [[]] := rfl

/-- Cutting at one character: it starts a new piece, and any other extends the first. -/
theorem pieces_char_cons (c x : Char) (t : Text) :
    pieces (.char c) (x :: t)
      = if x = c then [] :: pieces (.char c) t else (pieces (.char c) t).modifyHead (x :: ·) := by
  by_cases h : x = c
  · subst h; simp [pieces, Delimiter.char, cutFrom, List.isPrefixOf]
  · simp [pieces, Delimiter.char, cutFrom, List.isPrefixOf, h, Ne.symm h]

theorem cutFrom_ne_nil (d : Text) (skip : Nat) (t : Text) : cutFrom d skip t ≠ [] := by
  induction t generalizing skip with
  | nil => simp [cutFrom]
  | cons c t ih =>
    cases skip with
    | succ n => simpa [cutFrom] using ih n
    | zero =>
      rw [cutFrom]
      split
      · simp
      · cases h : cutFrom d 0 t with
        | nil => exact absurd h (ih 0)
        | cons p ps => simp

/-- There is always a piece. -/
theorem pieces_ne_nil (d : Delimiter) (t : Text) : pieces d t ≠ [] := cutFrom_ne_nil d.text 0 t

@[simp] theorem dropEmptyEnd_nil : dropEmptyEnd [] = [] := rfl

/-- A first piece is dropped only with all that follow it. -/
theorem dropEmptyEnd_cons (p : Text) (ps : List Text) :
    dropEmptyEnd (p :: ps)
      = if p = [] ∧ dropEmptyEnd ps = [] then [] else p :: dropEmptyEnd ps := by
  simp [dropEmptyEnd]

/-- What is kept begins the list, and what is dropped is empty. -/
theorem dropEmptyEnd_append (ps : List Text) :
    ∃ k, ps = dropEmptyEnd ps ++ List.replicate k [] := by
  induction ps with
  | nil => exact ⟨0, rfl⟩
  | cons p ps ih =>
    obtain ⟨k, hk⟩ := ih
    rw [dropEmptyEnd_cons]
    by_cases h : p = [] ∧ dropEmptyEnd ps = []
    · rw [h.2, List.nil_append] at hk
      exact ⟨k + 1, by rw [if_pos h, h.1, hk]; simp [List.replicate_succ]⟩
    · exact ⟨k, by rw [if_neg h, List.cons_append, ← hk]⟩

end Text

end SecurityMarking
