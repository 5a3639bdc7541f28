/-
Texts.

A marking is read character by character and compared by code point, so a text
is its list of characters.  That choice makes every reader here a recursion on
the data, and it makes the order of texts the lexicographic order of their code
points, which is the order in which compartments are listed.  The code points that are
no characters are the exception: `Text.ofHalf` says what stands for them, and what
becomes of the order.

Beyond the list operations only two things are needed: what follows a given
beginning, and what comes before a given end.
-/

namespace SecurityMarking

/-- A text: its characters, in order. -/
abbrev Text := List Char

/-- A string literal is written where a text is meant. -/
instance : Coe String Text := ⟨String.toList⟩

namespace Text

/-- One text from many, in order. -/
def concat (parts : List Text) : Text := parts.flatten

/-- What follows `p` in a text that begins with `p`. -/
def after? : Text → Text → Option Text
  | [], t => some t
  | _ :: _, [] => none
  | p :: ps, c :: cs => if p = c then after? ps cs else none

/-- `after?` takes off exactly the beginning that it was asked for. -/
theorem after?_eq_some_iff {p t r : Text} : after? p t = some r ↔ t = p ++ r := by
  induction p generalizing t with
  | nil => simp [after?, eq_comm]
  | cons a p ih =>
    cases t with
    | nil => simp [after?]
    | cons c t =>
      by_cases h : a = c
      · subst h; simp [after?, ih]
      · simp [after?, h, Ne.symm h]

/-- What comes before `s` in a text that ends with `s`. -/
def before? (s t : Text) : Option Text := (after? s.reverse t.reverse).map List.reverse

/-- `before?` takes off exactly the end that it was asked for. -/
theorem before?_eq_some_iff {s t r : Text} : before? s t = some r ↔ t = r ++ s := by
  unfold before?
  constructor
  · intro h
    obtain ⟨u, hu, rfl⟩ := Option.map_eq_some_iff.1 h
    have ht := congrArg List.reverse (after?_eq_some_iff.1 hu)
    simpa using ht
  · rintro rfl
    rw [Option.map_eq_some_iff]
    exact ⟨r.reverse, after?_eq_some_iff.2 (by simp), by simp⟩

/-- A text made at least `width` characters wide by spaces at its end. -/
def padRight (width : Nat) (t : Text) : Text := t ++ List.replicate (width - t.length) ' '

end Text

end SecurityMarking
