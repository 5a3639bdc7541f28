/-
Delimiters at the end of a marking.

Splitting drops the empty pieces at the end, so more delimiters there do not change what is
left: `Text.split_append_replicate`.  The empty text is the exception.  It is one empty piece
by itself, and with delimiters behind it there is no piece at all.

What this means depends on who splits.  An SCI control does not notice, because a missing
name and an empty one are the same to it.  A list of programs and a segment of controls do,
because a list without members is not a list with an empty one.  And MULTIPLE PROGRAMS is
compared as a whole before anything is split, so that with a slash behind it it is the name of
a program.
-/
import SecurityMarking.Proofs.Text.Trailing
import SecurityMarking.Proofs.Sci.Segment

namespace SecurityMarking

open Text

/-- Dashes at the end of a text write nothing. -/
theorem SciControl.ofText_append_dashes (m : Text) (k : Nat) :
    ofText (m ++ List.replicate (k + 1) '-') = ofText m := by
  have hsplit : split .dash (m ++ List.replicate (k + 1) '-')
      = if m = [] then [] else split .dash m :=
    split_append_replicate '-' m k
  unfold ofText
  rw [hsplit]
  by_cases hm : m = []
  · -- No name is read as the empty one.
    rw [if_pos hm, hm]
    rfl
  · rw [if_neg hm]

namespace SapControl

/-- With slashes behind it a text lists programs, whatever it says without them. -/
theorem ofText_append_slashes (m : Text) (k : Nat) :
    ofText (m ++ List.replicate (k + 1) '/')
      = .programs (if m = [] then [] else programsOfText m) := by
  have hslash : '/' ∈ m ++ List.replicate (k + 1) '/' := by simp
  have hmultiple : m ++ List.replicate (k + 1) '/' ≠ multiplePrograms := by
    intro h
    rw [h] at hslash
    exact absurd hslash (by decide)
  have hsplit : programsOfText (m ++ List.replicate (k + 1) '/')
      = if m = [] then [] else programsOfText m :=
    split_append_replicate '/' m k
  rw [ofText, if_neg hmultiple, hsplit]

theorem ofText_append_slashes_eq_iff (m : Text) (k : Nat) :
    ofText (m ++ List.replicate (k + 1) '/') = ofText m ↔ m ≠ [] ∧ m ≠ multiplePrograms := by
  rw [ofText_append_slashes]
  by_cases hnil : m = []
  · subst hnil
    exact iff_of_false (by decide) fun h => h.1 rfl
  by_cases hmultiple : m = multiplePrograms
  · subst hmultiple
    exact iff_of_false (by decide) fun h => h.2 rfl
  · rw [if_neg hnil, ofText, if_neg hmultiple]
    exact iff_of_true rfl ⟨hnil, hmultiple⟩

end SapControl

theorem sciControlsOfSegment_append_slashes (m : Text) (k : Nat) :
    sciControlsOfSegment (m ++ List.replicate (k + 1) '/')
      = if m = [] then [] else sciControlsOfSegment m := by
  have hsplit : split .slash (m ++ List.replicate (k + 1) '/')
      = if m = [] then [] else split .slash m :=
    split_append_replicate '/' m k
  unfold sciControlsOfSegment
  rw [hsplit]
  by_cases hm : m = []
  · rw [if_pos hm, if_pos hm, List.map_nil]
  · rw [if_neg hm, if_neg hm]

/-- With slashes behind it a segment lists the same controls unless it is empty, when it lists one
by itself. -/
theorem sciControlsOfSegment_append_slashes_eq_iff (m : Text) (k : Nat) :
    sciControlsOfSegment (m ++ List.replicate (k + 1) '/') = sciControlsOfSegment m ↔ m ≠ [] := by
  rw [sciControlsOfSegment_append_slashes]
  by_cases hm : m = []
  · subst hm
    exact iff_of_false (by decide) (absurd rfl)
  · rw [if_neg hm]
    exact iff_of_true rfl hm

/--
**Delimiters at the end of a marking.**

To an SCI control they make no difference.  To a SAP control they do for the empty text and for
MULTIPLE PROGRAMS, and to what the report of a segment of SCI controls lists for the empty
text only.
-/
theorem trailing_delimiters (c : Catalogue) (portion : Bool) (m : Text) (k : Nat) :
    SciControl.ofText (m ++ List.replicate (k + 1) '-') = SciControl.ofText m ∧
      (SapControl.ofText (m ++ List.replicate (k + 1) '/') = SapControl.ofText m ↔
        m ≠ [] ∧ m ≠ SapControl.multiplePrograms) ∧
      sciListed c portion m = some (.list ((sciControlsOfSegment m).map SciControl.toValue)) ∧
      (sciListed c portion (m ++ List.replicate (k + 1) '/') = sciListed c portion m ↔
        m ≠ []) := by
  refine ⟨SciControl.ofText_append_dashes m k, SapControl.ofText_append_slashes_eq_iff m k,
    sciListed_eq c portion m, ?_⟩
  rw [sciListed_eq, sciListed_eq, Option.some.injEq, Value.list.injEq,
    ← sciControlsOfSegment_append_slashes_eq_iff m k]
  exact (List.map_injective_iff.mpr SciControl.toValue_injective).eq_iff

/-- A text of delimiters alone takes more of them, and the empty text does not. -/
example :
    SapControl.ofText "//" = SapControl.ofText "/" ∧ SapControl.ofText "" = .programs [[]] ∧
      SapControl.ofText "/" = .programs [] ∧
      SapControl.ofText "MULTIPLE PROGRAMS/" = .programs ["MULTIPLE PROGRAMS"] := by
  decide

end SecurityMarking
