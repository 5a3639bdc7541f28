/-
Reading a SAP control from its own banner.

A banner puts a marker before the programs and has texts of its own for the two
controls that list none, and a reading undoes each of these in turn.  HVSACO is
recognised before the marker is looked for, the marker is taken off once, and what
is left is compared with MULTIPLE PROGRAMS before it is cut.

So the list of programs decides.  It is read back if it is one that the cut at
slashes gives, which leaves out the empty list, a program with a slash in it and a
list that ends with an empty program; and of those that the cut gives, only the one
program that is called MULTIPLE PROGRAMS is taken for something else.  A program may
well begin with the marker or be called HVSACO, as it stands after a marker.
-/
import SecurityMarking.Proofs.Text.Split
import SecurityMarking.Sap

namespace SecurityMarking.SapControl

open Text

variable {t : Text} {ps : List Text}

theorem ofSegment_marker (t : Text) : ofSegment (marker ++ t) = ofText t := by
  have hne : marker ++ t ≠ hvsacoBanner := by
    intro h
    exact absurd (List.cons.inj h).1 (by decide)
  have hafter : after? marker (marker ++ t) = some t := after?_eq_some_iff.mpr rfl
  rw [ofSegment, if_neg hne, hafter, Option.getD_some]

/-- MULTIPLE PROGRAMS has no slash in it, so it is one program. -/
theorem programsOfText_multiplePrograms : programsOfText multiplePrograms = [multiplePrograms] := by
  decide

theorem ofText_join_eq_iff :
    ofText (join .slash ps) = .programs ps ↔
      (ps ≠ [] ∧ (∀ p ∈ ps, '/' ∉ p) ∧ Kept ps) ∧ ps ≠ [multiplePrograms] := by
  rw [← split_join_eq_iff]
  refine ⟨?_, ?_⟩
  · intro h
    by_cases hmultiple : join .slash ps = multiplePrograms
    · rw [ofText, if_pos hmultiple] at h
      cases h
    · rw [ofText, if_neg hmultiple] at h
      refine ⟨SapControl.programs.inj h, ?_⟩
      rintro rfl
      exact hmultiple (join_singleton _ _)
  · rintro ⟨hsplit, hne⟩
    have hmultiple : join .slash ps ≠ multiplePrograms := by
      intro heq
      have hone : programsOfText (join .slash ps) = [multiplePrograms] := by
        rw [heq, programsOfText_multiplePrograms]
      exact hne (hsplit.symm.trans hone)
    rw [ofText, if_neg hmultiple]
    exact congrArg SapControl.programs hsplit

/--
**The controls that are read back from their banners.**

Those without programs are, and of those with programs the ones whose list is not
empty, has no slash inside a name, does not end with an empty name unless that is
the only one, and is not the one name MULTIPLE PROGRAMS.  How the control was built
does not matter: read from a text, listed by name or made for a banner.
-/
theorem ofSegment_banner_eq_iff (x : SapControl) :
    ofSegment x.banner = x ↔
      x = .hvsaco ∨ x = .multiple ∨
        ∃ ps, x = .programs ps ∧ ps ≠ [] ∧ (∀ p ∈ ps, '/' ∉ p) ∧
          (ps = [[]] ∨ ps.getLast? ≠ some []) ∧ ps ≠ [multiplePrograms] := by
  cases x with
  | hvsaco => exact ⟨fun _ => Or.inl rfl, fun _ => by decide⟩
  | multiple => exact ⟨fun _ => Or.inr (Or.inl rfl), fun _ => by decide⟩
  | programs ps =>
      have hread : ofSegment (banner (.programs ps)) = ofText (join .slash ps) :=
        ofSegment_marker _
      rw [hread, ofText_join_eq_iff]
      refine ⟨?_, ?_⟩
      · rintro ⟨⟨hne, hfree, hkept⟩, hmultiple⟩
        exact Or.inr (Or.inr ⟨ps, rfl, hne, hfree, hkept, hmultiple⟩)
      · rintro (h | h | ⟨qs, h, hne, hfree, hkept, hmultiple⟩)
        · cases h
        · cases h
        · cases h
          exact ⟨⟨hne, hfree, hkept⟩, hmultiple⟩

end SecurityMarking.SapControl
