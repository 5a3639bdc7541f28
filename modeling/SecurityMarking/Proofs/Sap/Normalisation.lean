/-
The normal form of a SAP segment.

A segment can be written with or without the marker, and with slashes at its end that no
program needs.  Reading it and writing it again gives one form of it: the marker, and what
follows it without slashes at the end.  It does not matter here that MULTIPLE PROGRAMS is
read as a control of its own, as its banner is the one that a program of that name would
have: `banner_ofText`.  HVSACO alone stands without a marker.

What is written is in that form, and what is in that form is written as it was read.  So a
second reading changes nothing, even of a control that is not read back from its banner, as
the one without any programs or the one with a program called MULTIPLE PROGRAMS.
-/
import SecurityMarking.Proofs.Text.Trailing
import SecurityMarking.Proofs.Sap.RoundTrip

namespace SecurityMarking.SapControl

open Text

variable {s : Text}

/-- The control that a text writes has the marker and the text, less the slashes at its end, as its
banner. -/
theorem banner_ofText (t : Text) : (ofText t).banner = marker ++ t.rdropWhile (· = '/') := by
  unfold ofText
  split
  · rename_i hmultiple
    have hslash : multiplePrograms.getLast? ≠ some '/' := by decide
    rw [hmultiple, rdropWhile_eq_self_iff_getLast?.mpr hslash]
    rfl
  · exact congrArg (marker ++ ·) (join_split '/' t)

/-- What a segment is written as: HVSACO, or a marker and no slash at the end. -/
def Normal (s : Text) : Prop := s = hvsacoBanner ∨ marker <+: s ∧ s.getLast? ≠ some '/'

theorem normal_banner_ofText (t : Text) : Normal (ofText t).banner := by
  rw [banner_ofText]
  refine Or.inr ⟨List.prefix_append _ _, ?_⟩
  rw [List.getLast?_append]
  intro hlast
  cases hend : (t.rdropWhile (· = '/')).getLast? with
  | none =>
      -- Only the marker is left, and it ends with a dash.
      rw [hend] at hlast
      exact absurd hlast (by decide)
  | some c =>
      rw [hend, Option.some_or] at hlast
      exact getLast?_rdropWhile '/' t (hend.trans hlast)

theorem normal_banner_ofSegment (s : Text) : Normal (ofSegment s).banner := by
  unfold ofSegment
  split
  · exact Or.inl rfl
  · exact normal_banner_ofText _

theorem Normal.banner_ofSegment (h : Normal s) : (ofSegment s).banner = s := by
  rcases h with rfl | ⟨⟨t, rfl⟩, hlast⟩
  · rfl
  · have hslash : t.getLast? ≠ some '/' := by
      intro ht
      rw [List.getLast?_append, ht] at hlast
      exact hlast rfl
    rw [ofSegment_marker, banner_ofText, rdropWhile_eq_self_iff_getLast?.mpr hslash]

/--
**Reading and writing a segment brings it to its normal form.**

Doing it twice is the same as doing it once, and it changes nothing exactly in HVSACO and in
what begins with the marker and does not end with a slash.
-/
theorem banner_ofSegment_idem (s : Text) :
    (ofSegment (ofSegment s).banner).banner = (ofSegment s).banner ∧
      ((ofSegment s).banner = s ↔ Normal s) := by
  refine ⟨(normal_banner_ofSegment s).banner_ofSegment, ?_, Normal.banner_ofSegment⟩
  intro h
  have hnormal := normal_banner_ofSegment s
  rwa [h] at hnormal

/-- The marker is taken off once, and slashes at the end are dropped after it. -/
example :
    (ofSegment "BP/GB//").banner = "SAR-BP/GB" ∧ (ofSegment "SAR-SAR-BP").banner = "SAR-SAR-BP" ∧
      (ofSegment "SAR-///").banner = "SAR-" ∧
      (ofSegment "MULTIPLE PROGRAMS/").banner = "SAR-MULTIPLE PROGRAMS" := by
  decide

end SecurityMarking.SapControl
