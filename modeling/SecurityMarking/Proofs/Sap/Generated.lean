/-
Reading the banner that was made for programs.

A banner that is made for programs lists them, or stands for more than three of them by
MULTIPLE PROGRAMS.  In both cases it is the marker and a list joined at slashes, so that it
is never read as HVSACO, and it is read as multiple programs exactly if that list is the one
name that stands for them (`listedInBanner_eq_iff`): a list of several names has a slash in
its text.

Otherwise the programs come back with three changes.  A name with slashes inside comes back as
its parts, empty names at the end are gone, and no name at all comes back as one empty name.
Only the first of these can make programs more, and so more than three of them are read only
where a name had a slash inside.
-/
import SecurityMarking.Proofs.Text.Trailing
import SecurityMarking.Proofs.Sap.RoundTrip

namespace SecurityMarking.SapControl

open Text

variable {ps : List Text}

/-! ### What the banner lists -/

/-- The banner made for programs is the marker and what it lists. -/
theorem banner_forBanner (ps : List Text) :
    (forBanner ps).banner = marker ++ join .slash (listedInBanner ps) := by
  unfold forBanner
  split
  · rename_i hmultiple
    rw [hmultiple, join_singleton]
    rfl
  · rfl

/-- MULTIPLE PROGRAMS stands for more than three programs, and for the one that is called so. -/
theorem listedInBanner_eq_iff :
    listedInBanner ps = [multiplePrograms] ↔ 3 < ps.length ∨ ps = [multiplePrograms] := by
  unfold listedInBanner
  split
  · rename_i hmany
    exact iff_of_true rfl (Or.inl hmany)
  · rename_i hfew
    exact ⟨Or.inr, fun h => h.resolve_left hfew⟩

/-! ### What is read from it -/

/-- The programs that are read where some were listed: the parts of their names between slashes,
less the empty ones at the end.  Where none was listed, or one without a name, one without a name is
read. -/
def carried (ps : List Text) : List Text :=
  if ps = [] ∨ ps = [[]] then [[]] else (ps.flatMap (List.splitOn '/')).rdropWhile List.isEmpty

theorem programsOfText_join (ps : List Text) : programsOfText (join .slash ps) = carried ps := by
  have hsplit : programsOfText (join .slash ps)
      = if join .slash ps = [] then [[]] else dropEmptyEnd (pieces .slash (join .slash ps)) :=
    split_eq '/' _
  have hnil : join .slash ps = [] ↔ ps = [] ∨ ps = [[]] := join_eq_nil_iff
  rw [hsplit, carried, if_congr hnil rfl rfl]
  by_cases hnone : ps = [] ∨ ps = [[]]
  · rw [if_pos hnone, if_pos hnone]
  · have hpieces : pieces .slash (join .slash ps) = ps.flatMap (List.splitOn '/') := by
      rw [← funext (pieces_char '/')]
      exact pieces_join_eq_flatMap fun h => hnone (Or.inl h)
    rw [if_neg hnone, if_neg hnone, hpieces, dropEmptyEnd_eq_rdropWhile]

theorem ofText_join (ps : List Text) :
    ofText (join .slash ps)
      = if ps = [multiplePrograms] then .multiple else .programs (carried ps) := by
  have hmultiple : join .slash ps = multiplePrograms ↔ ps = [multiplePrograms] :=
    join_eq_iff (by decide) (by decide)
  rw [ofText, programsOfText_join]
  exact if_congr hmultiple rfl rfl

/-- The banner made for programs stands for multiple ones, or what it lists is read. -/
theorem ofSegment_banner_forBanner_eq (ps : List Text) :
    ofSegment (forBanner ps).banner
      = if 3 < ps.length ∨ ps = [multiplePrograms] then .multiple else .programs (carried ps) := by
  rw [banner_forBanner, ofSegment_marker, ofText_join]
  by_cases hmultiple : 3 < ps.length ∨ ps = [multiplePrograms]
  · rw [if_pos (listedInBanner_eq_iff.mpr hmultiple), if_pos hmultiple]
  · have hlisted : listedInBanner ps = ps := if_neg fun hmany => hmultiple (Or.inl hmany)
    rw [if_neg fun h => hmultiple (listedInBanner_eq_iff.mp h), if_neg hmultiple, hlisted]

/-- Empty names are lost at the end, so that a name for multiple programs can be left alone. -/
example :
    ofSegment (forBanner []).banner = .programs [[]] ∧
      ofSegment (forBanner ["", ""]).banner = .programs [] ∧
      ofSegment (forBanner ["MULTIPLE PROGRAMS", ""]).banner = .programs ["MULTIPLE PROGRAMS"] := by
  decide

/-- Names without slashes do not become more. -/
theorem length_carried_le (hfree : ∀ p ∈ ps, '/' ∉ p) : (carried ps).length ≤ max 1 ps.length := by
  unfold carried
  split
  · exact Nat.le_max_left 1 _
  · rename_i hsome
    have hne : ps ≠ [] := fun hnil => hsome (Or.inl hnil)
    have hparts : ps.flatMap (List.splitOn '/') = ps := by
      rw [← funext (pieces_char '/'), ← pieces_join_eq_flatMap hne]
      exact pieces_join hne hfree
    rw [hparts]
    exact le_trans (List.rdropWhile_prefix _ _).length_le (Nat.le_max_right 1 _)

/--
**What is read from a banner that was made for programs.**

It is never HVSACO, and multiple programs exactly for more than three of them and for the one
that is called so.  Otherwise the parts of their names come back, and these are more than
three only if a name has a slash inside.
-/
theorem ofSegment_banner_forBanner (ps : List Text) :
    ofSegment (forBanner ps).banner ≠ .hvsaco ∧
      (ofSegment (forBanner ps).banner = .multiple ↔
        3 < ps.length ∨ ps = [multiplePrograms]) ∧
      (ofSegment (forBanner ps).banner ≠ .multiple →
        ofSegment (forBanner ps).banner = .programs (carried ps)) ∧
      (3 < (ofSegment (forBanner ps).banner).names.length → ∃ p ∈ ps, '/' ∈ p) := by
  rw [ofSegment_banner_forBanner_eq]
  by_cases hmultiple : 3 < ps.length ∨ ps = [multiplePrograms]
  · rw [if_pos hmultiple]
    refine ⟨by simp, iff_of_true rfl hmultiple, fun h => absurd rfl h, fun h => ?_⟩
    exact absurd h (by decide)
  · rw [if_neg hmultiple]
    refine ⟨by simp, iff_of_false (by simp) hmultiple, fun _ => rfl, fun hmany => ?_⟩
    have hfew : ¬ 3 < ps.length := fun h => hmultiple (Or.inl h)
    by_contra hnone
    have hfree : ∀ p ∈ ps, '/' ∉ p := fun p hp hslash => hnone ⟨p, hp, hslash⟩
    have hlength : (carried ps).length ≤ max 1 ps.length := length_carried_le hfree
    have hnames : 3 < (carried ps).length := hmany
    omega

/-- Two names with slashes inside come back as five programs, one of them without a name. -/
theorem ofSegment_banner_forBanner_slashes :
    ofSegment (forBanner ["BP/GB", "TC//XR"]).banner ≠ .multiple ∧
      ofSegment (forBanner ["BP/GB", "TC//XR"]).banner = .programs ["BP", "GB", "TC", [], "XR"] ∧
      3 < (ofSegment (forBanner ["BP/GB", "TC//XR"]).banner).names.length ∧
      ∃ p ∈ (["BP/GB", "TC//XR"] : List Text), '/' ∈ p := by
  have hread : ofSegment (forBanner ["BP/GB", "TC//XR"]).banner ≠ .multiple := by decide
  have hmany : 3 < (ofSegment (forBanner ["BP/GB", "TC//XR"]).banner).names.length := by decide
  obtain ⟨-, -, hprograms, hslash⟩ := ofSegment_banner_forBanner ["BP/GB", "TC//XR"]
  exact ⟨hread, hprograms hread, hmany, hslash hmany⟩

end SecurityMarking.SapControl
