/-
What the text of an SCI control can carry.

Any control name and any compartments can be written, in any order.  They are read back,
with the compartments in ascending order, under three conditions: the control name has no
dash in it, each compartment is one that a token can write, and the last compartment is
not the blank one.  Reading gives no other compartments than those that tokens write, so
the second condition is necessary as soon as the compartments are read back at all.

The third is necessary because the blank compartment is written as nothing, and at the
end of the text nothing is dropped.  It cannot come back from another token, as each of
the others is read as itself and has another name.
-/
import SecurityMarking.Proofs.Sci.CompartmentMap

namespace SecurityMarking

open Text

namespace Compartment

variable {cs : List Compartment}

/-! ### Sorting compartments with names of their own -/

/-- Several compartments by name, all of them. -/
def byName (cs : List Compartment) : List Compartment := cs.mergeSort fun a b => ¬ b.name < a.name

theorem mem_byName {c : Compartment} : c ∈ byName cs ↔ c ∈ cs := List.mem_mergeSort

theorem ascending_byName (h : (cs.map Compartment.name).Nodup) : Ascending (byName cs) := by
  have hperm : (byName cs).Perm cs := List.mergeSort_perm cs _
  have hnames : ((byName cs).map Compartment.name).Nodup := (hperm.map _).nodup_iff.mpr h
  have hle : (byName cs).Pairwise fun a b => ¬ b.name < a.name := by
    have hsorted : (byName cs).Pairwise fun a b => decide (¬ b.name < a.name) = true := by
      refine List.pairwise_mergeSort (fun a b c hab hbc => ?_) (fun a b => ?_) cs
      · exact decide_eq_true (List.le_trans (of_decide_eq_true hab) (of_decide_eq_true hbc))
      · by_cases hba : b.name < a.name
        · simp [List.lt_asymm hba]
        · simp [hba]
    simpa using hsorted
  refine hle.imp₂ (fun a b hab hne => ?_) (List.pairwise_map.mp hnames)
  rcases List.le_iff_lt_or_eq.mp (List.not_lt.mp hab) with hlt | heq
  · exact hlt
  · exact absurd heq hne

/-- What is found is the same as before the sorting. -/
theorem find?_byName (h : (cs.map Compartment.name).Nodup) (name : Text) :
    find? name (byName cs) = find? name cs :=
  (find?_of_perm (List.mergeSort_perm cs _).symm h name).symm

/-- Inserting one compartment after another sorts them. -/
theorem sorted_eq_byName (h : (cs.map Compartment.name).Nodup) : sorted cs = byName cs := by
  refine (ascending_sorted cs).ext (ascending_byName h) fun name => ?_
  rw [find?_sorted, find?_byName h]
  exact (find?_of_perm (List.reverse_perm cs).symm h name).symm

end Compartment

namespace SciControl

open Compartment

variable {control : Text} {cs : List Compartment}

/-! ### Reading what was written -/

/-- The blank compartment at the end is not read back. -/
theorem blank_not_mem_compartments_ofText (hcontrol : '-' ∉ control)
    (hcs : ∀ c ∈ cs, c.WellFormed) (hnames : (cs.map Compartment.name).Nodup)
    (hlast : cs.getLast? = some blank) :
    blank ∉ (ofText (renderParts control cs)).compartments := by
  obtain ⟨before, rfl⟩ := List.getLast?_eq_some_iff.mp hlast
  rw [ofText_eq, renderParts, tokens_join hcontrol (dash_not_mem_of_mem_map_render hcs),
    List.map_append, List.map_singleton, List.rdropWhile_concat_pos _ _ _ rfl]
  intro hmem
  obtain ⟨token, htoken, hblank⟩ := List.mem_map.mp (mem_of_mem_sorted hmem)
  obtain ⟨c, hc, rfl⟩ := List.mem_map.mp ((List.rdropWhile_prefix _ _).subset htoken)
  -- A token before the last is read as the compartment that it was written for.
  rw [ofText_render (hcs c (List.mem_append_left _ hc))] at hblank
  rw [List.map_append, List.nodup_append] at hnames
  exact hnames.2.2 c.name (List.mem_map_of_mem hc) blank.name (by simp) (by rw [hblank])

/-- What was read is what was written if the same is found for each name. -/
theorem ofText_renderParts_eq_iff_find? (hnames : (cs.map Compartment.name).Nodup) :
    ofText (renderParts control cs) = ⟨control, byName cs⟩ ↔
      (ofText (renderParts control cs)).control = control ∧
        ∀ name, (ofText (renderParts control cs)).subCompartments? name = find? name cs := by
  have hascending := (wellFormed_ofText (renderParts control cs)).ascending
  generalize ofText (renderParts control cs) = x at hascending ⊢
  obtain ⟨control', compartments⟩ := x
  rw [SciControl.mk.injEq]
  refine and_congr_right fun _ => ⟨?_, ?_⟩
  · rintro rfl name
    exact find?_byName hnames name
  · intro hfind
    refine hascending.ext (ascending_byName hnames) fun name => ?_
    rw [find?_byName hnames]
    exact hfind name

/--
**The controls and compartments that their text carries.**

The compartments have names of their own and stand in any order; they are read back in
ascending order.  As each name is there once, that is to say that the same is found for
each name.
-/
theorem ofText_renderParts_eq_iff (hnames : (cs.map Compartment.name).Nodup) :
    (ofText (renderParts control cs) = ⟨control, byName cs⟩ ↔
        '-' ∉ control ∧ (∀ c ∈ cs, c.WellFormed) ∧ cs.getLast? ≠ some blank) ∧
      (ofText (renderParts control cs) = ⟨control, byName cs⟩ ↔
        (ofText (renderParts control cs)).control = control ∧
          ∀ name, (ofText (renderParts control cs)).subCompartments? name = find? name cs) := by
  refine ⟨⟨?_, ?_⟩, ofText_renderParts_eq_iff_find? hnames⟩
  · intro h
    have hread := wellFormed_ofText (renderParts control cs)
    rw [h] at hread
    have hcs : ∀ c ∈ cs, c.WellFormed := fun c hc => hread.compartments c (mem_byName.mpr hc)
    refine ⟨hread.dashFree, hcs, fun hlast => ?_⟩
    have hblank := blank_not_mem_compartments_ofText hread.dashFree hcs hnames hlast
    rw [h] at hblank
    exact hblank (mem_byName.mpr (List.mem_of_getLast? hlast))
  · rintro ⟨hcontrol, hcs, hlast⟩
    rw [ofText_renderParts hcontrol hcs hlast, sorted_eq_byName hnames]

/-- The blank compartment is carried before another, and an empty sub-compartment before a filled
one. -/
theorem ofText_renderParts_unordered :
    (([⟨"TK", [[], "ALFA"]⟩, blank, ⟨"G", []⟩] : List Compartment).map Compartment.name).Nodup ∧
      ofText (renderParts "SI" [⟨"TK", [[], "ALFA"]⟩, blank, ⟨"G", []⟩])
        = ⟨"SI", byName [⟨"TK", [[], "ALFA"]⟩, blank, ⟨"G", []⟩]⟩ := by
  have hnames :
      (([⟨"TK", [[], "ALFA"]⟩, blank, ⟨"G", []⟩] : List Compartment).map Compartment.name).Nodup := by
    decide
  refine ⟨hnames, (ofText_renderParts_eq_iff hnames).1.mpr ⟨by decide, ?_, by decide⟩⟩
  intro c hc
  simp only [List.mem_cons, List.not_mem_nil, or_false] at hc
  rcases hc with rfl | rfl | rfl
  · exact ⟨by decide, by decide, by decide⟩
  · exact ⟨by decide, by decide, by decide⟩
  · exact ⟨by decide, by decide, by decide⟩

end SciControl

end SecurityMarking
