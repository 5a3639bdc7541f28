/-
Reading a whole segment of SCI controls from its own banners.

A segment lists its controls with slashes between them, and each control is written and
read by itself.  So there are two ways to lose something: a control that is not read
back from its banner, and an empty banner at the end, which the cut at slashes drops.
A control has no slash in its banner, because it was read from a piece without one and
its banner adds only dashes and spaces; so no banner is ever cut in two.

The empty banner is kept where it is alone, and it is kept before other banners.  A
segment that lists no control at all is not read back either: its banners are joined to
the empty text, which lists the one control with an empty name.
-/
import Mathlib.Data.List.Basic
import SecurityMarking.Proofs.Sci.RoundTrip
import SecurityMarking.Proofs.Segment.Decoding

namespace SecurityMarking

open Text

variable {t p : Text} {c : Char}

/-! ### What a banner is made of -/

/-- The parts of a compartment are made of its text. -/
theorem Compartment.subset_of_ofText (t : Text) :
    ∀ p ∈ (ofText t).name :: (ofText t).subs, p ⊆ t := by
  unfold ofText
  split
  · simp
  · rename_i name subs hsplit
    intro p hp
    exact subset_of_mem_split (by rwa [hsplit])

namespace SciControl

open Compartment

theorem control_subset (t : Text) : (ofText t).control ⊆ t := by
  unfold ofText
  split
  · exact List.nil_subset t
  · rename_i hsplit
    exact subset_of_mem_split (d := .dash) (by simp [hsplit])

/-- The parts of the compartments of a control are made of its text. -/
theorem subset_of_mem_compartments {x : Compartment} (hx : x ∈ (ofText t).compartments) :
    ∀ p ∈ x.name :: x.subs, p ⊆ t := by
  unfold ofText at hx
  split at hx
  · cases hx
  · rename_i control tokens hsplit
    obtain ⟨token, htoken, rfl⟩ := List.mem_map.mp (mem_of_mem_sorted hx)
    have htext : token ⊆ t := subset_of_mem_split (d := .dash) (by simp [hsplit, htoken])
    intro p hp
    exact List.Subset.trans (Compartment.subset_of_ofText token p hp) htext

/-- The banner of a control adds dashes and spaces only. -/
theorem mem_of_mem_banner_ofText (h : c ∈ (ofText t).banner) : c = '-' ∨ c = ' ' ∨ c ∈ t := by
  rcases mem_join h with hdash | ⟨part, hpart, hc⟩
  · exact Or.inl hdash
  refine Or.inr ?_
  rcases List.mem_cons.mp hpart with rfl | hpart
  · exact Or.inr (control_subset t hc)
  · obtain ⟨x, hx, rfl⟩ := List.mem_map.mp hpart
    rcases mem_join hc with hspace | ⟨p, hp, hc⟩
    · exact Or.inl hspace
    · exact Or.inr (subset_of_mem_compartments hx p hp hc)

end SciControl

/-! ### The controls of a segment -/

variable {controls : List SciControl}

theorem slash_not_mem_banner {x : SciControl} (hx : x ∈ sciControlsOfSegment t) :
    '/' ∉ x.banner := by
  obtain ⟨piece, hpiece, rfl⟩ := List.mem_map.mp hx
  have hfree : '/' ∉ piece := not_mem_of_mem_pieces (mem_pieces_of_mem_split hpiece)
  intro hslash
  rcases SciControl.mem_of_mem_banner_ofText hslash with hdash | hspace | htext
  · exact absurd hdash (by decide)
  · exact absurd hspace (by decide)
  · exact hfree htext

/-- The banners at the end of which nothing is dropped. -/
theorem kept_banners_iff (controls : List SciControl) :
    Kept (controls.map SciControl.banner) ↔
      controls.length = 1 ∨ (controls.map SciControl.banner).getLast? ≠ some [] := by
  unfold Kept
  constructor
  · rintro (hone | hlast)
    · have hlength := congrArg List.length hone
      exact Or.inl (by simpa using hlength)
    · exact Or.inr hlast
  · rintro (hone | hlast)
    · obtain ⟨x, rfl⟩ := List.length_eq_one_iff.mp hone
      exact kept_singleton x.banner
    · exact Or.inr hlast

theorem sciControlsOfSegment_join_iff (s : Text) :
    sciControlsOfSegment (join .slash ((sciControlsOfSegment s).map SciControl.banner))
        = sciControlsOfSegment s ↔
      sciControlsOfSegment s ≠ [] ∧
        (∀ x ∈ sciControlsOfSegment s, x.compartments ≠ [Compartment.blank]) ∧
        ((sciControlsOfSegment s).length = 1 ∨
          ((sciControlsOfSegment s).map SciControl.banner).getLast? ≠ some []) := by
  have hfree : ∀ x ∈ sciControlsOfSegment s, '/' ∉ x.banner :=
    fun x hx => slash_not_mem_banner hx
  have hlist := map_split_join_eq_iff SciControl.ofText hfree
  have hback : (∀ x ∈ sciControlsOfSegment s, SciControl.ofText x.banner = x) ↔
      ∀ x ∈ sciControlsOfSegment s, x.compartments ≠ [Compartment.blank] := by
    refine forall₂_congr fun x hx => ?_
    obtain ⟨piece, -, rfl⟩ := List.mem_map.mp hx
    exact (SciControl.wellFormed_ofText piece).ofText_banner_eq_iff
  rw [hback, kept_banners_iff] at hlist
  exact hlist

/-! ### The report -/

/-- What the report of a decoded segment of SCI controls lists. -/
def sciListed (c : Catalogue) (portion : Bool) (t : Text) : Option Value :=
  match Decoding.decode (some SegmentKind.sci.word) (some t) portion c with
  | .ok d _ => d.toValue.part? "sci"
  | .error _ _ => none

theorem sciListed_eq (c : Catalogue) (portion : Bool) (t : Text) :
    sciListed c portion t
      = some (.list ((sciControlsOfSegment t).map SciControl.toValue)) := by
  unfold sciListed
  rw [Decoding.decode_word]
  rfl

theorem SciControl.toValue_injective : Function.Injective toValue := by
  rintro ⟨control, compartments⟩ ⟨control', compartments'⟩ h
  have hcompartment : Function.Injective fun c : Compartment =>
      (Scalar.text c.name, Value.texts c.subs) := by
    rintro ⟨name, subs⟩ ⟨name', subs'⟩ hc
    have htext : Function.Injective Value.text := fun a b hab => by simpa using hab
    simp only [Value.texts, Prod.mk.injEq, Scalar.text.injEq, Value.list.injEq] at hc
    rw [hc.1, List.map_injective_iff.mpr htext hc.2]
  simp only [toValue, Value.map.injEq, List.cons.injEq, Prod.mk.injEq, Value.scalar.injEq,
    Scalar.text.injEq, true_and] at h
  obtain ⟨hcontrol, hcompartments, -⟩ := h
  rw [hcontrol, List.map_injective_iff.mpr hcompartment hcompartments]

/--
**A whole segment of SCI controls is read back from its banners, with three exceptions.**

The report lists the controls of the segment.  The same is listed for their banners with
slashes between them unless there is no control at all, the only compartment of some
control is the blank one, or there are several controls and the last has an empty
banner.
-/
theorem sciListed_join_banners_iff (c : Catalogue) (portion : Bool) (s : Text) :
    sciListed c portion s = some (.list ((sciControlsOfSegment s).map SciControl.toValue)) ∧
      (sciListed c portion (join .slash ((sciControlsOfSegment s).map SciControl.banner))
          = sciListed c portion s ↔
        sciControlsOfSegment s ≠ [] ∧
          (∀ x ∈ sciControlsOfSegment s, x.compartments ≠ [Compartment.blank]) ∧
          ((sciControlsOfSegment s).length = 1 ∨
            ((sciControlsOfSegment s).map SciControl.banner).getLast? ≠ some [])) := by
  refine ⟨sciListed_eq c portion s, ?_⟩
  rw [sciListed_eq, sciListed_eq, ← sciControlsOfSegment_join_iff]
  rw [Option.some.injEq, Value.list.injEq]
  exact (List.map_injective_iff.mpr SciControl.toValue_injective).eq_iff

/-- An empty name is kept between others and lost at the end. -/
example :
    sciControlsOfSegment "SI/-/TK" = [⟨"SI", []⟩, ⟨[], []⟩, ⟨"TK", []⟩] ∧
      sciControlsOfSegment "SI/-" = [⟨"SI", []⟩, ⟨[], []⟩] ∧
      sciControlsOfSegment "SI/" = [⟨"SI", []⟩] := by
  decide

end SecurityMarking
