/-
Reading an SCI control from its own text.

A control is written with dashes between its compartments and with spaces inside
them, and each of the two cuts drops the empty pieces at its end.  What a reading
gives is in a form that the writing keeps: no part has a delimiter in it, no
compartment ends with an empty sub-compartment, and the compartments ascend.  That
is `SciControl.WellFormed`, and `wellFormed_ofText` says that every text is read to
such a control.

Of a control in that form the cut at dashes gives back all pieces unless the last
one is empty.  The empty piece is the text of the blank compartment, and as the
empty name comes before all others, the blank compartment is last only if it is
alone.  So there is one exception and no other: a control whose only compartment is
the blank one is read back without compartments.
-/
import SecurityMarking.Proofs.Text.Split
import SecurityMarking.Proofs.Sci.Order

namespace SecurityMarking

open Text

/-! ### Compartments -/

namespace Compartment

variable {c : Compartment} {cs : List Compartment} {t : Text}

/-- The compartment with the empty name and no sub-compartments. -/
def blank : Compartment := ⟨[], []⟩

/-- What a text between dashes can write. -/
structure WellFormed (c : Compartment) : Prop where
  dashFree : ∀ p ∈ c.name :: c.subs, '-' ∉ p
  spaceFree : ∀ p ∈ c.name :: c.subs, ' ' ∉ p
  /-- An empty sub-compartment at the end would be dropped. -/
  endsFilled : c.subs.getLast? ≠ some []

theorem WellFormed.kept (h : c.WellFormed) : Kept (c.name :: c.subs) :=
  kept_cons_iff.mpr h.endsFilled

theorem wellFormed_ofText (h : '-' ∉ t) : (ofText t).WellFormed := by
  unfold ofText
  split
  · exact ⟨by simp, by simp, by simp⟩
  · rename_i name subs hsplit
    have hpieces : ∀ p ∈ name :: subs, p ∈ pieces .space t := by
      intro p hp
      exact mem_pieces_of_mem_split (by rwa [hsplit])
    refine ⟨?_, ?_, ?_⟩
    · intro p hp hdash
      exact h (mem_of_mem_pieces (hpieces p hp) hdash)
    · intro p hp
      exact not_mem_of_mem_pieces (hpieces p hp)
    · have hkept := kept_split .space t
      rw [hsplit] at hkept
      exact kept_cons_iff.mp hkept

theorem ofText_render (h : c.WellFormed) : ofText c.render = c := by
  have hsplit : split .space c.render = c.name :: c.subs :=
    split_join (by simp) h.spaceFree h.kept
  simp only [ofText, hsplit]

theorem map_ofText_map_render (hcs : ∀ c ∈ cs, c.WellFormed) : (cs.map render).map ofText = cs :=
  map_map_eq_self_iff.mpr fun c hc => ofText_render (hcs c hc)

/-- The text of a well-formed compartment can stand between dashes. -/
theorem WellFormed.dash_not_mem_render (h : c.WellFormed) : '-' ∉ c.render := by
  intro hdash
  rcases mem_join hdash with hspace | ⟨p, hp, hdash⟩
  · exact absurd hspace (by decide)
  · exact h.dashFree p hp hdash

theorem dash_not_mem_of_mem_map_render (hcs : ∀ c ∈ cs, c.WellFormed) :
    ∀ t ∈ cs.map render, '-' ∉ t := by
  intro t ht
  obtain ⟨c, hc, rfl⟩ := List.mem_map.mp ht
  exact (hcs c hc).dash_not_mem_render

/-- Only the blank compartment is written as nothing. -/
theorem render_eq_nil_iff : c.render = [] ↔ c = blank := by
  obtain ⟨name, subs⟩ := c
  cases subs with
  | nil => simp [render, blank]
  | cons s rest =>
      have hne : render ⟨name, s :: rest⟩ ≠ [] := by
        have hjoin : render ⟨name, s :: rest⟩ = name ++ ' ' :: join .space (s :: rest) :=
          join_cons_cons ' ' name s rest
        simp [hjoin]
      simp [hne, blank]

theorem getLast?_map_render_eq_nil_iff :
    (cs.map render).getLast? = some [] ↔ cs.getLast? = some blank := by
  rw [List.getLast?_map, Option.map_eq_some_iff]
  constructor
  · rintro ⟨c, hc, hempty⟩
    rw [hc, render_eq_nil_iff.mp hempty]
  · intro hlast
    exact ⟨blank, hlast, render_eq_nil_iff.mpr rfl⟩

/-- The blank compartment comes before all others, so at the end it is alone. -/
theorem eq_blank_of_getLast? (h : Ascending cs)
    (hlast : cs.getLast? = some blank) : cs = [blank] := by
  obtain ⟨before, rfl⟩ := List.getLast?_eq_some_iff.mp hlast
  cases before with
  | nil => rfl
  | cons d rest =>
      have hlt : d.name < blank.name :=
        (ascending_append.mp h).2.2 d List.mem_cons_self blank List.mem_cons_self
      exact absurd hlt (List.not_lt_nil d.name)

end Compartment

/-! ### Controls -/

namespace SciControl

open Compartment

variable {control : Text} {cs : List Compartment} {x : SciControl}

/-- What a text can write. -/
structure WellFormed (x : SciControl) : Prop where
  dashFree : '-' ∉ x.control
  compartments : ∀ c ∈ x.compartments, c.WellFormed
  ascending : Ascending x.compartments

/-- **Every text writes a well-formed control.** -/
theorem wellFormed_ofText (t : Text) : (ofText t).WellFormed := by
  unfold ofText
  split
  · exact ⟨by simp, by simp, ascending_nil⟩
  · rename_i control tokens hsplit
    have hfree : ∀ p ∈ control :: tokens, '-' ∉ p := by
      intro p hp
      exact not_mem_of_mem_pieces (mem_pieces_of_mem_split (d := .dash) (t := t) (by rwa [hsplit]))
    refine ⟨hfree control List.mem_cons_self, ?_, ascending_sorted _⟩
    intro c hc
    obtain ⟨token, htoken, rfl⟩ := List.mem_map.mp (mem_of_mem_sorted hc)
    exact Compartment.wellFormed_ofText (hfree token (List.mem_cons_of_mem control htoken))

/-- A control and tokens are read from the text in which dashes stand between them. -/
theorem ofText_join {tokens : List Text} (hcontrol : '-' ∉ control)
    (htokens : ∀ t ∈ tokens, '-' ∉ t) (hlast : tokens.getLast? ≠ some []) :
    ofText (join .dash (control :: tokens))
      = ⟨control, sorted (tokens.map Compartment.ofText)⟩ := by
  have hfree : ∀ p ∈ control :: tokens, '-' ∉ p := List.forall_mem_cons.mpr ⟨hcontrol, htokens⟩
  have hsplit : split .dash (join .dash (control :: tokens)) = control :: tokens :=
    split_join (by simp) hfree (kept_cons_iff.mpr hlast)
  simp only [ofText, hsplit]

/-- The text of a control and compartments has a piece for the name and one for each compartment. -/
theorem pieces_renderParts (hcontrol : '-' ∉ control) (hcs : ∀ c ∈ cs, c.WellFormed) :
    pieces .dash (renderParts control cs) = control :: cs.map render :=
  pieces_join (by simp) (List.forall_mem_cons.mpr ⟨hcontrol, dash_not_mem_of_mem_map_render hcs⟩)

theorem ofText_renderParts (hcontrol : '-' ∉ control) (hcs : ∀ c ∈ cs, c.WellFormed)
    (hlast : cs.getLast? ≠ some blank) :
    ofText (renderParts control cs) = ⟨control, sorted cs⟩ := by
  have hkept : (cs.map render).getLast? ≠ some [] :=
    fun hempty => hlast (getLast?_map_render_eq_nil_iff.mp hempty)
  rw [renderParts, ofText_join hcontrol (dash_not_mem_of_mem_map_render hcs) hkept,
    map_ofText_map_render hcs]

/-- The blank compartment alone is dropped, together with the control if that is empty too. -/
theorem ofText_renderParts_blank (h : '-' ∉ control) :
    ofText (renderParts control [blank]) = ⟨control, []⟩ := by
  have hpieces : pieces .dash (renderParts control [blank]) = [control, []] := by
    refine pieces_join (by simp) ?_
    intro p hp
    rcases List.mem_cons.mp hp with rfl | hp
    · exact h
    · have hnil : p = [] := by simpa [blank, render] using hp
      simp [hnil]
  by_cases hnil : control = []
  · subst hnil
    simp [ofText, split, hpieces, dropEmptyEnd]
  · simp [ofText, split, hpieces, dropEmptyEnd, hnil, sorted]

theorem WellFormed.ofText_banner (h : x.WellFormed) :
    ofText x.banner = if x.compartments = [blank] then ⟨x.control, []⟩ else x := by
  unfold banner
  by_cases hblank : x.compartments = [blank]
  · rw [if_pos hblank, hblank]
    exact ofText_renderParts_blank h.dashFree
  · have hlast : x.compartments.getLast? ≠ some blank := by
      intro hlast
      exact hblank (eq_blank_of_getLast? h.ascending hlast)
    rw [if_neg hblank, ofText_renderParts h.dashFree h.compartments hlast,
      sorted_of_ascending h.ascending]

theorem WellFormed.ofText_banner_eq_iff (h : x.WellFormed) :
    ofText x.banner = x ↔ x.compartments ≠ [blank] := by
  rw [h.ofText_banner, ite_eq_right_iff]
  constructor
  · intro hlost hblank
    have hsame := congrArg SciControl.compartments (hlost hblank)
    rw [hblank] at hsame
    cases hsame
  · intro hne hblank
    exact absurd hblank hne

/--
**A control is read back from its text, with one exception.**

The exception is the control whose only compartment is the blank one: it is read back
without compartments.
-/
theorem ofText_banner_ofText (m : Text) :
    (ofText (ofText m).banner = ofText m ↔ (ofText m).compartments ≠ [blank]) ∧
      ofText (ofText m).banner
        = if (ofText m).compartments = [blank] then ⟨(ofText m).control, []⟩ else ofText m := by
  have hread := (wellFormed_ofText m).ofText_banner
  refine ⟨?_, hread⟩
  rw [hread]
  by_cases hblank : (ofText m).compartments = [blank]
  · rw [if_pos hblank]
    refine ⟨?_, ?_⟩
    · intro heq
      rw [← heq] at hblank
      exact absurd hblank (by simp)
    · intro hne
      exact absurd hblank hne
  · simp [hblank]

/-- Spaces alone write the blank compartment, which is lost. -/
example :
    (ofText "SI-  ").compartments = [blank] ∧
      ofText (ofText "SI-  ").banner = ⟨"SI", []⟩ := by
  decide

end SciControl

end SecurityMarking
