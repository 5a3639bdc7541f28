/-
The text of an SCI control is canonical.

A control that was read is written with its compartments in ascending order and without
spaces at the end of a compartment.  What is written so can be cut at its dashes again,
whatever the control: the pieces of its banner are its name and the texts of its
compartments (`WellFormed.pieces_banner`).  The blank compartment too has a piece, an
empty one, although reading drops that piece where it is the last.

So the banner says all that the control says.  This does not come from reading the banner
again, which fails for the control whose only compartment is the blank one; it comes from
cutting the banner and reading each piece.

The texts that are written as they were read are those that have the form of a banner: no
dash at the end, no space at the end of a compartment, and names that ascend.  Of these
the first is where a banner itself can fail, and it fails for the blank compartment alone.
-/
import SecurityMarking.Proofs.Text.Trailing
import SecurityMarking.Proofs.Sci.CompartmentMap

namespace SecurityMarking

open Text

/-! ### Compartments -/

namespace Compartment

variable {c : Compartment} {t : Text}

/-- Reading a token and writing it again takes the spaces off its end. -/
theorem render_ofText (t : Text) : (ofText t).render = t.rdropWhile (· = ' ') := by
  rw [← join_split]
  unfold ofText
  cases hsplit : split (.char ' ') t with
  | nil => simp [Delimiter.space, hsplit, render]
  | cons name subs => simp [Delimiter.space, hsplit, render]

theorem render_ofText_eq_self_iff : (ofText t).render = t ↔ t.getLast? ≠ some ' ' := by
  rw [render_ofText, rdropWhile_eq_self_iff_getLast?]

theorem WellFormed.getLast?_render (h : c.WellFormed) : c.render.getLast? ≠ some ' ' :=
  render_ofText_eq_self_iff.mp (congrArg render (ofText_render h))

theorem WellFormed.nameOf_render (h : c.WellFormed) : nameOf c.render = c.name := by
  have hread := ofText_render h
  rw [ofText_eq] at hread
  exact congrArg Compartment.name hread

end Compartment

namespace SciControl

open Compartment

variable {x y : SciControl} {m : Text}

/-! ### The pieces of a banner -/

theorem WellFormed.pieces_banner (h : x.WellFormed) :
    pieces .dash x.banner = x.control :: x.compartments.map render :=
  pieces_renderParts h.dashFree h.compartments

/-- **A banner says all that its control says.** -/
theorem WellFormed.banner_inj (hx : x.WellFormed) (hy : y.WellFormed) :
    x.banner = y.banner ↔ x = y := by
  constructor
  · intro h
    have hpieces := congrArg (pieces .dash) h
    rw [hx.pieces_banner, hy.pieces_banner] at hpieces
    obtain ⟨hcontrol, hrender⟩ := List.cons.inj hpieces
    have hcompartments : x.compartments = y.compartments := by
      rw [← map_ofText_map_render hx.compartments, hrender, map_ofText_map_render hy.compartments]
    obtain ⟨control, compartments⟩ := x
    exact congrArg₂ SciControl.mk hcontrol hcompartments
  · rintro rfl
    rfl

/--
**Controls are equal exactly if their banners are.**

That holds for every control that was read, also for one whose only compartment is the blank
one, although it is not read back from its banner.
-/
theorem banner_ofText_eq_iff_same (m₁ m₂ : Text) :
    (ofText m₁).banner = (ofText m₂).banner ↔
      (Comparable.sci (ofText m₁)).same (.sci (ofText m₂)) = true := by
  rw [Comparable.same_sci]
  exact (wellFormed_ofText m₁).banner_inj (wellFormed_ofText m₂)

/-- The blank compartment shows in the banner, from which it is not read. -/
example :
    (ofText "SI-  ").banner = "SI-" ∧ (ofText "SI-").banner = "SI" ∧
      ofText (ofText "SI-  ").banner = ofText "SI-" := by
  decide

/-! ### Canonical texts -/

/-- Only the blank compartment leaves a dash at the end of a banner. -/
theorem WellFormed.getLast?_banner_ne_iff (h : x.WellFormed) :
    x.banner.getLast? ≠ some '-' ↔ x.compartments ≠ [blank] := by
  rw [← kept_pieces_iff]
  show Kept (pieces .dash x.banner) ↔ x.compartments ≠ [blank]
  rw [h.pieces_banner, kept_cons_iff, Ne, getLast?_map_render_eq_nil_iff]
  refine not_congr ⟨eq_blank_of_getLast? h.ascending, ?_⟩
  intro hblank
  rw [hblank]
  rfl

/-- The tokens of a banner neither end with a space nor stand out of order. -/
theorem WellFormed.tokens_banner (h : x.WellFormed) :
    (∀ t ∈ (x.banner.splitOn '-').tail, t.getLast? ≠ some ' ') ∧
      ((x.banner.splitOn '-').tail.map nameOf).Pairwise (· < ·) := by
  have htokens : (x.banner.splitOn '-').tail = x.compartments.map render := by
    rw [← pieces_char]
    exact congrArg List.tail h.pieces_banner
  rw [htokens]
  refine ⟨?_, ?_⟩
  · intro t ht
    obtain ⟨c, hc, rfl⟩ := List.mem_map.mp ht
    exact (h.compartments c hc).getLast?_render
  · have hnames : (x.compartments.map render).map nameOf = x.compartments.map Compartment.name := by
      rw [List.map_map]
      exact List.map_congr_left fun c hc => (h.compartments c hc).nameOf_render
    rw [hnames, List.pairwise_map]
    exact h.ascending

/-- A canonical text is read token by token, and no token changes its place. -/
theorem ofText_of_ascending {control : Text} {ts : List Text} (hm : m.splitOn '-' = control :: ts)
    (hlast : m.getLast? ≠ some '-') (hascending : (ts.map nameOf).Pairwise (· < ·)) :
    ofText m = ⟨control, ts.map Compartment.ofText⟩ := by
  have hpieces : pieces .dash m = control :: ts := (pieces_char '-' m).trans hm
  have hfree : ∀ p ∈ control :: ts, '-' ∉ p := by
    intro p hp
    rw [← hpieces] at hp
    exact not_mem_of_mem_pieces hp
  have hkept : Kept (control :: ts) := by
    rw [← hpieces]
    exact kept_pieces_iff.mpr hlast
  have hsorted : sorted (ts.map Compartment.ofText) = ts.map Compartment.ofText := by
    refine sorted_of_ascending (List.pairwise_map.mp ?_)
    rwa [map_name_map_ofText]
  have hread := ofText_join (hfree control List.mem_cons_self)
    (fun t ht => hfree t (List.mem_cons_of_mem control ht)) (kept_cons_iff.mp hkept)
  have hjoin : join .dash (control :: ts) = m := by
    rw [← hpieces]
    exact join_pieces '-' m
  rwa [hjoin, hsorted] at hread

/--
**The texts that are written as they were read.**

They are those that do not end with a dash, in which no compartment ends with a space and the
names of the compartments ascend, so that none is written twice.
-/
theorem banner_ofText_eq_self_iff (m : Text) :
    (ofText m).banner = m ↔
      m.getLast? ≠ some '-' ∧
        (∀ t ∈ (m.splitOn '-').tail, t.getLast? ≠ some ' ') ∧
          ((m.splitOn '-').tail.map nameOf).Pairwise (· < ·) := by
  constructor
  · intro h
    have hread := wellFormed_ofText m
    -- The text is a banner, and one that is read back, as it is read to the same control.
    have hback : ofText (ofText m).banner = ofText m := congrArg ofText h
    have hlast := hread.getLast?_banner_ne_iff.mpr (hread.ofText_banner_eq_iff.mp hback)
    have htokens := hread.tokens_banner
    rw [h] at hlast htokens
    exact ⟨hlast, htokens⟩
  · rintro ⟨hlast, hspaces, hascending⟩
    obtain ⟨control, ts, hm⟩ := List.exists_cons_of_ne_nil (List.splitOn_ne_nil '-' m)
    rw [hm, List.tail_cons] at hspaces hascending
    have hrender : (ts.map Compartment.ofText).map render = ts :=
      map_map_eq_self_iff.mpr fun t ht => render_ofText_eq_self_iff.mpr (hspaces t ht)
    calc (ofText m).banner
        = join .dash (control :: (ts.map Compartment.ofText).map render) := by
          rw [ofText_of_ascending hm hlast hascending]
          rfl
      _ = join .dash (m.splitOn '-') := by rw [hrender, hm]
      _ = m := List.intercalate_splitOn '-'

/-- The empty name comes first, with or without sub-compartments, and only once. -/
example :
    (ofText "SI--G").banner = "SI--G" ∧ (ofText "SI- ALFA-G").banner = "SI- ALFA-G" ∧
      (ofText "SI-- ALFA").banner = "SI- ALFA" := by
  decide

end SciControl

end SecurityMarking
