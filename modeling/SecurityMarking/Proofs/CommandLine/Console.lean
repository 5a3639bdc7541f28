/-
What a report asks of the console.

In JSON a report is ASCII and asks nothing.  The lines for a reader show characters of the
segment: parts of controls, programs, and all of it where nothing was found.  Whatever else they
show is ASCII: numerals, quotes, what is said of shipped controls, and the words in
between.  So the lines can be written wherever the segment can be, and a report that
cannot be written is of a segment that cannot be.
-/
import SecurityMarking.Proofs.Json
import SecurityMarking.Proofs.Sci.Segment
import SecurityMarking.Proofs.CommandLine.Report

namespace SecurityMarking

open Encoding

variable {e : Encoding} {c : Char} {t : Text} {ts : List Text}

/-! ### Lists -/

theorem Text.writes_join (hc : e.covers c = true) (h : ∀ t ∈ ts, e.Writes t) :
    e.Writes (join (.char c) ts) :=
  writes_intercalate (by simpa [Delimiter.char] using hc) h

theorem writes_commaSeparated (h : ∀ t ∈ ts, e.Writes t) : e.Writes (commaSeparated ts) :=
  writes_intercalate (by simp) h

theorem Value.quotedItemsInside_map {α : Type} (f : α → Scalar) (names : List Nat) (xs : List α) :
    quotedItemsInside names (xs.map fun x => scalar (f x)) = xs.map fun x => (f x).quoted := by
  induction xs with
  | nil => rfl
  | cons x rest ih =>
      rw [List.map_cons, quotedItemsInside, ih]
      rfl

/-- A list of scalars can be written where all of them can be. -/
theorem Value.writes_quoted_list {α : Type} {f : α → Scalar} {xs : List α}
    (h : ∀ x ∈ xs, e.Writes (f x).quoted) :
    e.Writes (list (xs.map fun x => scalar (f x))).quoted := by
  have hitems : e.Writes (commaSeparated (xs.map fun x => (f x).quoted)) :=
    writes_commaSeparated (List.forall_mem_map.mpr h)
  unfold quoted
  rw [quotedInside, quotedItemsInside_map]
  simp [hitems]

theorem writes_quotedTexts (h : ∀ t ∈ ts, e.Writes t) : e.Writes (quotedTexts ts) :=
  Value.writes_quoted_list fun t ht => writes_quoted (h t ht)

theorem Value.writes_numbers (ns : List Int) : e.Writes (numbers ns).shown :=
  Value.writes_quoted_list fun n _ => writes_numeral n

/-! ### Controls -/

namespace SapControl

/-- The programs of a segment are made of what it says. -/
theorem subset_of_mem_names : ∀ p ∈ (ofSegment t).names, p ⊆ t := by
  have hunmarked : (Text.after? marker t).getD t ⊆ t := by
    cases hmarked : Text.after? marker t with
    | none => exact List.Subset.refl t
    | some rest =>
        rw [Text.after?_eq_some_iff.mp hmarked]
        exact List.subset_append_right marker rest
  intro p hp
  unfold ofSegment ofText at hp
  split_ifs at hp
  · cases hp
  · cases hp
  · exact List.Subset.trans (Text.subset_of_mem_split hp) hunmarked

theorem writes_shape (x : SapControl) : e.Writes x.shape := by
  unfold shape
  split <;> simp

theorem writes_banner {x : SapControl} (h : ∀ p ∈ x.names, e.Writes p) : e.Writes x.banner := by
  cases x with
  | hvsaco => exact .of_ascii (by decide)
  | multiple => exact .of_ascii (by decide)
  | programs ps =>
      have hlisted : e.Writes (Text.join .slash ps) := Text.writes_join (by simp) h
      exact writes_append.mpr ⟨.of_ascii (by decide), hlisted⟩

end SapControl

theorem AeaMarking.writes_banner {m : AeaMarking} (hname : e.Writes m.typeName) :
    e.Writes m.banner := by
  have hsigmas : e.Writes (Text.join .space (sigmaModifier :: m.sigmas.map Numeral.write)) := by
    refine Text.writes_join (by simp) (List.forall_mem_cons.mpr ⟨by simp [sigmaModifier], ?_⟩)
    exact List.forall_mem_map.mpr fun n _ => writes_numeral n
  refine Text.writes_join (by simp) ?_
  rw [List.append_assoc, List.singleton_append]
  refine List.forall_mem_cons.mpr ⟨hname, List.forall_mem_append.mpr ⟨?_, ?_⟩⟩
  · split_ifs
    · simp [cnwdiModifier]
    · exact List.forall_mem_nil _
  · split_ifs
    · exact List.forall_mem_nil _
    · exact List.forall_mem_singleton.mpr hsigmas

theorem Value.IsPlain.writes_shown {v : Value} (h : v.IsPlain) : e.Writes v.shown := by
  obtain ⟨t, rfl, ht⟩ := h
  exact .of_ascii ht

namespace Decoding

theorem writes_compartmentLine {x : Compartment} (h : ∀ p ∈ x.name :: x.subs, e.Writes p) :
    e.Writes (compartmentLine x) := by
  obtain ⟨hname, hsubs⟩ := List.forall_mem_cons.mp h
  have hlist : e.Writes (if x.subs.isEmpty then []
      else Text.concat [" [", commaSeparated x.subs, "]"]) := by
    split_ifs
    · exact writes_nil
    · simp [writes_commaSeparated hsubs]
  unfold compartmentLine
  simp only [writes_concat, List.forall_mem_cons]
  exact ⟨by simp, hname, hlist, by simp⟩

theorem writes_sciLines (ht : e.Writes t) : ∀ line ∈ sciLines (.ofText t), e.Writes line := by
  have hcontrol : e.Writes (SciControl.ofText t).control :=
    ht.mono (SciControl.control_subset t)
  refine List.forall_mem_cons.mpr ⟨by simp [hcontrol], List.forall_mem_map.mpr ?_⟩
  intro x hx
  exact writes_compartmentLine fun p hp => ht.mono (SciControl.subset_of_mem_compartments hx p hp)

/-! ### Reports -/

variable {kind : SegmentKind} {finding : Finding}

theorem writes_word (kind : SegmentKind) : e.Writes kind.word := by
  unfold SegmentKind.word
  split <;> simp

theorem writes_unmatchedLine (ht : e.Writes t) :
    e.Writes (unmatchedLine ⟨kind, some t, finding⟩) := by
  have hsegment : e.Writes (Value.ofText? (some t)).shown := ht
  simp [unmatchedLine, writes_word, hsegment]

/-- **The lines of a report can be written where the segment can be.** -/
theorem writes_lines (h : finding.Fits t kind) (ht : e.Writes t) :
    ∀ line ∈ lines ⟨kind, some t, finding⟩, e.Writes line := by
  have hunmatched : ∀ line ∈ [unmatchedLine ⟨kind, some t, finding⟩], e.Writes line :=
    List.forall_mem_singleton.mpr (writes_unmatchedLine ht)
  cases h with
  | sci =>
      unfold lines
      split_ifs
      · intro line hline
        obtain ⟨x, hx, hline⟩ := List.mem_flatMap.mp hline
        obtain ⟨piece, hpiece, rfl⟩ := List.mem_map.mp hx
        exact writes_sciLines (ht.mono (Text.subset_of_mem_split hpiece)) line hline
      · exact hunmatched
  | sap =>
      have hnames : ∀ p ∈ (SapControl.ofSegment t).names, e.Writes p := fun p hp =>
        ht.mono (SapControl.subset_of_mem_names p hp)
      refine List.forall_mem_singleton.mpr ?_
      simp [SapControl.writes_shape, SapControl.writes_banner hnames, writes_quotedTexts hnames]
  | @type s m hs hname hsigmas =>
      have htype : e.Writes m.typeName := by
        have hplain := hs.name.writes_shown (e := e)
        rwa [hname] at hplain
      have hflag : e.Writes (Scalar.flag m.cnwdi).shown := by
        cases m.cnwdi <;> simp [Scalar.shown, Scalar.quoted]
      refine List.forall_mem_singleton.mpr ?_
      simp [hs.key.writes_shown, AeaMarking.writes_banner htype, hflag, Value.writes_numbers]
  | noType => exact hunmatched
  | control hs =>
      refine List.forall_mem_singleton.mpr ?_
      simp [hs.key.writes_shown, hs.name.writes_shown, hs.portionName.writes_shown]
  | noControl => exact hunmatched

end Decoding

end SecurityMarking
