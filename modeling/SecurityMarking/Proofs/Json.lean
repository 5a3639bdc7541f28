/-
JSON is written in ASCII.

Every character of a text that is not printable ASCII is written by its UTF-16 units, and
these in hexadecimal digits.  All else in a value is numerals, which are ASCII, and words
and brackets.  So a value in JSON can be written in every encoding, whatever texts
it holds: `writes_write`.  It is shown by induction on the value.
-/
import SecurityMarking.Json
import SecurityMarking.Proofs.Text.Encoding

namespace SecurityMarking

open Encoding

variable {e : Encoding} {t : Text}

/-! ### Numbers -/

namespace Binary64

theorem writes_withoutNoughts (h : e.Writes t) : e.Writes (withoutNoughts t) := by
  refine h.mono ?_
  intro c hc
  exact List.mem_reverse.mp ((List.dropWhile_sublist _).mem (List.mem_reverse.mp hc))

theorem writes_positional (h : e.Writes t) (exponent : Int) :
    e.Writes (positional t exponent) := by
  have hwhole : ∀ k, e.Writes (t.take k) := fun k => h.mono (List.take_subset k t)
  have hrest : ∀ k, e.Writes (t.drop k) := fun k => h.mono (List.drop_subset k t)
  have hnoughts : ∀ k, e.Writes (List.replicate k '0') := writes_replicate (by simp)
  unfold positional
  split
  · simp [h, hnoughts]
  · simp only [writes_concat, List.forall_mem_cons]
    refine ⟨hwhole _, hnoughts _, by simp, ?_, by simp⟩
    split
    · simp
    · exact hrest _

theorem writes_scientific (h : e.Writes t) (exponent : Int) :
    e.Writes (scientific t exponent) := by
  have hrest : e.Writes (t.drop 1) := h.mono (List.drop_subset 1 t)
  unfold scientific
  simp only [writes_concat, List.forall_mem_cons]
  refine ⟨h.mono (List.take_subset 1 t), ?_, ?_, writes_replicate (by simp) _,
    writes_toDigits _, by simp⟩
  · split
    · exact writes_nil
    · simpa using hrest
  · split <;> simp

theorem writes_writeMagnitude (significand power : Nat) :
    e.Writes (writeMagnitude significand power) := by
  have hdigits : ∀ k, e.Writes (if k == 0 then ['0'] else withoutNoughts (Nat.toDigits 10 k)) := by
    intro k
    split
    · simp
    · exact writes_withoutNoughts (writes_toDigits k)
  unfold writeMagnitude
  simp only
  split
  · exact writes_positional (hdigits _) _
  · exact writes_scientific (hdigits _) _

theorem writes_write (x : Binary64) : e.Writes x.write := by
  cases x with
  | nan mark => simp [write]
  | infinite negative => cases negative <;> simp [write]
  | finite negative significand power =>
      cases negative <;> simp [write, writes_writeMagnitude]

end Binary64

namespace Json

/-! ### Scalars -/

theorem writes_charText (c : Char) : e.Writes (charText c) := by
  have hunits : e.Writes ((units c).flatMap unitEscape) := by
    refine writes_flatMap ?_
    intro n _
    simp [unitEscape, writes_hexDigits]
  have hplain : ' ' ≤ c ∧ c ≤ '~' → e.covers c = true := by
    rintro ⟨-, hlast⟩
    exact covers_of_lt (Nat.lt_of_le_of_lt hlast (by decide))
  unfold charText
  split_ifs with hescaped _ _ _ _ _ hascii
  · rcases hescaped with rfl | rfl <;> simp
  · simp
  · simp
  · simp
  · simp
  · simp
  · simp [hplain hascii]
  · exact hunits

theorem writes_textLiteral (t : Text) : e.Writes (textLiteral t) := by
  have hinside : e.Writes (t.flatMap charText) := writes_flatMap fun c _ => writes_charText c
  simp [textLiteral, hinside]

theorem writes_realText (x : Binary64) : e.Writes (realText x) := by
  unfold realText
  split
  · simp
  · simp
  · simp
  · exact Binary64.writes_write x

theorem writes_scalarText (s : Scalar) : e.Writes (scalarText s) := by
  cases s with
  | null => simp [scalarText]
  | flag b => cases b <;> simp [scalarText]
  | number n => exact writes_numeral n
  | real x => exact writes_realText x
  | date d => exact writes_textLiteral _
  | moment m => exact writes_textLiteral _
  | bytes bs => exact writes_textLiteral _
  | text t => exact writes_textLiteral t

theorem writes_keyText (s : Scalar) : e.Writes (keyText s) := by
  cases s <;> exact writes_textLiteral _

/-! ### Values -/

variable {items : List Text}

theorem writes_newLine (depth : Nat) : e.Writes (newLine depth) := by
  simp [newLine, writes_replicate]

theorem writes_bracketed {opening closing : Char} (hopening : e.covers opening = true)
    (hclosing : e.covers closing = true) (depth : Nat) (h : ∀ item ∈ items, e.Writes item) :
    e.Writes (bracketed opening closing depth items) := by
  have hseparator : e.Writes (',' :: newLine (depth + 1)) := by simp [writes_newLine]
  have hinside := writes_intercalate hseparator h
  unfold bracketed
  split
  · simp [hopening, hclosing]
  · simp [hopening, hclosing, writes_newLine, hinside]

mutual

theorem writes_render (depth : Nat) : ∀ v : Value, e.Writes (render depth v)
  | .scalar s => by
    rw [render]
    exact writes_scalarText s
  | .pair x y => by
    rw [render]
    refine writes_bracketed (by simp) (by simp) depth ?_
    simp [writes_render (depth + 1) x, writes_render (depth + 1) y]
  | .set members => by
    rw [render]
    refine writes_bracketed (by simp) (by simp) depth ?_
    exact List.forall_mem_map.mpr fun s _ => writes_scalarText s
  | .list items => by
    rw [render]
    exact writes_bracketed (by simp) (by simp) depth (writes_renderItems (depth + 1) items)
  | .map entries => by
    rw [render]
    exact writes_bracketed (by simp) (by simp) depth (writes_renderEntries (depth + 1) entries)
  | .knot _ v => by
    rw [render]
    exact writes_render depth v
  | .again _ kind => by
    rw [render]
    exact writes_textLiteral _

theorem writes_renderItems (depth : Nat) :
    ∀ vs : List Value, ∀ item ∈ renderItems depth vs, e.Writes item
  | [] => by simp [renderItems]
  | v :: vs => by
    rw [renderItems]
    exact List.forall_mem_cons.mpr ⟨writes_render depth v, writes_renderItems depth vs⟩

theorem writes_renderEntries (depth : Nat) :
    ∀ entries : List (Scalar × Value), ∀ item ∈ renderEntries depth entries, e.Writes item
  | [] => by simp [renderEntries]
  | (k, v) :: rest => by
    rw [renderEntries]
    refine List.forall_mem_cons.mpr ⟨?_, writes_renderEntries depth rest⟩
    simp [writes_keyText k, writes_render depth v]

end

/-- **A value in JSON can be written in every encoding.** -/
theorem writes_write (e : Encoding) (v : Value) : e.Writes (write v) := writes_render 0 v

end Json

end SecurityMarking
