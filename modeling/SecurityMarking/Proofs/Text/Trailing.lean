/-
Delimiters at the end of a text.

A text ends with the delimiter exactly if its last piece is empty and not its only one,
and the empty pieces at the end are what splitting drops.  So a text that is split and
joined again loses the delimiters at its end and nothing else: `join_split`.  This is one
law for all that is cut in a marking: a compartment loses the spaces at the end of its
token, and a list of programs the slashes at its end.
-/
import Mathlib.Data.List.Induction
import SecurityMarking.Proofs.Text.Split

namespace SecurityMarking.Text

variable {c : Char} {t : Text}

/-! ### What a text loses at its end -/

theorem rdropWhile_eq_self_iff_getLast? : t.rdropWhile (· = c) = t ↔ t.getLast? ≠ some c := by
  rw [List.rdropWhile_eq_self_iff]
  constructor
  · intro h hlast
    obtain ⟨s, rfl⟩ := List.getLast?_eq_some_iff.mp hlast
    exact h (by simp) (by simp)
  · intro h hne hc
    rw [List.getLast?_eq_some_getLast hne, of_decide_eq_true hc] at h
    exact h rfl

theorem getLast?_rdropWhile (c : Char) (t : Text) : (t.rdropWhile (· = c)).getLast? ≠ some c :=
  rdropWhile_eq_self_iff_getLast?.mp (List.rdropWhile_idempotent _ t)

/-! ### The last piece -/

/-- A delimiter at the end of a text begins a piece of its own. -/
theorem pieces_append_singleton (c : Char) (t : Text) :
    pieces (.char c) (t ++ [c]) = pieces (.char c) t ++ [[]] := by
  rw [pieces_append_cons, pieces_nil]

/-- No piece is dropped exactly if the text does not end with the delimiter. -/
theorem kept_pieces_iff : Kept (pieces (.char c) t) ↔ t.getLast? ≠ some c := by
  constructor
  · intro h hlast
    obtain ⟨s, rfl⟩ := List.getLast?_eq_some_iff.mp hlast
    rw [pieces_append_singleton] at h
    rcases h with hone | hlast
    · exact pieces_ne_nil (.char c) s (by simpa using hone)
    · exact hlast (by simp)
  · intro h
    by_cases hempty : (pieces (.char c) t).getLast? = some []
    · obtain ⟨before, hbefore⟩ := List.getLast?_eq_some_iff.mp hempty
      refine Or.inl ?_
      by_cases hnil : before = []
      · rw [hbefore, hnil, List.nil_append]
      · -- A piece before the empty one would put a delimiter between them, at the end.
        have hjoin := join_pieces c t
        rw [hbefore, join_append_singleton hnil] at hjoin
        rw [← hjoin] at h
        exact absurd (by simp) h
    · exact Or.inr hempty

/-! ### Splitting and joining again -/

/-- Splitting keeps the empty text as its single piece, and of any other it drops the empty pieces
at the end. -/
theorem split_eq (c : Char) (t : Text) :
    split (.char c) t = if t = [] then [[]] else dropEmptyEnd (pieces (.char c) t) := by
  by_cases hnil : t = []
  · rw [if_pos hnil, hnil]
    rfl
  rw [if_neg hnil]
  unfold split
  split
  · rename_i p hp
    have hjoin := join_pieces c t
    rw [hp, join_singleton] at hjoin
    rw [hp, hjoin]
    exact (dropEmptyEnd_of_getLast? (by simpa using hnil)).symm
  · rfl

/-- Another delimiter at the end changes nothing, except that it leaves nothing of the empty
text. -/
theorem split_append_singleton (c : Char) (t : Text) :
    split (.char c) (t ++ [c]) = if t = [] then [] else split (.char c) t := by
  have hdrop : dropEmptyEnd (pieces (.char c) t ++ [[]]) = dropEmptyEnd (pieces (.char c) t) := by
    rw [dropEmptyEnd_eq_rdropWhile, List.rdropWhile_concat_pos _ _ _ rfl,
      ← dropEmptyEnd_eq_rdropWhile]
  rw [split_eq, if_neg (by simp), pieces_append_singleton, hdrop, split_eq]
  by_cases hnil : t = []
  · rw [if_pos hnil, hnil]
    rfl
  · rw [if_neg hnil, if_neg hnil]

/-- So do any number of them. -/
theorem split_append_replicate (c : Char) (t : Text) (k : Nat) :
    split (.char c) (t ++ List.replicate (k + 1) c) = if t = [] then [] else split (.char c) t := by
  induction k with
  | zero => exact split_append_singleton c t
  | succ k ih =>
      rw [List.replicate_succ', ← List.append_assoc, split_append_singleton, if_neg (by simp), ih]

/-- **A text that is split and joined again loses the delimiters at its end.** -/
theorem join_split (c : Char) (t : Text) :
    join (.char c) (split (.char c) t) = t.rdropWhile (· = c) := by
  induction t using List.reverseRecOn with
  | nil => rfl
  | append_singleton t x ih =>
      by_cases hx : x = c
      · subst hx
        rw [split_append_singleton, List.rdropWhile_concat_pos _ _ _ (by simp)]
        by_cases hnil : t = []
        · rw [if_pos hnil, hnil]
          rfl
        · rw [if_neg hnil, ih]
      · have hlast : (t ++ [x]).getLast? ≠ some c := by simpa using hx
        rw [split_eq_pieces (kept_pieces_iff.mpr hlast), join_pieces,
          rdropWhile_eq_self_iff_getLast?.mpr hlast]

end SecurityMarking.Text
