/-
What cutting a text at a character does to it.

Whatever the delimiter, joining the pieces gives the text back.  Cutting at one
character is the splitting of lists, `List.splitOn`, so that the converse comes from
the library: cutting what was joined from pieces without the delimiter gives the
pieces back.  No piece has the delimiter in it, which is what makes the converse
apply to pieces that were cut before.

Marking text loses the empty pieces at its end.  So a list of pieces survives being
joined and split again exactly if it is not empty, has no delimiter inside its
pieces, and does not end with an empty piece that could be dropped; the one empty
piece alone is kept, because a text without the delimiter is its own piece.  All
that is said of SCI and SAP controls that are written and read again rests on
`split_join_eq_iff`.
-/
import Mathlib.Data.List.DropRight
import SecurityMarking.Proofs.Text.Cutting

namespace SecurityMarking.Text

variable {c x : Char} {t p : Text} {ps : List Text}

/-! ### Joining -/

theorem join_cons_cons (c : Char) (p q : Text) (ps : List Text) :
    join (.char c) (p :: q :: ps) = p ++ c :: join (.char c) (q :: ps) := by
  rw [join_cons (List.cons_ne_nil q ps), List.append_assoc]
  rfl

theorem exists_join_eq_head_append (c : Char) (hne : ps ≠ []) :
    ∃ r, join (.char c) ps = ps.head hne ++ r := by
  cases ps with
  | nil => exact absurd rfl hne
  | cons p rest =>
      obtain ⟨r, hr⟩ := prefix_join_cons (.char c) p rest
      exact ⟨r, hr.symm⟩

theorem exists_join_eq_append_getLast (c : Char) (hne : ps ≠ []) :
    ∃ r, join (.char c) ps = r ++ ps.getLast hne := by
  induction ps with
  | nil => exact absurd rfl hne
  | cons p rest ih =>
      cases rest with
      | nil => exact ⟨[], by simp⟩
      | cons q rest =>
          obtain ⟨r, hr⟩ := ih (List.cons_ne_nil q rest)
          exact ⟨p ++ c :: r, by rw [join_cons_cons, hr]; simp⟩

theorem mem_join (h : x ∈ join (.char c) ps) : x = c ∨ ∃ p ∈ ps, x ∈ p := by
  induction ps with
  | nil => simp at h
  | cons p rest ih =>
      cases rest with
      | nil => exact Or.inr ⟨p, by simp, by simpa using h⟩
      | cons q rest =>
          rw [join_cons_cons] at h
          rcases List.mem_append.mp h with hp | hrest
          · exact Or.inr ⟨p, by simp, hp⟩
          · rcases List.mem_cons.mp hrest with hc | hrest
            · exact Or.inl hc
            · rcases ih hrest with hc | ⟨r, hr, hx⟩
              · exact Or.inl hc
              · exact Or.inr ⟨r, List.mem_cons_of_mem p hr, hx⟩

theorem mem_join_of_mem {d : Delimiter} (hp : p ∈ ps) (hx : x ∈ p) : x ∈ join d ps := by
  induction ps with
  | nil => simp at hp
  | cons q rest ih =>
      rcases List.mem_cons.mp hp with rfl | hrest
      · exact (prefix_join_cons d p rest).subset hx
      · rw [join_cons (List.ne_nil_of_mem hrest)]
        exact List.mem_append_right _ (ih hrest)

theorem join_append_singleton (hne : ps ≠ []) (p : Text) :
    join (.char c) (ps ++ [p]) = join (.char c) ps ++ c :: p := by
  rw [join_concat hne, List.append_assoc]
  rfl

theorem join_eq_nil_iff : join (.char c) ps = [] ↔ ps = [] ∨ ps = [[]] := by
  cases ps with
  | nil => simp
  | cons p rest =>
      cases rest with
      | nil => simp
      | cons q rest => simp [join_cons_cons]

/-- A text without the delimiter is joined from itself alone. -/
theorem join_eq_iff (hne : t ≠ []) (hfree : c ∉ t) : join (.char c) ps = t ↔ ps = [t] := by
  constructor
  · intro h
    cases ps with
    | nil => exact absurd h.symm hne
    | cons p rest =>
        cases rest with
        | nil => rw [← h, join_singleton]
        | cons q rest =>
            rw [← h, join_cons_cons] at hfree
            exact absurd (by simp) hfree
  · rintro rfl
    exact join_singleton _ t

/-! ### Pieces -/

theorem pieces_char (c : Char) (t : Text) : pieces (.char c) t = t.splitOn c := by
  induction t with
  | nil => rfl
  | cons x t ih =>
      rw [pieces_char_cons, List.splitOn_cons_eq_if_modifyHead, ih]
      by_cases h : x = c
      · rw [if_pos h, if_pos (by simpa using h)]
      · rw [if_neg h, if_neg (by simpa using h)]

theorem join_pieces (c : Char) (t : Text) : join (.char c) (pieces (.char c) t) = t :=
  join_pieces_eq (.char c) t

/-- Cutting what was joined from pieces without the delimiter gives them back. -/
theorem pieces_join (hne : ps ≠ []) (h : ∀ p ∈ ps, c ∉ p) :
    pieces (.char c) (join (.char c) ps) = ps := by
  rw [pieces_char]
  exact List.splitOn_intercalate c h hne

/-- A delimiter stands between the pieces of what comes before it and of what comes after it. -/
theorem pieces_append_cons (c : Char) (a b : Text) :
    pieces (.char c) (a ++ c :: b) = pieces (.char c) a ++ pieces (.char c) b := by
  rw [pieces_char, pieces_char, pieces_char, List.splitOn_append_cons_self]

/-- What was joined from pieces with delimiters inside is cut there as well, one piece after the
other. -/
theorem pieces_join_eq_flatMap (hne : ps ≠ []) :
    pieces (.char c) (join (.char c) ps) = ps.flatMap (pieces (.char c)) := by
  induction ps with
  | nil => exact absurd rfl hne
  | cons p rest ih =>
      cases rest with
      | nil => simp
      | cons q rest =>
          rw [join_cons_cons, pieces_append_cons, ih (List.cons_ne_nil q rest)]
          exact List.flatMap_cons.symm

theorem not_mem_of_mem_pieces (hp : p ∈ pieces (.char c) t) : c ∉ p := fun hc =>
  not_contains_of_mem_pieces hp (contains_char_iff.mpr hc)

theorem mem_of_mem_pieces {d : Delimiter} (hp : p ∈ pieces d t) (hx : x ∈ p) : x ∈ t := by
  rw [← join_pieces_eq d t]
  exact mem_join_of_mem hp hx

/-- What has no delimiter in it and comes before a text comes before its first piece. -/
theorem pieces_append_of_not_mem (h : c ∉ p) (t : Text) :
    pieces (.char c) (p ++ t) = (pieces (.char c) t).modifyHead (p ++ ·) := by
  obtain ⟨q, qs, hq⟩ := List.exists_cons_of_ne_nil (pieces_ne_nil (.char c) t)
  rw [hq, List.modifyHead_cons]
  induction p with
  | nil => exact hq
  | cons x p ih =>
      have hx : x ≠ c := fun hxc => h (by simp [hxc])
      rw [List.cons_append, pieces_char_cons, if_neg hx, ih fun hp => h (List.mem_cons_of_mem x hp)]
      rfl

/-- What has no delimiter in it and comes after a text comes after its last piece. -/
theorem exists_pieces_append_of_not_mem (h : c ∉ p) (t : Text) :
    ∃ before last, pieces (.char c) t = before ++ [last] ∧
      pieces (.char c) (t ++ p) = before ++ [last ++ p] := by
  induction t with
  | nil =>
      have hone : pieces (.char c) p = [p] := by simpa using pieces_append_of_not_mem h []
      exact ⟨[], [], rfl, hone⟩
  | cons x t ih =>
      obtain ⟨before, last, ht, hp⟩ := ih
      rw [List.cons_append, pieces_char_cons, pieces_char_cons, ht, hp]
      by_cases hx : x = c
      · exact ⟨[] :: before, last, by simp [hx], by simp [hx]⟩
      · -- The character extends the first piece, which is the last one if there is no other.
        cases before with
        | nil => exact ⟨[], x :: last, by simp [hx], by simp [hx]⟩
        | cons q before => exact ⟨(x :: q) :: before, last, by simp [hx], by simp [hx]⟩

/-! ### Dropping the empty pieces at the end -/

theorem getLast?_dropEmptyEnd (ps : List Text) : (dropEmptyEnd ps).getLast? ≠ some [] := by
  induction ps with
  | nil => simp
  | cons p ps ih =>
      rw [dropEmptyEnd_cons]
      by_cases hnil : dropEmptyEnd ps = []
      · by_cases hp : p = []
        · simp [hp, hnil]
        · simp [hp, hnil]
      · rw [if_neg fun h => hnil h.2, List.getLast?_cons_of_ne_nil hnil]
        exact ih

theorem dropEmptyEnd_of_getLast? (h : ps.getLast? ≠ some []) : dropEmptyEnd ps = ps := by
  induction ps with
  | nil => rfl
  | cons p ps ih =>
      rw [dropEmptyEnd_cons]
      by_cases hnil : ps = []
      · subst hnil
        have hp : p ≠ [] := by simpa using h
        simp [hp]
      · rw [List.getLast?_cons_of_ne_nil hnil] at h
        rw [ih h, if_neg fun h' => hnil h'.2]

/-- What is kept is what remains when empty pieces are taken off the end for as long as there are
any. -/
theorem dropEmptyEnd_eq_rdropWhile (ps : List Text) :
    dropEmptyEnd ps = ps.rdropWhile List.isEmpty := by
  have hkept : (dropEmptyEnd ps).rdropWhile List.isEmpty = dropEmptyEnd ps := by
    refine List.rdropWhile_eq_self_iff.mpr fun hne hempty => ?_
    have hlast := List.getLast?_eq_some_getLast hne
    rw [List.isEmpty_iff.mp hempty] at hlast
    exact getLast?_dropEmptyEnd ps hlast
  have hdropped : ∀ k, (dropEmptyEnd ps ++ List.replicate k []).rdropWhile List.isEmpty
      = dropEmptyEnd ps := by
    intro k
    induction k with
    | zero => simpa using hkept
    | succ k ih =>
        rw [List.replicate_succ', ← List.append_assoc, List.rdropWhile_concat_pos _ _ _ rfl, ih]
  obtain ⟨k, hk⟩ := dropEmptyEnd_append ps
  have hps := hdropped k
  rw [← hk] at hps
  exact hps.symm

theorem mem_of_mem_dropEmptyEnd (hp : p ∈ dropEmptyEnd ps) : p ∈ ps := by
  obtain ⟨k, hk⟩ := dropEmptyEnd_append ps
  rw [hk]
  exact List.mem_append_left _ hp

/-! ### Splitting marking text -/

/-- The lists of pieces that splitting gives: a single piece may be empty, and any other last piece
is not. -/
def Kept (ps : List Text) : Prop := ps = [[]] ∨ ps.getLast? ≠ some []

theorem kept_singleton (p : Text) : Kept [p] := by
  by_cases hp : p = []
  · exact Or.inl (by rw [hp])
  · exact Or.inr (by simpa using hp)

/-- The first piece is kept whether it is empty or not. -/
theorem kept_cons_iff : Kept (p :: ps) ↔ ps.getLast? ≠ some [] := by
  by_cases hnil : ps = []
  · rw [hnil]
    exact iff_of_true (kept_singleton p) (by simp)
  · unfold Kept
    rw [List.getLast?_cons_of_ne_nil hnil]
    simp [hnil]

theorem split_eq_pieces {d : Delimiter} (h : Kept (pieces d t)) : split d t = pieces d t := by
  unfold split
  split
  · rename_i hp
    rw [hp]
  · rename_i hmany
    rcases h with h | h
    · exact absurd h (hmany [])
    · exact dropEmptyEnd_of_getLast? h

theorem kept_split (d : Delimiter) (t : Text) : Kept (split d t) := by
  unfold split
  split
  · exact kept_singleton _
  · exact Or.inr (getLast?_dropEmptyEnd _)

theorem mem_pieces_of_mem_split {d : Delimiter} (hp : p ∈ split d t) : p ∈ pieces d t := by
  unfold split at hp
  split at hp
  · rename_i hq
    rwa [hq]
  · exact mem_of_mem_dropEmptyEnd hp

theorem subset_of_mem_split {d : Delimiter} (hp : p ∈ split d t) : p ⊆ t := fun _ hx =>
  mem_of_mem_pieces (mem_pieces_of_mem_split hp) hx

/-- Splitting what was joined from pieces without the delimiter gives them back if they are kept. -/
theorem split_join (hne : ps ≠ []) (h : ∀ p ∈ ps, c ∉ p) (hkept : Kept ps) :
    split (.char c) (join (.char c) ps) = ps := by
  have hpieces := pieces_join hne h
  rw [split_eq_pieces (by rwa [hpieces]), hpieces]

/-- Nothing is left of a text exactly if it is made of delimiters, and of at least one. -/
theorem split_eq_nil_iff : split (.char c) t = [] ↔ t ≠ [] ∧ ∀ x ∈ t, x = c := by
  have hjoin := join_pieces c t
  unfold split
  split
  · rename_i p hp
    refine ⟨(absurd · (List.cons_ne_nil p [])), ?_⟩
    rintro ⟨hne, hall⟩
    -- The one piece is the text, and it has no delimiter in it.
    rw [hp, join_singleton] at hjoin
    obtain ⟨x, rest, hx⟩ := List.exists_cons_of_ne_nil hne
    have hmem : x ∈ t := by simp [hx]
    have hfree : c ∉ p := not_mem_of_mem_pieces (t := t) (by simp [hp])
    rw [hjoin, ← hall x hmem] at hfree
    exact absurd hmem hfree
  · rename_i hmany
    constructor
    · intro hnil
      obtain ⟨k, hk⟩ := dropEmptyEnd_append (pieces (.char c) t)
      rw [hnil, List.nil_append] at hk
      refine ⟨?_, ?_⟩
      · rintro rfl
        exact hmany [] rfl
      · intro x hx
        rw [← hjoin] at hx
        rcases mem_join hx with hc | ⟨p, hp, hxp⟩
        · exact hc
        · rw [hk] at hp
          rw [List.eq_of_mem_replicate hp] at hxp
          cases hxp
    · rintro ⟨-, hall⟩
      have hempty : ∀ p ∈ pieces (.char c) t, p = [] := by
        intro p hp
        cases p with
        | nil => rfl
        | cons x rest =>
            have hx := hall x (mem_of_mem_pieces hp List.mem_cons_self)
            exact absurd List.mem_cons_self (hx ▸ not_mem_of_mem_pieces hp)
      by_cases hnil : dropEmptyEnd (pieces (.char c) t) = []
      · exact hnil
      · have hmem := mem_of_mem_dropEmptyEnd (List.getLast_mem hnil)
        have hlast := List.getLast?_eq_some_getLast hnil
        rw [hempty _ hmem] at hlast
        exact absurd hlast (getLast?_dropEmptyEnd _)

/-- What is dropped is missing: if splitting gives all pieces, they are kept. -/
theorem kept_of_length_split {d : Delimiter} (h : (split d t).length = (pieces d t).length) :
    Kept (pieces d t) := by
  unfold split at h
  split at h
  · rename_i p hp
    rw [hp]
    exact kept_singleton p
  · obtain ⟨k, hk⟩ := dropEmptyEnd_append (pieces d t)
    have hlength := congrArg List.length hk
    simp only [List.length_append, List.length_replicate] at hlength
    have hzero : k = 0 := by omega
    rw [hzero, List.replicate_zero, List.append_nil] at hk
    have hlast := getLast?_dropEmptyEnd (pieces d t)
    rw [← hk] at hlast
    exact Or.inr hlast

/-- **The lists of pieces that survive being joined and split again.** -/
theorem split_join_eq_iff :
    split (.char c) (join (.char c) ps) = ps ↔ ps ≠ [] ∧ (∀ p ∈ ps, c ∉ p) ∧ Kept ps := by
  refine ⟨?_, ?_⟩
  · intro h
    refine ⟨?_, ?_, ?_⟩
    · -- No piece at all is joined to the empty text, which is its own single piece.
      rintro rfl
      simp [split] at h
    · intro p hp
      rw [← h] at hp
      exact not_mem_of_mem_pieces (mem_pieces_of_mem_split hp)
    · rw [← h]
      exact kept_split _ _
  · rintro ⟨hne, hfree, hkept⟩
    exact split_join hne hfree hkept

/-- Things that are written one by one are read back exactly if each of them is. -/
theorem map_map_eq_self_iff {α β : Type} {read : β → α} {write : α → β} {xs : List α} :
    (xs.map write).map read = xs ↔ ∀ x ∈ xs, read (write x) = x := by
  have hid := List.map_inj_left (l := xs) (f := read ∘ write) (g := id)
  rw [List.map_id] at hid
  rw [List.map_map]
  exact hid

/-- **The lists of things that are read back from the text that lists them.**

Each of them is written without the delimiter, and `read` is to undo the writing. -/
theorem map_split_join_eq_iff {α : Type} (read : Text → α) {write : α → Text} {xs : List α}
    (hfree : ∀ x ∈ xs, c ∉ write x) :
    (split (.char c) (join (.char c) (xs.map write))).map read = xs ↔
      xs ≠ [] ∧ (∀ x ∈ xs, read (write x) = x) ∧ Kept (xs.map write) := by
  have hmapFree : ∀ p ∈ xs.map write, c ∉ p := by
    intro p hp
    obtain ⟨x, hx, rfl⟩ := List.mem_map.mp hp
    exact hfree x hx
  refine ⟨?_, ?_⟩
  · intro h
    have hne : xs ≠ [] := by
      -- Nothing is written as the empty text, which is read as one thing.
      rintro rfl
      simp [split] at h
    have hpieces := pieces_join (by simpa using hne) hmapFree
    have hkept : Kept (xs.map write) := by
      have hlength := congrArg List.length h
      rw [← hpieces]
      refine kept_of_length_split ?_
      rw [hpieces, List.length_map, ← hlength, List.length_map]
    rw [split_join (by simpa using hne) hmapFree hkept] at h
    exact ⟨hne, map_map_eq_self_iff.mp h, hkept⟩
  · rintro ⟨hne, hback, hkept⟩
    rw [split_join (by simpa using hne) hmapFree hkept]
    exact map_map_eq_self_iff.mpr hback

/-! ### The first piece and the others -/

/-- The first piece is what comes before the first delimiter. -/
theorem headD_pieces (c : Char) (t : Text) :
    (pieces (.char c) t).headD [] = t.takeWhile (· ≠ c) := by
  induction t with
  | nil => rfl
  | cons x t ih =>
      obtain ⟨q, qs, hq⟩ := List.exists_cons_of_ne_nil (pieces_ne_nil (.char c) t)
      rw [hq] at ih
      rw [pieces_char_cons, hq]
      by_cases h : x = c
      · simp [h]
      · simpa [h] using ih

/-- Splitting drops the first piece only if it is empty. -/
theorem headD_split (d : Delimiter) (t : Text) :
    (split d t).headD [] = (pieces d t).headD [] := by
  unfold split
  split
  · rename_i p hp
    rw [hp]
  · obtain ⟨p, ps, hp⟩ := List.exists_cons_of_ne_nil (pieces_ne_nil d t)
    rw [hp, dropEmptyEnd_cons]
    by_cases hdrop : p = [] ∧ dropEmptyEnd ps = []
    · rw [if_pos hdrop, hdrop.1]
      rfl
    · rw [if_neg hdrop]
      rfl

/-- What splitting drops, it drops from the pieces after the first. -/
theorem tail_split (d : Delimiter) (t : Text) :
    (split d t).tail = dropEmptyEnd (pieces d t).tail := by
  unfold split
  split
  · rename_i p hp
    rw [hp]
    rfl
  · obtain ⟨p, ps, hp⟩ := List.exists_cons_of_ne_nil (pieces_ne_nil d t)
    rw [hp, dropEmptyEnd_cons]
    by_cases hdrop : p = [] ∧ dropEmptyEnd ps = []
    · rw [if_pos hdrop, List.tail_cons, hdrop.2]
      rfl
    · rw [if_neg hdrop]
      rfl

/-- What splitting at a character gives first is what comes before the first such character. -/
theorem headD_split_char (c : Char) (t : Text) :
    (split (.char c) t).headD [] = t.takeWhile (· ≠ c) :=
  (headD_split (.char c) t).trans (headD_pieces c t)

/-- What splitting at a character gives after that are the other pieces, less the empty ones at the
end. -/
theorem tail_split_char (c : Char) (t : Text) :
    (split (.char c) t).tail = (t.splitOn c).tail.rdropWhile List.isEmpty := by
  rw [tail_split, dropEmptyEnd_eq_rdropWhile, pieces_char]

end SecurityMarking.Text
