/-
Splitting at any delimiter.

Of the pieces of a text splitting keeps those that the text cannot do without: the empty
ones at the end are written as delimiters after the others, and a text without the
delimiter is kept whole.  `Splits` is what this promises of the list that is given.

It determines the list if the delimiter is one character.  The lists are then those that do
not end with an empty piece, each of them given back when it is joined, and the one empty
piece besides.  A longer delimiter that overlaps itself can be taken out of a text in more
than one way.
-/
import SecurityMarking.Proofs.Text.Trailing

namespace SecurityMarking.Text

variable {d : Delimiter} {c : Char} {t p : Text} {ps : List Text}

/-! ### Empty pieces at the end -/

theorem join_append_replicate (hne : ps ≠ []) (k : Nat) :
    join d (ps ++ List.replicate k []) = join d ps ++ (List.replicate k d.text).flatten := by
  induction k with
  | zero => simp
  | succ k ih =>
      have hlonger : ps ++ List.replicate k [] ≠ [] := List.append_ne_nil_of_left_ne_nil hne _
      rw [List.replicate_succ', ← List.append_assoc, join_concat hlonger, ih,
        List.replicate_succ', List.flatten_append]
      simp

/-- Empty pieces at the end are written as delimiters, which are one fewer if there is no piece
before them. -/
theorem exists_join_append_replicate (d : Delimiter) (ps : List Text) (k : Nat) :
    ∃ j, join d (ps ++ List.replicate k []) = join d ps ++ (List.replicate j d.text).flatten := by
  by_cases hnil : ps = []
  · subst hnil
    cases k with
    | zero => exact ⟨0, rfl⟩
    | succ k =>
        have hrest := join_append_replicate (d := d) (List.cons_ne_nil [] []) k
        exact ⟨k, hrest⟩
  · exact ⟨k, join_append_replicate hnil k⟩

/-! ### What splitting promises -/

theorem split_of_not_contains (h : ¬ d.text <:+: t) : split d t = [t] := by
  unfold split
  rw [pieces_eq_singleton_iff.mpr h]

theorem split_of_contains (h : d.text <:+: t) : split d t = dropEmptyEnd (pieces d t) := by
  unfold split
  split
  · rename_i p hp
    have hjoin := join_pieces_eq d t
    rw [hp, join_singleton] at hjoin
    rw [hjoin] at hp
    exact absurd h (pieces_eq_singleton_iff.mp hp)
  · rfl

/-- The texts are those that a text is made of, with delimiters around them. -/
structure Splits (d : Delimiter) (t : Text) (ps : List Text) : Prop where
  /-- No piece contains the delimiter. -/
  free : ∀ p ∈ ps, ¬ d.text <:+: p
  /-- The text is the pieces with the delimiter between each two, and any number of delimiters
  after them. -/
  rejoined : ∃ k, join d ps ++ (List.replicate k d.text).flatten = t
  /-- A text with the delimiter leaves no piece at all, or a last one that is not empty. -/
  ended : d.text <:+: t → ps.getLast? ≠ some []
  /-- A text without the delimiter is its own single piece. -/
  whole : ¬ d.text <:+: t → ps = [t]

theorem splits_split (d : Delimiter) (t : Text) : Splits d t (split d t) := by
  refine ⟨fun p hp => not_contains_of_mem_pieces (mem_pieces_of_mem_split hp), ?_, fun h => ?_,
    split_of_not_contains⟩
  · by_cases h : d.text <:+: t
    · obtain ⟨k, hk⟩ := dropEmptyEnd_append (pieces d t)
      obtain ⟨j, hj⟩ := exists_join_append_replicate d (dropEmptyEnd (pieces d t)) k
      refine ⟨j, ?_⟩
      rw [split_of_contains h, ← hj, ← hk, join_pieces_eq]
    · exact ⟨0, by simp [split_of_not_contains h]⟩
  · rw [split_of_contains h]
    exact getLast?_dropEmptyEnd _

/-! ### Delimiters of one character -/

/-- The lists that a text with the delimiter is split into, but for the empty one. -/
structure Listed (c : Char) (ps : List Text) : Prop where
  filled : ps ≠ []
  free : ∀ p ∈ ps, c ∉ p
  ended : ps.getLast? ≠ some []

theorem Listed.split_join (h : Listed c ps) : split (.char c) (join (.char c) ps) = ps :=
  split_join_eq_iff.mpr ⟨h.filled, h.free, Or.inr h.ended⟩

theorem Listed.join_ne_nil (h : Listed c ps) : join (.char c) ps ≠ [] := by
  rw [Ne, join_eq_nil_iff]
  rintro (rfl | rfl)
  · exact h.filled rfl
  · exact h.ended rfl

/-- **A delimiter of one character can be taken out of a text in one way.** -/
theorem Splits.eq_split (h : Splits (.char c) t ps) : ps = split (.char c) t := by
  by_cases hcontains : (Delimiter.char c).text <:+: t
  · obtain ⟨k, hk⟩ := h.rejoined
    have hdelimiters : (List.replicate k (Delimiter.char c).text).flatten = List.replicate k c :=
      List.flatten_replicate_singleton
    rw [hdelimiters] at hk
    subst hk
    cases hps : ps with
    | nil =>
        subst hps
        cases k with
        | zero => exact absurd (contains_char_iff.mp hcontains) List.not_mem_nil
        | succ k => rw [join_nil, split_append_replicate, if_pos rfl]
    | cons p rest =>
        have hlisted : Listed c ps :=
          ⟨by simp [hps], fun p hp hc => h.free p hp (contains_char_iff.mpr hc), h.ended hcontains⟩
        rw [← hps]
        cases k with
        | zero => rw [List.replicate_zero, List.append_nil, hlisted.split_join]
        | succ k => rw [split_append_replicate, if_neg hlisted.join_ne_nil, hlisted.split_join]
  · rw [h.whole hcontains, split_of_not_contains hcontains]

theorem exists_split_eq_iff :
    (∃ t, split (.char c) t = ps) ↔ Listed c ps ∨ ps = [] ∨ ps = [[]] := by
  constructor
  · rintro ⟨t, rfl⟩
    by_cases hnil : split (.char c) t = []
    · exact Or.inr (Or.inl hnil)
    · rcases kept_split (.char c) t with hone | hended
      · exact Or.inr (Or.inr hone)
      · exact Or.inl ⟨hnil, fun p hp => not_mem_of_mem_pieces (mem_pieces_of_mem_split hp), hended⟩
  · rintro (h | rfl | rfl)
    · exact ⟨_, h.split_join⟩
    · exact ⟨[c], by simpa using split_append_singleton c []⟩
    · exact ⟨[], rfl⟩

/--
**Splitting, exactly.**

Whatever the delimiter, what splitting gives is made of the text as `Splits` says.  For a
delimiter of one character it is the only such list, every list that does not end with an
empty piece is given back when it is joined, and with the empty list and the one empty
piece these are all that splitting gives.
-/
theorem split_exact :
    (∀ (d : Delimiter) (t : Text), Splits d t (split d t)) ∧
      ∀ c : Char,
        (∀ t ps, Splits (.char c) t ps ↔ ps = split (.char c) t) ∧
        (∀ ps, Listed c ps → split (.char c) (join (.char c) ps) = ps) ∧
        ∀ ps, (∃ t, split (.char c) t = ps) ↔ Listed c ps ∨ ps = [] ∨ ps = [[]] := by
  refine ⟨splits_split, fun c => ⟨fun t ps => ⟨Splits.eq_split, ?_⟩, fun ps => Listed.split_join,
    fun ps => exists_split_eq_iff⟩⟩
  rintro rfl
  exact splits_split _ t

/-- A delimiter that overlaps itself can be taken out of a text in two ways. -/
example :
    let d : Delimiter := ⟨"aa", by decide⟩
    split d "aaa" = ["", "a"] ∧ Splits d "aaa" ["a"] :=
  ⟨by decide, by decide, ⟨1, by decide⟩, by decide, by decide⟩

end SecurityMarking.Text
