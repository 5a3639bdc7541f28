/-
What cutting a text into words does to it.

A blank belongs to no word, so the words on its two sides have nothing to do with
each other.  `words_append_blank_cons` is that equation, and whatever is said of the
words of a text that is put together with blanks follows from it: texts that are
words themselves, joined with spaces, have just those for words.

Trimming looks at the ends only.  Words that are joined with spaces have none there,
so what they are joined to is not trimmed.
-/
import SecurityMarking.Text.Blank
import SecurityMarking.Proofs.Text.Split

namespace SecurityMarking.Text

variable {a b t w : Text} {c x : Char} {ws : List Text}

/-! ### One equation per case of cutting -/

@[simp] theorem words_nil : words [] = [] := rfl

theorem words_blank_cons (h : isBlank c = true) (t : Text) : words (c :: t) = words t := by
  cases t with
  | nil => simp [words, h]
  | cons d t => simp [words, h]

theorem words_cons_blank_cons (hc : isBlank c = false) (hx : isBlank x = true) (t : Text) :
    words (c :: x :: t) = [c] :: words t := by
  simp [words, hc, hx, words_blank_cons hx t]

theorem words_cons_cons (hc : isBlank c = false) (hx : isBlank x = false) (t : Text) :
    words (c :: x :: t) = (words (x :: t)).modifyHead (c :: ·) := by
  simp [words, hc, hx]

/-- What begins with no blank begins with a word. -/
theorem words_cons_ne_nil (h : isBlank c = false) (t : Text) : words (c :: t) ≠ [] := by
  induction t generalizing c with
  | nil => simp [words, h]
  | cons x t ih =>
      by_cases hx : isBlank x = true
      · rw [words_cons_blank_cons h hx]
        exact List.cons_ne_nil _ _
      · rw [Bool.not_eq_true] at hx
        rw [words_cons_cons h hx]
        intro hnil
        rw [List.modifyHead_eq_nil_iff] at hnil
        exact ih hx hnil

/-! ### Words and blanks -/

/-- **The words on both sides of a blank are those of each side.** -/
theorem words_append_blank_cons (h : isBlank c = true) (a b : Text) :
    words (a ++ c :: b) = words a ++ words b := by
  induction a with
  | nil => exact words_blank_cons h b
  | cons x rest ih =>
      rw [List.cons_append]
      by_cases hx : isBlank x = true
      · rw [words_blank_cons hx, words_blank_cons hx]
        exact ih
      · rw [Bool.not_eq_true] at hx
        cases rest with
        | nil =>
            have hone : words [x] = [[x]] := by simp [words, hx]
            rw [List.nil_append, words_cons_blank_cons hx h, hone]
            rfl
        | cons y rest =>
            rw [List.cons_append] at ih ⊢
            by_cases hy : isBlank y = true
            · rw [words_cons_blank_cons hx hy, words_cons_blank_cons hx hy, List.cons_append]
              rw [words_blank_cons hy, words_blank_cons hy] at ih
              rw [ih]
            · rw [Bool.not_eq_true] at hy
              rw [words_cons_cons hx hy, words_cons_cons hx hy, ih]
              obtain ⟨v, vs, hv⟩ := List.exists_cons_of_ne_nil (words_cons_ne_nil hy rest)
              rw [hv]
              rfl

/-- The words are what is left of a text without its blanks. -/
theorem flatten_words (t : Text) : (words t).flatten = t.filter fun c => !isBlank c := by
  induction t with
  | nil => rfl
  | cons c t ih =>
      by_cases hc : isBlank c = true
      · rw [words_blank_cons hc, List.filter_cons_of_neg (by simp [hc])]
        exact ih
      · rw [Bool.not_eq_true] at hc
        rw [List.filter_cons_of_pos (by simp [hc]), ← ih]
        cases t with
        | nil => simp [words, hc]
        | cons d t =>
            by_cases hd : isBlank d = true
            · rw [words_cons_blank_cons hc hd, words_blank_cons hd]
              rfl
            · rw [Bool.not_eq_true] at hd
              rw [words_cons_cons hc hd]
              obtain ⟨v, vs, hv⟩ := List.exists_cons_of_ne_nil (words_cons_ne_nil hd t)
              rw [hv]
              rfl

theorem mem_of_mem_words (hw : w ∈ words t) (hx : x ∈ w) : x ∈ t := by
  have hflat : x ∈ (words t).flatten := List.mem_flatten.mpr ⟨w, hw, hx⟩
  rw [flatten_words] at hflat
  exact (List.mem_filter.mp hflat).1

/-! ### Texts that are words -/

/-- The text is a word: it is not empty and has no blank in it. -/
structure IsWord (w : Text) : Prop where
  filled : w ≠ []
  blankFree : ∀ c ∈ w, isBlank c = false

theorem isWord_of_all (hne : w ≠ []) (h : w.all (fun c => !isBlank c) = true) : IsWord w :=
  ⟨hne, fun c hc => by simpa using List.all_eq_true.mp h c hc⟩

theorem IsWord.words_eq (h : IsWord w) : words w = [w] := by
  obtain ⟨hne, hfree⟩ := h
  induction w with
  | nil => exact absurd rfl hne
  | cons c t ih =>
      have hc := hfree c List.mem_cons_self
      cases t with
      | nil => simp [words, hc]
      | cons d t =>
          have hd := hfree d (by simp)
          rw [words_cons_cons hc hd,
            ih (List.cons_ne_nil d t) fun x hx => hfree x (List.mem_cons_of_mem c hx)]
          rfl

/-- **Words that are joined with spaces are the words of what they are joined to.** -/
theorem words_join (h : ∀ w ∈ ws, IsWord w) : words (join .space ws) = ws := by
  induction ws with
  | nil => rfl
  | cons w rest ih =>
      have hw := h w List.mem_cons_self
      have hrest := ih fun v hv => h v (List.mem_cons_of_mem w hv)
      cases rest with
      | nil =>
          rw [join_singleton]
          exact hw.words_eq
      | cons v rest =>
          show words (join (.char ' ') (w :: v :: rest)) = _
          rw [join_cons_cons, words_append_blank_cons (by decide), hw.words_eq]
          exact congrArg (w :: ·) hrest

/-! ### Trimming -/

theorem mem_of_mem_trim (h : x ∈ trim t) : x ∈ t := by
  unfold trim trimBy at h
  rw [List.mem_reverse] at h
  have hinner := List.dropWhile_subset _ h
  rw [List.mem_reverse] at hinner
  exact List.dropWhile_subset _ hinner

/-- Blanks before a text are trimmed. -/
theorem trim_blanks_append (h : ∀ c ∈ a, isBlank c = true) (t : Text) : trim (a ++ t) = trim t := by
  unfold trim trimBy
  rw [List.dropWhile_append_of_pos h]

/-- Blanks after a text are trimmed. -/
theorem trim_append_blanks (h : ∀ c ∈ b, isBlank c = true) (t : Text) : trim (t ++ b) = trim t := by
  have hrev : ∀ c ∈ b.reverse, isBlank c = true := fun c hc => h c (List.mem_reverse.mp hc)
  unfold trim trimBy
  rw [List.dropWhile_append]
  split
  · rename_i hempty
    rw [List.isEmpty_iff.mp hempty, List.dropWhile_eq_nil_iff.mpr h]
  · rw [List.reverse_append, List.dropWhile_append_of_pos hrev]

theorem IsWord.dropWhile_append (h : IsWord w) (t : Text) :
    (w ++ t).dropWhile isBlank = w ++ t := by
  obtain ⟨c, rest, rfl⟩ := List.exists_cons_of_ne_nil h.filled
  have hc : isBlank c = false := h.blankFree c List.mem_cons_self
  rw [List.cons_append, List.dropWhile_cons_of_neg (by simp [hc])]

theorem IsWord.reverse (h : IsWord w) : IsWord w.reverse := by
  refine ⟨by simpa using h.filled, ?_⟩
  intro c hc
  exact h.blankFree c (List.mem_reverse.mp hc)

theorem trim_of_ends (ha : IsWord a) (hb : IsWord b) {r s : Text} (hfirst : t = a ++ r)
    (hlast : t = s ++ b) : trim t = t := by
  unfold trim trimBy
  rw [hfirst, ha.dropWhile_append, ← hfirst, hlast, List.reverse_append,
    hb.reverse.dropWhile_append, ← List.reverse_append, List.reverse_reverse]

/-- Behind a word only blanks at the end are trimmed. -/
theorem IsWord.trim_append (h : IsWord w) (t : Text) :
    trim (w ++ t) = w ++ t.rdropWhile isBlank := by
  unfold trim trimBy
  rw [h.dropWhile_append, List.reverse_append, List.dropWhile_append]
  split
  · rename_i hempty
    have hword : w.reverse.dropWhile isBlank = w.reverse := by
      simpa using h.reverse.dropWhile_append []
    rw [hword, List.reverse_reverse, List.rdropWhile, List.isEmpty_iff.mp hempty, List.reverse_nil,
      List.append_nil]
  · rw [List.reverse_append, List.reverse_reverse]
    rfl

/-- Words that are joined with spaces are not trimmed. -/
theorem trim_join (h : ∀ w ∈ ws, IsWord w) : trim (join .space ws) = join .space ws := by
  by_cases hnil : ws = []
  · rw [hnil]
    rfl
  · obtain ⟨r, hfirst⟩ := exists_join_eq_head_append ' ' hnil
    obtain ⟨s, hlast⟩ := exists_join_eq_append_getLast ' ' hnil
    exact trim_of_ends (h _ (List.head_mem hnil)) (h _ (List.getLast_mem hnil)) hfirst hlast

end SecurityMarking.Text
