/-
Cutting at any delimiter.

A delimiter may have several characters and may overlap itself.  A cut goes from left to
right and has three cases: the text is empty, or it begins with the delimiter, which ends a
piece and is passed over whole, or its first character belongs to the piece that is being
read.  `cutting` is the induction with these cases, and the characters that are yet to be
passed over are not seen after it.

Two laws hold of every delimiter: the pieces joined give the text back, and no piece
contains the delimiter.  The second rests on the first.  A piece that contained the
delimiter would begin with it at some character, and as what is read from there begins the
text from there, the cut would have found it.
-/
import Mathlib.Data.List.Infix
import SecurityMarking.Text.Split

namespace SecurityMarking.Text

variable {d : Delimiter} {c : Char} {t p : Text} {ps : List Text}

/-! ### The three cases of a cut -/

theorem cutFrom_eq_cutFrom_drop (d : Text) (skip : Nat) (t : Text) :
    cutFrom d skip t = cutFrom d 0 (t.drop skip) := by
  induction t generalizing skip with
  | nil => rw [List.drop_nil]; cases skip <;> rfl
  | cons x t ih =>
      cases skip with
      | zero => rfl
      | succ n => exact ih n

theorem pieces_delimiter_append (d : Delimiter) (t : Text) :
    pieces d (d.text ++ t) = [] :: pieces d t := by
  obtain ⟨x, rest, hd⟩ := List.exists_cons_of_ne_nil d.nonempty
  have hbegins : (x :: rest).isPrefixOf (x :: (rest ++ t)) = true :=
    List.isPrefixOf_iff_prefix.mpr (List.prefix_append (x :: rest) t)
  unfold pieces
  rw [hd, List.cons_append, cutFrom, if_pos hbegins, cutFrom_eq_cutFrom_drop, List.length_cons,
    Nat.add_sub_cancel, List.drop_left]

theorem pieces_cons_of_not_begins (h : ¬ d.text <+: c :: t) :
    pieces d (c :: t) = (pieces d t).modifyHead (c :: ·) := by
  unfold pieces
  rw [cutFrom, if_neg fun hbegins => h (List.isPrefixOf_iff_prefix.mp hbegins)]

/-- Induction on a text in the order in which it is cut. -/
theorem cutting (d : Delimiter) {motive : Text → Prop} (nil : motive [])
    (delimiter : ∀ t, motive t → motive (d.text ++ t))
    (character : ∀ c t, ¬ d.text <+: c :: t → motive t → motive (c :: t)) (t : Text) :
    motive t := by
  induction hlength : t.length using Nat.strong_induction_on generalizing t with
  | h n ih =>
      cases t with
      | nil => exact nil
      | cons c t =>
          by_cases hbegins : d.text <+: c :: t
          · obtain ⟨rest, hrest⟩ := hbegins
            have hpos := List.length_pos_iff.mpr d.nonempty
            have hsum := congrArg List.length hrest
            rw [List.length_append] at hsum
            rw [← hrest]
            exact delimiter rest (ih rest.length (by omega) rest rfl)
          · exact character c t hbegins (ih t.length (by simp [← hlength]) t rfl)

/-! ### Joining -/

@[simp] theorem join_nil (d : Delimiter) : join d [] = [] := rfl

@[simp] theorem join_singleton (d : Delimiter) (p : Text) : join d [p] = p :=
  List.intercalate_singleton

theorem join_cons (hne : ps ≠ []) (p : Text) : join d (p :: ps) = p ++ d.text ++ join d ps :=
  List.intercalate_cons_of_ne_nil hne

theorem join_modifyHead_cons (hne : ps ≠ []) (c : Char) :
    join d (ps.modifyHead (c :: ·)) = c :: join d ps := by
  obtain ⟨p, rest, rfl⟩ := List.exists_cons_of_ne_nil hne
  rw [List.modifyHead_cons]
  cases rest with
  | nil => rw [join_singleton, join_singleton]
  | cons q rest =>
      rw [join_cons (List.cons_ne_nil q rest), join_cons (List.cons_ne_nil q rest)]
      rfl

theorem prefix_join_cons (d : Delimiter) (p : Text) (ps : List Text) : p <+: join d (p :: ps) := by
  by_cases hnil : ps = []
  · rw [hnil, join_singleton]
  · rw [join_cons hnil, List.append_assoc]
    exact List.prefix_append p _

theorem join_concat (hne : ps ≠ []) (p : Text) : join d (ps ++ [p]) = join d ps ++ d.text ++ p := by
  induction ps with
  | nil => exact absurd rfl hne
  | cons q rest ih =>
      by_cases hnil : rest = []
      · rw [hnil, List.cons_append, List.nil_append, join_cons (List.cons_ne_nil p []),
          join_singleton, join_singleton]
      · have hrest : rest ++ [p] ≠ [] := List.append_ne_nil_of_left_ne_nil hnil [p]
        rw [List.cons_append, join_cons hrest, join_cons hnil, ih hnil]
        simp only [List.append_assoc]

/-! ### The two laws of a cut -/

/-- Joining the pieces gives the text back, whatever the delimiter. -/
theorem join_pieces_eq (d : Delimiter) (t : Text) : join d (pieces d t) = t := by
  induction t using cutting d with
  | nil => rfl
  | delimiter t ih =>
      rw [pieces_delimiter_append, join_cons (pieces_ne_nil d t), ih, List.nil_append]
  | character c t hbegins ih =>
      rw [pieces_cons_of_not_begins hbegins, join_modifyHead_cons (pieces_ne_nil d t), ih]

/-- **No piece contains the delimiter.** -/
theorem not_contains_of_mem_pieces (hp : p ∈ pieces d t) : ¬ d.text <:+: p := by
  have hempty : ¬ d.text <:+: [] := fun h => d.nonempty (List.infix_nil.mp h)
  induction t using cutting d generalizing p with
  | nil =>
      rw [List.mem_singleton.mp hp]
      exact hempty
  | delimiter t ih =>
      rw [pieces_delimiter_append] at hp
      rcases List.mem_cons.mp hp with rfl | hp
      · exact hempty
      · exact ih hp
  | character c t hbegins ih =>
      have hjoin := join_pieces_eq d t
      obtain ⟨q, qs, hq⟩ := List.exists_cons_of_ne_nil (pieces_ne_nil d t)
      rw [pieces_cons_of_not_begins hbegins, hq, List.modifyHead_cons] at hp
      rw [hq] at ih hjoin
      rcases List.mem_cons.mp hp with rfl | hp
      · intro hcontains
        rcases List.infix_cons_iff.mp hcontains with hstart | hinside
        · -- What begins the piece begins the text, and there the cut would have found it.
          have hpiece : c :: q <+: c :: t :=
            List.cons_prefix_cons.mpr ⟨rfl, hjoin ▸ prefix_join_cons d q qs⟩
          exact hbegins (hstart.trans hpiece)
        · exact ih List.mem_cons_self hinside
      · exact ih (List.mem_cons_of_mem q hp)

/-- A text is its own single piece exactly if it does not contain the delimiter. -/
theorem pieces_eq_singleton_iff : pieces d t = [t] ↔ ¬ d.text <:+: t := by
  constructor
  · intro h
    exact not_contains_of_mem_pieces (t := t) (by simp [h])
  · intro h
    induction t using cutting d with
    | nil => rfl
    | delimiter t ih => exact absurd (List.prefix_append d.text t).isInfix h
    | character c t hbegins ih =>
        rw [pieces_cons_of_not_begins hbegins, ih fun hcontains => h (List.infix_cons hcontains),
          List.modifyHead_cons]

theorem contains_char_iff : (Delimiter.char c).text <:+: t ↔ c ∈ t := List.singleton_infix_iff c t

end SecurityMarking.Text
