/-
Lists of SIGMA categories.

A list is read word by word, and a blank belongs to no word, so what stands on the two
sides of a blank is read apart.  One word gives its value if it is a numeral by the grammar
of numerals, and nothing if it is not.

`Lists` says how a text can be put together from the decimal texts of numbers, words that
are no numerals, and blanks: in any order, but with a blank between any two words.  From
one part to the next the numbers that are read are those that were put in.
-/
import SecurityMarking.Proofs.Aea.Modifiers
import SecurityMarking.Proofs.Numeral.Grammar

namespace SecurityMarking

open Text Numeral

variable {c : Char} {t w : Text} {n : Int} {ns : List Int}

/-! ### Words and blanks -/

/-- **The numbers on both sides of a blank are those of each side.** -/
theorem sigmasOfText_append_blank_cons (h : isBlank c = true) (a b : Text) :
    sigmasOfText (a ++ c :: b) = sigmasOfText a ++ sigmasOfText b := by
  unfold sigmasOfText
  rw [words_append_blank_cons h, List.filterMap_append]

theorem sigmasOfText_blank_cons (h : isBlank c = true) (t : Text) :
    sigmasOfText (c :: t) = sigmasOfText t := by
  unfold sigmasOfText
  rw [words_blank_cons h]

/-- The text is empty or begins with a blank, so that a word before it ends there. -/
def EndsWord (t : Text) : Prop := ∀ c ∈ t.head?, isBlank c = true

theorem EndsWord.sigmasOfText_append (h : EndsWord t) (w : Text) :
    sigmasOfText (w ++ t) = sigmasOfText w ++ sigmasOfText t := by
  cases t with
  | nil => rw [List.append_nil]; exact (List.append_nil _).symm
  | cons c t =>
      have hc : isBlank c = true := h c rfl
      rw [sigmasOfText_append_blank_cons hc, sigmasOfText_blank_cons hc]

/-! ### One word -/

theorem sigmasOfText_of_isWord (h : IsWord w) : sigmasOfText w = (read? w).toList := by
  unfold sigmasOfText
  rw [h.words_eq]
  cases hread : read? w with
  | none => simp [hread]
  | some n => simp [hread]

theorem sigmasOfText_of_spells (h : IsWord w) (hn : Spells w n) : sigmasOfText w = [n] := by
  rw [sigmasOfText_of_isWord h, read?_eq_some_iff_spells.mpr hn, Option.toList_some]

theorem sigmasOfText_of_not_spells (h : IsWord w) (hno : ∀ n, ¬ Spells w n) :
    sigmasOfText w = [] := by
  rw [sigmasOfText_of_isWord h, read?_eq_none_iff.mpr hno, Option.toList_none]

theorem sigmasOfText_write (h : (Nat.toDigits 10 n.natAbs).length ≤ maxDigits) :
    sigmasOfText (write n) = [n] :=
  sigmasOfText_of_spells (isWord_write n)
    (read?_eq_some_iff_spells.mp (read?_write ((isWritable_iff n).mpr h)))

/-! ### Any number of them -/

/-- The text lists those numbers, among words that are no numerals and blanks. -/
inductive Lists : Text → List Int → Prop
  | nil : Lists [] []
  | blank {c : Char} {t : Text} {ns : List Int} (hc : isBlank c = true) (rest : Lists t ns) :
    Lists (c :: t) ns
  | number {n : Int} {t : Text} {ns : List Int}
      (hn : (Nat.toDigits 10 n.natAbs).length ≤ maxDigits) (hend : EndsWord t)
      (rest : Lists t ns) : Lists (write n ++ t) (n :: ns)
  | other {w t : Text} {ns : List Int} (hw : IsWord w) (hno : ∀ n, ¬ Spells w n)
      (hend : EndsWord t) (rest : Lists t ns) : Lists (w ++ t) ns

theorem Lists.sigmasOfText_eq (h : Lists t ns) : sigmasOfText t = ns := by
  induction h with
  | nil => rfl
  | blank hc rest ih => rw [sigmasOfText_blank_cons hc, ih]
  | number hn hend rest ih =>
      rw [hend.sigmasOfText_append, sigmasOfText_write hn, ih, List.singleton_append]
  | other hw hno hend rest ih =>
      rw [hend.sigmasOfText_append, sigmasOfText_of_not_spells hw hno, ih, List.nil_append]

/--
**Reading a list of SIGMA categories.**

A blank divides a list.  A word is read as its value if it is a numeral, and passed over if
it is not.  So of numbers, other words and blanks in any order just the numbers are read,
in their order.
-/
theorem sigmasOfText_reads :
    (∀ a b : Text, ∀ c : Char, isBlank c = true →
        sigmasOfText (a ++ c :: b) = sigmasOfText a ++ sigmasOfText b) ∧
      (∀ w, IsWord w →
        (∀ n, Spells w n → sigmasOfText w = [n]) ∧
        ((∀ n, ¬ Spells w n) → sigmasOfText w = [])) ∧
      ∀ t ns, Lists t ns → sigmasOfText t = ns :=
  ⟨fun a b _ hc => sigmasOfText_append_blank_cons hc a b,
    fun _ hw => ⟨fun _ => sigmasOfText_of_spells hw, sigmasOfText_of_not_spells hw⟩,
    fun _ _ => Lists.sigmasOfText_eq⟩

/-- Signs, other scripts and underscores between digits are read, two underscores are not. -/
example : sigmasOfText "  +1 ABC\t٣٤ 1__2 1_2 2_ -5" = [1, 34, 12, -5] := by decide

end SecurityMarking
