/-
The grammar of numerals.

A reader of numerals goes from digit to digit and counts them before it looks at what
follows.  The grammar says which texts it reads, without a rest and without an order of
checks: `Digits` are the texts of digits with single underscores between them, and a
numeral is at most `maxDigits` of these behind an optional sign.  Its value is that of the
digits by their positions.

`read?_eq_some_iff_spells` is the agreement of the two.  In one direction it follows the
reader case by case, and in the other a derivation of the grammar.  A digit is no sign, so a
numeral without a sign is not mistaken for one with a sign.
-/
import Mathlib.Data.Nat.Digits.Defs
import SecurityMarking.Proofs.Numeral

namespace SecurityMarking.Numeral

open Text

variable {t : Text} {k : Nat} {ds : List Nat} {n : Int}

/-! ### Digits -/

/-- The text writes those digits, in any scripts, and single underscores between some of them. -/
inductive Digits : Text → List Nat → Prop
  | last {c : Char} {d : Nat} (hc : digitValue? c = some d) : Digits [c] [d]
  | next {c : Char} {d : Nat} {t : Text} {ds : List Nat} (hc : digitValue? c = some d)
      (ht : Digits t ds) : Digits (c :: t) (d :: ds)
  | underscore {c : Char} {d : Nat} {t : Text} {ds : List Nat} (hc : digitValue? c = some d)
      (ht : Digits t ds) : Digits (c :: '_' :: t) (d :: ds)

/-- What writes digits begins with one. -/
theorem Digits.exists_cons (h : Digits t ds) :
    ∃ c rest d, t = c :: rest ∧ digitValue? c = some d := by
  cases h with
  | last hc => exact ⟨_, _, _, rfl, hc⟩
  | next hc ht => exact ⟨_, _, _, rfl, hc⟩
  | underscore hc ht => exact ⟨_, _, _, rfl, hc⟩

theorem Digits.digits?_eq (h : Digits t ds) : digits? t = some (ds, []) := by
  induction h with
  | last hc => rw [digits?, hc]; rfl
  | next hc ht ih =>
      obtain ⟨c', rest, d', rfl, hc'⟩ := ht.exists_cons
      have hunderscore : c' ≠ '_' := by
        rintro rfl
        cases hc'
      rw [digits?, hc, hc', ih]
      · rfl
      · exact hunderscore
  | underscore hc ht ih => rw [digits?, hc, ih]; rfl

theorem digits_of_digits?_eq (h : digits? t = some (ds, [])) : Digits t ds := by
  fun_induction digits? t generalizing ds with
  | case1 => cases h
  | case2 c =>
      obtain ⟨d, hd, heq⟩ := Option.map_eq_some_iff.mp h
      cases heq
      exact .last hd
  | case3 c cs ih =>
      obtain ⟨d, hd, h⟩ := Option.bind_eq_some_iff.mp h
      obtain ⟨⟨ds', rest⟩, hds, heq⟩ := Option.bind_eq_some_iff.mp h
      cases heq
      exact .underscore hd (ih hds)
  | case4 c c' cs _ ih =>
      obtain ⟨d, hd, h⟩ := Option.bind_eq_some_iff.mp h
      split at h
      · obtain ⟨⟨ds', rest⟩, hds, heq⟩ := Option.bind_eq_some_iff.mp h
        cases heq
        exact .next hd (ih hds)
      · cases h

/-- **All of a text is digits exactly if it writes them.** -/
theorem digits?_eq_some_nil_iff : digits? t = some (ds, []) ↔ Digits t ds :=
  ⟨digits_of_digits?_eq, Digits.digits?_eq⟩

/-! ### Numerals -/

theorem valueOfDigits_eq_ofDigits (ds : List Nat) :
    valueOfDigits ds = Nat.ofDigits 10 ds.reverse := by
  induction ds using List.reverseRecOn with
  | nil => rfl
  | append_singleton ds d ih =>
      rw [valueOfDigits_append_singleton, ih, List.reverse_append, List.reverse_singleton,
        List.singleton_append, Nat.ofDigits_cons, Nat.add_comm]

/-- The text writes the number in no more digits than a numeral may have. -/
def SpellsUnsigned (t : Text) (k : Nat) : Prop :=
  ∃ ds, Digits t ds ∧ ds.length ≤ maxDigits ∧ k = Nat.ofDigits 10 ds.reverse

/-- The text is a numeral of that value: an optional sign and digits. -/
inductive Spells : Text → Int → Prop
  | bare {t : Text} {k : Nat} (h : SpellsUnsigned t k) : Spells t k
  | plus {t : Text} {k : Nat} (h : SpellsUnsigned t k) : Spells ('+' :: t) k
  | minus {t : Text} {k : Nat} (h : SpellsUnsigned t k) : Spells ('-' :: t) (-k)

theorem readUnsigned_eq_ok_iff : readUnsigned t = .ok k ↔ SpellsUnsigned t k := by
  constructor
  · intro h
    unfold readUnsigned at h
    split at h
    · cases h
    · rename_i ds rest hdigits
      split at h
      · cases h
      · rename_i hlength
        split at h
        · rename_i hrest
          rw [List.isEmpty_iff.mp hrest] at hdigits
          cases h
          exact ⟨ds, digits?_eq_some_nil_iff.mp hdigits, Nat.not_lt.mp hlength,
            valueOfDigits_eq_ofDigits ds⟩
        · cases h
  · rintro ⟨ds, hdigits, hlength, rfl⟩
    unfold readUnsigned
    rw [hdigits.digits?_eq, ← valueOfDigits_eq_ofDigits]
    show (if maxDigits < ds.length then _ else _) = _
    rw [if_neg (Nat.not_lt.mpr hlength)]
    rfl

/-- What is read is a numeral of the value that is read. -/
theorem spells_of_read_eq_ok (h : read t = .ok n) : Spells t n := by
  unfold read at h
  split at h
  · obtain ⟨k, hk, rfl⟩ := (map_readUnsigned_eq_ok_iff _).mp h
    exact .plus (readUnsigned_eq_ok_iff.mp hk)
  · obtain ⟨k, hk, rfl⟩ := (map_readUnsigned_eq_ok_iff _).mp h
    exact .minus (readUnsigned_eq_ok_iff.mp hk)
  · obtain ⟨k, hk, rfl⟩ := (map_readUnsigned_eq_ok_iff _).mp h
    exact .bare (readUnsigned_eq_ok_iff.mp hk)

/-- A numeral is read as its value. -/
theorem Spells.read_eq (h : Spells t n) : read t = .ok n := by
  cases h with
  | plus hk => exact (map_readUnsigned_eq_ok_iff _).mpr ⟨_, readUnsigned_eq_ok_iff.mpr hk, rfl⟩
  | minus hk => exact (map_readUnsigned_eq_ok_iff _).mpr ⟨_, readUnsigned_eq_ok_iff.mpr hk, rfl⟩
  | bare hk =>
      have hread := readUnsigned_eq_ok_iff.mpr hk
      obtain ⟨ds, hdigits, -⟩ := hk
      obtain ⟨c, rest, d, rfl, hc⟩ := hdigits.exists_cons
      -- A sign has no value as a digit.
      unfold read
      split
      · rename_i heq
        cases heq
        cases hc
      · rename_i heq
        cases heq
        cases hc
      · exact (map_readUnsigned_eq_ok_iff _).mpr ⟨_, hread, rfl⟩

/-- **A text is read as an integer exactly if it is a numeral of that value.** -/
theorem read?_eq_some_iff_spells : read? t = some n ↔ Spells t n :=
  read?_eq_some_iff.trans ⟨spells_of_read_eq_ok, Spells.read_eq⟩

theorem read?_eq_none_iff : read? t = none ↔ ∀ n, ¬ Spells t n := by
  rw [Option.eq_none_iff_forall_ne_some]
  exact forall_congr' fun n => not_congr read?_eq_some_iff_spells

end SecurityMarking.Numeral
