/-
Integers that are written and read again.

An integer is written in ASCII digits.  Those are digits of the script that comes
first, they are read without underscores, and the value of what is read is the
integer again.  The one condition is the limit: a numeral may have no more than
`maxDigits` digits, and an integer below ten to that power has no more.

The limit also survives the other way round.  A numeral of any script, with leading
zeros and underscores, has a value below ten to the number of its digits, and so a
value that can be written: whatever is read can be written and is then read as the
same integer.  A value below nought takes a minus sign that stands in the text, which
is what `isWritable_of_read?` keeps of a reading besides the limit.
-/
import Mathlib.Data.List.Induction
import SecurityMarking.Proofs.Text.Words
import SecurityMarking.Numeral

namespace SecurityMarking

/-! ### ASCII digits -/

namespace Text

variable {c : Char}

theorem digitValue?_of_isDigit (h : c.isDigit = true) : digitValue? c = some (c.toNat - 48) := by
  have hrange : 48 ≤ c.toNat ∧ c.toNat ≤ 57 := Char.isDigit_iff_toNat.mp h
  have hfirst : 48 ≤ c.toNat ∧ c.toNat < 48 + 10 := by omega
  unfold digitValue? zeros
  rw [List.findSome?_cons, if_pos hfirst]

theorem isBlank_of_isDigit (h : c.isDigit = true) : isBlank c = false := by
  have hrange : 48 ≤ c.toNat ∧ c.toNat ≤ 57 := Char.isDigit_iff_toNat.mp h
  simp only [isBlank, Bool.or_eq_false_iff, Bool.and_eq_false_iff, decide_eq_false_iff_not,
    beq_eq_false_iff_ne]
  omega

end Text

namespace Numeral

open Text

variable {t rest : Text} {ds : List Nat} {n : Int} {k : Nat}

/-! ### Values of digits -/

theorem valueOfDigits_append_singleton (ds : List Nat) (d : Nat) :
    valueOfDigits (ds ++ [d]) = 10 * valueOfDigits ds + d := by
  unfold valueOfDigits
  rw [List.foldl_append]
  rfl

/-- As many digits as there are keep the value below that power of ten. -/
theorem valueOfDigits_lt (h : ∀ d ∈ ds, d < 10) : valueOfDigits ds < Nat.pow 10 ds.length := by
  induction ds using List.reverseRecOn with
  | nil => decide
  | append_singleton ds d ih =>
      have hd : d < 10 := h d (by simp)
      have hds := ih fun x hx => h x (List.mem_append_left [d] hx)
      rw [valueOfDigits_append_singleton, List.length_append, List.length_singleton]
      show _ < Nat.pow 10 ds.length * 10
      omega

theorem valueOfDigits_lt_of_length_le (h : ∀ d ∈ ds, d < 10) (hlength : ds.length ≤ k) :
    valueOfDigits ds < Nat.pow 10 k :=
  Nat.lt_of_lt_of_le (valueOfDigits_lt h) (Nat.pow_le_pow_right (by decide) hlength)

theorem valueOfDigits_toDigits (k : Nat) :
    valueOfDigits ((Nat.toDigits 10 k).map fun c => c.toNat - 48) = k := by
  unfold valueOfDigits
  rw [List.foldl_map]
  calc (Nat.toDigits 10 k).foldl (fun m c => 10 * m + (c.toNat - 48)) 0
      = Nat.ofDigitChars 10 (Nat.toDigits 10 k) 0 := Nat.ofDigitChars_eq_foldl.symm
    _ = k := Nat.ofDigitChars_ten_toDigits

/-! ### Reading digits -/

theorem digits?_lt (h : digits? t = some (ds, rest)) : ∀ d ∈ ds, d < 10 := by
  fun_induction digits? t generalizing ds rest with
  | case1 => cases h
  | case2 c =>
      obtain ⟨d, hd, heq⟩ := Option.map_eq_some_iff.mp h
      cases heq
      intro x hx
      rw [List.mem_singleton.mp hx]
      exact digitValue?_lt hd
  | case3 c cs ih =>
      obtain ⟨d, hd, h⟩ := Option.bind_eq_some_iff.mp h
      obtain ⟨⟨ds', rest'⟩, hds, heq⟩ := Option.bind_eq_some_iff.mp h
      cases heq
      exact List.forall_mem_cons.mpr ⟨digitValue?_lt hd, ih hds⟩
  | case4 c c' cs _ ih =>
      obtain ⟨d, hd, h⟩ := Option.bind_eq_some_iff.mp h
      split at h
      · obtain ⟨⟨ds', rest'⟩, hds, heq⟩ := Option.bind_eq_some_iff.mp h
        cases heq
        exact List.forall_mem_cons.mpr ⟨digitValue?_lt hd, ih hds⟩
      · cases h
        intro x hx
        rw [List.mem_singleton.mp hx]
        exact digitValue?_lt hd

theorem digits?_of_forall_isDigit (hne : t ≠ []) (h : ∀ c ∈ t, c.isDigit = true) :
    digits? t = some (t.map fun c => c.toNat - 48, []) := by
  induction t with
  | nil => exact absurd rfl hne
  | cons c t ih =>
      have hc := digitValue?_of_isDigit (h c List.mem_cons_self)
      cases t with
      | nil => simp [digits?, hc]
      | cons d t =>
          have hd : d.isDigit = true := h d (by simp)
          have hunderscore : d ≠ '_' := by
            rintro rfl
            exact absurd hd (by decide)
          have hrest := ih (List.cons_ne_nil d t) fun x hx => h x (List.mem_cons_of_mem c hx)
          rw [digits?, hc, digitValue?_of_isDigit hd, hrest]
          · rfl
          · exact hunderscore

/-! ### Reading numerals -/

theorem readUnsigned_lt (h : readUnsigned t = .ok k) : k < Nat.pow 10 maxDigits := by
  unfold readUnsigned at h
  split at h
  · cases h
  · rename_i ds rest hdigits
    split at h
    · cases h
    · rename_i hlength
      split at h
      · cases h
        exact valueOfDigits_lt_of_length_le (digits?_lt hdigits) (Nat.not_lt.mp hlength)
      · cases h

theorem map_readUnsigned_eq_ok_iff (f : Nat → Int) :
    (readUnsigned t).map f = .ok n ↔ ∃ k, readUnsigned t = .ok k ∧ n = f k := by
  constructor
  · intro h
    cases hread : readUnsigned t with
    | error fault =>
        rw [hread] at h
        cases h
    | ok k =>
        rw [hread] at h
        cases h
        exact ⟨k, rfl, rfl⟩
  · rintro ⟨k, hk, rfl⟩
    rw [hk]
    rfl

theorem read?_eq_some_iff : read? t = some n ↔ read t = .ok n := by
  unfold read?
  cases read t with
  | error fault => simp [Except.toOption]
  | ok m => simp [Except.toOption]

/-- **What is read can be written, and takes a minus sign if it is below nought.** -/
theorem isWritable_of_read? (h : read? t = some n) :
    isWritable n = true ∧ (0 ≤ n ∨ '-' ∈ t) := by
  rw [read?_eq_some_iff] at h
  unfold isWritable
  rw [decide_eq_true_eq]
  unfold read at h
  split at h
  · obtain ⟨k, hk, rfl⟩ := (map_readUnsigned_eq_ok_iff _).mp h
    exact ⟨readUnsigned_lt hk, Or.inl (Int.natCast_nonneg k)⟩
  · obtain ⟨k, hk, rfl⟩ := (map_readUnsigned_eq_ok_iff _).mp h
    rw [Int.natAbs_neg, Int.natAbs_natCast]
    exact ⟨readUnsigned_lt hk, Or.inr List.mem_cons_self⟩
  · obtain ⟨k, hk, rfl⟩ := (map_readUnsigned_eq_ok_iff _).mp h
    exact ⟨readUnsigned_lt hk, Or.inl (Int.natCast_nonneg k)⟩

/-! ### Writing -/

theorem length_toDigits_le_iff (m : Nat) (hk : 0 < k) :
    (Nat.toDigits 10 m).length ≤ k ↔ m < Nat.pow 10 k :=
  Nat.length_toDigits_le_iff (by decide) hk

/-- An integer can be written exactly if it has no more digits than a numeral may have. -/
theorem isWritable_iff (n : Int) :
    isWritable n = true ↔ (Nat.toDigits 10 n.natAbs).length ≤ maxDigits := by
  unfold isWritable
  rw [decide_eq_true_eq, length_toDigits_le_iff _ (by decide)]

theorem isDigit_of_mem_toDigits {c : Char} (h : c ∈ Nat.toDigits 10 k) : c.isDigit = true :=
  Nat.isDigit_of_mem_toDigits (by decide) (by decide) h

theorem readUnsigned_toDigits (h : k < Nat.pow 10 maxDigits) :
    readUnsigned (Nat.toDigits 10 k) = .ok k := by
  have hlength : (Nat.toDigits 10 k).length ≤ maxDigits :=
    (length_toDigits_le_iff k (by decide)).mpr h
  have hdigits := digits?_of_forall_isDigit (Nat.toDigits_ne_nil (b := 10) (n := k))
    fun c hc => isDigit_of_mem_toDigits hc
  unfold readUnsigned
  rw [hdigits]
  show (if maxDigits < List.length (List.map _ _) then _ else _) = _
  rw [List.length_map, if_neg (by omega), valueOfDigits_toDigits]
  rfl

/-- **An integer that can be written is read back.** -/
theorem read?_write (h : isWritable n = true) : read? (write n) = some n := by
  unfold isWritable at h
  rw [decide_eq_true_eq] at h
  rw [read?_eq_some_iff]
  cases n with
  | ofNat k =>
      show read (Nat.toDigits 10 k) = _
      have hread : readUnsigned (Nat.toDigits 10 k) = .ok k := readUnsigned_toDigits h
      unfold read
      split
      · rename_i heq
        exact absurd (isDigit_of_mem_toDigits (heq ▸ List.mem_cons_self)) (by decide)
      · rename_i heq
        exact absurd (isDigit_of_mem_toDigits (heq ▸ List.mem_cons_self)) (by decide)
      · rw [hread]
        rfl
  | negSucc k =>
      have hread : readUnsigned (Nat.toDigits 10 (k + 1)) = .ok (k + 1) := readUnsigned_toDigits h
      show (readUnsigned (Nat.toDigits 10 (k + 1))).map _ = _
      rw [hread]
      rfl

theorem isWord_toDigits (k : Nat) : IsWord (Nat.toDigits 10 k) :=
  ⟨Nat.toDigits_ne_nil, fun _ hc => isBlank_of_isDigit (isDigit_of_mem_toDigits hc)⟩

theorem isWord_write (n : Int) : IsWord (write n) := by
  cases n with
  | ofNat k => exact isWord_toDigits k
  | negSucc k =>
      refine ⟨List.cons_ne_nil _ _, ?_⟩
      exact List.forall_mem_cons.mpr ⟨by decide, (isWord_toDigits (k + 1)).blankFree⟩

theorem dash_not_mem_write (h : 0 ≤ n) : '-' ∉ write n := by
  cases n with
  | ofNat k =>
      intro hdash
      exact absurd (isDigit_of_mem_toDigits hdash) (by decide)
  | negSucc k => exact absurd h (by simp)

end Numeral

end SecurityMarking
