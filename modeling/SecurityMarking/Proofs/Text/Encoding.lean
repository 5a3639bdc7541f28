/-
What can be written in an encoding.

A text can be written if every character of it has a code.  So what is put together from
such texts can be written too, and so can every part of it.  ASCII can be written in each
encoding, and with it numerals and escapes, which need nothing else.  A quoted text needs
no more than the text itself, for all that is added is ASCII.

There is a fault exactly where a text cannot be written, and an escaped text always can
be: whatever is told of a run is told.
-/
import SecurityMarking.Text.Encoding
import SecurityMarking.Proofs.Numeral

namespace SecurityMarking

namespace Encoding

/-- An encoding has a code for each character of a text. -/
def Writes (e : Encoding) (t : Text) : Prop := ∀ c ∈ t, e.covers c = true

instance (e : Encoding) (t : Text) : Decidable (e.Writes t) :=
  decidable_of_iff (t.all e.covers = true) List.all_eq_true

variable {e : Encoding} {c : Char} {t u : Text} {ts : List Text}

/-! ### Faults -/

/-- **There is no fault exactly where a text can be written.** -/
theorem fault?_eq_none_iff : e.fault? t = none ↔ e.Writes t := by
  have hwrites : t.dropWhile e.covers = [] ↔ e.Writes t := List.dropWhile_eq_nil_iff
  rw [← hwrites]
  unfold fault?
  cases t.dropWhile e.covers with
  | nil => simp
  | cons first rest => simp

/-- A fault tells of a character that has no code, and where it stands. -/
theorem of_fault?_eq_some {fault : Fault} (h : e.fault? t = some fault) :
    t[fault.position]? = some fault.first ∧ e.covers fault.first = false := by
  have hparts : t.takeWhile e.covers ++ t.dropWhile e.covers = t := List.takeWhile_append_dropWhile
  have hfirst := List.head?_dropWhile_not e.covers t
  unfold fault? at h
  cases hrest : t.dropWhile e.covers with
  | nil =>
      rw [hrest] at h
      cases h
  | cons first rest =>
      rw [hrest] at h hparts hfirst
      cases h
      refine ⟨?_, by simpa using hfirst⟩
      show t[(t.takeWhile e.covers).length]? = some first
      nth_rewrite 1 [← hparts]
      simp

theorem exists_fault (h : ¬ e.Writes t) : ∃ fault, e.fault? t = some fault := by
  rw [← Option.ne_none_iff_exists', ne_eq, fault?_eq_none_iff]
  exact h

/-! ### Texts that are put together -/

@[simp] theorem writes_nil : e.Writes [] := List.forall_mem_nil _

@[simp] theorem writes_cons : e.Writes (c :: t) ↔ e.covers c = true ∧ e.Writes t :=
  List.forall_mem_cons

@[simp] theorem writes_append : e.Writes (t ++ u) ↔ e.Writes t ∧ e.Writes u :=
  List.forall_mem_append

theorem writes_flatten : e.Writes ts.flatten ↔ ∀ t ∈ ts, e.Writes t := by
  induction ts with
  | nil => simp
  | cons t rest ih => rw [List.flatten_cons, writes_append, ih, List.forall_mem_cons]

@[simp] theorem writes_concat : e.Writes (Text.concat ts) ↔ ∀ t ∈ ts, e.Writes t := writes_flatten

theorem writes_flatMap {α : Type} {f : α → Text} {xs : List α} (h : ∀ x ∈ xs, e.Writes (f x)) :
    e.Writes (xs.flatMap f) :=
  writes_flatten.mpr (List.forall_mem_map.mpr h)

theorem writes_intercalate (hu : e.Writes u) (h : ∀ t ∈ ts, e.Writes t) :
    e.Writes (u.intercalate ts) := by
  induction ts with
  | nil => simp
  | cons t rest ih =>
      obtain ⟨ht, hrest⟩ := List.forall_mem_cons.mp h
      cases rest with
      | nil => simpa using ht
      | cons v rest =>
          rw [List.intercalate_cons_cons]
          simp [hu, ht, ih hrest]

theorem writes_replicate (hc : e.covers c = true) (k : Nat) : e.Writes (List.replicate k c) := by
  intro x hx
  rw [List.eq_of_mem_replicate hx]
  exact hc

theorem Writes.mono (h : e.Writes u) (hsub : t ⊆ u) : e.Writes t := fun c hc => h c (hsub hc)

/-! ### ASCII -/

@[simp] theorem covers_of_lt (h : c.toNat < 0x80) : e.covers c = true := e.covers_ascii c h

/-- What ASCII has codes for can be written in every encoding. -/
theorem Writes.of_ascii (h : ascii.Writes t) : e.Writes t := fun c hc =>
  covers_of_lt (of_decide_eq_true (h c hc))

theorem writes_toDigits (k : Nat) : e.Writes (Nat.toDigits 10 k) := by
  intro c hc
  have hrange : 48 ≤ c.toNat ∧ c.toNat ≤ 57 :=
    Char.isDigit_iff_toNat.mp (Numeral.isDigit_of_mem_toDigits hc)
  exact covers_of_lt (by omega)

theorem writes_numeral (n : Int) : e.Writes (Numeral.write n) := by
  cases n with
  | ofNat k => exact writes_toDigits k
  | negSucc k => exact writes_cons.mpr ⟨covers_of_lt (by decide), writes_toDigits (k + 1)⟩

theorem covers_hexDigit (n : Nat) : e.covers (Text.hexDigit n) = true := by
  have hdigits : ∀ d < 16, (Nat.digitChar d).toNat < 0x80 := by decide
  exact covers_of_lt (hdigits _ (Nat.mod_lt n (by decide)))

theorem writes_hexDigits (width n : Nat) : e.Writes (Text.hexDigits width n) := by
  induction width generalizing n with
  | zero => exact writes_nil
  | succ width ih => simp [Text.hexDigits, ih, covers_hexDigit]

/-! ### Escapes and quotes -/

theorem writes_codeEscape (c : Char) : e.Writes (Text.codeEscape c) := by
  unfold Text.codeEscape
  split
  · simp [writes_hexDigits]
  · split_ifs <;> simp [writes_hexDigits]

/-- **An escaped text can be written.** -/
theorem writes_escape (e : Encoding) (t : Text) : e.Writes (e.escape t) := by
  refine writes_flatMap ?_
  intro c _
  by_cases hcode : e.covers c = true
  · simp [hcode]
  · simp [hcode, writes_codeEscape]

theorem writes_quoteChar (quote : Char) (hc : e.covers c = true) :
    e.Writes (Text.quoteChar quote c) := by
  unfold Text.quoteChar
  split_ifs
  · simp [hc]
  · simp
  · simp
  · simp
  · simp [hc]
  · exact writes_codeEscape c

/-- A quoted text can be written where the text can be. -/
theorem writes_quoted (h : e.Writes t) : e.Writes t.quoted := by
  have hquote : e.covers t.quoteFor = true := by
    unfold Text.quoteFor
    split <;> simp
  have hinside : e.Writes (t.flatMap (Text.quoteChar t.quoteFor)) :=
    writes_flatMap fun c hc => writes_quoteChar _ (h c hc)
  unfold Text.quoted
  simp [hquote, hinside]

end Encoding

end SecurityMarking
