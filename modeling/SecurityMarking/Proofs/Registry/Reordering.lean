/-
When the order of declaration does not matter.

Of controls that are apart at most one begins a text, so that wherever they stand that one
is found.  Conversely, if a name of one control begins a name of another, both begin the
second name, and each of the two is found there once it is put in front: two orders, one
text, two answers.  So a list of different controls can be put in any order exactly if its
controls are apart, `OrderFree`.

The shipped types of AEA information are apart, and a text can begin with one of them only.
-/
import Mathlib.Data.List.Nodup
import SecurityMarking.Proofs.Vocabulary.Shipped

namespace SecurityMarking

open Entry

variable {e f : Entry} {es fs : List Entry} {t : Text}

namespace Entry

/-- No name of one of the controls begins a name of another. -/
def Unrelated (es : List Entry) : Prop :=
  ∀ e ∈ es, ∀ f ∈ es, e ≠ f → ∀ m n, e.Names m → f.Names n → ¬ m <+: n

theorem Apart.unrelated (h : Apart es) : Unrelated es := by
  intro e he f hf hne m n hm hn
  exact (List.Pairwise.forall h he hf hne m n hm hn).1

theorem Unrelated.apart (h : Unrelated es) (hnodup : es.Nodup) : Apart es := by
  refine hnodup.pairwise_of_forall_ne ?_
  intro e he f hf hne m n hm hn
  exact ⟨h e he f hf hne m n hm hn, h f hf e he hne.symm n m hn hm⟩

end Entry

namespace PrefixMatch

/-- In every order of the controls the same one is found. -/
def OrderFree (es : List Entry) : Prop :=
  ∀ fs : List Entry, fs.Perm es → ∀ t : Text, find? fs (some t) = find? es (some t)

/-- Controls that are apart can be put in any order. -/
theorem orderFree_of_apart (hes : ∀ e ∈ es, e.NamedByTexts) (h : Apart es) : OrderFree es := by
  intro fs hperm t
  have hfs : ∀ e ∈ fs, e.NamedByTexts := fun e he => hes e (hperm.mem_iff.mp he)
  have hapart : Apart fs := (hperm.pairwise_iff fun h => Std.Symm.symm _ _ h).mpr h
  show firstMatch? t fs = firstMatch? t es
  by_cases hsome : ∃ e ∈ es, e.Begins t
  · obtain ⟨e, he, het⟩ := hsome
    rw [firstMatch?_of_apart hes h he het,
      firstMatch?_of_apart hfs hapart (hperm.mem_iff.mpr he) het]
  · have hnone : ∀ e ∈ es, ¬ e.Begins t := fun e he het => hsome ⟨e, he, het⟩
    rw [firstMatch?_of_forall_not hes hnone,
      firstMatch?_of_forall_not hfs fun e he => hnone e (hperm.mem_iff.mp he)]

/-- A control that begins a text is found there in some order. -/
theorem exists_perm_firstMatch? (hes : ∀ e ∈ es, e.NamedByTexts) (he : e ∈ es)
    (het : e.Begins t) : ∃ fs, fs.Perm es ∧ firstMatch? t fs = .ok (some e) := by
  obtain ⟨before, after, rfl⟩ := List.append_of_mem he
  have hperm : (e :: (before ++ after)).Perm (before ++ e :: after) := List.perm_middle.symm
  refine ⟨e :: (before ++ after), hperm, ?_⟩
  exact (firstMatch?_eq_some_iff_append fun f hf => hes f (hperm.mem_iff.mp hf)).mpr
    ⟨het, [], before ++ after, rfl, by simp⟩

/-- Of controls whose order does not matter at most one begins a text. -/
theorem OrderFree.eq_of_begins (h : OrderFree es) (hes : ∀ e ∈ es, e.NamedByTexts) (he : e ∈ es)
    (hf : f ∈ es) (het : e.Begins t) (hft : f.Begins t) : e = f := by
  obtain ⟨es₁, hperm₁, hfound₁⟩ := exists_perm_firstMatch? hes he het
  obtain ⟨es₂, hperm₂, hfound₂⟩ := exists_perm_firstMatch? hes hf hft
  have hsame : firstMatch? t es₁ = firstMatch? t es₂ :=
    (h es₁ hperm₁ t).trans (h es₂ hperm₂ t).symm
  rw [hfound₁, hfound₂] at hsame
  simpa using hsame

theorem OrderFree.unrelated (h : OrderFree es) (hes : ∀ e ∈ es, e.NamedByTexts) :
    Unrelated es := by
  intro e he f hf hne m n hm hn hmn
  -- Both begin the longer of the two names.
  exact hne (h.eq_of_begins hes he hf (hm.begins.of_prefix hmn) hn.begins)

/--
**Order matters exactly where names overlap.**

Controls that differ from each other give the same answer for every text in every order
exactly if no name of one begins a name of another.  The shipped types of AEA information
are such controls, and every text begins with at most one of them.
-/
theorem orderFree_iff_unrelated :
    (∀ es : List Entry, (∀ e ∈ es, e.NamedByTexts) → es.Nodup →
      (OrderFree es ↔ Unrelated es)) ∧
      ∃ types, Vocabulary.build (.text Vocabulary.aeaTypes) Vocabulary.shipped = .ok types ∧
        Unrelated types.entries ∧
        ∀ t, ∀ e ∈ types.entries, ∀ f ∈ types.entries, e.Begins t → f.Begins t → e = f := by
  refine ⟨?_, ?_⟩
  · intro es hes hnodup
    refine ⟨?_, ?_⟩
    · intro h
      exact h.unrelated hes
    · intro h
      exact orderFree_of_apart hes (h.apart hnodup)
  · have hapart : Apart (Row.entriesFrom 0 Vocabulary.aeaTypesRows) :=
      (Row.apart_entriesFrom 0).mpr Vocabulary.apart_aeaTypesRows
    refine ⟨_, Vocabulary.build_shipped Vocabulary.aeaTypes_mem_shippedRows, hapart.unrelated, ?_⟩
    intro t e he f hf het hft
    exact hapart.eq_of_begins he hf het hft

/-- Where SBU and SBU NOFORN are both controls, their order matters. -/
theorem orderFree_iff_unrelated_otherDissemControls :
    (∀ e ∈ Row.entriesFrom 0 Vocabulary.otherDissemControlsRows, e.NamedByTexts) ∧
      (Row.entriesFrom 0 Vocabulary.otherDissemControlsRows).Nodup ∧
      ¬ OrderFree (Row.entriesFrom 0 Vocabulary.otherDissemControlsRows) := by
  have hnamed : ∀ e ∈ Row.entriesFrom 0 Vocabulary.otherDissemControlsRows, e.NamedByTexts :=
    fun e he => (Row.textual_entriesFrom 0 _ e he).namedByTexts
  have hnodup : (Row.entriesFrom 0 Vocabulary.otherDissemControlsRows).Nodup :=
    ((Row.compatible_entriesFrom 0).mpr (Vocabulary.compatible_shippedRows _
      Vocabulary.otherDissemControls_mem_shippedRows)).nodup
  refine ⟨hnamed, hnodup, ?_⟩
  intro hfree
  have hunrelated := (orderFree_iff_unrelated.1 _ hnamed hnodup).mp hfree
  have hrows := (Row.apart_entriesFrom 0).mp (hunrelated.apart hnodup)
  exact absurd hrows (by decide)

end PrefixMatch

end SecurityMarking
