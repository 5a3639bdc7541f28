/-
What the modifiers of an AEA marking say, and how it is written.

A modifier stands between dashes, so there is no dash in it, and with no dash there is
no number below nought in its list of SIGMA categories.  Such a number is no numeral
that could be read: its minus sign would have ended the modifier.  The limit on
digits is kept by every numeral.  So all that any marking says of SIGMA categories are
numbers from nought on that can be written: `mem_sigmas_ofText`.

Such numbers are written as words with spaces between them, behind the word SIGMA, and
neither the blanks at the ends nor the space behind SIGMA adds a word.  So the
modifiers of a marking that is written from its parts say what the parts say, whatever
the type is called as long as its name has no dash.
-/
import Mathlib.Data.List.Basic
import SecurityMarking.Proofs.Numeral
import SecurityMarking.Aea

namespace SecurityMarking

open Text Numeral

variable {c : Char} {t p : Text} {n : Int} {ns : List Int}

/-! ### Lists of SIGMA categories -/

theorem mem_sigmasOfText (h : n ∈ sigmasOfText t) : ∃ w ∈ words t, read? w = some n :=
  List.mem_filterMap.mp h

theorem isWord_of_mem_map_write {w : Text} (hw : w ∈ ns.map write) : IsWord w := by
  obtain ⟨n, -, rfl⟩ := List.mem_map.mp hw
  exact isWord_write n

/-- Numbers that are written with spaces between them are read back, and so they are behind a
space. -/
theorem sigmasOfText_join (h : ∀ n ∈ ns, isWritable n = true) :
    sigmasOfText (' ' :: join .space (ns.map write)) = ns := by
  unfold sigmasOfText
  rw [words_blank_cons (by decide), words_join fun w hw => isWord_of_mem_map_write hw,
    List.filterMap_map]
  calc ns.filterMap (read? ∘ write)
      = ns.filterMap some := List.filterMap_congr fun n hn => read?_write (h n hn)
    _ = ns := List.filterMap_some

namespace Modifier

theorem mem_of_mem_sigmaList (h : c ∈ (ofText t).sigmaList) : c ∈ t := by
  have hafter : ∀ word list, after? word t.trim = some list → c ∈ list → c ∈ t := by
    intro word list hlist hc
    refine mem_of_mem_trim ?_
    rw [after?_eq_some_iff.mp hlist]
    exact List.mem_append_right word hc
  unfold ofText at h
  simp only at h
  split at h
  · simp [sigmaList] at h
  · split at h
    · rename_i list hlist
      exact hafter _ list hlist h
    · split at h
      · rename_i list hlist
        exact hafter _ list hlist h
      · simp [sigmaList] at h

theorem isWord_sigmaModifier : IsWord sigmaModifier := isWord_of_all (by decide) (by decide)

theorem isWord_shortSigmaModifier : IsWord shortSigmaModifier :=
  isWord_of_all (by decide) (by decide)

/-- What follows SIGMA is a list. -/
theorem ofText_of_trim_eq_sigma (h : trim t = sigmaModifier ++ p) : ofText t = .sigmas p := by
  have hcnwdi : sigmaModifier ++ p ≠ cnwdiModifier := by simp [sigmaModifier, cnwdiModifier]
  have hafter : after? sigmaModifier (sigmaModifier ++ p) = some p := after?_eq_some_iff.mpr rfl
  unfold ofText
  simp only [h, hafter]
  rw [if_neg hcnwdi]

/-- What follows SG is a list, as SG does not begin with SIGMA. -/
theorem ofText_of_trim_eq_shortSigma (h : trim t = shortSigmaModifier ++ p) :
    ofText t = .sigmas p := by
  have hcnwdi : shortSigmaModifier ++ p ≠ cnwdiModifier := by
    simp [shortSigmaModifier, cnwdiModifier]
  have hlong : after? sigmaModifier (shortSigmaModifier ++ p) = none := rfl
  have hafter : after? shortSigmaModifier (shortSigmaModifier ++ p) = some p :=
    after?_eq_some_iff.mpr rfl
  unfold ofText
  simp only [h, hlong, hafter]
  rw [if_neg hcnwdi]

/-- The modifier that lists numbers. -/
def sigmaText (ns : List Int) : Text := join .space (sigmaModifier :: ns.map write)

theorem ofText_sigmaText (hne : ns ≠ []) :
    ofText (sigmaText ns) = .sigmas (' ' :: join .space (ns.map write)) := by
  refine ofText_of_trim_eq_sigma ?_
  have htrim : trim (sigmaText ns) = sigmaText ns :=
    trim_join (List.forall_mem_cons.mpr
      ⟨isWord_sigmaModifier, fun w hw => isWord_of_mem_map_write hw⟩)
  rw [htrim]
  obtain ⟨n, rest, rfl⟩ := List.exists_cons_of_ne_nil hne
  exact join_cons_cons ' ' sigmaModifier (write n) (rest.map write)

theorem dash_not_mem_sigmaText (h : ∀ n ∈ ns, 0 ≤ n) : '-' ∉ sigmaText ns := by
  intro hdash
  rcases mem_join hdash with hspace | ⟨p, hp, hdash⟩
  · exact absurd hspace (by decide)
  · rcases List.mem_cons.mp hp with rfl | hp
    · exact absurd hdash (by decide)
    · obtain ⟨n, hn, rfl⟩ := List.mem_map.mp hp
      exact dash_not_mem_write (h n hn) hdash

end Modifier

/-! ### All modifiers -/

namespace Modifiers

open AeaMarking

variable {name : Text} {cnwdi : Bool}

/-- **No marking lists a number below nought or one that cannot be written.** -/
theorem mem_sigmas_ofText (h : n ∈ (ofText t).sigmas) : 0 ≤ n ∧ isWritable n = true := by
  obtain ⟨m, hm, hn⟩ := List.mem_flatMap.mp h
  obtain ⟨p, hp, rfl⟩ := List.mem_map.mp hm
  obtain ⟨w, hw, hread⟩ := mem_sigmasOfText hn
  obtain ⟨hwritable, hnonneg | hdash⟩ := isWritable_of_read? hread
  · exact ⟨hnonneg, hwritable⟩
  · -- A minus sign in a word is a dash in the modifier.
    have hmem : '-' ∈ p := Modifier.mem_of_mem_sigmaList (mem_of_mem_words hw hdash)
    exact absurd hmem (not_mem_of_mem_pieces (List.mem_of_mem_tail hp))

/-- The modifiers that the parts of a marking are written with. -/
def texts (cnwdi : Bool) (ns : List Int) : List Text :=
  (if cnwdi then [cnwdiModifier] else []) ++ (if ns.isEmpty then [] else [Modifier.sigmaText ns])

theorem renderParts_eq_join (name : Text) (cnwdi : Bool) (ns : List Int) :
    renderParts name cnwdi ns = join .dash (name :: texts cnwdi ns) := by
  unfold renderParts texts
  rw [List.append_assoc]
  rfl

theorem dash_not_mem_of_mem_texts (h : ∀ n ∈ ns, 0 ≤ n) (hp : p ∈ texts cnwdi ns) : '-' ∉ p := by
  unfold texts at hp
  rcases List.mem_append.mp hp with hp | hp
  · split at hp
    · rw [List.mem_singleton.mp hp]
      decide
    · cases hp
  · split at hp
    · cases hp
    · rw [List.mem_singleton.mp hp]
      exact Modifier.dash_not_mem_sigmaText h

theorem ofList_append (ms ms' : List Modifier) :
    ofList (ms ++ ms')
      = ⟨(ofList ms).cnwdi || (ofList ms').cnwdi, (ofList ms).sigmas ++ (ofList ms').sigmas⟩ := by
  simp [ofList]

theorem ofList_sigmaText (hne : ns ≠ []) (h : ∀ n ∈ ns, isWritable n = true) :
    ofList [Modifier.ofText (Modifier.sigmaText ns)] = ⟨false, ns⟩ := by
  rw [Modifier.ofText_sigmaText hne]
  show (⟨false, sigmasOfText (' ' :: join .space (ns.map write)) ++ []⟩ : Modifiers) = _
  rw [List.append_nil, sigmasOfText_join h]

theorem ofList_texts (h : ∀ n ∈ ns, isWritable n = true) :
    ofList ((texts cnwdi ns).map Modifier.ofText) = ⟨cnwdi, ns⟩ := by
  have hcnwdi : ofList ((if cnwdi then [cnwdiModifier] else []).map Modifier.ofText)
      = ⟨cnwdi, []⟩ := by
    cases cnwdi with
    | false => rfl
    | true => rfl
  have hsigmas : ofList ((if ns.isEmpty then [] else [Modifier.sigmaText ns]).map Modifier.ofText)
      = ⟨false, ns⟩ := by
    by_cases hne : ns = []
    · rw [hne]
      rfl
    · rw [if_neg (by simpa using hne)]
      exact ofList_sigmaText hne h
  unfold texts
  rw [List.map_append, ofList_append, hcnwdi, hsigmas, Bool.or_false, List.nil_append]

/-- **The modifiers of a marking that is written from its parts say what the parts say.** -/
theorem ofText_renderParts (hname : '-' ∉ name) (h : ∀ n ∈ ns, 0 ≤ n ∧ isWritable n = true) :
    ofText (renderParts name cnwdi ns) = ⟨cnwdi, ns⟩ := by
  have hfree : ∀ p ∈ name :: texts cnwdi ns, '-' ∉ p :=
    List.forall_mem_cons.mpr
      ⟨hname, fun p hp => dash_not_mem_of_mem_texts (fun n hn => (h n hn).1) hp⟩
  have hpieces : pieces .dash (renderParts name cnwdi ns) = name :: texts cnwdi ns := by
    rw [renderParts_eq_join]
    exact pieces_join (List.cons_ne_nil _ _) hfree
  unfold ofText modifiersOfText
  rw [hpieces]
  exact ofList_texts fun n hn => (h n hn).2

end Modifiers

end SecurityMarking
