/-
What modifiers say does not depend on what stands around them.

A marking is cut at its dashes, each modifier is read by itself, and what they say is put
together in order.  So a dash anywhere divides a marking into two that are read apart:
`modifiersOfText_append_dash`.  What comes before the first dash is no modifier; a marking that
begins with a dash has nothing there, and all of it is modifiers.

Blanks at the ends of a modifier are trimmed, and what stands beside a dash is the end of a
modifier, or of the part before the first dash, which says nothing anyhow.  There is no dash among
blanks, so they never make a modifier of their own; one of blanks alone is an empty one.

The two words that begin a list of SIGMA categories are taken off before the list is read, and
what is left is the same.
-/
import SecurityMarking.Proofs.Aea.Modifiers

namespace SecurityMarking

open Text

variable {w : Text}

theorem dash_not_mem_blanks (h : ∀ c ∈ w, isBlank c = true) : '-' ∉ w :=
  fun hdash => absurd (h '-' hdash) (by decide)

/-! ### One modifier -/

namespace Modifier

theorem ofText_blanks_append (h : ∀ c ∈ w, isBlank c = true) (t : Text) :
    ofText (w ++ t) = ofText t := by
  unfold ofText
  rw [trim_blanks_append h]

theorem ofText_append_blanks (h : ∀ c ∈ w, isBlank c = true) (t : Text) :
    ofText (t ++ w) = ofText t := by
  unfold ofText
  rw [trim_append_blanks h]

/-- A list of SIGMA categories is the same behind either of its two words. -/
theorem ofText_shortSigmaModifier_append (r : Text) :
    ofText (shortSigmaModifier ++ r) = ofText (sigmaModifier ++ r) := by
  rw [ofText_of_trim_eq_shortSigma (isWord_shortSigmaModifier.trim_append r),
    ofText_of_trim_eq_sigma (isWord_sigmaModifier.trim_append r)]

end Modifier

/-! ### The modifiers of a marking -/

/-- Behind a dash at the beginning each piece is a modifier. -/
theorem modifiersOfText_dash_cons (t : Text) :
    modifiersOfText ('-' :: t) = (pieces .dash t).map Modifier.ofText := by
  have hpieces : pieces .dash ('-' :: t) = [] :: pieces .dash t := pieces_append_cons '-' [] t
  rw [modifiersOfText, hpieces, List.tail_cons]

/-- What has no dash in it and comes before a marking says nothing. -/
theorem modifiersOfText_append_of_not_mem (h : '-' ∉ w) (t : Text) :
    modifiersOfText (w ++ t) = modifiersOfText t := by
  have hpieces : pieces .dash (w ++ t) = (pieces .dash t).modifyHead (w ++ ·) :=
    pieces_append_of_not_mem h t
  unfold modifiersOfText
  rw [hpieces, List.tail_modifyHead]

/-- **The modifiers on the two sides of a dash are read apart.** -/
theorem modifiersOfText_append_dash (a b : Text) :
    modifiersOfText (a ++ '-' :: b) = modifiersOfText a ++ modifiersOfText ('-' :: b) := by
  have hpieces : pieces .dash (a ++ '-' :: b) = pieces .dash a ++ pieces .dash b :=
    pieces_append_cons '-' a b
  rw [modifiersOfText_dash_cons]
  unfold modifiersOfText
  rw [hpieces, List.tail_append_of_ne_nil (pieces_ne_nil .dash a), List.map_append]

theorem modifiersOfText_append_blanks (h : ∀ c ∈ w, isBlank c = true) (t : Text) :
    modifiersOfText (t ++ w) = modifiersOfText t := by
  obtain ⟨before, last, ht, hw⟩ := exists_pieces_append_of_not_mem (dash_not_mem_blanks h) t
  have hold : pieces .dash t = before ++ [last] := ht
  have hnew : pieces .dash (t ++ w) = before ++ [last ++ w] := hw
  unfold modifiersOfText
  rw [hold, hnew]
  cases before with
  | nil => rfl
  | cons p before => simp [Modifier.ofText_append_blanks h]

/-- What a modifier begins with can be replaced by what makes the same modifier. -/
theorem modifiersOfText_dash_congr {v : Text} (hw : '-' ∉ w) (hv : '-' ∉ v)
    (h : ∀ p, Modifier.ofText (w ++ p) = Modifier.ofText (v ++ p)) (t : Text) :
    modifiersOfText ('-' :: (w ++ t)) = modifiersOfText ('-' :: (v ++ t)) := by
  obtain ⟨p, ps, hp⟩ := List.exists_cons_of_ne_nil (pieces_ne_nil .dash t)
  have hpieces : ∀ {u : Text}, '-' ∉ u → pieces .dash (u ++ t) = (u ++ p) :: ps := by
    intro u hu
    have hhead : pieces .dash (u ++ t) = (pieces .dash t).modifyHead (u ++ ·) :=
      pieces_append_of_not_mem hu t
    rw [hhead, hp, List.modifyHead_cons]
  rw [modifiersOfText_dash_cons, modifiersOfText_dash_cons, hpieces hw, hpieces hv,
    List.map_cons, List.map_cons, h]

theorem modifiersOfText_dash_blanks (h : ∀ c ∈ w, isBlank c = true) (t : Text) :
    modifiersOfText ('-' :: (w ++ t)) = modifiersOfText ('-' :: t) :=
  modifiersOfText_dash_congr (dash_not_mem_blanks h) List.not_mem_nil
    (Modifier.ofText_blanks_append h) t

theorem modifiersOfText_dash_shortSigma (r : Text) :
    modifiersOfText ('-' :: (shortSigmaModifier ++ r))
      = modifiersOfText ('-' :: (sigmaModifier ++ r)) :=
  modifiersOfText_dash_congr (by decide) (by decide) Modifier.ofText_shortSigmaModifier_append r

namespace Modifiers

theorem ofText_append_dash (a b : Text) :
    ofText (a ++ '-' :: b)
      = ⟨(ofText a).cnwdi || (ofText ('-' :: b)).cnwdi,
          (ofText a).sigmas ++ (ofText ('-' :: b)).sigmas⟩ := by
  unfold ofText
  rw [modifiersOfText_append_dash, ofList_append]

/-- What is said does not change if what follows a dash has the same modifiers. -/
theorem ofText_append_dash_congr {a b b' : Text}
    (h : modifiersOfText ('-' :: b) = modifiersOfText ('-' :: b')) :
    ofText (a ++ '-' :: b) = ofText (a ++ '-' :: b') := by
  unfold ofText
  rw [modifiersOfText_append_dash, modifiersOfText_append_dash, h]

/--
**What the modifiers of a marking say, from what its parts say.**

At a dash the marking is divided into two, and both say what they say alone.  Blanks beside the
dash make no difference.  Nor does it make one whether a list of SIGMA categories begins with SG or
with SIGMA, wherever in the marking it stands; `r` is the list and all that comes after it.
-/
theorem ofText_compose (a b : Text) :
    ofText (a ++ '-' :: b)
        = ⟨(ofText a).cnwdi || (ofText ('-' :: b)).cnwdi,
            (ofText a).sigmas ++ (ofText ('-' :: b)).sigmas⟩ ∧
      ∀ w₁ w₂, (∀ c ∈ w₁, isBlank c = true) → (∀ c ∈ w₂, isBlank c = true) →
        ofText (a ++ w₁ ++ '-' :: (w₂ ++ b)) = ofText (a ++ '-' :: b) ∧
          ∀ r, ofText (a ++ '-' :: (w₂ ++ (shortSigmaModifier ++ r)))
            = ofText (a ++ '-' :: (w₂ ++ (sigmaModifier ++ r))) := by
  refine ⟨ofText_append_dash a b, ?_⟩
  intro w₁ w₂ h₁ h₂
  refine ⟨?_, ?_⟩
  · rw [ofText_append_dash_congr (modifiersOfText_dash_blanks h₂ b)]
    unfold ofText
    rw [modifiersOfText_append_dash, modifiersOfText_append_dash, modifiersOfText_append_blanks h₁]
  · intro r
    refine ofText_append_dash_congr ?_
    rw [modifiersOfText_dash_blanks h₂, modifiersOfText_dash_blanks h₂]
    exact modifiersOfText_dash_shortSigma r

/-- A tab and a space beside a dash, and a short list in the middle of a marking. -/
theorem ofText_padded :
    ofText "RD-N-SIGMA 3 X-SG1 12" = ⟨true, [3, 1, 12]⟩ ∧
      (∀ c ∈ ("\t" : Text), isBlank c = true) ∧ (∀ c ∈ (" " : Text), isBlank c = true) ∧
      ofText "RD-N\t- SIGMA 3 X-SG1 12" = ofText "RD-N-SIGMA 3 X-SG1 12" ∧
      ofText "RD-N- SG 3 X-SG1 12" = ofText "RD-N- SIGMA 3 X-SG1 12" := by
  have htab : ∀ c ∈ ("\t" : Text), isBlank c = true := List.all_eq_true.mp (by decide)
  have hspace : ∀ c ∈ (" " : Text), isBlank c = true := List.all_eq_true.mp (by decide)
  obtain ⟨hcompose, hblanks⟩ := ofText_compose "RD-N" "SIGMA 3 X-SG1 12"
  obtain ⟨hpadded, hshort⟩ := hblanks "\t" " " htab hspace
  refine ⟨?_, htab, hspace, hpadded, hshort " 3 X-SG1 12"⟩
  exact hcompose.trans (by decide)

end Modifiers

end SecurityMarking
