/-
The four questions that are asked of the beginning of a text.

Three of them go through the names of all controls in one list, and the fourth goes
through the controls one by one.  They have one answer between them, because a name in the
one list is a name of some control: there is a name at the beginning exactly if a control
has one, and then the control that is found is the first of those that do, whatever names
they share and whether one of them is empty.

A name that begins a text still begins it when the text runs on.  So with more text the
control that is found can only be one that is declared earlier: `FirstAt.append`.
-/
import SecurityMarking.Proofs.Registry.PrefixMatch

namespace SecurityMarking.PrefixMatch

open Entry

variable {e f : Entry} {es : List Entry} {t : Text} {i : Nat}

/-! ### The names of all controls -/

/-- The names of one sort of all controls are asked at once as they are control by control. -/
theorem beginsWithName_flatMap_spec {sort : Entry → List Value}
    (h : ∀ e ∈ es, ∀ v ∈ sort e, v.IsText) (t : Text) :
    ∃ b, beginsWithName t (es.flatMap sort) = .ok b ∧
      (b = true ↔ ∃ e ∈ es, ∃ n, .text n ∈ sort e ∧ n <+: t) := by
  have htexts : ∀ v ∈ es.flatMap sort, v.IsText := by
    intro v hv
    obtain ⟨e, he, hve⟩ := List.mem_flatMap.mp hv
    exact h e he v hve
  obtain ⟨b, hb, hiff⟩ := beginsWithName_spec htexts t
  refine ⟨b, hb, hiff.trans ⟨?_, ?_⟩⟩
  · rintro ⟨n, hn, hnt⟩
    obtain ⟨e, he, hne⟩ := List.mem_flatMap.mp hn
    exact ⟨e, he, n, hne, hnt⟩
  · rintro ⟨e, he, n, hne, hnt⟩
    exact ⟨n, List.mem_flatMap.mpr ⟨e, he, hne⟩, hnt⟩

theorem exists_begins_iff :
    (∃ e ∈ es, e.Begins t) ↔
      (∃ e ∈ es, ∃ n, .text n ∈ e.bannerNames ∧ n <+: t) ∨
        ∃ e ∈ es, ∃ n, .text n ∈ e.portionNames ∧ n <+: t := by
  simp only [begins_iff, and_or_left, exists_or]

/-! ### The first position -/

/-- The control stands at the position and begins the text, and none before it does. -/
structure FirstAt (es : List Entry) (t : Text) (i : Nat) (e : Entry) : Prop where
  stands : es[i]? = some e
  begins : e.Begins t
  first : ∀ j < i, ∀ f, es[j]? = some f → ¬ f.Begins t

/-- **What is found is the control at the first position where one begins the text.** -/
theorem firstMatch?_eq_some_iff (hes : ∀ e ∈ es, e.NamedByTexts) :
    firstMatch? t es = .ok (some e) ↔ ∃ i, FirstAt es t i e := by
  rw [firstMatch?_eq_find? hes, Except.ok.injEq, List.find?_eq_some_iff_getElem]
  refine ⟨?_, ?_⟩
  · rintro ⟨hbegins, i, hi, hstands, hfirst⟩
    refine ⟨i, List.getElem?_eq_some_iff.mpr ⟨hi, hstands⟩, by simpa using hbegins, ?_⟩
    intro j hj f hf
    obtain ⟨hlt, rfl⟩ := List.getElem?_eq_some_iff.mp hf
    simpa using hfirst j hj
  · rintro ⟨i, hstands, hbegins, hfirst⟩
    obtain ⟨hi, hstands⟩ := List.getElem?_eq_some_iff.mp hstands
    refine ⟨by simpa using hbegins, i, hi, hstands, ?_⟩
    intro j hj
    simpa using hfirst j hj _ (List.getElem?_eq_getElem (by omega))

theorem firstMatch?_eq_none_iff (hes : ∀ e ∈ es, e.NamedByTexts) :
    firstMatch? t es = .ok none ↔ ¬ ∃ e ∈ es, e.Begins t := by
  rw [firstMatch?_eq_find? hes, Except.ok.injEq, List.find?_eq_none]
  simp

theorem FirstAt.le_of_begins (h : FirstAt es t i e) {j : Nat} (hj : es[j]? = some f)
    (hf : f.Begins t) : i ≤ j := by
  by_contra hlt
  exact h.first j (Nat.lt_of_not_le hlt) f hj hf

/-- With more text, the first position is the same or an earlier one. -/
theorem FirstAt.append (hes : ∀ e ∈ es, e.NamedByTexts) (h : FirstAt es t i e) (u : Text) :
    ∃ j ≤ i, ∃ f, FirstAt es (t ++ u) j f := by
  have hbegins : e.Begins (t ++ u) := h.begins.of_prefix (List.prefix_append t u)
  have hsome : ∃ e ∈ es, e.Begins (t ++ u) := ⟨e, List.mem_of_getElem? h.stands, hbegins⟩
  cases hfound : firstMatch? (t ++ u) es with
  | error failure =>
      rw [firstMatch?_eq_find? hes] at hfound
      cases hfound
  | ok found =>
      cases found with
      | none => exact absurd hsome ((firstMatch?_eq_none_iff hes).mp hfound)
      | some f =>
          obtain ⟨j, hj⟩ := (firstMatch?_eq_some_iff hes).mp hfound
          exact ⟨j, hj.le_of_begins h.stands hbegins, f, hj⟩

/-! ### Agreement -/

/--
**The questions agree.**

All four are answered.  A text begins with a name exactly if it begins with a banner name or
with a portion name, exactly if a control is found, and exactly if a name of some control
begins it.  The control that is found stands at the first position where one begins the
text, and with more text behind it one at that position or before is found.
-/
theorem questions_agree (hes : ∀ e ∈ es, e.NamedByTexts) (t : Text) :
    ∃ banner portion any found,
      beginsWithBannerName es (some t) = .ok banner ∧
      beginsWithPortionName es (some t) = .ok portion ∧
      beginsWithAnyName es (some t) = .ok any ∧
      find? es (some t) = .ok found ∧
      (banner = true ↔ ∃ e ∈ es, ∃ n, .text n ∈ e.bannerNames ∧ n <+: t) ∧
      (portion = true ↔ ∃ e ∈ es, ∃ n, .text n ∈ e.portionNames ∧ n <+: t) ∧
      (any = true ↔ banner = true ∨ portion = true) ∧
      (any = true ↔ found ≠ none) ∧
      (any = true ↔ ∃ e ∈ es, e.Begins t) ∧
      (∀ e, found = some e ↔ ∃ i, FirstAt es t i e) ∧
      ∀ (u : Text) (i : Nat) (e : Entry), es[i]? = some e → found = some e →
        ∃ j ≤ i, ∃ f, es[j]? = some f ∧ find? es (some (t ++ u)) = .ok (some f) := by
  obtain ⟨banner, hbanner, hbannerIff⟩ :=
    beginsWithName_flatMap_spec (fun e he => (hes e he).bannerNames) t
  obtain ⟨portion, hportion, hportionIff⟩ :=
    beginsWithName_flatMap_spec (fun e he => (hes e he).portionNames) t
  have hany : beginsWithAnyName es (some t) = .ok (banner || portion) := by
    show (do if ← beginsWithName t (es.flatMap bannerNames) then return true
             beginsWithName t (es.flatMap portionNames)) = _
    rw [hbanner]
    cases banner with
    | true => rfl
    | false => exact hportion
  have hsorts : (banner || portion) = true ↔ banner = true ∨ portion = true := by simp
  have hbegins : (banner || portion) = true ↔ ∃ e ∈ es, e.Begins t := by
    rw [hsorts, hbannerIff, hportionIff]
    exact exists_begins_iff.symm
  obtain ⟨found, hfound⟩ : ∃ found, firstMatch? t es = .ok found :=
    ⟨_, firstMatch?_eq_find? hes t⟩
  have hnone : found = none ↔ ¬ ∃ e ∈ es, e.Begins t := by
    rw [← firstMatch?_eq_none_iff hes, hfound, Except.ok.injEq]
  have hfirst : ∀ e, found = some e ↔ ∃ i, FirstAt es t i e := by
    intro e
    rw [← firstMatch?_eq_some_iff hes, hfound, Except.ok.injEq]
  refine ⟨banner, portion, banner || portion, found, hbanner, hportion, hany, hfound,
    hbannerIff, hportionIff, hsorts, ?_, hbegins, hfirst, ?_⟩
  · rw [hbegins, ne_eq, hnone, not_not]
  · intro u i e hi he
    obtain ⟨k, hk⟩ := (hfirst e).mp he
    obtain ⟨j, hj, f, hf⟩ := hk.append hes u
    have hki : k ≤ i := hk.le_of_begins hi hk.begins
    exact ⟨j, Nat.le_trans hj hki, f, hf.stands, (firstMatch?_eq_some_iff hes).mpr ⟨j, hf⟩⟩

/-- Controls as no registry has them: one without names, one without a portion name, and one with an
empty name. -/
def looseEntries : List Entry :=
  [.ofTexts "NONE" 0 [] [], .ofTexts "LES_NOFORN" 1 ["LES NOFORN"] [],
    .ofTexts "LES" 2 ["LES"] ["", "LES"]]

/-- The last control begins every text, and the one before it takes the text that runs on. -/
theorem questions_agree_loose :
    (∀ e ∈ looseEntries, e.NamedByTexts) ∧
      beginsWithAnyName looseEntries (some "LES") = .ok true ∧
      find? looseEntries (some "LES") = .ok (some (.ofTexts "LES" 2 ["LES"] ["", "LES"])) ∧
      ∃ j ≤ 2, ∃ f, looseEntries[j]? = some f ∧
        find? looseEntries (some ("LES" ++ " NOFORN")) = .ok (some f) := by
  have hnamed : ∀ e ∈ looseEntries, e.NamedByTexts := by
    simp only [looseEntries, List.forall_mem_cons, List.not_mem_nil, false_imp_iff, implies_true,
      and_true]
    exact ⟨(textual_ofTexts _ _ _ _).namedByTexts, (textual_ofTexts _ _ _ _).namedByTexts,
      (textual_ofTexts _ _ _ _).namedByTexts⟩
  obtain ⟨banner, portion, any, found, -, -, hany, hfound, -, -, -, hfinds, -, -, hmore⟩ :=
    questions_agree hnamed "LES"
  have hlast : find? looseEntries (some "LES") = .ok (some (.ofTexts "LES" 2 ["LES"] ["", "LES"])) :=
    rfl
  have hsome : found = some (.ofTexts "LES" 2 ["LES"] ["", "LES"]) :=
    Except.ok.inj (hfound.symm.trans hlast)
  have htrue : any = true := hfinds.mpr (by simp [hsome])
  exact ⟨hnamed, htrue ▸ hany, hlast, hmore " NOFORN" 2 _ rfl hsome⟩

end SecurityMarking.PrefixMatch
