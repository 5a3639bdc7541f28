/-
How the controls of a registry are found.

An index of a registry holds exactly the uses that its controls declare, and no name
is used twice.  So what is found for a name is the one control that declares it, and
nothing is found exactly if none does: the order of the index, and which use would
come first, do not matter.  The three indexes have no part in each other, so that a
portion name is no banner name unless it is declared as one.

`Registry.FindsItsOwn` collects what this says of a registry as it is used: by banner
name, by portion name and by key.
-/
import SecurityMarking.Proofs.Registry.Building

namespace SecurityMarking

open Entry

variable {es : List Entry} {e : Entry} {v : Value}

theorem Index.find?_declared_eq_some_iff (space : NameSpace) (hes : ∀ e ∈ es, e.Textual)
    (h : Compatible es) (hv : v.IsText) :
    (declared (namesIn space) es).find? v = some e ↔ e ∈ es ∧ v ∈ e.namesIn space := by
  have htextual := textual_declared space hes
  -- Whatever is found is declared.
  have hsound : ∀ f, (declared (namesIn space) es).find? v = some f →
      (v, f) ∈ declared (namesIn space) es := by
    intro f hf
    obtain ⟨use, hfound, rfl⟩ := Option.map_eq_some_iff.mp hf
    have huse := List.mem_of_find?_eq_some hfound
    have hname : use.1 = v :=
      ((htextual use huse).1.same_iff hv).mp (by simpa using List.find?_some hfound)
    rw [← hname]
    exact huse
  refine ⟨?_, ?_⟩
  · intro hfound
    exact mem_declared.mp (hsound e hfound)
  · intro hused
    have huse : (v, e) ∈ declared (namesIn space) es := mem_declared.mpr hused
    cases hf : (declared (namesIn space) es).find? v with
    | none =>
        have hunused := (find?_eq_none_iff htextual hv).mp hf
        exact absurd (List.mem_map.mpr ⟨(v, e), huse, rfl⟩) hunused
    | some f =>
        have hnames : ((declared (namesIn space) es).map (·.1)).Nodup := by
          have hnodup := (h.usable space).2
          rw [← names_declared] at hnodup
          exact hnodup
        have heq : (v, f) = (v, e) := List.inj_on_of_nodup_map hnames (hsound f hf) huse rfl
        exact congrArg some (Prod.mk.inj heq).2

/-- A text is looked up by way of its index, where the empty one finds nothing. -/
theorem Index.find?_text_eq_some_iff (space : NameSpace) (hes : ∀ e ∈ es, e.Textual)
    (h : Compatible es) (t : Text) :
    (if t.isEmpty then none else (declared (namesIn space) es).find? (.text t)) = some e ↔
      e ∈ es ∧ .text t ∈ e.namesIn space := by
  by_cases ht : t = []
  · subst ht
    refine ⟨?_, ?_⟩
    · intro hnone
      cases hnone
    · rintro ⟨he, hempty⟩
      exact absurd (List.mem_flatMap.mpr ⟨e, he, hempty⟩) (h.usable space).1
  · rw [if_neg (by simpa using ht)]
    exact find?_declared_eq_some_iff space hes h ⟨t, rfl⟩

/-! ### Registries -/

namespace Registry

/-- How the controls of a registry are found. -/
structure FindsItsOwn (r : Registry) : Prop where
  /-- A banner name finds the control that lists it as one, and no other. -/
  bannerName : ∀ t e,
    r.findByBannerName? (some t) = some e ↔ e ∈ r.entries ∧ .text t ∈ e.bannerNames
  /-- A portion name finds the control that lists it as one, and no other. -/
  portionName : ∀ t e,
    r.findByPortionName? (some t) = some e ↔ e ∈ r.entries ∧ .text t ∈ e.portionNames
  /-- A key gets the control that has it. -/
  get : ∀ t e, r.get (.text t) = .ok e ↔ e ∈ r.entries ∧ e.key = .text t
  /-- A text is a key of the registry or is refused as unknown. -/
  contains : ∀ t,
    (r.contains (.text t) = .ok true ∧ ∃ e, r.get (.text t) = .ok e) ∨
      (r.contains (.text t) = .ok false ∧
        r.get (.text t) = .error (.unknownControl (.scalar r.name) (.text t)))
  /-- Each control is found by its key and by the names that it is shown by, which are its first
  ones. -/
  own : ∀ e ∈ r.entries, r.get e.key = .ok e ∧
    (∃ n, e.name = .ok (.text n) ∧ e.bannerNames.head? = some (.text n) ∧
      r.findByBannerName? (some n) = some e) ∧
    ∃ p, e.portionName = .ok (.text p) ∧ e.portionNames.head? = some (.text p) ∧
      r.findByPortionName? (some p) = some e

theorem get_eq_ok_iff (r : Registry) (v : Value) : r.get v = .ok e ↔ r.find? v = some e := by
  unfold get
  cases r.find? v with
  | none => simp
  | some f => simp

theorem contains_text (r : Registry) (t : Text) :
    (r.contains (.text t) = .ok true ∧ ∃ e, r.get (.text t) = .ok e) ∨
      (r.contains (.text t) = .ok false ∧
        r.get (.text t) = .error (.unknownControl (.scalar r.name) (.text t))) := by
  have hkey : (Value.text t).keyFault? = none := rfl
  unfold contains get
  rw [hkey]
  cases r.find? (.text t) with
  | none => exact Or.inr ⟨rfl, rfl⟩
  | some e => exact Or.inl ⟨rfl, e, rfl⟩

theorem exists_firstName {names : List Value} (hne : names ≠ []) (h : ∀ v ∈ names, v.IsText) :
    ∃ n, Entry.firstName names = .ok (.text n) ∧ names.head? = some (.text n) ∧
      .text n ∈ names := by
  obtain ⟨v, rest, rfl⟩ := List.exists_cons_of_ne_nil hne
  obtain ⟨n, rfl⟩ := h v List.mem_cons_self
  exact ⟨n, rfl, rfl, List.mem_cons_self⟩

/-- **A registry of compatible controls finds each of them by what it declares.** -/
theorem findsItsOwn_of_compatible (name : Scalar) (hes : ∀ e ∈ es, e.Textual)
    (h : Compatible es) : FindsItsOwn ⟨name, es, Indexes.declared es⟩ := by
  have hbanner := fun t e => Index.find?_text_eq_some_iff (e := e) .bannerName hes h t
  have hportion := fun t e => Index.find?_text_eq_some_iff (e := e) .portionName hes h t
  have hkey : ∀ v : Value, v.IsText → ∀ e,
      Registry.get ⟨name, es, Indexes.declared es⟩ v = .ok e ↔ e ∈ es ∧ e.key = v := by
    intro v hv e
    have hfind := Index.find?_declared_eq_some_iff (e := e) .key hes h hv
    rw [namesIn, List.mem_singleton] at hfind
    rw [get_eq_ok_iff, eq_comm (a := e.key)]
    exact hfind
  refine ⟨hbanner, hportion, fun t e => hkey (.text t) ⟨t, rfl⟩ e, contains_text _, ?_⟩
  intro e he
  have htextual := hes e he
  obtain ⟨n, hname, hhead, hn⟩ := exists_firstName (h.named e he).1 htextual.bannerNames
  obtain ⟨p, hportionName, hportionHead, hp⟩ :=
    exists_firstName (h.named e he).2 htextual.portionNames
  exact ⟨(hkey e.key htextual.key e).mpr ⟨he, rfl⟩,
    ⟨n, hname, hhead, (hbanner n e).mpr ⟨he, hn⟩⟩,
    ⟨p, hportionName, hportionHead, (hportion p e).mpr ⟨he, hp⟩⟩⟩

end Registry

end SecurityMarking
