/-
When controls can stand together in a registry.

A registry is built control by control: its key and each of its names is added to
the index of its sort, and the first one that is empty or in its index already ends
the building.  Seen as a whole, the controls are accepted exactly if each of them has
a banner name and a portion name, no key or name is empty, and no key, no banner name
and no portion name occurs twice.  That is `Entry.Compatible`, a condition on the list
of controls that does not speak of indexes or of an order of checks.

The invariant that ties the two together is the closed form of the indexes.  Each of
the three holds the uses of its sort that the controls so far declare, in order and
with nothing else, `Indexes.declared`.  So a name is in the index if and only if a
control so far declares it, and the checks made for one more control are what the
condition says of the list with that control at its end.

All of this is about controls whose key and names are texts.
-/
import Mathlib.Data.List.Nodup
import SecurityMarking.Registry.Basic

namespace SecurityMarking

/-! ### Steps that can fail -/

/-- What a result that was come to in two steps was come to by. -/
theorem bind_eq_ok {ε α β : Type} {r : Except ε α} {f : α → Except ε β} {y : β}
    (h : r >>= f = .ok y) : ∃ x, r = .ok x ∧ f x = .ok y := by
  cases r with
  | ok x => exact ⟨x, rfl, h⟩
  | error e => cases h

/-- A failure of two steps comes of the first, or of the second. -/
theorem bind_eq_error {ε α β : Type} {r : Except ε α} {f : α → Except ε β} {err : ε}
    (h : r >>= f = .error err) : r = .error err ∨ ∃ x, r = .ok x ∧ f x = .error err := by
  cases r with
  | ok x => exact Or.inr ⟨x, rfl, h⟩
  | error e =>
      cases h
      exact Or.inl rfl

/-! ### Checks that say what is wrong -/

/-- `r` is the answer `x` if `p` holds, and otherwise a fault of the configuration. -/
def Settles {α : Type} (p : Prop) (x : α) (r : Except Failure α) : Prop :=
  (p ∧ r = .ok x) ∨ (¬ p ∧ ∃ fault, r = .error (.configuration fault))

namespace Settles

variable {α β : Type} {p q : Prop} {x : α} {y : β} {r : Except Failure α}

theorem ok (x : α) (h : p) : Settles p x (.ok x) := Or.inl ⟨h, rfl⟩

theorem fault {f : ConfigurationFault} (h : ¬ p) : Settles p x (.error (.configuration f)) :=
  Or.inr ⟨h, f, rfl⟩

theorem congr (h : Settles p x r) (hpq : p ↔ q) : Settles q x r := by
  rcases h with ⟨hp, hr⟩ | ⟨hp, hr⟩
  · exact Or.inl ⟨hpq.mp hp, hr⟩
  · exact Or.inr ⟨fun hq => hp (hpq.mpr hq), hr⟩

/-- One check after another: the second is made only if the first has held. -/
theorem bind {f : α → Except Failure β} (h : Settles p x r) (hf : p → Settles q y (f x)) :
    Settles (p ∧ q) y (r >>= f) := by
  rcases h with ⟨hp, rfl⟩ | ⟨hp, fault, rfl⟩
  · exact (hf hp).congr ⟨fun hq => ⟨hp, hq⟩, fun hpq => hpq.2⟩
  · exact Or.inr ⟨fun hpq => hp hpq.1, fault, rfl⟩

theorem ok_iff (h : Settles p x r) (x' : α) : r = .ok x' ↔ p ∧ x' = x := by
  rcases h with ⟨hp, rfl⟩ | ⟨hp, fault, rfl⟩
  · refine ⟨?_, ?_⟩
    · intro heq
      cases heq
      exact ⟨hp, rfl⟩
    · rintro ⟨-, rfl⟩
      rfl
  · refine ⟨?_, ?_⟩
    · intro heq
      cases heq
    · rintro ⟨hp', -⟩
      exact absurd hp' hp

end Settles

/-! ### Texts among the values -/

/-- The value is a text. -/
def Value.IsText (v : Value) : Prop := ∃ t, v = .text t

theorem Value.IsText.isWritable {v : Value} (h : v.IsText) : v.isWritable = true := by
  obtain ⟨t, rfl⟩ := h
  rfl

theorem Value.IsText.same_iff {v w : Value} (hv : v.IsText) (hw : w.IsText) :
    v.same w = true ↔ v = w := by
  obtain ⟨s, rfl⟩ := hv
  obtain ⟨t, rfl⟩ := hw
  simp

/-- A fault that shows nothing but texts can be written, and so is what is raised. -/
theorem ConfigurationFault.raised_of_texts {f : ConfigurationFault}
    (htexts : ∀ v ∈ f.shownValues, v.IsText) : f.raised = .configuration f := by
  have hwritable : f.shownValues.all Value.isWritable = true :=
    List.all_eq_true.mpr fun v hv => (htexts v hv).isWritable
  rw [raised, if_pos hwritable]

/-- The key and the names of the control are texts. -/
structure Entry.Textual (e : Entry) : Prop where
  key : e.key.IsText
  bannerNames : ∀ v ∈ e.bannerNames, v.IsText
  portionNames : ∀ v ∈ e.portionNames, v.IsText

theorem Entry.textual_ofTexts (key : Text) (ordinal : Int) (bannerNames portionNames : List Text) :
    (Entry.ofTexts key ordinal bannerNames portionNames).Textual := by
  refine ⟨⟨key, rfl⟩, ?_, ?_⟩
  · intro v hv
    obtain ⟨t, -, rfl⟩ := List.mem_map.mp hv
    exact ⟨t, rfl⟩
  · intro v hv
    obtain ⟨t, -, rfl⟩ := List.mem_map.mp hv
    exact ⟨t, rfl⟩

/-- The names of one sort that the control uses, its key among them. -/
def Entry.namesIn : NameSpace → Entry → List Value
  | .key, e => [e.key]
  | .bannerName, e => e.bannerNames
  | .portionName, e => e.portionNames

theorem Entry.Textual.namesIn {e : Entry} (he : e.Textual) (space : NameSpace) :
    ∀ v ∈ e.namesIn space, v.IsText := by
  cases space with
  | key => exact fun v hv => List.mem_singleton.mp hv ▸ he.key
  | bannerName => exact he.bannerNames
  | portionName => exact he.portionNames

/-- Names that can all be used: none is empty and none occurs twice. -/
def Usable (names : List Value) : Prop := .text [] ∉ names ∧ names.Nodup

theorem usable_nil : Usable [] := ⟨List.not_mem_nil, List.nodup_nil⟩

theorem usable_append_singleton {names : List Value} {v : Value} (h : Usable names) :
    Usable (names ++ [v]) ↔ v ≠ .text [] ∧ v ∉ names := by
  unfold Usable
  rw [List.nodup_append, List.mem_append, List.mem_singleton]
  refine ⟨?_, ?_⟩
  · rintro ⟨hempty, -, -, hnew⟩
    exact ⟨fun hv => hempty (Or.inr hv.symm), fun hv => hnew v hv v List.mem_cons_self rfl⟩
  · rintro ⟨hempty, hnew⟩
    refine ⟨?_, h.2, List.nodup_singleton v, ?_⟩
    · rintro (hin | hv)
      · exact h.1 hin
      · exact hempty hv.symm
    · intro a ha b hb hab
      rw [List.mem_singleton] at hb
      exact hnew (hb ▸ hab ▸ ha)

theorem Usable.of_append {names more : List Value} (h : Usable (names ++ more)) : Usable names :=
  ⟨fun hin => h.1 (List.mem_append_left more hin), (List.nodup_append.mp h.2).1⟩

/-! ### One index -/

namespace Index

open Entry

variable {ix : Index} {e : Entry} {v : Value} {registry : Scalar} {space : NameSpace}

/-- The names that are in use. -/
def names (ix : Index) : List Value := ix.map (·.1)

/-- The names in use are texts, and so are the keys of the controls that use them. -/
def Textual (ix : Index) : Prop := ∀ use ∈ ix, use.1.IsText ∧ use.2.key.IsText

/-- The uses of names of one sort that controls declare. -/
def declared (sort : Entry → List Value) (es : List Entry) : Index :=
  es.flatMap fun e => (sort e).map fun v => (v, e)

theorem mem_declared {sort : Entry → List Value} {es : List Entry} :
    (v, e) ∈ declared sort es ↔ e ∈ es ∧ v ∈ sort e := by
  simp [declared]

theorem names_declared (sort : Entry → List Value) (es : List Entry) :
    (declared sort es).names = es.flatMap sort := by
  simp [names, declared, List.map_flatMap, Function.comp_def]

theorem declared_append (sort : Entry → List Value) (es fs : List Entry) :
    declared sort (es ++ fs) = declared sort es ++ declared sort fs :=
  List.flatMap_append

theorem declared_singleton (sort : Entry → List Value) (e : Entry) :
    declared sort [e] = (sort e).map fun v => (v, e) :=
  List.flatMap_singleton _ e

theorem textual_declared (space : NameSpace) {es : List Entry} (hes : ∀ e ∈ es, e.Textual) :
    (declared (namesIn space) es).Textual := by
  rintro ⟨v, f⟩ huse
  obtain ⟨hf, hv⟩ := mem_declared.mp huse
  exact ⟨(hes f hf).namesIn space v hv, (hes f hf).key⟩

theorem find?_eq_none_iff (hix : ix.Textual) (hv : v.IsText) :
    ix.find? v = none ↔ v ∉ ix.names := by
  unfold find? names
  rw [Option.map_eq_none_iff, List.find?_eq_none]
  refine ⟨?_, ?_⟩
  · intro h hin
    obtain ⟨use, huse, rfl⟩ := List.mem_map.mp hin
    exact h use huse ((Value.IsText.same_iff hv hv).mpr rfl)
  · intro h use huse hsame
    have heq : use.1 = v := ((hix use huse).1.same_iff hv).mp hsame
    exact h (List.mem_map.mpr ⟨use, huse, heq⟩)

/-- A name is empty, or in use already, or it is added. -/
theorem add_cases (registry : Scalar) (space : NameSpace) (hix : ix.Textual) (hv : v.IsText)
    (hkey : e.key.IsText) :
    (v = .text [] ∧ ix.add registry space e v
        = .error (.configuration (.emptyName registry space e.key))) ∨
      (∃ first, ix.find? v = some first ∧ ix.add registry space e v
        = .error (.configuration (.sharedName registry space v first.key e.key))) ∨
      (v ≠ .text [] ∧ ix.find? v = none ∧ ix.add registry space e v = .ok (ix ++ [(v, e)])) := by
  obtain ⟨t, rfl⟩ := hv
  unfold add
  by_cases hempty : t = []
  · subst hempty
    rw [if_neg (by decide), ConfigurationFault.raised_of_texts]
    · exact Or.inl ⟨rfl, rfl⟩
    · simpa [ConfigurationFault.shownValues] using hkey
  · have hfilled : (Value.text t).isFilled = true := by
      simp [Value.isFilled, Scalar.isFilled, hempty]
    rw [if_pos hfilled]
    cases hfind : ix.find? (.text t) with
    | none => exact Or.inr (Or.inr ⟨by simpa using hempty, rfl, rfl⟩)
    | some first =>
        obtain ⟨use, hfound, rfl⟩ := Option.map_eq_some_iff.mp hfind
        have hfirst := (hix use (List.mem_of_find?_eq_some hfound)).2
        have hname : (Value.text t).IsText := ⟨t, rfl⟩
        have hraised := ConfigurationFault.raised_of_texts
          (f := .sharedName registry space (.text t) use.2.key e.key)
          (by simp [ConfigurationFault.shownValues, hname, hfirst, hkey])
        exact Or.inr (Or.inl ⟨use.2, rfl, congrArg Except.error hraised⟩)

theorem settles_add (hix : ix.Textual) (hv : v.IsText) (hkey : e.key.IsText) :
    Settles (v ≠ .text [] ∧ v ∉ ix.names) (ix ++ [(v, e)]) (ix.add registry space e v) := by
  rw [← find?_eq_none_iff hix hv]
  rcases add_cases registry space hix hv hkey with
    ⟨hempty, hadd⟩ | ⟨first, hfind, hadd⟩ | ⟨hfilled, hfind, hadd⟩
  · rw [hadd]
    exact Settles.fault fun h => h.1 hempty
  · rw [hadd]
    refine Settles.fault fun h => ?_
    rw [h.2] at hfind
    cases hfind
  · rw [hadd]
    exact Settles.ok _ ⟨hfilled, hfind⟩

theorem Textual.append_uses (hix : ix.Textual) (vs : List Value) (hvs : ∀ v ∈ vs, v.IsText)
    (hkey : e.key.IsText) : Textual (ix ++ vs.map fun v => (v, e)) := by
  intro use huse
  rcases List.mem_append.mp huse with huse | huse
  · exact hix use huse
  · obtain ⟨v, hv, rfl⟩ := List.mem_map.mp huse
    exact ⟨hvs v hv, hkey⟩

/-- **Several names are added exactly if they can all be used beside those in use.** -/
theorem settles_foldlM_add (registry : Scalar) (space : NameSpace) (hkey : e.key.IsText) :
    ∀ (vs : List Value) (ix : Index), ix.Textual → Usable ix.names → (∀ v ∈ vs, v.IsText) →
      Settles (Usable (ix.names ++ vs)) (ix ++ vs.map fun v => (v, e))
        (vs.foldlM (add registry space e) ix) := by
  intro vs
  induction vs with
  | nil =>
      intro ix _ husable _
      rw [List.append_nil, List.map_nil, List.append_nil]
      exact Settles.ok ix husable
  | cons v rest ih =>
      intro ix hix husable hvs
      have hv : v.IsText := hvs v List.mem_cons_self
      have hnames : Index.names (ix ++ [(v, e)]) = ix.names ++ [v] := by simp [names]
      have hone := usable_append_singleton (v := v) husable
      have hassoc : ix.names ++ v :: rest = ix.names ++ [v] ++ rest := by simp
      rw [List.foldlM_cons, hassoc]
      refine Settles.congr (Settles.bind (settles_add hix hv hkey) fun hnew => ?_)
        ⟨fun h => h.2, fun h => ⟨hone.mp h.of_append, h⟩⟩
      have hrest := ih (ix ++ [(v, e)]) (hix.append_uses [v] (by simpa using hv) hkey)
        (by rw [hnames]; exact hone.mpr hnew) fun w hw => hvs w (List.mem_cons_of_mem v hw)
      rw [hnames] at hrest
      simpa using hrest

end Index

/-! ### All three indexes -/

namespace Entry

/-- Controls that can stand together. -/
structure Compatible (es : List Entry) : Prop where
  /-- Each control has a name of each sort. -/
  named : ∀ e ∈ es, e.bannerNames ≠ [] ∧ e.portionNames ≠ []
  keys : Usable (es.map Entry.key)
  bannerNames : Usable (es.flatMap Entry.bannerNames)
  portionNames : Usable (es.flatMap Entry.portionNames)

theorem compatible_nil : Compatible [] := ⟨by simp, usable_nil, usable_nil, usable_nil⟩

variable {es fs : List Entry} {e : Entry}

theorem Compatible.of_append (h : Compatible (es ++ fs)) : Compatible es := by
  refine ⟨fun e he => h.named e (List.mem_append_left fs he), ?_, ?_, ?_⟩
  · exact Usable.of_append (List.map_append ▸ h.keys)
  · exact Usable.of_append (List.flatMap_append ▸ h.bannerNames)
  · exact Usable.of_append (List.flatMap_append ▸ h.portionNames)

theorem Compatible.usable (h : Compatible es) (space : NameSpace) :
    Usable (es.flatMap (namesIn space)) := by
  cases space with
  | key => exact List.map_eq_flatMap ▸ h.keys
  | bannerName => exact h.bannerNames
  | portionName => exact h.portionNames

theorem Compatible.nodup (h : Compatible es) : es.Nodup := List.Nodup.of_map Entry.key h.keys.2

/-- What one more control has to satisfy. -/
theorem compatible_append_singleton (h : Compatible es) :
    Compatible (es ++ [e]) ↔
      (e.bannerNames ≠ [] ∧ e.portionNames ≠ []) ∧ Usable (es.map Entry.key ++ [e.key]) ∧
        Usable (es.flatMap Entry.bannerNames ++ e.bannerNames) ∧
        Usable (es.flatMap Entry.portionNames ++ e.portionNames) := by
  refine ⟨?_, ?_⟩
  · intro hall
    refine ⟨hall.named e (by simp), ?_, ?_, ?_⟩
    · simpa using hall.keys
    · simpa using hall.bannerNames
    · simpa using hall.portionNames
  · rintro ⟨hnamed, hkeys, hbanner, hportion⟩
    refine ⟨?_, by simpa using hkeys, by simpa using hbanner, by simpa using hportion⟩
    intro f hf
    rcases List.mem_append.mp hf with hf | hf
    · exact h.named f hf
    · rw [List.mem_singleton] at hf
      exact hf ▸ hnamed

end Entry

namespace Indexes

open Entry

variable {es : List Entry} {e : Entry}

/-- The indexes of what controls declare. -/
def declared (es : List Entry) : Indexes :=
  ⟨Index.declared (fun e => [e.key]) es, Index.declared Entry.bannerNames es,
    Index.declared Entry.portionNames es⟩

/-- One index takes the names of one more control exactly if they can be used beside those that are
declared. -/
theorem settles_declared (registry : Scalar) (space : NameSpace) (hes : ∀ e ∈ es, e.Textual)
    (he : e.Textual) (h : Compatible es) :
    Settles (Usable (es.flatMap (namesIn space) ++ e.namesIn space))
      (Index.declared (namesIn space) (es ++ [e]))
      ((e.namesIn space).foldlM (Index.add registry space e)
        (Index.declared (namesIn space) es)) := by
  have hadd := Index.settles_foldlM_add registry space he.key (e.namesIn space)
    (Index.declared (namesIn space) es) (Index.textual_declared space hes)
    (by rw [Index.names_declared]; exact h.usable space) (he.namesIn space)
  rwa [Index.names_declared, ← Index.declared_singleton, ← Index.declared_append] at hadd

/-- A control without a name of one of the sorts is refused for that. -/
theorem add_of_not_named (registry : Scalar) (ixs : Indexes) (hkey : e.key.IsText)
    (h : ¬ (e.bannerNames ≠ [] ∧ e.portionNames ≠ [])) :
    add registry ixs e = .error (.configuration (.noNames registry e.key)) := by
  have hlacks : (e.bannerNames.isEmpty || e.portionNames.isEmpty) = true := by
    by_contra hsome
    exact h (by simpa using hsome)
  unfold add
  rw [if_pos hlacks, ConfigurationFault.raised_of_texts]
  simpa [ConfigurationFault.shownValues] using hkey

/-- A control with names of both sorts is added to one index after another. -/
theorem add_of_named (registry : Scalar) (ixs : Indexes)
    (h : e.bannerNames ≠ [] ∧ e.portionNames ≠ []) :
    add registry ixs e = do
      let keys ← (e.namesIn .key).foldlM (Index.add registry .key e) ixs.keys
      let bannerNames ← (e.namesIn .bannerName).foldlM (Index.add registry .bannerName e)
        ixs.bannerNames
      let portionNames ← (e.namesIn .portionName).foldlM (Index.add registry .portionName e)
        ixs.portionNames
      return ⟨keys, bannerNames, portionNames⟩ := by
  unfold add
  rw [if_neg (by simpa using h)]
  simp only [namesIn, List.foldlM_cons, List.foldlM_nil, bind_pure]

/-- **One more control is added exactly if it is compatible with those before it.** -/
theorem settles_add (registry : Scalar) (hes : ∀ e ∈ es, e.Textual) (he : e.Textual)
    (h : Compatible es) :
    Settles (Compatible (es ++ [e])) (declared (es ++ [e])) (add registry (declared es) e) := by
  refine Settles.congr ?_ (compatible_append_singleton h).symm
  by_cases hnamed : e.bannerNames ≠ [] ∧ e.portionNames ≠ []
  · have hkeys := settles_declared registry .key hes he h
    have hbanner := settles_declared registry .bannerName hes he h
    have hportion := settles_declared registry .portionName hes he h
    rw [add_of_named registry _ hnamed, List.map_eq_flatMap]
    refine Settles.congr (Settles.bind hkeys fun _ => Settles.bind hbanner fun _ =>
      Settles.bind hportion fun _ => Settles.ok (declared (es ++ [e])) trivial) ⟨?_, ?_⟩
    · rintro ⟨hk, hb, hp, -⟩
      exact ⟨hnamed, hk, hb, hp⟩
    · rintro ⟨-, hk, hb, hp⟩
      exact ⟨hk, hb, hp, trivial⟩
  · rw [add_of_not_named registry _ he.key hnamed]
    exact Settles.fault fun hall => hnamed hall.1

theorem settles_foldlM_add (registry : Scalar) :
    ∀ (fs es : List Entry), (∀ e ∈ es ++ fs, e.Textual) → Compatible es →
      Settles (Compatible (es ++ fs)) (declared (es ++ fs))
        (fs.foldlM (add registry) (declared es)) := by
  intro fs
  induction fs with
  | nil =>
      intro es _ h
      rw [List.append_nil]
      exact Settles.ok _ h
  | cons f rest ih =>
      intro es htextual h
      have hassoc : es ++ f :: rest = es ++ [f] ++ rest := by simp
      have hes : ∀ e ∈ es, e.Textual := fun e he => htextual e (List.mem_append_left _ he)
      have hf : f.Textual := htextual f (by simp)
      rw [List.foldlM_cons, hassoc]
      refine Settles.congr (Settles.bind (settles_add registry hes hf h) fun hone => ?_)
        ⟨fun hall => hall.2, fun hall => ⟨hall.of_append, hall⟩⟩
      exact ih (es ++ [f]) (hassoc ▸ htextual) hone

end Indexes

/-! ### The registry -/

open Entry

/-- **A registry is built exactly from controls that can stand together.** -/
theorem Registry.settles_ofEntries {es : List Entry} (name : Scalar)
    (hes : ∀ e ∈ es, e.Textual) :
    Settles (Compatible es) ⟨name, es, Indexes.declared es⟩ (Registry.ofEntries name es) := by
  have hfold := Indexes.settles_foldlM_add name es [] hes compatible_nil
  refine Settles.congr (Settles.bind hfold fun _ => Settles.ok _ trivial) ⟨?_, ?_⟩
  · rintro ⟨h, -⟩
    exact h
  · intro h
    exact ⟨h, trivial⟩

end SecurityMarking
