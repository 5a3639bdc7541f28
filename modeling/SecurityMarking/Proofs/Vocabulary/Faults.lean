/-
What can go wrong when a registry is built from a vocabulary.

A vocabulary may hold anything anywhere, and building a registry from it should end with
the registry or with a fault of the configuration.  Two more things can end it.  A section
may say something under `controls` that has no items, so that there are no rows to go
through; and a row may give a key or a name that can be no key, like a list, or one that a
message would have to show and that has too many digits to be written.  Neither is a fault
of the configuration, and so neither is reported.

There is nothing else.  `Ends` is the specification that goes through all of the building:
a result of which something is known, or a failure that `Failure.Blames` a value which a
row gives.  One step of an index keeps to it, so the indexes of all controls do, and so
does reading the rows.
-/
import SecurityMarking.Vocabulary.Basic
import SecurityMarking.Proofs.Registry.Rows

namespace SecurityMarking

/-! ### Failures and their causes -/

/-- The failure is a fault of the configuration, or it comes of a value that is given. -/
inductive Failure.Blames (given : Value → Prop) : Failure → Prop
  | configuration (fault : ConfigurationFault) : Blames given (.configuration fault)
  | notAKey {v : Value} {kind : Kind} (h : given v) (hkind : v.keyFault? = some kind) :
    Blames given (.misuse (.notAKey kind))
  | tooLong {v : Value} (h : given v) (hlong : v.isWritable = false) :
    Blames given (.misuse .tooLongToWrite)

theorem Failure.Blames.imp {given wider : Value → Prop} {f : Failure} (h : f.Blames given)
    (hwider : ∀ v, given v → wider v) : f.Blames wider := by
  cases h with
  | configuration fault => exact .configuration fault
  | notAKey hv hkind => exact .notAKey (hwider _ hv) hkind
  | tooLong hv hlong => exact .tooLong (hwider _ hv) hlong

/-- A computation ends with a result that is known to be `good`, or with a failure that blames a
value which is given. -/
def Ends {α : Type} (given : Value → Prop) (good : α → Prop) : Except Failure α → Prop
  | .ok x => good x
  | .error f => f.Blames given

variable {given : Value → Prop}

/-- A fault that shows given values is raised as itself, or one of them cannot be written. -/
theorem ConfigurationFault.blames_raised {fault : ConfigurationFault}
    (h : ∀ v ∈ fault.shownValues, given v) : fault.raised.Blames given := by
  unfold raised
  by_cases hwritable : fault.shownValues.all Value.isWritable = true
  · rw [if_pos hwritable]
    exact .configuration fault
  · rw [if_neg hwritable]
    obtain ⟨v, hv, hlong⟩ : ∃ v ∈ fault.shownValues, v.isWritable = false := by
      simpa using hwritable
    exact .tooLong (h v hv) hlong

namespace Ends

variable {α β : Type} {good : α → Prop} {fine : β → Prop} {r : Except Failure α}

theorem bind {f : α → Except Failure β} (h : Ends given good r)
    (hf : ∀ x, good x → Ends given fine (f x)) : Ends given fine (r >>= f) := by
  cases r with
  | ok x => exact hf x h
  | error e => exact h

theorem imp (h : Ends given good r) {better : α → Prop} (hgood : ∀ x, good x → better x) :
    Ends given better r := by
  cases r with
  | ok x => exact hgood x h
  | error e => exact h

/-- Steps that each keep to what is known keep to it together, and what each of them shows is
shown of all. -/
theorem foldlM {step : β → α → Except Failure β} (xs : List α) :
    ∀ b, fine b →
      (∀ x ∈ xs, ∀ b, fine b → Ends given (fun b' => fine b' ∧ good x) (step b x)) →
      Ends given (fun b' => fine b' ∧ ∀ x ∈ xs, good x) (xs.foldlM step b) := by
  induction xs with
  | nil =>
      intro b hb _
      exact ⟨hb, fun x hx => absurd hx List.not_mem_nil⟩
  | cons x rest ih =>
      intro b hb hstep
      rw [List.foldlM_cons]
      refine (hstep x List.mem_cons_self b hb).bind fun b' hb' => ?_
      have hrest := ih b' hb'.1 fun y hy => hstep y (List.mem_cons_of_mem x hy)
      exact hrest.imp fun c hc => ⟨hc.1, List.forall_mem_cons.mpr ⟨hb'.2, hc.2⟩⟩

end Ends

/-! ### Indexes -/

/-- The key and all names of a control. -/
def Entry.uses (e : Entry) : List Value := e.key :: (e.bannerNames ++ e.portionNames)

namespace Index

variable {ix : Index} {e : Entry} {registry : Scalar} {space : NameSpace}

/-- The names in the index are given, and so are the keys of the controls that use them. -/
def Of (given : Value → Prop) (ix : Index) : Prop := ∀ use ∈ ix, given use.1 ∧ given use.2.key

theorem of_nil : Of given [] := fun _ huse => absurd huse List.not_mem_nil

theorem Of.append_singleton {v : Value} (hix : Of given ix) (hv : given v) (hkey : given e.key) :
    Of given (ix ++ [(v, e)]) := by
  intro use huse
  rcases List.mem_append.mp huse with hold | hnew
  · exact hix use hold
  · rw [List.mem_singleton.mp hnew]
    exact ⟨hv, hkey⟩

/-- A name that is added can be a key. -/
theorem ends_add {v : Value} (hix : Of given ix) (hv : given v) (hkey : given e.key) :
    Ends given (fun ix' => Of given ix' ∧ v.keyFault? = none) (ix.add registry space e v) := by
  unfold add
  by_cases hfilled : v.isFilled = true
  · rw [if_pos hfilled]
    cases hfault : v.keyFault? with
    | some kind => exact .notAKey hv hfault
    | none =>
        cases hfind : ix.find? v with
        | none => exact ⟨hix.append_singleton hv hkey, rfl⟩
        | some first =>
            obtain ⟨use, hfound, rfl⟩ := Option.map_eq_some_iff.mp hfind
            have hfirst := (hix use (List.mem_of_find?_eq_some hfound)).2
            refine ConfigurationFault.blames_raised ?_
            simp [ConfigurationFault.shownValues, hv, hfirst, hkey]
  · rw [if_neg hfilled]
    refine ConfigurationFault.blames_raised ?_
    simpa [ConfigurationFault.shownValues] using hkey

theorem ends_foldlM_add (vs : List Value) (hix : Of given ix) (hvs : ∀ v ∈ vs, given v)
    (hkey : given e.key) :
    Ends given (fun ix' => Of given ix' ∧ ∀ v ∈ vs, v.keyFault? = none)
      (vs.foldlM (add registry space e) ix) :=
  Ends.foldlM vs ix hix fun v hv _ hix' => ends_add hix' (hvs v hv) hkey

end Index

namespace Indexes

variable {ixs : Indexes} {e : Entry}

/-- All three indexes hold nothing but what is given. -/
structure Of (given : Value → Prop) (ixs : Indexes) : Prop where
  keys : ixs.keys.Of given
  bannerNames : ixs.bannerNames.Of given
  portionNames : ixs.portionNames.Of given

/-- The key and the names of a control that is added can be keys. -/
theorem ends_add (registry : Scalar) (hixs : ixs.Of given) (he : ∀ v ∈ e.uses, given v) :
    Ends given (fun ixs' => ixs'.Of given ∧ ∀ v ∈ e.uses, v.keyFault? = none)
      (ixs.add registry e) := by
  have hkey : given e.key := he _ (by simp [Entry.uses])
  have hbanner : ∀ v ∈ e.bannerNames, given v := fun v hv => he v (by simp [Entry.uses, hv])
  have hportion : ∀ v ∈ e.portionNames, given v := fun v hv => he v (by simp [Entry.uses, hv])
  unfold add
  by_cases hlacks : (e.bannerNames.isEmpty || e.portionNames.isEmpty) = true
  · rw [if_pos hlacks]
    refine ConfigurationFault.blames_raised ?_
    simpa [ConfigurationFault.shownValues] using hkey
  · rw [if_neg hlacks]
    refine (Index.ends_add hixs.keys hkey hkey).bind fun keys hkeys => ?_
    refine (Index.ends_foldlM_add _ hixs.bannerNames hbanner hkey).bind fun banner hbanner => ?_
    refine (Index.ends_foldlM_add _ hixs.portionNames hportion hkey).bind fun portion hportion => ?_
    refine ⟨⟨hkeys.1, hbanner.1, hportion.1⟩, ?_⟩
    intro v hv
    simp only [Entry.uses, List.mem_cons, List.mem_append] at hv
    rcases hv with rfl | hv | hv
    · exact hkeys.2
    · exact hbanner.2 v hv
    · exact hportion.2 v hv

end Indexes

theorem Registry.ends_ofEntries {es : List Entry} (name : Scalar)
    (hes : ∀ e ∈ es, ∀ v ∈ e.uses, given v) :
    Ends given (fun _ => ∀ e ∈ es, ∀ v ∈ e.uses, v.keyFault? = none) (ofEntries name es) := by
  have hempty : Indexes.empty.Of given := ⟨Index.of_nil, Index.of_nil, Index.of_nil⟩
  have hfold : Ends given (fun ixs => ixs.Of given ∧ ∀ e ∈ es, ∀ v ∈ e.uses, v.keyFault? = none)
      (es.foldlM (Indexes.add name) .empty) :=
    Ends.foldlM es .empty hempty fun e he ixs hixs => Indexes.ends_add name hixs (hes e he)
  exact hfold.bind fun _ hall => hall.2

/-! ### Rows -/

namespace Entry

/-- A row gives the value as its key or as a name. -/
inductive Declared (row : Value) : Value → Prop
  | key {v : Value} (h : fieldOfRow "key" row = .ok v) : Declared row v
  | bannerName {field v : Value} {names : List Value}
    (h : fieldOfRow "banner_names" row = .ok field) (hnames : namesOfField field = .ok names)
    (hv : v ∈ names) : Declared row v
  | portionName {field v : Value} {names : List Value}
    (h : fieldOfRow "portion_names" row = .ok field) (hnames : namesOfField field = .ok names)
    (hv : v ∈ names) : Declared row v

variable {row v : Value} {e : Entry} {position : Nat}

/-- A control has the key and the names that its row gives. -/
theorem mem_uses_of_ofRow (h : ofRow position row = .ok e) : v ∈ e.uses ↔ Declared row v := by
  obtain ⟨key, bannerField, bannerNames, portionField, portionNames, hkey, hbanner, hbannerNames,
    hportion, hportionNames, rfl⟩ := ofRow_eq_ok h
  simp only [uses, List.mem_cons, List.mem_append]
  constructor
  · rintro (rfl | hv | hv)
    · exact .key hkey
    · exact .bannerName hbanner hbannerNames hv
    · exact .portionName hportion hportionNames hv
  · intro hv
    cases hv with
    | key h =>
        rw [hkey] at h
        cases h
        exact .inl rfl
    | bannerName h hnames hv =>
        rw [hbanner] at h
        cases h
        rw [hbannerNames] at hnames
        cases hnames
        exact .inr (.inl hv)
    | portionName h hnames hv =>
        rw [hportion] at h
        cases h
        rw [hportionNames] at hnames
        cases hnames
        exact .inr (.inr hv)

/-- A key that a report cannot show is given by the row. -/
theorem blames_shownKeyOfRow {f : Failure} (h : shownKeyOfRow row = .error f) :
    f.Blames (Declared row) := by
  unfold shownKeyOfRow at h
  cases hkey : row.entries?.bind (Scalar.valueIn? (.text "key")) with
  | none =>
      rw [hkey] at h
      cases h
  | some key =>
      rw [hkey] at h
      have hgiven : Declared row key := .key (fieldOfRow_eq_ok_iff.mpr hkey)
      have hshown : key.shownIfPossible = .error f := h
      unfold Value.shownIfPossible at hshown
      by_cases hwritable : key.isWritable = true
      · rw [if_pos hwritable] at hshown
        cases hshown
      · rw [if_neg hwritable] at hshown
        cases hshown
        exact .tooLong hgiven (Bool.eq_false_iff.mpr hwritable)

/-- **Reading rows ends with their controls, or for a cause that is in a row.** -/
theorem ends_ofRows (registry : Scalar) (rows : List Value) :
    ∀ position, (∀ row ∈ rows, ∀ v, Declared row v → given v) →
      Ends given
        (fun es => (∀ e ∈ es, ∀ v ∈ e.uses, given v) ∧
          ∀ row ∈ rows, ∀ v, Declared row v → ∃ e ∈ es, v ∈ e.uses)
        (ofRows registry position rows) := by
  induction rows with
  | nil =>
      intro position _
      exact ⟨by simp, by simp⟩
  | cons row rest ih =>
      intro position hgiven
      have hrow := hgiven row List.mem_cons_self
      have hrest := ih (position + 1) fun r hr => hgiven r (List.mem_cons_of_mem row hr)
      unfold ofRows
      cases hread : ofRow position row with
      | error fault =>
          cases hshown : shownKeyOfRow row with
          | error f =>
              have hblames := (blames_shownKeyOfRow hshown).imp hrow
              exact hblames
          | ok key => exact .configuration _
      | ok e =>
          refine hrest.bind fun es hes => ⟨?_, ?_⟩
          · refine List.forall_mem_cons.mpr ⟨?_, hes.1⟩
            intro v hv
            exact hrow v ((mem_uses_of_ofRow hread).mp hv)
          · refine List.forall_mem_cons.mpr ⟨?_, ?_⟩
            · intro v hv
              exact ⟨e, List.mem_cons_self, (mem_uses_of_ofRow hread).mpr hv⟩
            · intro r hr v hv
              obtain ⟨e', he', hv'⟩ := hes.2 r hr v hv
              exact ⟨e', List.mem_cons_of_mem e he', hv'⟩

end Entry

/-! ### Building -/

namespace Registry

/-- A row among several gives the value as its key or as a name. -/
def Declared (rows v : Value) : Prop :=
  ∃ items row, rows.items? = some items ∧ row ∈ items ∧ Entry.Declared row v

/-- Rows that nothing but a fault of the configuration can keep from being a registry. -/
structure Orderly (rows : Value) : Prop where
  /-- There are rows to go through. -/
  several : rows.items?.isSome = true
  keyable : ∀ v, Declared rows v → v.keyFault? = none
  writable : ∀ v, Declared rows v → v.isWritable = true

variable {rows : Value}

theorem ofRows_of_items?_eq_none (name : Scalar) (h : rows.items? = none) :
    ofRows name rows = .error (.misuse (.notSeveral rows.kind)) := by
  unfold ofRows
  rw [h]

/-- **A registry of several rows is built, or not for a cause that is in a row.** -/
theorem ends_ofRows (name : Scalar) {items : List Value} (h : rows.items? = some items) :
    Ends (Declared rows) (fun _ => ∀ v, Declared rows v → v.keyFault? = none)
      (ofRows name rows) := by
  have hread := Entry.ends_ofRows name items 0 fun row hrow v hv =>
    show Declared rows v from ⟨items, row, h, hrow, hv⟩
  unfold ofRows
  rw [h]
  refine hread.bind fun es hes => (ends_ofEntries name hes.1).imp fun _ hkeyable v hv => ?_
  obtain ⟨items', row, hitems, hrow, hrowv⟩ := hv
  rw [h] at hitems
  cases hitems
  obtain ⟨e, he, hve⟩ := hes.2 row hrow v hrowv
  exact hkeyable e he v hve

/-- Rows of texts are in order, whether they can stand together or not. -/
theorem orderly_toValue (rows : List Row) : Orderly (.list (rows.map Row.toValue)) := by
  have htext : ∀ v, Declared (.list (rows.map Row.toValue)) v → ∃ t, v = .text t := by
    rintro v ⟨items, value, hitems, hvalue, hv⟩
    cases hitems
    obtain ⟨row, -, rfl⟩ := List.mem_map.mp hvalue
    cases hv with
    | key h =>
        cases h
        exact ⟨row.key, rfl⟩
    | bannerName h hnames hv =>
        cases h
        cases hnames
        obtain ⟨t, -, rfl⟩ := List.mem_map.mp hv
        exact ⟨t, rfl⟩
    | portionName h hnames hv =>
        cases h
        cases hnames
        obtain ⟨t, -, rfl⟩ := List.mem_map.mp hv
        exact ⟨t, rfl⟩
  refine ⟨rfl, ?_, ?_⟩
  · intro v hv
    obtain ⟨t, rfl⟩ := htext v hv
    rfl
  · intro v hv
    obtain ⟨t, rfl⟩ := htext v hv
    rfl

end Registry

namespace Vocabulary

open Registry

/--
**How building a registry from a vocabulary ends.**

It ends with the registry or with a fault of the configuration if there are no rows, or if they are
in order.  Rows that are not several always end it as a misuse, and there is no registry with a key
or a name that cannot be a key.
-/
theorem build_outcome (name : Text) (vocabulary : Vocabulary) :
    ((∀ rows, rows? (.text name) vocabulary = some rows → Orderly rows) →
      (∃ r, build (.text name) vocabulary = .ok r) ∨
        ∃ fault, build (.text name) vocabulary = .error (.configuration fault)) ∧
      (∀ rows, rows? (.text name) vocabulary = some rows → rows.items? = none →
        build (.text name) vocabulary = .error (.misuse (.notSeveral rows.kind))) ∧
      ∀ rows v, rows? (.text name) vocabulary = some rows → Declared rows v →
        v.keyFault? ≠ none → ∀ r, build (.text name) vocabulary ≠ .ok r := by
  unfold build
  cases hrows : rows? (.text name) vocabulary with
  | none => exact ⟨fun _ => .inr ⟨_, rfl⟩, by simp, by simp⟩
  | some rows =>
      refine ⟨?_, ?_, ?_⟩
      · intro horderly
        have hordered := horderly rows rfl
        obtain ⟨items, hitems⟩ := Option.isSome_iff_exists.mp hordered.several
        have hends := ends_ofRows (.text name) hitems
        simp only
        cases hbuilt : ofRows (.text name) rows with
        | ok r => exact .inl ⟨r, rfl⟩
        | error f =>
            rw [hbuilt] at hends
            -- What the failure blames is in order.
            cases hends with
            | configuration fault => exact .inr ⟨fault, rfl⟩
            | notAKey hv hkind =>
                rw [hordered.keyable _ hv] at hkind
                cases hkind
            | tooLong hv hlong =>
                rw [hordered.writable _ hv] at hlong
                cases hlong
      · intro rows' h hnone
        cases h
        exact ofRows_of_items?_eq_none (.text name) hnone
      · intro rows' v h hv hfault r hbuilt
        cases h
        obtain ⟨items, -, hitems, -⟩ := id hv
        have hends := ends_ofRows (.text name) hitems
        have hok : ofRows (.text name) rows = .ok r := hbuilt
        rw [hok] at hends
        exact hfault (hends v hv)

/-- A section with two rows of one key. -/
def sharedKeyRows : List Row := [⟨"A", ["ALFA"], ["A"]⟩, ⟨"A", ["BRAVO"], ["B"]⟩]

/-- A key that is used twice is a fault of the configuration. -/
theorem build_sharedKey :
    Orderly (.list (sharedKeyRows.map Row.toValue)) ∧
      ∃ fault, build (.text "x")
        [(.text "x", .map [(.text "controls", .list (sharedKeyRows.map Row.toValue))])] =
          .error (.configuration fault) := by
  have horderly := orderly_toValue sharedKeyRows
  obtain ⟨hends, -⟩ := build_outcome "x"
    [(.text "x", .map [(.text "controls", .list (sharedKeyRows.map Row.toValue))])]
  refine ⟨horderly, ?_⟩
  have hbuilt := hends fun rows hrows => by
    cases hrows
    exact horderly
  rcases hbuilt with ⟨r, hr⟩ | hfault
  · cases hr
  · exact hfault

/-- Controls that are only said to be there are no rows, and a list of texts is no key; neither is
reported as a fault of the configuration. -/
theorem build_unreported :
    build (.text "x") [(.text "x", .map [(.text "controls", .scalar (.flag true))])] =
        .error (.misuse (.notSeveral .flag)) ∧
      build (.text "x") [(.text "x", .map [(.text "controls", .list [.map
          [(.text "key", .list [.text "A"]), (.text "banner_names", .text "A"),
            (.text "portion_names", .text "A")]])])] =
        .error (.misuse (.notAKey .list)) ∧
      ∀ fault, (Failure.misuse fault).isReported = false :=
  ⟨rfl, rfl, fun _ => rfl⟩

end Vocabulary

end SecurityMarking
