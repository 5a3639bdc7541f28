/-
Which fault ends the building of a registry.

Controls are added one by one, and the first that cannot be added ends it.  What follows is
not looked at, so that a list of controls that is refused is refused for the same fault
however it goes on.  And where all controls but the last can stand together, the fault is
the last one's: it lacks names, it has an empty one, or it repeats a name, and then the
fault shows the key of the control that used the name first.  `Entry.Spoils` says what each
of the three looks like; the indexes hold exactly what the controls before it declare,
and so what an index finds is that first control.

Rows are read before any control is added.  So a row that lacks a field is reported before
all of this, and of such rows the first: `Entry.ofRows_of_ofRow_eq_error`.
-/
import SecurityMarking.Proofs.Registry.Rows

namespace SecurityMarking

/-! ### The step that fails -/

/-- Steps fail at one of them, and those before it succeed. -/
theorem exists_of_foldlM_eq_error {ε σ α : Type} {f : σ → α → Except ε σ} {err : ε} :
    ∀ {xs : List α} {s : σ}, xs.foldlM f s = .error err →
      ∃ before x after s', xs = before ++ x :: after ∧ before.foldlM f s = .ok s' ∧
        f s' x = .error err := by
  intro xs
  induction xs with
  | nil =>
      intro s h
      cases h
  | cons x rest ih =>
      intro s h
      rw [List.foldlM_cons] at h
      rcases bind_eq_error h with hx | ⟨s₁, hx, hrest⟩
      · exact ⟨[], x, rest, s, rfl, rfl, hx⟩
      · obtain ⟨before, y, after, s₂, rfl, hbefore, hy⟩ := ih hrest
        refine ⟨x :: before, y, after, s₂, rfl, ?_, hy⟩
        rw [List.foldlM_cons, hx]
        exact hbefore

/-! ### The control to blame -/

namespace Entry

/-- The first of the controls to use a name of a sort. -/
def FirstUser (es : List Entry) (space : NameSpace) (v : Value) (first : Entry) : Prop :=
  ∃ before after, es = before ++ first :: after ∧ v ∈ first.namesIn space ∧
    ∀ f ∈ before, v ∉ f.namesIn space

/-- The control uses a name that is in use when its turn comes: by a control before it, or by
itself. -/
def Repeats (xs : List Entry) (space : NameSpace) (e : Entry) (v : Value) : Prop :=
  ∃ earlier later, e.namesIn space = earlier ++ v :: later ∧
    (v ∈ earlier ∨ ∃ x ∈ xs, v ∈ x.namesIn space)

/-- What keeps a control from being added to others, and the fault that says so. -/
inductive Spoils (registry : Scalar) (xs : List Entry) (e : Entry) : ConfigurationFault → Prop
  | noNames (h : e.bannerNames = [] ∨ e.portionNames = []) :
    Spoils registry xs e (.noNames registry e.key)
  | emptyName {space : NameSpace} (h : .text [] ∈ e.namesIn space) :
    Spoils registry xs e (.emptyName registry space e.key)
  | sharedName {space : NameSpace} {v : Value} {first : Entry} (h : Repeats xs space e v)
    (hfirst : FirstUser (xs ++ [e]) space v first) :
    Spoils registry xs e (.sharedName registry space v first.key e.key)

variable {e f : Entry} {xs : List Entry} {space : NameSpace} {v : Value}

/-- The control that an index finds is the first to use the name. -/
theorem firstUser_of_find? (hxs : ∀ x ∈ xs, x.Textual) (h : Compatible xs) (hv : v.IsText)
    (hfind : (Index.declared (namesIn space) xs).find? v = some f) :
    FirstUser xs space v f := by
  have hiff : ∀ g, (Index.declared (namesIn space) xs).find? v = some g ↔
      g ∈ xs ∧ v ∈ g.namesIn space := fun g =>
    Index.find?_declared_eq_some_iff space hxs h hv
  obtain ⟨hf, hvf⟩ := (hiff f).mp hfind
  obtain ⟨before, after, rfl, hbefore⟩ := List.eq_append_cons_of_mem hf
  refine ⟨before, after, rfl, hvf, ?_⟩
  intro g hg hvg
  -- The index would find `g` as well, but it finds one control.
  have hfound := (hiff g).mpr ⟨List.mem_append_left _ hg, hvg⟩
  rw [hfind, Option.some.injEq] at hfound
  exact hbefore (hfound ▸ hg)

theorem FirstUser.append (h : FirstUser xs space v f) (ys : List Entry) :
    FirstUser (xs ++ ys) space v f := by
  obtain ⟨before, after, rfl, hv, hbefore⟩ := h
  exact ⟨before, after ++ ys, by simp, hv, hbefore⟩

end Entry

namespace Index

open Entry

variable {e first : Entry} {xs : List Entry} {registry : Scalar} {space : NameSpace}
  {failure : Failure} {v : Value}

theorem find?_append (v : Value) (ix jx : Index) :
    find? v (ix ++ jx) = (ix.find? v).or (jx.find? v) := by
  unfold find?
  rw [List.find?_append, Option.map_or]

/-- Among the uses of one control only that control is found, by a name that it uses. -/
theorem find?_uses {vs : List Value} (hvs : ∀ w ∈ vs, w.IsText) (hv : v.IsText)
    (h : find? v (vs.map fun w => (w, e)) = some first) : first = e ∧ v ∈ vs := by
  obtain ⟨use, hfound, rfl⟩ := Option.map_eq_some_iff.mp h
  obtain ⟨w, hw, rfl⟩ := List.mem_map.mp (List.mem_of_find?_eq_some hfound)
  have hsame : w.same v = true := by simpa using List.find?_some hfound
  exact ⟨rfl, ((hvs w hw).same_iff hv).mp hsame ▸ hw⟩

/-- A name that is in use repeats a name, and its first user is found. -/
theorem spoils_of_find? {earlier later : List Value} (hxs : ∀ x ∈ xs, x.Textual)
    (he : e.Textual) (h : Compatible xs) (hnames : e.namesIn space = earlier ++ v :: later)
    (hfind : find? v (declared (namesIn space) xs ++ earlier.map fun w => (w, e)) = some first) :
    Spoils registry xs e (.sharedName registry space v first.key e.key) := by
  have htexts : ∀ w ∈ earlier ++ v :: later, w.IsText := hnames ▸ he.namesIn space
  have hv : v.IsText := htexts v (by simp)
  rw [find?_append] at hfind
  cases hold : (declared (namesIn space) xs).find? v with
  | some g =>
      rw [hold, Option.some_or, Option.some.injEq] at hfind
      subst hfind
      have hfirst := firstUser_of_find? hxs h hv hold
      obtain ⟨before, after, rfl, hvg, -⟩ := id hfirst
      exact .sharedName ⟨earlier, later, hnames, Or.inr ⟨g, by simp, hvg⟩⟩ (hfirst.append [e])
  | none =>
      rw [hold, Option.none_or] at hfind
      obtain ⟨rfl, hin⟩ :=
        find?_uses (fun w hw => htexts w (List.mem_append_left _ hw)) hv hfind
      have hunused : v ∉ xs.flatMap (namesIn space) := by
        rw [← names_declared]
        exact (find?_eq_none_iff (textual_declared space hxs) hv).mp hold
      refine .sharedName ⟨earlier, later, hnames, Or.inl hin⟩ ⟨xs, [], rfl, by simp [hnames], ?_⟩
      intro f hf hvf
      exact hunused (List.mem_flatMap.mpr ⟨f, hf, hvf⟩)

/-- **Names of one sort that cannot be added are spoiled by the control that has them.** -/
theorem exists_spoils_of_foldlM_add (space : NameSpace) (hxs : ∀ x ∈ xs, x.Textual)
    (he : e.Textual) (h : Compatible xs)
    (hfail : (e.namesIn space).foldlM (add registry space e) (declared (namesIn space) xs)
      = .error failure) :
    ∃ fault, failure = .configuration fault ∧ Spoils registry xs e fault := by
  obtain ⟨earlier, v, later, ix, hnames, hearlier, hadd⟩ := exists_of_foldlM_eq_error hfail
  have htexts : ∀ w ∈ earlier ++ v :: later, w.IsText := hnames ▸ he.namesIn space
  have hearlierTexts : ∀ w ∈ earlier, w.IsText := fun w hw =>
    htexts w (List.mem_append_left _ hw)
  have hdeclared := textual_declared space hxs
  -- The names before it are in the index, behind those of the controls before.
  have hsettles := settles_foldlM_add registry space he.key earlier (declared (namesIn space) xs)
    hdeclared (by rw [names_declared]; exact h.usable space) hearlierTexts
  obtain ⟨-, rfl⟩ := (hsettles.ok_iff ix).mp hearlier
  rcases add_cases registry space (hdeclared.append_uses earlier hearlierTexts he.key)
      (htexts v (by simp)) he.key with
    ⟨rfl, hadded⟩ | ⟨first, hfind, hadded⟩ | ⟨-, -, hadded⟩
  · rw [hadded] at hadd
    cases hadd
    have hempty : .text [] ∈ e.namesIn space := by simp [hnames]
    exact ⟨_, rfl, .emptyName hempty⟩
  · rw [hadded] at hadd
    cases hadd
    exact ⟨_, rfl, spoils_of_find? hxs he h hnames hfind⟩
  · rw [hadded] at hadd
    cases hadd

end Index

/-- **A control that cannot be added spoils the controls before it.** -/
theorem Indexes.exists_spoils_of_add {xs : List Entry} {e : Entry} {registry : Scalar}
    {failure : Failure} (hxs : ∀ x ∈ xs, x.Textual) (he : e.Textual) (h : Entry.Compatible xs)
    (hfail : add registry (declared xs) e = .error failure) :
    ∃ fault, failure = .configuration fault ∧ Entry.Spoils registry xs e fault := by
  by_cases hnamed : e.bannerNames ≠ [] ∧ e.portionNames ≠ []
  · rw [add_of_named registry _ hnamed] at hfail
    rcases bind_eq_error hfail with hkey | ⟨keys, -, hfail⟩
    · exact Index.exists_spoils_of_foldlM_add .key hxs he h hkey
    rcases bind_eq_error hfail with hbanner | ⟨banner, -, hfail⟩
    · exact Index.exists_spoils_of_foldlM_add .bannerName hxs he h hbanner
    rcases bind_eq_error hfail with hportion | ⟨portion, -, hfail⟩
    · exact Index.exists_spoils_of_foldlM_add .portionName hxs he h hportion
    cases hfail
  · rw [add_of_not_named registry _ he.key hnamed] at hfail
    cases hfail
    exact ⟨_, rfl, .noNames (by by_contra hboth; exact hnamed (not_or.mp hboth))⟩

namespace Registry

variable {xs : List Entry} {e : Entry} {name : Scalar} {failure : Failure}

/-- Controls that are refused are refused however they go on. -/
theorem ofEntries_append_eq_error (h : ofEntries name xs = .error failure) (ys : List Entry) :
    ofEntries name (xs ++ ys) = .error failure := by
  unfold ofEntries at h ⊢
  rcases bind_eq_error h with hfold | ⟨ixs, -, hpure⟩
  · rw [List.foldlM_append, hfold]
    rfl
  · cases hpure

/-- **One more control that is refused spoils those that were not.** -/
theorem exists_spoils_of_ofEntries (hxs : ∀ x ∈ xs, x.Textual) (he : e.Textual)
    (h : Entry.Compatible xs) (hfail : ofEntries name (xs ++ [e]) = .error failure) :
    ∃ fault, failure = .configuration fault ∧ Entry.Spoils name xs e fault := by
  have hfold : xs.foldlM (Indexes.add name) .empty = .ok (Indexes.declared xs) :=
    ((Indexes.settles_foldlM_add name xs [] hxs Entry.compatible_nil).ok_iff _).mpr ⟨h, rfl⟩
  unfold ofEntries at hfail
  rw [List.foldlM_append, hfold] at hfail
  rcases bind_eq_error hfail with hadd | ⟨ixs, -, hpure⟩
  · refine Indexes.exists_spoils_of_add hxs he h ?_
    have hone : [e].foldlM (Indexes.add name) (Indexes.declared xs) = .error failure := hadd
    simpa only [List.foldlM_cons, List.foldlM_nil, bind_pure] using hone
  · cases hpure

end Registry

/-! ### Rows that cannot be read -/

namespace Entry

/-- The fields that a row has to have, in the order in which they are read. -/
def requiredFields : List Text := ["key", "banner_names", "portion_names"]

/-- The row is a map without the field. -/
def LacksField (row : Value) (field : Text) : Prop :=
  ∃ entries, row.entries? = some entries ∧ Scalar.valueIn? (.text field) entries = none

/-- The row has all fields, and its names are lists of texts. -/
structure Complete (row : Value) : Prop where
  key : ∃ v, fieldOfRow "key" row = .ok v
  bannerNames : ∃ names : List Text, fieldOfRow "banner_names" row = .ok (.list (names.map .text))
  portionNames : ∃ names : List Text,
    fieldOfRow "portion_names" row = .ok (.list (names.map .text))

/-- What keeps a row that is a map from being read. -/
inductive Malformed (row : Value) : RowFault → Prop
  | missingField {field : Text} (h : LacksField row field) : Malformed row (.missingField field)
  | notSeveral {field : Text} {v : Value} (h : fieldOfRow field row = .ok v)
    (hnone : v.items? = none) : Malformed row (.notSeveral v.kind)

variable {row v : Value} {field : Text} {fault : RowFault} {position : Nat} {registry : Scalar}

theorem fieldOfRow_of_lacksField (h : LacksField row field) :
    fieldOfRow field row = .error (.missingField field) := by
  obtain ⟨entries, hentries, hnone⟩ := h
  unfold fieldOfRow
  simp only [hentries, hnone]

theorem malformed_of_fieldOfRow {entries : List (Scalar × Value)}
    (hmap : row.entries? = some entries) (h : fieldOfRow field row = .error fault) :
    Malformed row fault := by
  cases hfield : Scalar.valueIn? (.text field) entries with
  | none =>
      have hlacks : LacksField row field := ⟨entries, hmap, hfield⟩
      rw [fieldOfRow_of_lacksField hlacks] at h
      cases h
      exact .missingField hlacks
  | some v =>
      simp only [fieldOfRow, hmap, hfield] at h
      cases h

theorem malformed_of_namesOfField (hfield : fieldOfRow field row = .ok v)
    (h : namesOfField v = .error fault) : Malformed row fault := by
  unfold namesOfField at h
  split at h
  · cases h
  · split at h
    · cases h
    · next hnone =>
        cases h
        exact .notSeveral hfield hnone

/-- A map that cannot be read is malformed in the way that is reported. -/
theorem malformed_of_ofRow {entries : List (Scalar × Value)} (hmap : row.entries? = some entries)
    (h : ofRow position row = .error fault) : Malformed row fault := by
  rcases bind_eq_error h with hkey | ⟨key, -, h⟩
  · exact malformed_of_fieldOfRow hmap hkey
  rcases bind_eq_error h with hbanner | ⟨bannerField, hbanner, h⟩
  · exact malformed_of_fieldOfRow hmap hbanner
  rcases bind_eq_error h with hnames | ⟨bannerNames, -, h⟩
  · exact malformed_of_namesOfField hbanner hnames
  rcases bind_eq_error h with hportion | ⟨portionField, hportion, h⟩
  · exact malformed_of_fieldOfRow hmap hportion
  rcases bind_eq_error h with hnames | ⟨portionNames, -, h⟩
  · exact malformed_of_namesOfField hportion hnames
  cases h

/-- A row that lacks a field cannot be read. -/
theorem exists_malformed_of_lacksField (position : Nat) (hfield : field ∈ requiredFields)
    (h : LacksField row field) :
    ∃ fault, Malformed row fault ∧ ofRow position row = .error fault := by
  cases hread : ofRow position row with
  | error fault =>
      obtain ⟨entries, hmap, -⟩ := h
      exact ⟨fault, malformed_of_ofRow hmap hread, rfl⟩
  | ok e =>
      obtain ⟨_, _, _, _, _, hkey, hbanner, -, hportion, -, -⟩ := ofRow_eq_ok hread
      have hmissing := fieldOfRow_of_lacksField h
      simp only [requiredFields, List.mem_cons, List.not_mem_nil, or_false] at hfield
      rcases hfield with rfl | rfl | rfl
      · rw [hkey] at hmissing
        cases hmissing
      · rw [hbanner] at hmissing
        cases hmissing
      · rw [hportion] at hmissing
        cases hmissing

theorem Complete.exists_ofRow (h : Complete row) (position : Nat) :
    ∃ e, ofRow position row = .ok e := by
  obtain ⟨⟨v, hkey⟩, ⟨banner, hbanner⟩, ⟨portion, hportion⟩⟩ := h
  refine ⟨⟨v, position, banner.map .text, portion.map .text⟩, ?_⟩
  unfold ofRow
  rw [hkey, hbanner, hportion]
  rfl

/-- The key of a row can be shown if it can be written. -/
theorem exists_shownKeyOfRow (h : ∀ v, fieldOfRow "key" row = .ok v → v.isWritable = true) :
    ∃ key, shownKeyOfRow row = .ok key := by
  unfold shownKeyOfRow
  cases hkey : row.entries?.bind (Scalar.valueIn? (.text "key")) with
  | none => exact ⟨[], rfl⟩
  | some v =>
      refine ⟨v.shown, ?_⟩
      show v.shownIfPossible = _
      rw [Value.shownIfPossible, if_pos (h v (fieldOfRow_eq_ok_iff.mpr hkey))]

/-- **The first row that cannot be read is the one that is reported.** -/
theorem ofRows_of_ofRow_eq_error {key : Text} (after : List Value)
    (hkey : shownKeyOfRow row = .ok key) :
    ∀ {before : List Value} {position : Nat}, (∀ b ∈ before, ∀ i, ∃ e, ofRow i b = .ok e) →
      ofRow (position + before.length) row = .error fault →
      ofRows registry position (before ++ row :: after)
        = .error (.configuration (.malformedRow registry (position + before.length) fault key)) := by
  intro before
  induction before with
  | nil =>
      intro position _ hrow
      have hhere : ofRow position row = .error fault := hrow
      rw [List.nil_append, ofRows, hhere]
      show (shownKeyOfRow row >>= _) = _
      rw [hkey]
      rfl
  | cons b rest ih =>
      intro position hbefore hrow
      obtain ⟨e, he⟩ := hbefore b List.mem_cons_self position
      have hplace : position + (b :: rest).length = position + 1 + rest.length := by
        simp only [List.length_cons]
        omega
      rw [hplace] at hrow ⊢
      have hrest := ih (fun c hc => hbefore c (List.mem_cons_of_mem b hc)) hrow
      rw [List.cons_append, ofRows, he]
      show (ofRows registry (position + 1) (rest ++ row :: after) >>= _) = _
      rw [hrest]
      rfl

end Entry

/-! ### What is reported -/

namespace Registry

open Entry

theorem ofRows_of_lacksField (name : Scalar) {before : List Value} {row : Value} {field : Text}
    (after : List Value) (hbefore : ∀ b ∈ before, Complete b) (hfield : field ∈ requiredFields)
    (h : LacksField row field)
    (hkey : ∀ v, fieldOfRow "key" row = .ok v → v.isWritable = true) :
    ∃ fault key, Malformed row fault ∧ ofRow before.length row = .error fault ∧
      shownKeyOfRow row = .ok key ∧
      ofRows name (.list (before ++ row :: after))
        = .error (.configuration (.malformedRow name before.length fault key)) := by
  obtain ⟨fault, hmalformed, hrow⟩ := exists_malformed_of_lacksField before.length hfield h
  obtain ⟨key, hshown⟩ := exists_shownKeyOfRow hkey
  refine ⟨fault, key, hmalformed, hrow, hshown, ?_⟩
  have hread : Entry.ofRows name 0 (before ++ row :: after)
      = .error (.configuration (.malformedRow name before.length fault key)) := by
    rw [← Nat.zero_add before.length] at hrow ⊢
    exact ofRows_of_ofRow_eq_error after hshown (fun b hb i => (hbefore b hb).exists_ofRow i) hrow
  have hitems : (Value.list (before ++ row :: after)).items? = some (before ++ row :: after) := rfl
  unfold ofRows
  rw [hitems]
  show Entry.ofRows name 0 (before ++ row :: after) >>= _ = _
  rw [hread]
  rfl

/--
**Which fault is reported.**

Controls that are refused are refused with the same fault however they go on.  Where only
the last control is refused, its key is blamed, if it lacks names or its key or a name is
empty, or a name that it repeats, and then the message says which control used the name
first.  Rows are looked at earlier: behind rows that can be read, however little they can
stand together, the first that lacks a field is reported, by its key as far as it has one
that can be written.
-/
theorem refused_for_first_fault (name : Text) :
    (∀ xs ys fault, ofEntries (.text name) xs = .error (.configuration fault) →
      ofEntries (.text name) (xs ++ ys) = .error (.configuration fault)) ∧
    (∀ xs e r, (∀ x ∈ xs, x.Textual) → e.Textual → ofEntries (.text name) xs = .ok r →
      (∀ r', ofEntries (.text name) (xs ++ [e]) ≠ .ok r') →
      ∃ fault, ofEntries (.text name) (xs ++ [e]) = .error (.configuration fault) ∧
        ((fault.blamed = e.key ∧
            (e.bannerNames = [] ∨ e.portionNames = [] ∨ ∃ space, .text [] ∈ e.namesIn space)) ∨
          ∃ space v first, fault.blamed = v ∧ Repeats xs space e v ∧
            FirstUser (xs ++ [e]) space v first ∧
            fault.message = Text.concat [name, ": ", space.word, " '", v.shown,
              "' is used by both '", first.key.shown, "' and '", e.key.shown, "'"])) ∧
    ∀ before row after, (∀ b ∈ before, Complete b) →
      (∃ field ∈ requiredFields, LacksField row field) →
      (∀ v, fieldOfRow "key" row = .ok v → v.isWritable = true) →
      ∃ fault key, Malformed row fault ∧ ofRow before.length row = .error fault ∧
        shownKeyOfRow row = .ok key ∧
        ofRows (.text name) (.list (before ++ row :: after))
          = .error (.configuration (.malformedRow (.text name) before.length fault key)) := by
  refine ⟨?_, ?_, ?_⟩
  · intro xs ys fault h
    exact ofEntries_append_eq_error h ys
  · intro xs e r hxs he hbuilt hrefused
    have hstand : Compatible xs := (((settles_ofEntries (.text name) hxs).ok_iff r).mp hbuilt).1
    cases hfail : ofEntries (.text name) (xs ++ [e]) with
    | ok r' => exact absurd hfail (hrefused r')
    | error failure =>
        obtain ⟨fault, rfl, hspoils⟩ := exists_spoils_of_ofEntries hxs he hstand hfail
        refine ⟨fault, rfl, ?_⟩
        cases hspoils with
        | noNames h => exact Or.inl ⟨rfl, h.imp_right Or.inl⟩
        | emptyName h => exact Or.inl ⟨rfl, Or.inr (Or.inr ⟨_, h⟩)⟩
        | sharedName h hfirst => exact Or.inr ⟨_, _, _, rfl, h, hfirst, rfl⟩
  · rintro before row after hbefore ⟨field, hfield, h⟩ hkey
    exact ofRows_of_lacksField (.text name) after hbefore hfield h hkey

/-- A control that can stand alone. -/
def alfa : Entry := .ofTexts "A" 0 ["ALFA"] ["A"]

/-- A control with one banner name twice. -/
def bravo : Entry := .ofTexts "B" 1 ["BRAVO", "BRAVO"] ["B"]

/-- Rows that can be read, but cannot stand together. -/
def clashingRows : List Value :=
  [Row.toValue ⟨"A", ["SAME"], ["A"]⟩, Row.toValue ⟨"A", ["SAME", ""], []⟩]

/-- A row without portion names. -/
def shortRow : Value := .map [(.text "key", .text "C"), (.text "banner_names", .list [.text "C"])]

/-- A control can be the first user of a name that it repeats, and a row without portion names is
reported although the rows before it clash. -/
theorem refused_for_first_fault_letters :
    (∃ fault space v first,
      fault.message = ("letters: banner name 'BRAVO' is used by both 'B' and 'B'" : Text) ∧
        fault.blamed = v ∧ Repeats [alfa] space bravo v ∧ FirstUser [alfa, bravo] space v first ∧
        ∀ more, ofEntries (.text "letters") ([alfa, bravo] ++ more)
          = .error (.configuration fault)) ∧
      ofRows (.text "letters") (.list (clashingRows ++ [shortRow]))
        = .error (.configuration
            (.malformedRow (.text "letters") 2 (.missingField "portion_names") "C")) := by
  obtain ⟨hstable, hlast, hrows⟩ := refused_for_first_fault "letters"
  refine ⟨?_, ?_⟩
  · have halfa : ∀ x ∈ [alfa], x.Textual :=
      List.forall_mem_singleton.mpr (textual_ofTexts _ _ _ _)
    have hrefused : ofEntries (.text "letters") ([alfa] ++ [bravo]) = .error (.configuration
        (.sharedName (.text "letters") .bannerName (.text "BRAVO") (.text "B") (.text "B"))) :=
      rfl
    obtain ⟨fault, hfault, hcause⟩ := hlast [alfa] bravo _ halfa (textual_ofTexts _ _ _ _) rfl
      fun r h => by
        rw [hrefused] at h
        cases h
    rw [hrefused] at hfault
    cases hfault
    rcases hcause with ⟨hkey, -⟩ | ⟨space, v, first, hv, hrepeats, hfirst, -⟩
    · exact absurd hkey (by simp [ConfigurationFault.blamed, bravo, Entry.ofTexts])
    · exact ⟨_, space, v, first, rfl, hv, hrepeats, hfirst,
        fun more => hstable [alfa, bravo] more _ hrefused⟩
  · have hcomplete : ∀ b ∈ clashingRows, Complete b :=
      List.forall_mem_cons.mpr ⟨⟨⟨_, rfl⟩, ⟨_, rfl⟩, ⟨_, rfl⟩⟩,
        List.forall_mem_singleton.mpr ⟨⟨_, rfl⟩, ⟨_, rfl⟩, ⟨_, rfl⟩⟩⟩
    have hlacks : LacksField shortRow "portion_names" := ⟨_, rfl, rfl⟩
    have hfault : ofRow 2 shortRow = .error (.missingField "portion_names") := rfl
    have hshown : shownKeyOfRow shortRow = .ok "C" := rfl
    obtain ⟨fault, key, -, hrow, hkey, hreported⟩ := hrows clashingRows shortRow [] hcomplete
      ⟨_, by decide, hlacks⟩ fun v h => by
        cases h
        rfl
    have hrow' : ofRow 2 shortRow = .error fault := hrow
    rw [hfault] at hrow'
    cases hrow'
    rw [hshown] at hkey
    cases hkey
    exact hreported

end Registry

end SecurityMarking
