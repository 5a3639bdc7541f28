/-
Controls that a text cannot lead to.

A control is found at the beginning of a text if it begins the text and no control before
it does.  So what stands before it can take its texts away, and it has taken all of them if
each name of the control begins with a name of a control before it, `Entry.Shadowed`.  The
names are enough to look at: a text that the control begins goes on from one of its names,
and whatever begins the name begins the text as well.

A control that is shadowed is still found by its key and by each of its names, because there
a name has to be the same and not only to begin.  Two of the shipped controls are of this
sort.
-/
import SecurityMarking.Proofs.Vocabulary.Shipped

namespace SecurityMarking

namespace Entry

/-- Each name of the control begins with a name of one of the controls before it. -/
def Shadowed (before : List Entry) (e : Entry) : Prop :=
  ∀ n, e.Names n → ∃ f ∈ before, f.Begins n

end Entry

namespace PrefixMatch

open Entry

variable {e : Entry} {before after : List Entry}

/-- A control is found exactly if it begins the text and none before it does. -/
theorem firstMatch?_eq_some_iff_of_nodup (hes : ∀ f ∈ before ++ e :: after, f.NamedByTexts)
    (hnodup : (before ++ e :: after).Nodup) (t : Text) :
    firstMatch? t (before ++ e :: after) = .ok (some e) ↔
      e.Begins t ∧ ∀ f ∈ before, ¬ f.Begins t := by
  rw [firstMatch?_eq_some_iff_append hes]
  refine and_congr_right fun _ => ⟨?_, ?_⟩
  · rintro ⟨earlier, later, heq, hnone⟩
    -- The control stands in one place only.
    obtain ⟨-, hcons, hdisjoint⟩ := List.nodup_append.mp hnodup
    have hbefore : e ∉ before := fun he => hdisjoint e he e List.mem_cons_self rfl
    have hafter : e ∉ after := (List.nodup_cons.mp hcons).1
    obtain ⟨rfl, -, -⟩ := (List.append_cons_inj_of_notMem hbefore hafter).mp heq
    exact hnone
  · intro hnone
    exact ⟨before, after, rfl, hnone⟩

/-- **Some text leads to a control exactly if one of its names is not taken by those before it.** -/
theorem exists_firstMatch?_eq_some_iff (hes : ∀ f ∈ before ++ e :: after, f.NamedByTexts)
    (hnodup : (before ++ e :: after).Nodup) :
    (∃ t, firstMatch? t (before ++ e :: after) = .ok (some e)) ↔
      ∃ n, e.Names n ∧ ∀ f ∈ before, ¬ f.Begins n := by
  simp only [firstMatch?_eq_some_iff_of_nodup hes hnodup]
  refine ⟨?_, ?_⟩
  · rintro ⟨t, ⟨n, hn, hnt⟩, hnone⟩
    exact ⟨n, hn, fun f hf hfn => hnone f hf (hfn.of_prefix hnt)⟩
  · rintro ⟨n, hn, hnone⟩
    exact ⟨n, hn.begins, hnone⟩

end PrefixMatch

/-! ### Registries -/

namespace Registry

open Entry PrefixMatch

variable {r : Registry} {e : Entry} {before after : List Entry}

/-- The control is found by its key and by each of its names. -/
structure FindsExactly (r : Registry) (e : Entry) : Prop where
  key : r.get e.key = .ok e
  bannerName : ∀ n, .text n ∈ e.bannerNames → r.findByBannerName? (some n) = some e
  portionName : ∀ n, .text n ∈ e.portionNames → r.findByPortionName? (some n) = some e

theorem FindsItsOwn.findsExactly (h : r.FindsItsOwn) (he : e ∈ r.entries) : r.FindsExactly e :=
  ⟨(h.own e he).1, fun n hn => (h.bannerName n e).mpr ⟨he, hn⟩,
    fun n hn => (h.portionName n e).mpr ⟨he, hn⟩⟩

/-- How the place of a control among the others decides which texts lead to it. -/
structure Places (r : Registry) (before : List Entry) (e : Entry) : Prop where
  /-- A name leads to the control unless one before it begins the name. -/
  ofName : ∀ n, e.Names n → (r.match? (some n) = .ok (some e) ↔ ∀ f ∈ before, ¬ f.Begins n)
  /-- If any text leads to the control, one of its names does. -/
  ofSome : (∃ t, r.match? (some t) = .ok (some e)) ↔ ∃ n, e.Names n ∧ ∀ f ∈ before, ¬ f.Begins n
  /-- No text leads to a control that is shadowed. -/
  ofShadowed : e.Shadowed before → ∀ t, r.match? (some t) ≠ .ok (some e)
  exactly : r.FindsExactly e

theorem places_of_compatible (name : Scalar) (hes : ∀ f ∈ before ++ e :: after, f.Textual)
    (h : Compatible (before ++ e :: after)) :
    Places ⟨name, before ++ e :: after, Indexes.declared (before ++ e :: after)⟩ before e := by
  have hnamed : ∀ f ∈ before ++ e :: after, f.NamedByTexts := fun f hf => (hes f hf).namedByTexts
  have hsome := exists_firstMatch?_eq_some_iff hnamed h.nodup
  refine ⟨?_, hsome, ?_, (findsItsOwn_of_compatible name hes h).findsExactly (by simp)⟩
  · intro n hn
    exact (firstMatch?_eq_some_iff_of_nodup hnamed h.nodup n).trans (and_iff_right hn.begins)
  · intro hshadowed t ht
    obtain ⟨n, hn, hnone⟩ := hsome.mp ⟨t, ht⟩
    obtain ⟨f, hf, hfn⟩ := hshadowed n hn
    exact hnone f hf hfn

end Registry

/-! ### Rows -/

namespace Row

/-- Each name in the row begins with a name in one of the rows before it. -/
def Shadowed (before : List Row) (row : Row) : Prop :=
  ∀ n ∈ row.names, ∃ r ∈ before, ∃ m ∈ r.names, m <+: n

instance (before : List Row) (row : Row) : Decidable (Shadowed before row) :=
  inferInstanceAs (Decidable (∀ n ∈ row.names, ∃ r ∈ before, ∃ m ∈ r.names, m <+: n))

variable {before after : List Row} {row : Row}

theorem Shadowed.entry (h : Shadowed before row) (i j : Nat) :
    (row.entry i).Shadowed (entriesFrom j before) := by
  intro n hn
  obtain ⟨r, hr, m, hm, hmn⟩ := h n ((names_entry row i n).mp hn)
  obtain ⟨k, hk⟩ := exists_mem_entriesFrom j hr
  exact ⟨r.entry k, hk, m, (names_entry r k m).mpr hm, hmn⟩

theorem entriesFrom_append_cons (i : Nat) (before after : List Row) (row : Row) :
    entriesFrom i (before ++ row :: after)
      = entriesFrom i before ++ row.entry (i + before.length)
          :: entriesFrom (i + before.length + 1) after := by
  simp [entriesFrom, List.zipIdx_append]

end Row

namespace Registry

open Entry

/-- The two controls of the shipped vocabulary to which no text leads. -/
def shadowedKeys : List Text := ["SBU_NOFORN", "LES_NOFORN"]

/-- Each of the two has its row behind rows that shadow it. -/
theorem exists_shadowed_row : ∀ key ∈ shadowedKeys, ∃ before row after,
    Vocabulary.otherDissemControlsRows = before ++ row :: after ∧ row.key = key ∧
      Row.Shadowed before row := by
  simp only [shadowedKeys, List.forall_mem_cons, List.not_mem_nil, false_imp_iff, implies_true,
    and_true]
  refine ⟨⟨Vocabulary.otherDissemControlsRows.take 5, _,
    Vocabulary.otherDissemControlsRows.drop 6, rfl, rfl, by decide⟩,
    ⟨Vocabulary.otherDissemControlsRows.take 7, _,
    Vocabulary.otherDissemControlsRows.drop 8, rfl, rfl, by decide⟩⟩

/-- A row behind others that shadow it gives a control to which no text leads. -/
theorem exists_places_of_shadowed (name : Scalar) {rows before after : List Row} {row : Row}
    (hrows : rows = before ++ row :: after) (hcompatible : Row.Compatible rows)
    (h : Row.Shadowed before row) :
    ∃ earlier e later, (Row.registry name rows).entries = earlier ++ e :: later ∧
      e.key = .text row.key ∧ e.Shadowed earlier ∧ (Row.registry name rows).Places earlier e := by
  subst hrows
  have hentries := Row.entriesFrom_append_cons 0 before after row
  have htextual := Row.textual_entriesFrom 0 (before ++ row :: after)
  have hstand := (Row.compatible_entriesFrom 0).mpr hcompatible
  have hplaces := places_of_compatible name (hentries ▸ htextual) (hentries ▸ hstand)
  rw [← hentries] at hplaces
  exact ⟨_, _, _, hentries, rfl, h.entry _ _, hplaces⟩

/--
**Which texts lead to a control, and which controls no text leads to.**

In a registry, a name of a control leads to it exactly if no control before it has a name that
begins this one.  Some text leads to the control exactly if it has such a name; so none
does if all of its names begin with names of controls before it, although it is found by
its key and by its names.  Two of the shipped controls are like that.
-/
theorem match?_shadowing :
    (∀ name es r, (∀ e ∈ es, e.Textual) → ofEntries name es = .ok r →
      r.entries = es ∧ ∀ before e after, es = before ++ e :: after → r.Places before e) ∧
      ∃ r, Vocabulary.build (.text Vocabulary.otherDissemControls) Vocabulary.shipped = .ok r ∧
        ∀ key ∈ shadowedKeys, ∃ before e after, r.entries = before ++ e :: after ∧
          e.key = .text key ∧ e.Shadowed before ∧ (∀ t, r.match? (some t) ≠ .ok (some e)) ∧
          r.FindsExactly e := by
  refine ⟨?_, ?_⟩
  · intro name es r hes hbuilt
    obtain ⟨hstand, rfl⟩ := ((settles_ofEntries name hes).ok_iff r).mp hbuilt
    refine ⟨rfl, ?_⟩
    rintro before e after rfl
    exact places_of_compatible name hes hstand
  · refine ⟨_, Vocabulary.build_shipped Vocabulary.otherDissemControls_mem_shippedRows, ?_⟩
    intro key hkey
    obtain ⟨before, row, after, hrows, hrow, hshadowed⟩ := exists_shadowed_row key hkey
    obtain ⟨earlier, e, later, hentries, he, hbehind, hplaces⟩ :=
      exists_places_of_shadowed (.text Vocabulary.otherDissemControls) hrows
        (Vocabulary.compatible_shippedRows _ Vocabulary.otherDissemControls_mem_shippedRows)
        hshadowed
    exact ⟨earlier, e, later, hentries, hrow ▸ he, hbehind, hplaces.ofShadowed hbehind,
      hplaces.exactly⟩

/-- Rows of which the second has one name that the first does not begin. -/
def sensitiveRows : List Row :=
  [⟨"SBU", ["SBU"], ["SBU"]⟩, ⟨"SBU_NOFORN", ["SBU NOFORN", "NOFORN SBU"], ["SBU-NF"]⟩]

/-- Of three names, one leads to the control. -/
theorem match?_shadowing_sensitive :
    (∀ e ∈ Row.entriesFrom 0 sensitiveRows, e.Textual) ∧
      ∃ r e, ofEntries (.text "sensitive") (Row.entriesFrom 0 sensitiveRows) = .ok r ∧
        e.key = .text "SBU_NOFORN" ∧ r.match? (some "NOFORN SBU") = .ok (some e) ∧
        r.match? (some "SBU NOFORN") ≠ .ok (some e) ∧ r.match? (some "SBU-NF") ≠ .ok (some e) := by
  have htextual := Row.textual_entriesFrom 0 sensitiveRows
  obtain ⟨-, hplaces⟩ := match?_shadowing.1 (.text "sensitive") _ _ htextual rfl
  obtain ⟨hname, -⟩ := hplaces [Row.entry ⟨"SBU", ["SBU"], ["SBU"]⟩ 0]
    (Row.entry ⟨"SBU_NOFORN", ["SBU NOFORN", "NOFORN SBU"], ["SBU-NF"]⟩ 1) [] rfl
  simp only [Row.names_entry, List.forall_mem_singleton, Row.begins_entry] at hname
  exact ⟨htextual, _, _, rfl, rfl, (hname "NOFORN SBU" (by decide)).mpr (by decide),
    fun h => absurd ((hname "SBU NOFORN" (by decide)).mp h) (by decide),
    fun h => absurd ((hname "SBU-NF" (by decide)).mp h) (by decide)⟩

end Registry

end SecurityMarking
