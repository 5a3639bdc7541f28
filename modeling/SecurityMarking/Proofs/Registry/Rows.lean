/-
Which rows describe a registry.

Where each row has a text for its key and lists of texts for its names, reading the
rows cannot fail, and the control of a row has its position for ordinal.  So whether
there is a registry is decided by the controls alone, and comes down to a condition on
the texts in the rows, `Row.Compatible`, that can be evaluated.

A row may hold more than these three fields and may hold them in any order; all that
counts is what is found under each of the three keys, `Row.WrittenAs`.
-/
import Mathlib.Data.List.Forall2
import SecurityMarking.Registry.Rows
import SecurityMarking.Proofs.Registry.Lookup

namespace SecurityMarking

theorem Entry.fieldOfRow_eq_ok_iff {row v : Value} {field : Text} :
    fieldOfRow field row = .ok v ↔ row.entries?.bind (Scalar.valueIn? (.text field)) = some v := by
  unfold fieldOfRow
  cases row.entries? with
  | none => simp
  | some entries => cases hfield : Scalar.valueIn? (.text field) entries <;> simp [hfield]

/-- A row that can be read has the three fields, and the control has what they give. -/
theorem Entry.ofRow_eq_ok {row : Value} {e : Entry} {position : Nat}
    (h : ofRow position row = .ok e) :
    ∃ key bannerField bannerNames portionField portionNames,
      fieldOfRow "key" row = .ok key ∧
      fieldOfRow "banner_names" row = .ok bannerField ∧ namesOfField bannerField = .ok bannerNames ∧
      fieldOfRow "portion_names" row = .ok portionField ∧
      namesOfField portionField = .ok portionNames ∧
      e = ⟨key, position, bannerNames, portionNames⟩ := by
  obtain ⟨key, hkey, h⟩ := bind_eq_ok h
  obtain ⟨bannerField, hbanner, h⟩ := bind_eq_ok h
  obtain ⟨bannerNames, hbannerNames, h⟩ := bind_eq_ok h
  obtain ⟨portionField, hportion, h⟩ := bind_eq_ok h
  obtain ⟨portionNames, hportionNames, h⟩ := bind_eq_ok h
  cases h
  exact ⟨key, bannerField, bannerNames, portionField, portionNames, hkey, hbanner, hbannerNames,
    hportion, hportionNames, rfl⟩

namespace Row

/-- The control that a row describes at a position. -/
def entry (row : Row) (position : Nat) : Entry :=
  .ofTexts row.key position row.bannerNames row.portionNames

/-- The controls that rows describe from a position on. -/
def entriesFrom (position : Nat) (rows : List Row) : List Entry :=
  (rows.zipIdx position).map fun p => p.1.entry p.2

/-- The registry of the controls that rows describe. -/
def registry (name : Scalar) (rows : List Row) : Registry :=
  ⟨name, entriesFrom 0 rows, Indexes.declared (entriesFrom 0 rows)⟩

/-- Rows that can stand together. -/
structure Compatible (rows : List Row) : Prop where
  /-- Each row has a name of each sort. -/
  named : ∀ row ∈ rows, row.bannerNames ≠ [] ∧ row.portionNames ≠ []
  /-- No key and no name is empty. -/
  filled : ∀ row ∈ rows, row.key ≠ [] ∧ [] ∉ row.bannerNames ∧ [] ∉ row.portionNames
  keys : (rows.map Row.key).Nodup
  /-- No two banner names are the same, in one row or in two. -/
  bannerNames : (rows.flatMap Row.bannerNames).Nodup
  /-- No two portion names are the same, in one row or in two. -/
  portionNames : (rows.flatMap Row.portionNames).Nodup

instance (rows : List Row) : Decidable (Compatible rows) :=
  decidable_of_iff
    ((∀ row ∈ rows, row.bannerNames ≠ [] ∧ row.portionNames ≠ []) ∧
      (∀ row ∈ rows, row.key ≠ [] ∧ [] ∉ row.bannerNames ∧ [] ∉ row.portionNames) ∧
      (rows.map Row.key).Nodup ∧ (rows.flatMap Row.bannerNames).Nodup ∧
      (rows.flatMap Row.portionNames).Nodup)
    ⟨fun ⟨named, filled, keys, banner, portion⟩ => ⟨named, filled, keys, banner, portion⟩,
      fun h => ⟨h.named, h.filled, h.keys, h.bannerNames, h.portionNames⟩⟩

/-- The value holds the key and the names of the row in its fields. -/
structure WrittenAs (row : Row) (v : Value) : Prop where
  key : Entry.fieldOfRow "key" v = .ok (.text row.key)
  bannerNames : Entry.fieldOfRow "banner_names" v = .ok (.list (row.bannerNames.map .text))
  portionNames : Entry.fieldOfRow "portion_names" v = .ok (.list (row.portionNames.map .text))

theorem writtenAs_toValue (row : Row) : row.WrittenAs row.toValue := ⟨rfl, rfl, rfl⟩

theorem forall₂_writtenAs_toValue (rows : List Row) :
    List.Forall₂ WrittenAs rows (rows.map toValue) := by
  rw [List.forall₂_map_right_iff, List.forall₂_same]
  intro row _
  exact writtenAs_toValue row

/-! ### The controls of rows -/

variable {rows : List Row}

theorem mem_entriesFrom {e : Entry} {position : Nat} (h : e ∈ entriesFrom position rows) :
    ∃ row ∈ rows, ∃ i, e = row.entry i := by
  obtain ⟨⟨row, i⟩, hmem, rfl⟩ := List.mem_map.mp h
  exact ⟨row, List.fst_mem_of_mem_zipIdx hmem, i, rfl⟩

theorem exists_mem_entriesFrom {row : Row} (position : Nat) (h : row ∈ rows) :
    ∃ i, row.entry i ∈ entriesFrom position rows := by
  rw [← List.zipIdx_map_fst position rows] at h
  obtain ⟨p, hp, rfl⟩ := List.mem_map.mp h
  exact ⟨p.2, List.mem_map.mpr ⟨p, hp, rfl⟩⟩

theorem entriesFrom_zero (rows : List Row) :
    entriesFrom 0 rows = rows.mapIdx fun i row => row.entry i := by
  rw [List.mapIdx_eq_zipIdx_map]
  rfl

theorem textual_entriesFrom (position : Nat) (rows : List Row) :
    ∀ e ∈ entriesFrom position rows, e.Textual := by
  intro e he
  obtain ⟨row, -, i, rfl⟩ := mem_entriesFrom he
  exact Entry.textual_ofTexts _ _ _ _

/-- What depends on a row and not on its position is the same for the rows and their controls. -/
theorem map_entriesFrom {α : Type} (position : Nat) (rows : List Row) (f : Entry → α)
    (g : Row → α) (h : ∀ row i, f (entry row i) = g row) :
    (entriesFrom position rows).map f = rows.map g := by
  unfold entriesFrom
  rw [List.map_map]
  calc (rows.zipIdx position).map (f ∘ fun p => p.1.entry p.2)
      = (rows.zipIdx position).map (g ∘ Prod.fst) :=
        List.map_congr_left fun p _ => h p.1 p.2
    _ = ((rows.zipIdx position).map Prod.fst).map g := by rw [List.map_map]
    _ = rows.map g := by rw [List.zipIdx_map_fst]

theorem flatMap_entriesFrom (position : Nat) (rows : List Row) (sort : Entry → List Value)
    (names : Row → List Text) (h : ∀ row i, sort (entry row i) = (names row).map .text) :
    (entriesFrom position rows).flatMap sort = (rows.flatMap names).map .text := by
  rw [List.flatMap_def, map_entriesFrom position rows sort (fun row => (names row).map .text) h,
    ← List.flatMap_def, List.map_flatMap]

theorem usable_map_text (ts : List Text) :
    Usable (ts.map .text) ↔ [] ∉ ts ∧ ts.Nodup := by
  have hinj : Function.Injective Value.text := by
    intro s t h
    simpa using h
  unfold Usable
  rw [List.nodup_map_iff hinj, List.mem_map_of_injective hinj]

theorem named_entriesFrom (position : Nat) (rows : List Row) :
    (∀ e ∈ entriesFrom position rows, e.bannerNames ≠ [] ∧ e.portionNames ≠ []) ↔
      ∀ row ∈ rows, row.bannerNames ≠ [] ∧ row.portionNames ≠ [] := by
  have hnamed : ∀ (row : Row) (i : Nat),
      (row.entry i).bannerNames ≠ [] ∧ (row.entry i).portionNames ≠ [] ↔
        row.bannerNames ≠ [] ∧ row.portionNames ≠ [] := by
    intro row i
    simp [entry, Entry.ofTexts]
  refine ⟨?_, ?_⟩
  · intro h row hrow
    obtain ⟨i, hi⟩ := exists_mem_entriesFrom position hrow
    exact (hnamed row i).mp (h _ hi)
  · intro h e he
    obtain ⟨row, hrow, i, rfl⟩ := mem_entriesFrom he
    exact (hnamed row i).mpr (h row hrow)

/-- No key and no name is empty exactly if none is empty among those of each sort. -/
theorem filled_iff (rows : List Row) :
    (∀ row ∈ rows, row.key ≠ [] ∧ [] ∉ row.bannerNames ∧ [] ∉ row.portionNames) ↔
      [] ∉ rows.map Row.key ∧ [] ∉ rows.flatMap Row.bannerNames ∧
        [] ∉ rows.flatMap Row.portionNames := by
  simp only [List.mem_map, List.mem_flatMap, not_exists, not_and, imp_and, forall_and, ne_eq]

theorem compatible_entriesFrom (position : Nat) :
    Entry.Compatible (entriesFrom position rows) ↔ Compatible rows := by
  have hkeys : (entriesFrom position rows).map Entry.key = (rows.map Row.key).map .text := by
    rw [map_entriesFrom position rows Entry.key (fun row => .text row.key) fun _ _ => rfl,
      List.map_map]
    rfl
  have hbanner := flatMap_entriesFrom position rows Entry.bannerNames Row.bannerNames
    fun _ _ => rfl
  have hportion := flatMap_entriesFrom position rows Entry.portionNames Row.portionNames
    fun _ _ => rfl
  refine ⟨?_, ?_⟩
  · intro h
    have hk := (usable_map_text _).mp (hkeys ▸ h.keys)
    have hb := (usable_map_text _).mp (hbanner ▸ h.bannerNames)
    have hp := (usable_map_text _).mp (hportion ▸ h.portionNames)
    exact ⟨(named_entriesFrom position rows).mp h.named,
      (filled_iff rows).mpr ⟨hk.1, hb.1, hp.1⟩, hk.2, hb.2, hp.2⟩
  · intro h
    obtain ⟨hk, hb, hp⟩ := (filled_iff rows).mp h.filled
    exact ⟨(named_entriesFrom position rows).mpr h.named,
      hkeys ▸ (usable_map_text _).mpr ⟨hk, h.keys⟩,
      hbanner ▸ (usable_map_text _).mpr ⟨hb, h.bannerNames⟩,
      hportion ▸ (usable_map_text _).mpr ⟨hp, h.portionNames⟩⟩

/-! ### Reading rows -/

theorem ofRow_of_writtenAs {row : Row} {v : Value} (h : row.WrittenAs v) (position : Nat) :
    Entry.ofRow position v = .ok (row.entry position) := by
  unfold Entry.ofRow
  rw [h.key, h.bannerNames, h.portionNames]
  rfl

theorem ofRows_of_writtenAs {values : List Value} (name : Scalar)
    (h : List.Forall₂ WrittenAs rows values) (position : Nat) :
    Entry.ofRows name position values = .ok (entriesFrom position rows) := by
  induction h generalizing position with
  | nil => rfl
  | cons hrow _ ih =>
      unfold Entry.ofRows
      rw [ofRow_of_writtenAs hrow, ih (position + 1)]
      rfl

end Row

namespace Registry

open Row

variable {rows : List Row} {values : List Value}

/-- **A registry is built exactly from rows that can stand together.** -/
theorem settles_ofRows (name : Scalar) (h : List.Forall₂ WrittenAs rows values) :
    Settles (Row.Compatible rows) (Row.registry name rows) (ofRows name (.list values)) := by
  have hread : ofRows name (.list values) = ofEntries name (entriesFrom 0 rows) := by
    have hitems : (Value.list values).items? = some values := rfl
    unfold ofRows
    rw [hitems]
    show Entry.ofRows name 0 values >>= ofEntries name = _
    rw [ofRows_of_writtenAs name h 0]
    rfl
  rw [hread]
  exact (settles_ofEntries name (textual_entriesFrom 0 rows)).congr (compatible_entriesFrom 0)

/--
**What rows of texts make a registry, and how it answers.**

There is a registry exactly if each row has a banner name and a portion name, no key
and no name is empty, and no key, banner name or portion name is used twice; any other
rows are refused as a configuration that cannot be used.  The registry holds the rows
in order with their positions as ordinals, and finds each of them by what it declares
and by nothing else.
-/
theorem ofRows_accepts_iff (name : Text) (rows : List Row) (values : List Value)
    (h : List.Forall₂ WrittenAs rows values) :
    ((∃ r, ofRows (.text name) (.list values) = .ok r) ↔ Row.Compatible rows) ∧
      (¬ Row.Compatible rows →
        ∃ fault, ofRows (.text name) (.list values) = .error (.configuration fault)) ∧
      ∀ r, ofRows (.text name) (.list values) = .ok r →
        r.name = .text name ∧ r.entries = (rows.mapIdx fun i row => row.entry i) ∧
          FindsItsOwn r := by
  have hsettles := settles_ofRows (.text name) h
  refine ⟨?_, ?_, ?_⟩
  · refine ⟨?_, ?_⟩
    · rintro ⟨r, hr⟩
      exact ((hsettles.ok_iff r).mp hr).1
    · intro hrows
      exact ⟨_, (hsettles.ok_iff _).mpr ⟨hrows, rfl⟩⟩
  · intro hrows
    rcases hsettles with ⟨hcompatible, -⟩ | ⟨-, hfault⟩
    · exact absurd hcompatible hrows
    · exact hfault
  · intro r hr
    obtain ⟨hrows, rfl⟩ := (hsettles.ok_iff r).mp hr
    exact ⟨rfl, entriesFrom_zero rows, findsItsOwn_of_compatible _ (textual_entriesFrom 0 rows)
      ((compatible_entriesFrom 0).mpr hrows)⟩

/-- Two rows with a name in common: a banner name of one and a portion name of the other. -/
def overlappingRows : List Row := [⟨"A", ["ALFA", "A"], ["A"]⟩, ⟨"B", ["BRAVO"], ["ALFA"]⟩]

/-- The same rows as configuration, where the fields of the second stand in another order and it has
one more. -/
def overlappingValues : List Value :=
  [.map [(.text "key", .text "A"), (.text "banner_names", .list [.text "ALFA", .text "A"]),
      (.text "portion_names", .list [.text "A"])],
    .map [(.text "portion_names", .list [.text "ALFA"]), (.text "note", .text "second"),
      (.text "key", .text "B"), (.text "banner_names", .list [.text "BRAVO"])]]

/-- A banner name may be a portion name of another control. -/
theorem ofRows_overlapping :
    List.Forall₂ WrittenAs overlappingRows overlappingValues ∧
      ∃ r, ofRows (.text "letters") (.list overlappingValues) = .ok r ∧
        r.entries = [.ofTexts "A" 0 ["ALFA", "A"] ["A"], .ofTexts "B" 1 ["BRAVO"] ["ALFA"]] ∧
        FindsItsOwn r := by
  have hwritten : List.Forall₂ WrittenAs overlappingRows overlappingValues :=
    .cons ⟨rfl, rfl, rfl⟩ (.cons ⟨rfl, rfl, rfl⟩ .nil)
  obtain ⟨haccepts, -, hregistry⟩ :=
    ofRows_accepts_iff "letters" overlappingRows overlappingValues hwritten
  obtain ⟨r, hr⟩ := haccepts.mpr (by decide)
  obtain ⟨-, hentries, hfinds⟩ := hregistry r hr
  exact ⟨hwritten, r, hr, hentries, hfinds⟩

end Registry

end SecurityMarking
