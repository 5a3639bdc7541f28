/-
Which control begins a text.

Controls are asked in order of declaration, and each is asked for all of its names
before the next one.  So what is found is the first control that has a name of either
sort at the beginning of the text, and nothing is found only if no control has one:
`firstMatch?_spec`.

The order matters only if one control has a name that begins with a name of another.
Two names that begin one text begin one with the other, so of controls that are
`Entry.Apart` at most one begins a text, wherever it is declared.

A name that is no text cannot be tried, and all of this is about names that are texts.
What the keys of the controls are does not matter.
-/
import Mathlib.Data.List.Pairwise
import SecurityMarking.Registry.PrefixMatch
import SecurityMarking.Proofs.Registry.Rows

namespace SecurityMarking

namespace Entry

/-- The names of the control are texts. -/
structure NamedByTexts (e : Entry) : Prop where
  bannerNames : ∀ v ∈ e.bannerNames, v.IsText
  portionNames : ∀ v ∈ e.portionNames, v.IsText

theorem Textual.namedByTexts {e : Entry} (he : e.Textual) : e.NamedByTexts :=
  ⟨he.bannerNames, he.portionNames⟩

/-- The text is a name of the control, of either sort. -/
def Names (e : Entry) (n : Text) : Prop := .text n ∈ e.bannerNames ∨ .text n ∈ e.portionNames

/-- A name of the control begins the text. -/
def Begins (e : Entry) (t : Text) : Prop := ∃ n, e.Names n ∧ n <+: t

/-- No name of either control begins with a name of the other. -/
def ApartFrom (e f : Entry) : Prop := ∀ m n, e.Names m → f.Names n → ¬ m <+: n ∧ ¬ n <+: m

/-- Each two of the controls are apart. -/
def Apart (es : List Entry) : Prop := es.Pairwise ApartFrom

instance : Std.Symm ApartFrom where
  symm _ _ h m n hm hn := (h n m hn hm).symm

/-! ### Names at the beginning of a text -/

variable {e f : Entry} {es : List Entry} {t : Text} {vs : List Value}

theorem beginsWithName_spec (h : ∀ v ∈ vs, v.IsText) (t : Text) :
    ∃ b, beginsWithName t vs = .ok b ∧ (b = true ↔ ∃ n, .text n ∈ vs ∧ n <+: t) := by
  induction vs with
  | nil => exact ⟨false, rfl, by simp⟩
  | cons v rest ih =>
      obtain ⟨name, rfl⟩ := h v List.mem_cons_self
      obtain ⟨b, hb, hiff⟩ := ih fun w hw => h w (List.mem_cons_of_mem _ hw)
      by_cases hname : name <+: t
      · refine ⟨true, ?_, ?_⟩
        · show (if name.isPrefixOf t then _ else _) = _
          rw [if_pos (List.isPrefixOf_iff_prefix.mpr hname)]
        · simp only [true_iff]
          exact ⟨name, List.mem_cons_self, hname⟩
      · refine ⟨b, ?_, ?_⟩
        · show (if name.isPrefixOf t then _ else _) = _
          rw [if_neg (by rwa [List.isPrefixOf_iff_prefix]), hb]
        · rw [hiff]
          refine ⟨?_, ?_⟩
          · rintro ⟨n, hn, hnt⟩
            exact ⟨n, List.mem_cons_of_mem _ hn, hnt⟩
          · rintro ⟨n, hn, hnt⟩
            rcases List.mem_cons.mp hn with hn | hn
            · have heq : n = name := by simpa using hn
              exact absurd (heq ▸ hnt) hname
            · exact ⟨n, hn, hnt⟩

theorem begins_iff :
    e.Begins t ↔ (∃ n, .text n ∈ e.bannerNames ∧ n <+: t) ∨
      ∃ n, .text n ∈ e.portionNames ∧ n <+: t := by
  refine ⟨?_, ?_⟩
  · rintro ⟨n, hn | hn, hnt⟩
    · exact Or.inl ⟨n, hn, hnt⟩
    · exact Or.inr ⟨n, hn, hnt⟩
  · rintro (⟨n, hn, hnt⟩ | ⟨n, hn, hnt⟩)
    · exact ⟨n, Or.inl hn, hnt⟩
    · exact ⟨n, Or.inr hn, hnt⟩

theorem begins_spec (he : e.NamedByTexts) (t : Text) :
    ∃ b, e.begins t = .ok b ∧ (b = true ↔ e.Begins t) := by
  obtain ⟨b, hb, hbanner⟩ := beginsWithName_spec he.bannerNames t
  obtain ⟨p, hp, hportion⟩ := beginsWithName_spec he.portionNames t
  have hbegins : e.Begins t ↔ b = true ∨ p = true := by
    rw [hbanner, hportion]
    exact begins_iff
  unfold begins
  rw [hb]
  cases b with
  | true => exact ⟨true, rfl, by simp [hbegins]⟩
  | false => exact ⟨p, hp, by simp [hbegins]⟩

/-- A control begins each of its names. -/
theorem Names.begins {n : Text} (h : e.Names n) : e.Begins n := ⟨n, h, List.prefix_rfl⟩

/-- A control that begins a text still begins it when the text runs on. -/
theorem Begins.of_prefix {u : Text} (h : e.Begins t) (htu : t <+: u) : e.Begins u := by
  obtain ⟨n, hn, hnt⟩ := h
  exact ⟨n, hn, hnt.trans htu⟩

/-- At most one of controls that are apart begins a text. -/
theorem Apart.eq_of_begins (h : Apart es) (he : e ∈ es) (hf : f ∈ es) (het : e.Begins t)
    (hft : f.Begins t) : e = f := by
  by_contra hne
  obtain ⟨m, hm, hmt⟩ := het
  obtain ⟨n, hn, hnt⟩ := hft
  obtain ⟨hmn, hnm⟩ := List.Pairwise.forall h he hf hne m n hm hn
  rcases List.prefix_or_prefix_of_prefix hmt hnt with hpre | hpre
  · exact hmn hpre
  · exact hnm hpre

end Entry

/-! ### The first control -/

namespace PrefixMatch

open Entry

variable {e : Entry} {es : List Entry} {t : Text}

/-- **The first control that begins the text is found, or there is none.** -/
theorem firstMatch?_spec (hes : ∀ e ∈ es, e.NamedByTexts) (t : Text) :
    (∃ before e after, es = before ++ e :: after ∧ (∀ f ∈ before, ¬ f.Begins t) ∧ e.Begins t ∧
        firstMatch? t es = .ok (some e)) ∨
      ((∀ e ∈ es, ¬ e.Begins t) ∧ firstMatch? t es = .ok none) := by
  induction es with
  | nil => exact Or.inr ⟨by simp, rfl⟩
  | cons e rest ih =>
      obtain ⟨b, hb, hiff⟩ := begins_spec (hes e List.mem_cons_self) t
      unfold firstMatch?
      rw [hb]
      cases b with
      | true => exact Or.inl ⟨[], e, rest, rfl, by simp, hiff.mp rfl, rfl⟩
      | false =>
          have he : ¬ e.Begins t := fun h => absurd (hiff.mpr h) (by decide)
          rcases ih fun f hf => hes f (List.mem_cons_of_mem e hf) with
            ⟨before, g, after, rfl, hbefore, hg, hfound⟩ | ⟨hnone, hfound⟩
          · exact Or.inl ⟨e :: before, g, after, rfl,
              List.forall_mem_cons.mpr ⟨he, hbefore⟩, hg, hfound⟩
          · exact Or.inr ⟨List.forall_mem_cons.mpr ⟨he, hnone⟩, hfound⟩

open Classical in
/-- What is found is the first control that begins the text. -/
theorem firstMatch?_eq_find? (hes : ∀ e ∈ es, e.NamedByTexts) (t : Text) :
    firstMatch? t es = .ok (es.find? fun e => e.Begins t) := by
  rcases firstMatch?_spec hes t with ⟨before, e, after, heq, hbefore, he, hfound⟩ | ⟨hnone, hfound⟩
  · have hfirst : es.find? (fun e => e.Begins t) = some e :=
      List.find?_eq_some_iff_append.mpr ⟨by simpa, before, after, heq, by simpa⟩
    rw [hfound, hfirst]
  · have hnone' : es.find? (fun e => e.Begins t) = none := List.find?_eq_none.mpr (by simpa)
    rw [hfound, hnone']

theorem firstMatch?_eq_some_iff_append (hes : ∀ e ∈ es, e.NamedByTexts) :
    firstMatch? t es = .ok (some e) ↔
      e.Begins t ∧ ∃ before after, es = before ++ e :: after ∧ ∀ f ∈ before, ¬ f.Begins t := by
  rw [firstMatch?_eq_find? hes, Except.ok.injEq, List.find?_eq_some_iff_append]
  simp

/-- **Of controls that are apart, the one that begins the text is found.** -/
theorem firstMatch?_of_apart (hes : ∀ e ∈ es, e.NamedByTexts) (h : Apart es) (he : e ∈ es)
    (het : e.Begins t) : firstMatch? t es = .ok (some e) := by
  rcases firstMatch?_spec hes t with ⟨before, f, after, heq, -, hf, hfound⟩ | ⟨hnone, -⟩
  · have hmem : f ∈ es := by simp [heq]
    rw [hfound, h.eq_of_begins he hmem het hf]
  · exact absurd het (hnone e he)

theorem firstMatch?_of_forall_not (hes : ∀ e ∈ es, e.NamedByTexts) (h : ∀ e ∈ es, ¬ e.Begins t) :
    firstMatch? t es = .ok none := by
  rcases firstMatch?_spec hes t with ⟨before, e, after, heq, -, he, -⟩ | ⟨-, hfound⟩
  · have hmem : e ∈ es := by simp [heq]
    exact absurd he (h e hmem)
  · exact hfound

end PrefixMatch

/-! ### Rows -/

namespace Row

variable {rows : List Row}

/-- The names of either sort of the control that the row describes. -/
def names (row : Row) : List Text := row.bannerNames ++ row.portionNames

theorem names_entry (row : Row) (position : Nat) (n : Text) :
    (row.entry position).Names n ↔ n ∈ row.names := by
  simp [Entry.Names, entry, Entry.ofTexts, names]

theorem begins_entry (row : Row) (position : Nat) (t : Text) :
    (row.entry position).Begins t ↔ ∃ n ∈ row.names, n <+: t := by
  simp only [Entry.Begins, names_entry]

/-- No name in either row begins with a name in the other. -/
def ApartFrom (r s : Row) : Prop := ∀ m ∈ r.names, ∀ n ∈ s.names, ¬ m <+: n ∧ ¬ n <+: m

instance (r s : Row) : Decidable (ApartFrom r s) :=
  inferInstanceAs (Decidable (∀ m ∈ r.names, ∀ n ∈ s.names, ¬ m <+: n ∧ ¬ n <+: m))

/-- Each two of the rows are apart. -/
def Apart (rows : List Row) : Prop := rows.Pairwise ApartFrom

instance (rows : List Row) : Decidable (Apart rows) :=
  inferInstanceAs (Decidable (rows.Pairwise ApartFrom))

theorem apartFrom_entry (r s : Row) (i j : Nat) :
    (r.entry i).ApartFrom (s.entry j) ↔ r.ApartFrom s := by
  unfold Entry.ApartFrom ApartFrom
  simp only [names_entry]
  refine ⟨?_, ?_⟩
  · intro h m hm n hn
    exact h m n hm hn
  · intro h m n hm hn
    exact h m hm n hn

theorem apart_entriesFrom (position : Nat) :
    Entry.Apart (entriesFrom position rows) ↔ Apart rows := by
  unfold Entry.Apart Apart entriesFrom
  rw [List.pairwise_map]
  simp only [apartFrom_entry]
  calc (rows.zipIdx position).Pairwise (fun p q => p.1.ApartFrom q.1)
      ↔ ((rows.zipIdx position).map Prod.fst).Pairwise ApartFrom := List.pairwise_map.symm
    _ ↔ rows.Pairwise ApartFrom := by rw [List.zipIdx_map_fst]

end Row

end SecurityMarking
