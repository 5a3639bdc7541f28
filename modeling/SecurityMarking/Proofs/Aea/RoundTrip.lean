/-
Reading an AEA marking from its own banner.

A banner begins with the first banner name of the type and goes on with the modifiers.
What follows the name cannot change which type is found, as no other type has a name
that begins the same text, and the name has no dash in it that could be taken for the
first one.  That is all that is asked of a registry of types,
`AeaMarking.Distinguishes`, and the shipped one satisfies it.

The modifiers are read back from what the parts are written with if no number is below
nought.  Of a marking that was read none is.  Otherwise it cannot be read back, as
nothing that is read has such a number.
-/
import SecurityMarking.Proofs.Aea.Modifiers
import SecurityMarking.Proofs.Vocabulary.Shipped

namespace SecurityMarking.AeaMarking

open Text Numeral

variable {types : Registry} {type : Entry} {name t m : Text} {x : AeaMarking}

/-- Types that a text tells apart by what stands before its first dash. -/
structure Distinguishes (types : Registry) : Prop where
  textual : ∀ e ∈ types.entries, e.Textual
  named : ∀ e ∈ types.entries, e.bannerNames ≠ []
  apart : Entry.Apart types.entries
  dashFree : ∀ e ∈ types.entries, ∀ n, e.Names n → '-' ∉ n

theorem Distinguishes.namedByTexts (h : Distinguishes types) :
    ∀ e ∈ types.entries, e.NamedByTexts :=
  fun e he => (h.textual e he).namedByTexts

/-- The name that a control is shown by is a name of it. -/
theorem names_of_shown (h : type.shown = .ok name) : type.Names name := by
  obtain ⟨rest, hnames⟩ := Entry.shown_eq_ok_iff.mp h
  exact Or.inl (by rw [hnames]; exact List.mem_cons_self)

/-! ### Finding the type -/

theorem Distinguishes.exists_shown (h : Distinguishes types) (htype : type ∈ types.entries) :
    ∃ name, type.shown = .ok name := by
  obtain ⟨answer, hanswer, -⟩ := Entry.begins_spec (h.namedByTexts type htype) []
  exact Entry.exists_shown_of_begins (h.named type htype) hanswer

/-- A text that begins with a name of a type is read as a marking of that type. -/
theorem Distinguishes.ofText?_of_begins (h : Distinguishes types) (htype : type ∈ types.entries)
    (hshown : type.shown = .ok name) (ht : type.Begins t) :
    ofText? types (some t) = .ok (ofType hshown t) := by
  have hmatch : types.match? (some t) = .ok (some type) :=
    PrefixMatch.firstMatch?_of_apart h.namedByTexts h.apart htype ht
  unfold ofText?
  rw [hmatch]
  exact ofType?_eq_ok hshown t

/-- A text that begins with no name of a type is no marking. -/
theorem Distinguishes.ofText?_of_forall_not (h : Distinguishes types)
    (ht : ∀ e ∈ types.entries, ¬ e.Begins t) :
    ofText? types (some t) = .error (.noAeaType t) := by
  have hmatch : types.match? (some t) = .ok none :=
    PrefixMatch.firstMatch?_of_forall_not h.namedByTexts ht
  unfold ofText?
  rw [hmatch]
  rfl

theorem Distinguishes.eq_ofType (h : Distinguishes types) (hx : ofText? types (some m) = .ok x) :
    x.type ∈ types.entries ∧ x = ofType x.type_shown m := by
  by_cases hbegins : ∃ type ∈ types.entries, type.Begins m
  · obtain ⟨type, htype, ht⟩ := hbegins
    obtain ⟨name, hshown⟩ := h.exists_shown htype
    rw [h.ofText?_of_begins htype hshown ht] at hx
    cases hx
    exact ⟨htype, rfl⟩
  · rw [h.ofText?_of_forall_not fun e he ht => hbegins ⟨e, he, ht⟩] at hx
    cases hx

/-- A banner begins with a name of the type. -/
theorem begins_banner (x : AeaMarking) : x.type.Begins x.banner := by
  refine ⟨x.typeName, names_of_shown x.type_shown, ?_⟩
  unfold banner
  rw [Modifiers.renderParts_eq_join]
  obtain ⟨r, hr⟩ := exists_join_eq_head_append '-'
    (List.cons_ne_nil x.typeName (Modifiers.texts x.cnwdi x.sigmas))
  exact ⟨r, hr.symm⟩

theorem Distinguishes.ofText?_banner (h : Distinguishes types) (hx : x.type ∈ types.entries) :
    ofText? types (some x.banner) = .ok (ofType x.type_shown x.banner) :=
  h.ofText?_of_begins hx x.type_shown x.begins_banner

/-! ### Reading it back -/

/-- **A marking whose numbers can be written is read back exactly if none is below nought.** -/
theorem Distinguishes.ofText?_banner_eq_iff (h : Distinguishes types)
    (hx : x.type ∈ types.entries) (hsigmas : ∀ n ∈ x.sigmas, isWritable n = true) :
    ofText? types (some x.banner) = .ok x ↔ ∀ n ∈ x.sigmas, 0 ≤ n := by
  rw [h.ofText?_banner hx]
  refine ⟨?_, ?_⟩
  · intro heq n hn
    have hx' : ofType x.type_shown x.banner = x := Except.ok.inj heq
    rw [← hx'] at hn
    exact (Modifiers.mem_sigmas_ofText hn).1
  · intro hnonneg
    have hname : '-' ∉ x.typeName := h.dashFree _ hx _ (names_of_shown x.type_shown)
    have hsaid : Modifiers.ofText x.banner = ⟨x.cnwdi, x.sigmas⟩ :=
      Modifiers.ofText_renderParts hname fun n hn => ⟨hnonneg n hn, hsigmas n hn⟩
    unfold ofType
    rw [hsaid]

theorem Distinguishes.mem_sigmas (h : Distinguishes types) (hx : ofText? types (some m) = .ok x) :
    ∀ n ∈ x.sigmas, 0 ≤ n ∧ isWritable n = true := by
  intro n hn
  rw [(h.eq_ofType hx).2] at hn
  exact Modifiers.mem_sigmas_ofText hn

/-- **What a text writes is written by its banner too.** -/
theorem Distinguishes.ofType_banner (h : Distinguishes types)
    (hx : ofText? types (some m) = .ok x) : ofType x.type_shown x.banner = x := by
  have htype := (h.eq_ofType hx).1
  have hsigmas := h.mem_sigmas hx
  have hback : ofText? types (some x.banner) = .ok x :=
    (h.ofText?_banner_eq_iff htype fun n hn => (hsigmas n hn).2).mpr fun n hn => (hsigmas n hn).1
  rw [h.ofText?_banner htype] at hback
  exact Except.ok.inj hback

/-! ### The shipped types -/

theorem distinguishes_shipped :
    Distinguishes (Row.registry (.text Vocabulary.aeaTypes) Vocabulary.aeaTypesRows) := by
  have hdash : ∀ row ∈ Vocabulary.aeaTypesRows, ∀ n ∈ row.names, '-' ∉ n := by
    decide
  have hcompatible := (Row.compatible_entriesFrom 0).mpr
    (Vocabulary.compatible_shippedRows _ Vocabulary.aeaTypes_mem_shippedRows)
  refine ⟨Row.textual_entriesFrom 0 _, fun e he => (hcompatible.named e he).1,
    (Row.apart_entriesFrom 0).mpr Vocabulary.apart_aeaTypesRows, ?_⟩
  intro e he n hn
  obtain ⟨row, hrow, i, rfl⟩ := Row.mem_entriesFrom he
  exact hdash row hrow n ((Row.names_entry row i n).mp hn)

/--
**AEA markings and their banners, with the shipped types.**

The types are those of the rows.  Whatever text is accepted, its numbers are from nought
on and have no more digits than a numeral may have, and the marking is read back from its
banner.  A marking that is put together from a type, the CNWDI flag and numbers of that
many digits is read back exactly if no number is below nought.
-/
theorem shipped_readBack :
    ∃ types, Vocabulary.build (.text Vocabulary.aeaTypes) Vocabulary.shipped = .ok types ∧
      types.entries = (Vocabulary.aeaTypesRows.mapIdx fun i row => row.entry i) ∧
      (∀ m x, ofText? types (some m) = .ok x →
        (∀ n ∈ x.sigmas, 0 ≤ n ∧ (Nat.toDigits 10 n.natAbs).length ≤ maxDigits) ∧
          ofText? types (some x.banner) = .ok x) ∧
      ∀ x : AeaMarking, x.type ∈ types.entries →
        (∀ n ∈ x.sigmas, (Nat.toDigits 10 n.natAbs).length ≤ maxDigits) →
          (ofText? types (some x.banner) = .ok x ↔ ∀ n ∈ x.sigmas, 0 ≤ n) := by
  have hshipped := distinguishes_shipped
  refine ⟨_, Vocabulary.build_shipped Vocabulary.aeaTypes_mem_shippedRows,
    Row.entriesFrom_zero _, ?_, ?_⟩
  · intro m x hx
    have hsigmas := hshipped.mem_sigmas hx
    refine ⟨fun n hn => ⟨(hsigmas n hn).1, (isWritable_iff n).mp (hsigmas n hn).2⟩, ?_⟩
    exact (hshipped.ofText?_banner_eq_iff (hshipped.eq_ofType hx).1
      fun n hn => (hsigmas n hn).2).mpr fun n hn => (hsigmas n hn).1
  · intro x hx hdigits
    exact hshipped.ofText?_banner_eq_iff hx fun n hn => (isWritable_iff n).mpr (hdigits n hn)

/-- The sign of a number below nought is a dash, which ends the list that it stands in. -/
theorem shipped_readBack_of_sign :
    ∃ types type name, ∃ h : type.shown = .ok name,
      Vocabulary.build (.text Vocabulary.aeaTypes) Vocabulary.shipped = .ok types ∧
      type ∈ types.entries ∧
      ofText? types (some "RESTRICTED DATA-N-SIGMA 7 12") = .ok ⟨type, name, h, true, [7, 12]⟩ ∧
      ofText? types (some "RESTRICTED DATA-N-SIGMA 7 -12")
        ≠ .ok ⟨type, name, h, true, [7, -12]⟩ := by
  obtain ⟨types, hbuild, hentries, -, hparts⟩ := shipped_readBack
  have htype : Entry.ofTexts "RD" 0 ["RESTRICTED DATA", "RD"] ["RD"] ∈ types.entries := by
    rw [hentries]
    exact List.mem_cons_self
  refine ⟨types, _, "RESTRICTED DATA", rfl, hbuild, htype, ?_, ?_⟩
  · exact (hparts ⟨_, _, rfl, true, [7, 12]⟩ htype (by decide)).mpr (by decide)
  · intro hread
    have hbanner : banner ⟨Entry.ofTexts "RD" 0 ["RESTRICTED DATA", "RD"] ["RD"], _, rfl, true,
        [7, -12]⟩ = "RESTRICTED DATA-N-SIGMA 7 -12" := by
      decide
    rw [← hbanner] at hread
    have hnonneg := (hparts ⟨_, _, rfl, true, [7, -12]⟩ htype (by decide)).mp hread
    exact absurd (hnonneg (-12) (by decide)) (by decide)

end SecurityMarking.AeaMarking
