/-
What the report of an AEA segment says, and what is reported of its banner.

The type of an AEA segment is looked up twice: for the control that is reported, and again for
the marking, which keeps a type of its own.  Both times it is the type that has a name which begins
the segment.  So either both find it or neither does, and the segments without a control are
exactly the texts that are refused as markings.

Where a type is found, the report says the same of it in both places: `Agree`.  The banner of the
marking begins with a name of that type, and the marking is read back from it, so the report of
the banner says nothing else.
-/
import SecurityMarking.Proofs.Segment.Shipped

namespace SecurityMarking.Decoding

open Catalogue

variable {type : Entry} {name : Text} {s : Entry.Summary} {x : AeaMarking} {t : Text}

/-! ### Reports of markings -/

/-- What is reported of a marking is what the marking says, and the control that is reported with it
is its type. -/
structure Agree (x : AeaMarking) (aea control : Value) : Prop where
  type_eq : aea.part? "type" = some x.type.key
  key_eq : control.part? "key" = some x.type.key
  name_eq : ∃ name, x.type.name = .ok name ∧ aea.part? "name" = some name ∧
    control.part? "name" = some name
  cnwdi_eq : aea.part? "cnwdi" = some (.flag x.cnwdi)
  sigmas_eq : aea.part? "sigmas" = some (.numbers x.sigmas)
  banner_eq : aea.part? "banner" = some (.text x.banner)

theorem agree_of_summary (hs : x.type.summary = .ok s) : Agree x (x.toValue s) s.toValue := by
  obtain ⟨hkey, hname⟩ := Entry.of_summary_eq_ok hs
  refine ⟨?_, ?_, ⟨s.name, hname, rfl, rfl⟩, rfl, rfl, rfl⟩
  · rw [← hkey]
    rfl
  · rw [← hkey]
    rfl

/-- A segment of which a type and a marking were found. -/
def matched (t : Text) (s : Entry.Summary) (x : AeaMarking) : Decoding :=
  ⟨.aea, some t, .aea (some (s, x))⟩

/-- A segment of which no type was found. -/
def unmatched (t : Text) : Decoding := ⟨.aea, some t, .aea none⟩

theorem gives_decode_matched (htype : type ∈ types.entries) (hshown : type.shown = .ok name)
    (hbegins : type.Begins t) (hs : type.summary = .ok s) (portion : Bool) :
    Gives (decode (some SegmentKind.aea.word) (some t) portion)
      (matched t s (AeaMarking.ofType hshown t)) :=
  gives_decode_of_find (gives_findAea_of_begins htype hshown hbegins hs)

theorem gives_decode_unmatched (hnone : ∀ e ∈ types.entries, ¬ e.Begins t) (portion : Bool) :
    Gives (decode (some SegmentKind.aea.word) (some t) portion) (unmatched t) :=
  gives_decode_of_find (gives_findAea_of_forall_not hnone)

/-- The banner of a marking is decoded to the type and the marking that it was made of. -/
theorem gives_decode_banner (htype : type ∈ types.entries) (hshown : type.shown = .ok name)
    (hbegins : type.Begins t) (hs : type.summary = .ok s) (portion : Bool) :
    Gives (decode (some SegmentKind.aea.word) (some (AeaMarking.ofType hshown t).banner) portion)
      (matched (AeaMarking.ofType hshown t).banner s (AeaMarking.ofType hshown t)) := by
  have hread := distinguishes_types.ofText?_of_begins htype hshown hbegins
  have hback : AeaMarking.ofType hshown (AeaMarking.ofType hshown t).banner
      = AeaMarking.ofType hshown t :=
    distinguishes_types.ofType_banner hread
  have hbanner : type.Begins (AeaMarking.ofType hshown t).banner :=
    (AeaMarking.ofType hshown t).begins_banner
  have hdecode := gives_decode_matched htype hshown hbanner hs portion
  rwa [hback] at hdecode

/--
**The report of an AEA segment is consistent.**

The control is missing where the marking is, and that is where the text is refused as a marking.
Otherwise what is reported is the marking that the text writes, the control is its type, and the
banner in the report is found to say the same marking and the same control.
-/
theorem gives_decode_aea (t : Text) (portion : Bool) :
    ∃ d, Gives (decode (some SegmentKind.aea.word) (some t) portion) d ∧
      (d.toValue.part? "control" = some .null ↔ d.toValue.part? "aea" = some .null) ∧
      (d.toValue.part? "aea" = some .null ↔
        ∃ failure, ComesTo (Catalogue.aeaMarking (some t)) (.error failure) ∧
          failure.isReported = true) ∧
      (d.toValue.part? "aea" = some .null ∨
        ∃ x aea control, Gives (Catalogue.aeaMarking (some t)) x ∧
          d.toValue.part? "aea" = some aea ∧ d.toValue.part? "control" = some control ∧
          Agree x aea control ∧
          ∃ d', Gives (decode (some SegmentKind.aea.word) (some x.banner) portion) d' ∧
            d'.toValue.part? "found" = some (.flag true) ∧
            d'.toValue.part? "control" = some control ∧ d'.toValue.part? "aea" = some aea) := by
  by_cases h : ∃ type ∈ types.entries, type.Begins t
  · obtain ⟨type, htype, hbegins⟩ := h
    obtain ⟨s, hs, -⟩ := Row.exists_summary Vocabulary.aeaTypes_mem_shippedRows htype
    obtain ⟨name, hshown⟩ := distinguishes_types.exists_shown htype
    have hmarking := gives_aeaMarking htype hshown hbegins
    have hcontrol : (matched t s (AeaMarking.ofType hshown t)).toValue.part? "control"
        = some s.toValue := rfl
    have haea : (matched t s (AeaMarking.ofType hshown t)).toValue.part? "aea"
        = some ((AeaMarking.ofType hshown t).toValue s) := rfl
    refine ⟨_, gives_decode_matched htype hshown hbegins hs portion, ?_, ?_, Or.inr ?_⟩
    · rw [hcontrol, haea]
      exact iff_of_false nofun nofun
    · rw [haea]
      refine iff_of_false nofun ?_
      rintro ⟨failure, hrefused, -⟩
      exact hmarking.not_comesTo_error failure hrefused
    · exact ⟨_, _, _, hmarking, haea, hcontrol, agree_of_summary hs, _,
        gives_decode_banner htype hshown hbegins hs portion, rfl, rfl, rfl⟩
  · have hnone : ∀ e ∈ types.entries, ¬ e.Begins t := fun e he hbegins => h ⟨e, he, hbegins⟩
    have hrefused := comesTo_aeaMarking t
    rw [distinguishes_types.ofText?_of_forall_not hnone] at hrefused
    refine ⟨_, gives_decode_unmatched hnone portion, iff_of_true rfl rfl, ?_, Or.inl rfl⟩
    exact iff_of_true rfl ⟨_, hrefused, rfl⟩

end SecurityMarking.Decoding
