/-
Decoding segments with the shipped vocabulary.

Nothing that decoding asks of the shipped vocabulary can fail: all four registries are
built from it, each of their controls has names to be shown by, and a text that begins
with an AEA type is an AEA marking.  So decoding any text as any kind of segment gives a
result: `gives_find`.  What remains is whether the segment was found to say something,
and `SegmentKind.Says` is the condition for it on the text and the rows.

A text alone may still be refused as an AEA marking.  `ComesTo` says of a consultation what
`Gives` says of one with a result, with a failure as another possible answer.

`Finding.Fits` is what a report relies on afterwards.  What was found is said by the text or
by the rows: keys and names are texts in ASCII, as they are in the rows, and no SIGMA
category has too many digits to be written, as each of them was read from a numeral.
-/
import SecurityMarking.Proofs.Aea.RoundTrip
import SecurityMarking.Proofs.Catalogue.Keeping
import SecurityMarking.Proofs.Segment.Decoding

namespace SecurityMarking

/-! ### Consultations that succeed, and what others come to -/

namespace Catalogue

variable {α β : Type} {m : Consultation α} {f : α → Consultation β} {a : α} {b : β}
  {r : Except Failure β}

/-- With the shipped vocabulary the consultation gives that result, whatever is kept. -/
def Gives (m : Consultation α) (a : α) : Prop :=
  ∀ c, c.Faithful → c.chosen = none → ∃ es c', Leads 0 es c c' ∧ consult m c = (.ok a, c')

/-- With the shipped vocabulary the consultation has that answer, whatever is kept. -/
def ComesTo (m : Consultation α) (r : Except Failure α) : Prop :=
  ∀ c, c.Faithful → c.chosen = none → ∃ es c', Leads 0 es c c' ∧ consult m c = (r, c')

theorem comesTo_error_bind (failure : Failure) (f : α → Consultation β) :
    ComesTo ((MonadExcept.ofExcept (.error failure) : Consultation α) >>= f) (.error failure) :=
  fun c _ _ => ⟨[], c, Leads.refl c, rfl⟩

namespace Gives

theorem pure (a : α) : Gives (Pure.pure a : Consultation α) a :=
  fun c _ _ => ⟨[], c, Leads.refl c, rfl⟩

theorem ofExcept {r : Except Failure α} (h : r = .ok a) : Gives (MonadExcept.ofExcept r) a := by
  rw [h]
  exact pure a

theorem record {e : Event} (hload : e.isLoading = false)
    (hbuild : ∀ name, e.isBuilding name = false) : Gives (Catalogue.record e) () :=
  fun c _ _ => ⟨[e], _, leads_record hload hbuild c, rfl⟩

theorem comesTo (h : Gives m a) : ComesTo m (.ok a) := h

theorem bind_comesTo (hm : Gives m a) (hf : ComesTo (f a) r) : ComesTo (m >>= f) r := by
  intro c hc hchosen
  obtain ⟨es, c', hleads, hanswer⟩ := hm c hc hchosen
  obtain ⟨fs, c'', hleads', hanswer'⟩ := hf c' (hleads.faithful hc) (hleads.chosen.trans hchosen)
  refine ⟨es ++ fs, c'', hleads.trans hleads', ?_⟩
  simp only [consult_bind, hanswer]
  exact hanswer'

theorem bind (hm : Gives m a) (hf : Gives (f a) b) : Gives (m >>= f) b := hm.bind_comesTo hf.comesTo

/-- What is given is not refused. -/
theorem not_comesTo_error (h : Gives m a) (failure : Failure) : ¬ ComesTo m (.error failure) := by
  intro herror
  obtain ⟨es, c, -, hgiven⟩ := h unread faithful_unread rfl
  obtain ⟨es', c', -, hrefused⟩ := herror unread faithful_unread rfl
  rw [hgiven] at hrefused
  cases hrefused

end Gives

/-- Each shipped registry can be had. -/
theorem gives_registry {name : Text} {rows : List Row}
    (h : (name, rows) ∈ Vocabulary.shippedRows) :
    Gives (registry (.text name)) (Row.registry (.text name) rows) := by
  intro c hc hchosen
  obtain ⟨es, c', hleads, hanswer⟩ := answers_registry name c hc
  have hreading : c.reading = .ok Vocabulary.shipped := by
    unfold reading
    rw [hchosen]
  refine ⟨es, c', hleads, ?_⟩
  rw [hanswer, hreading, ← Vocabulary.build_shipped h]
  rfl

theorem gives_skipped (words : List Text) :
    Gives (words.forM fun word => record (.sigmaSkipped word)) () := by
  induction words with
  | nil => exact Gives.pure ()
  | cons word rest ih =>
      exact (Gives.record rfl fun _ => rfl).bind ih

end Catalogue

/-! ### Controls that can be shown -/

/-- The value is a text in ASCII. -/
def Value.IsPlain (v : Value) : Prop := ∃ t, v = .text t ∧ Encoding.ascii.Writes t

theorem Value.IsPlain.isText {v : Value} (h : v.IsPlain) : v.IsText := by
  obtain ⟨t, ht, -⟩ := h
  exact ⟨t, ht⟩

namespace Entry

variable {e : Entry}

/-- All that is said of a control are texts in ASCII. -/
structure Summary.Plain (s : Summary) : Prop where
  key : s.key.IsPlain
  name : s.name.IsPlain
  portionName : s.portionName.IsPlain
  bannerNames : ∀ v ∈ s.bannerNames, v.IsPlain
  portionNames : ∀ v ∈ s.portionNames, v.IsPlain

/-- A control is shown by its own key and its own first name. -/
theorem of_summary_eq_ok {s : Summary} (h : e.summary = .ok s) :
    s.key = e.key ∧ e.name = .ok s.name := by
  obtain ⟨key, ordinal, bannerNames, portionNames⟩ := e
  cases bannerNames with
  | nil => cases h
  | cons name names =>
      cases portionNames with
      | nil => cases h
      | cons portionName rest =>
          cases h
          exact ⟨rfl, rfl⟩

/-- The name in a summary is the one that the control is shown by. -/
theorem name_of_summary {s : Summary} {t : Text} (hs : e.summary = .ok s) (h : e.shown = .ok t) :
    s.name = .text t := by
  obtain ⟨rest, hnames⟩ := shown_eq_ok_iff.mp h
  have hname : e.name = .ok (.text t) := by
    unfold name
    rw [hnames]
    rfl
  exact Except.ok.inj ((of_summary_eq_ok hs).2.symm.trans hname)

end Entry

/-- The controls of the shipped registries can be shown. -/
theorem Row.exists_summary {name : Text} {rows : List Row}
    (h : (name, rows) ∈ Vocabulary.shippedRows) {e : Entry} (he : e ∈ entriesFrom 0 rows) :
    ∃ s, e.summary = .ok s ∧ s.Plain := by
  obtain ⟨row, hrow, i, rfl⟩ := mem_entriesFrom he
  have hnamed := (Vocabulary.compatible_shippedRows _ h).named row hrow
  have hascii := Vocabulary.ascii_shippedRows _ h row hrow
  obtain ⟨n, ns, hn⟩ := List.exists_cons_of_ne_nil hnamed.1
  obtain ⟨p, ps, hp⟩ := List.exists_cons_of_ne_nil hnamed.2
  have hplain : ∀ {names : List Text}, names ⊆ row.bannerNames ++ row.portionNames →
      ∀ v ∈ names.map Value.text, v.IsPlain := by
    intro names hnames v hv
    obtain ⟨t, ht, rfl⟩ := List.mem_map.mp hv
    exact ⟨t, rfl, hascii t (List.mem_cons_of_mem _ (hnames ht))⟩
  have hbanner := hplain (List.subset_append_left _ _)
  have hportion := hplain (List.subset_append_right _ _)
  refine ⟨⟨.text row.key, .text n, .text p, row.bannerNames.map .text,
    row.portionNames.map .text⟩, ?_, ?_, ?_, ?_, hbanner, hportion⟩
  · unfold entry Entry.ofTexts Entry.summary Entry.name Entry.portionName
    rw [hn, hp]
    rfl
  · exact ⟨row.key, rfl, hascii _ List.mem_cons_self⟩
  · exact hbanner _ (by simp [hn])
  · exact hportion _ (by simp [hp])

/-! ### What a segment says -/

namespace RegistryKind

/-- The name of the registry that holds the names of a kind of segment. -/
def registryName : RegistryKind → Text
  | .classification => Vocabulary.classificationLevels
  | .dissem => Vocabulary.dissemControls
  | .otherDissem => Vocabulary.otherDissemControls

/-- The rows of that registry in the shipped vocabulary. -/
def rows : RegistryKind → List Row
  | .classification => Vocabulary.classificationLevelsRows
  | .dissem => Vocabulary.dissemControlsRows
  | .otherDissem => Vocabulary.otherDissemControlsRows

theorem mem_shippedRows (kind : RegistryKind) :
    (kind.registryName, kind.rows) ∈ Vocabulary.shippedRows := by
  cases kind <;> simp [Vocabulary.shippedRows, registryName, rows]

theorem registry_eq (kind : RegistryKind) :
    kind.registry = Catalogue.registry (.text kind.registryName) := by
  cases kind <;> rfl

end RegistryKind

/-- A text says something as a segment of a kind, with the shipped vocabulary. -/
def SegmentKind.Says (kind : SegmentKind) (portion : Bool) (t : Text) : Prop :=
  match kind with
  | .sci => ¬ (t ≠ [] ∧ ∀ c ∈ t, c = '/')
  | .sap => True
  | .aea => ∃ row ∈ Vocabulary.aeaTypesRows, ∃ n ∈ row.names, n <+: t
  | .named kind => ∃ row ∈ kind.rows, t ∈ if portion then row.portionNames else row.bannerNames

instance (kind : SegmentKind) (portion : Bool) (t : Text) : Decidable (kind.Says portion t) :=
  match kind with
  | .sci => inferInstanceAs (Decidable (¬ (t ≠ [] ∧ ∀ c ∈ t, c = '/')))
  | .sap => inferInstanceAs (Decidable True)
  | .aea =>
    inferInstanceAs (Decidable (∃ row ∈ Vocabulary.aeaTypesRows, ∃ n ∈ row.names, n <+: t))
  | .named kind =>
    inferInstanceAs (Decidable
      (∃ row ∈ kind.rows, t ∈ if portion then row.portionNames else row.bannerNames))

namespace Finding

/-- What was found is what a text can say as a segment of the kind, and can be reported: what is
said of controls is ASCII, and numbers can be written. -/
inductive Fits (t : Text) : SegmentKind → Finding → Prop
  | sci : Fits t .sci (.sci (sciControlsOfSegment t))
  | sap : Fits t .sap (.sap (SapControl.ofSegment t))
  | type {s : Entry.Summary} {m : AeaMarking} (hs : s.Plain) (hname : s.name = .text m.typeName)
      (hsigmas : ∀ n ∈ m.sigmas, Numeral.isWritable n = true) : Fits t .aea (.aea (some (s, m)))
  | noType : Fits t .aea (.aea none)
  | control {kind : RegistryKind} {s : Entry.Summary} (hs : s.Plain) :
      Fits t (.named kind) (.named (some s))
  | noControl {kind : RegistryKind} : Fits t (.named kind) (.named none)

end Finding

/-! ### What decoding finds -/

namespace Decoding

open Catalogue

variable {t : Text} {portion : Bool}

theorem isFound_sci_iff (t : Text) :
    (Finding.sci (sciControlsOfSegment t)).isFound = true ↔ SegmentKind.sci.Says portion t := by
  unfold SegmentKind.Says
  simp only
  rw [← Text.split_eq_nil_iff]
  simp [Finding.isFound, sciControlsOfSegment, Delimiter.slash]

/-- The control that a text names in the registry of a kind, if it names one. -/
theorem findName_iff (kind : RegistryKind) (portion : Bool) (t : Text) (e : Entry) :
    (if portion then (Row.registry (.text kind.registryName) kind.rows).findByPortionName? (some t)
      else (Row.registry (.text kind.registryName) kind.rows).findByBannerName? (some t)) = some e ↔
      e ∈ Row.entriesFrom 0 kind.rows ∧
        .text t ∈ if portion then e.portionNames else e.bannerNames := by
  have hfinds := Registry.findsItsOwn_of_compatible (.text kind.registryName)
    (Row.textual_entriesFrom 0 kind.rows)
    ((Row.compatible_entriesFrom 0).mpr (Vocabulary.compatible_shippedRows _ kind.mem_shippedRows))
  cases portion with
  | true => exact hfinds.portionName t e
  | false => exact hfinds.bannerName t e

/-- A name is declared by a control exactly if it is declared in a row. -/
theorem exists_control_iff (rows : List Row) (portion : Bool) (t : Text) :
    (∃ e ∈ Row.entriesFrom 0 rows, .text t ∈ if portion then e.portionNames else e.bannerNames) ↔
      ∃ row ∈ rows, t ∈ if portion then row.portionNames else row.bannerNames := by
  have hnames : ∀ (row : Row) (i : Nat),
      (Value.text t ∈ if portion then (row.entry i).portionNames else (row.entry i).bannerNames) ↔
        t ∈ if portion then row.portionNames else row.bannerNames := by
    intro row i
    cases portion <;> simp [Row.entry, Entry.ofTexts]
  constructor
  · rintro ⟨e, he, ht⟩
    obtain ⟨row, hrow, i, rfl⟩ := Row.mem_entriesFrom he
    exact ⟨row, hrow, (hnames row i).mp ht⟩
  · rintro ⟨row, hrow, ht⟩
    obtain ⟨i, hi⟩ := Row.exists_mem_entriesFrom 0 hrow
    exact ⟨_, hi, (hnames row i).mpr ht⟩

theorem gives_findNamed (kind : RegistryKind) (t : Text) (portion : Bool) :
    ∃ found, Gives (findNamed kind (some t) portion) (.named found) ∧
      (found.isSome = true ↔ (SegmentKind.named kind).Says portion t) ∧
      (Finding.named found).Fits t (.named kind) := by
  have hregistry := gives_registry kind.mem_shippedRows
  rw [← kind.registry_eq] at hregistry
  have hfind := findName_iff kind portion t
  have hsays := exists_control_iff kind.rows portion t
  unfold SegmentKind.Says
  simp only [← hsays]
  cases hlookup : (if portion
      then (Row.registry (.text kind.registryName) kind.rows).findByPortionName? (some t)
      else (Row.registry (.text kind.registryName) kind.rows).findByBannerName? (some t)) with
  | none =>
      refine ⟨none, hregistry.bind ?_, ?_, .noControl⟩
      · simp only [hlookup]
        exact (Gives.record rfl fun _ => rfl).bind (Gives.pure _)
      · constructor
        · intro h
          cases h
        · rintro ⟨e, he, ht⟩
          have hsome := (hfind e).mpr ⟨he, ht⟩
          rw [hlookup] at hsome
          cases hsome
  | some e =>
      obtain ⟨he, ht⟩ := (hfind e).mp hlookup
      obtain ⟨s, hs, hplain⟩ := Row.exists_summary kind.mem_shippedRows he
      refine ⟨some s, hregistry.bind ?_, ?_, .control hplain⟩
      · simp only [hlookup]
        exact (Gives.ofExcept hs).bind (Gives.pure _)
      · exact ⟨fun _ => ⟨e, he, ht⟩, fun _ => rfl⟩

/-- The registry of AEA types. -/
def types : Registry := Row.registry (.text Vocabulary.aeaTypes) Vocabulary.aeaTypesRows

theorem gives_aeaTypes : Gives Catalogue.aeaTypes types :=
  gives_registry Vocabulary.aeaTypes_mem_shippedRows

theorem distinguishes_types : AeaMarking.Distinguishes types := AeaMarking.distinguishes_shipped

theorem exists_type_iff (t : Text) :
    (∃ e ∈ types.entries, e.Begins t) ↔ SegmentKind.aea.Says portion t := by
  constructor
  · rintro ⟨e, he, n, hn, hnt⟩
    obtain ⟨row, hrow, i, rfl⟩ := Row.mem_entriesFrom he
    exact ⟨row, hrow, n, (Row.names_entry row i n).mp hn, hnt⟩
  · rintro ⟨row, hrow, n, hn, hnt⟩
    obtain ⟨i, hi⟩ := Row.exists_mem_entriesFrom 0 hrow
    exact ⟨_, hi, n, (Row.names_entry row i n).mpr hn, hnt⟩

/-- An AEA marking is what its text writes by the shipped types. -/
theorem comesTo_aeaMarking (t : Text) :
    ComesTo (Catalogue.aeaMarking (some t)) (AeaMarking.ofText? types (some t)) := by
  cases hmarking : AeaMarking.ofText? types (some t) with
  | ok marking =>
      exact (gives_aeaTypes.bind ((Gives.ofExcept hmarking).bind
        ((gives_skipped _).bind (Gives.pure marking)))).comesTo
  | error failure =>
      refine gives_aeaTypes.bind_comesTo ?_
      rw [hmarking]
      exact comesTo_error_bind failure _

theorem gives_aeaMarking {type : Entry} {name : Text} (htype : type ∈ types.entries)
    (hshown : type.shown = .ok name) (hbegins : type.Begins t) :
    Gives (Catalogue.aeaMarking (some t)) (AeaMarking.ofType hshown t) := by
  have hmarking := comesTo_aeaMarking t
  rwa [distinguishes_types.ofText?_of_begins htype hshown hbegins] at hmarking

/-- A segment that begins with a name of a type says that type, and the marking of its text. -/
theorem gives_findAea_of_begins {type : Entry} {name : Text} {s : Entry.Summary}
    (htype : type ∈ types.entries) (hshown : type.shown = .ok name) (hbegins : type.Begins t)
    (hs : type.summary = .ok s) :
    Gives (findAea (some t)) (.aea (some (s, AeaMarking.ofType hshown t))) := by
  have hmatch : types.match? (some t) = .ok (some type) :=
    PrefixMatch.firstMatch?_of_apart distinguishes_types.namedByTexts distinguishes_types.apart
      htype hbegins
  refine Gives.bind (gives_aeaTypes.bind (Gives.ofExcept hmatch)) ?_
  exact (gives_aeaMarking htype hshown hbegins).bind ((Gives.ofExcept hs).bind (Gives.pure _))

/-- A segment that begins with no name of a type says nothing. -/
theorem gives_findAea_of_forall_not (hnone : ∀ e ∈ types.entries, ¬ e.Begins t) :
    Gives (findAea (some t)) (.aea none) := by
  have hmatch : types.match? (some t) = .ok none :=
    PrefixMatch.firstMatch?_of_forall_not distinguishes_types.namedByTexts hnone
  refine Gives.bind (gives_aeaTypes.bind (Gives.ofExcept hmatch)) ?_
  exact (Gives.record rfl fun _ => rfl).bind (Gives.pure _)

theorem gives_findAea (t : Text) (portion : Bool) :
    ∃ found, Gives (findAea (some t)) (.aea found) ∧
      (found.isSome = true ↔ SegmentKind.aea.Says portion t) ∧ (Finding.aea found).Fits t .aea := by
  rw [← exists_type_iff]
  by_cases h : ∃ type ∈ types.entries, type.Begins t
  · obtain ⟨type, htype, hbegins⟩ := h
    obtain ⟨name, hshown⟩ := distinguishes_types.exists_shown htype
    have hmarking := distinguishes_types.ofText?_of_begins htype hshown hbegins
    obtain ⟨s, hs, hplain⟩ :=
      Row.exists_summary Vocabulary.aeaTypes_mem_shippedRows htype
    have hname : s.name = .text name := Entry.name_of_summary hs hshown
    have hsigmas := fun n hn => (distinguishes_types.mem_sigmas hmarking n hn).2
    exact ⟨_, gives_findAea_of_begins htype hshown hbegins hs,
      iff_of_true rfl ⟨type, htype, hbegins⟩, .type hplain hname hsigmas⟩
  · have hnone : ∀ e ∈ types.entries, ¬ e.Begins t := fun e he hbegins => h ⟨e, he, hbegins⟩
    exact ⟨none, gives_findAea_of_forall_not hnone, iff_of_false (by simp) h, .noType⟩

/-- **Finding what a text says as a segment of a kind gives a result.** -/
theorem gives_find (kind : SegmentKind) (t : Text) (portion : Bool) :
    ∃ finding, Gives (find kind (some t) portion) finding ∧
      (finding.isFound = true ↔ kind.Says portion t) ∧ finding.Fits t kind := by
  cases kind with
  | sci => exact ⟨_, Gives.pure _, isFound_sci_iff t, .sci⟩
  | sap => exact ⟨_, Gives.pure _, iff_of_true rfl trivial, .sap⟩
  | aea =>
      obtain ⟨found, hgives, hfound, hfits⟩ := gives_findAea t portion
      exact ⟨_, hgives, hfound, hfits⟩
  | named kind =>
      obtain ⟨found, hgives, hfound, hfits⟩ := gives_findNamed kind t portion
      exact ⟨_, hgives, hfound, hfits⟩

/-- Decoding gives what was found with the kind and the segment. -/
theorem gives_decode_of_find {kind : SegmentKind} {finding : Finding}
    (h : Gives (find kind (some t) portion) finding) :
    Gives (decode (some kind.word) (some t) portion) ⟨kind, some t, finding⟩ := by
  rw [decode_word]
  exact (Gives.record rfl fun _ => rfl).bind (h.bind (Gives.pure _))

theorem gives_decode (kind : SegmentKind) (t : Text) (portion : Bool) :
    ∃ finding, Gives (decode (some kind.word) (some t) portion) ⟨kind, some t, finding⟩ ∧
      (finding.isFound = true ↔ kind.Says portion t) ∧ finding.Fits t kind := by
  obtain ⟨finding, hgives, hfound, hfits⟩ := gives_find kind t portion
  exact ⟨finding, gives_decode_of_find hgives, hfound, hfits⟩

end Decoding

end SecurityMarking
