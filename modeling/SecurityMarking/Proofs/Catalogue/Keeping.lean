/-
What is kept never shows.

A catalogue keeps the default vocabulary and the registries that were built from it.
`Faithful` says that what is kept is what reading and building again would give, and
`Leads` says what a consultation may do to a catalogue: files and default stay, what is
kept stays faithful, and the journal grows.  A vocabulary is read by default only where
none is kept yet, and afterwards one is; a registry is built only where none of its name
is kept yet, and afterwards one is.  The room that is left for reading and for building
is what pays for each such event, so that `Leads` adds up over several consultations.

`Answers` is the specification of one consultation: in a faithful catalogue it answers
what a function of the reading of the default says, where that reading depends on files
and default only.  So what it answers cannot depend on what is kept.
-/
import SecurityMarking.Catalogue

namespace SecurityMarking

/-- A text is the same key as no other scalar. -/
theorem Scalar.same_text_iff {s : Scalar} {t : Text} : s.same (.text t) = true ↔ s = .text t := by
  unfold same
  cases s with
  | flag b => cases b <;> simp [key]
  | real x =>
      cases h : x.toInt? with
      | none => simp [key, h]
      | some n => simp [key, h]
  | null => simp [key]
  | number n => simp [key]
  | date d => simp [key]
  | moment m => simp [key]
  | bytes bs => simp [key]
  | text s => simp [key]

/-! ### Events -/

namespace Event

/-- A vocabulary was read. -/
def isLoading : Event → Bool
  | .vocabularyLoaded .. => true
  | _ => false

/-- The registry of that name was built. -/
def isBuilding (name : Text) : Event → Bool
  | .registryBuilt n _ => n = .text name
  | _ => false

end Event

namespace Catalogue

variable {c c' c'' : Catalogue} {m n : Nat} {es fs : List Event} {name : Text}

/-! ### What is kept -/

/-- What reading the default vocabulary gives. -/
def reading (c : Catalogue) : Except Failure Vocabulary :=
  match c.chosen with
  | none => .ok Vocabulary.shipped
  | some path => vocabularyOf c.reader path (c.file? path)

/-- What is kept is what reading and building again would give. -/
structure Faithful (c : Catalogue) : Prop where
  vocabulary : ∀ v, c.vocabulary = some v → c.reading = .ok v
  /-- No registry is kept without the vocabulary that it was built from. -/
  registries : ∀ name r, (name, r) ∈ c.registries →
    ∃ v, c.vocabulary = some v ∧ Vocabulary.build name v = .ok r

theorem faithful_forget (c : Catalogue) : c.forget.Faithful := by
  refine ⟨?_, ?_⟩
  · intro v hv
    cases hv
  · intro name r hr
    cases hr

/-- Nothing is kept in a catalogue that is fresh. -/
theorem faithful_fresh (reader : Reader) : (fresh reader).Faithful :=
  faithful_forget (fresh reader)

/-- A fresh catalogue to which no text is a document.  It has all that is needed where nothing but
the shipped vocabulary is asked for. -/
def unread : Catalogue := fresh fun _ => .error .malformed

theorem faithful_unread : unread.Faithful := faithful_fresh _

/-- How often a vocabulary can still be read by default. -/
def roomToLoad (c : Catalogue) : Nat := if c.vocabulary.isSome then 0 else 1

/-- How often the registry of that name can still be built. -/
def roomToBuild (name : Text) (c : Catalogue) : Nat :=
  if (c.kept? (.text name)).isSome then 0 else 1

theorem kept?_eq_some {r : Registry} (h : c.kept? (.text name) = some r) :
    (.text name, r) ∈ c.registries := by
  obtain ⟨entry, hfound, rfl⟩ := Option.map_eq_some_iff.mp h
  have hmem := List.mem_of_find?_eq_some hfound
  have hname : entry.1 = .text name :=
    Scalar.same_text_iff.mp (by simpa using List.find?_some hfound)
  rw [← hname]
  exact hmem

/-- A registry that is added takes the room for its own name only. -/
theorem roomToBuild_append {r : Registry}
    (h : c'.registries = c.registries ++ [(.text name, r)]) (other : Text) :
    c'.roomToBuild other = if name = other then 0 else c.roomToBuild other := by
  unfold roomToBuild kept?
  rw [h, List.find?_append]
  by_cases hname : name = other
  · simp [hname]
  · have hlast : List.find? (fun r => r.1.same (.text other)) [(Scalar.text name, r)] = none := by
      simp [hname]
    rw [hlast, Option.or_none, if_neg hname]

/-! ### What a consultation may do -/

/-- A consultation leads from one catalogue to another, telling `es` and reading up to `n`
vocabularies from files that are named. -/
structure Leads (n : Nat) (es : List Event) (c c' : Catalogue) : Prop where
  reader : c'.reader = c.reader
  files : c'.files = c.files
  chosen : c'.chosen = c.chosen
  faithful : c.Faithful → c'.Faithful
  journal : c'.journal = c.journal ++ es
  loaded : es.countP Event.isLoading + c'.roomToLoad ≤ c.roomToLoad + n
  built : ∀ name, es.countP (Event.isBuilding name) + c'.roomToBuild name ≤ c.roomToBuild name

theorem Leads.refl (c : Catalogue) : Leads 0 [] c c := by
  refine ⟨rfl, rfl, rfl, id, by simp, by simp, by simp⟩

theorem Leads.trans (h : Leads m es c c') (h' : Leads n fs c' c'') :
    Leads (m + n) (es ++ fs) c c'' := by
  refine ⟨h'.reader.trans h.reader, h'.files.trans h.files, h'.chosen.trans h.chosen,
    fun hc => h'.faithful (h.faithful hc), ?_, ?_, ?_⟩
  · rw [h'.journal, h.journal, List.append_assoc]
  · have hload := h.loaded
    have hload' := h'.loaded
    rw [List.countP_append]
    omega
  · intro name
    have hbuild := h.built name
    have hbuild' := h'.built name
    rw [List.countP_append]
    omega

theorem Leads.reading_eq (h : Leads n es c c') : c'.reading = c.reading := by
  unfold reading file?
  rw [h.chosen, h.files, h.reader]

/-- Telling of anything but a reading or a building changes nothing that is kept. -/
theorem leads_record {e : Event} (hload : e.isLoading = false)
    (hbuild : ∀ name, e.isBuilding name = false) (c : Catalogue) :
    Leads 0 [e] c { c with journal := c.journal ++ [e] } := by
  refine ⟨rfl, rfl, rfl, fun hc => ⟨hc.vocabulary, hc.registries⟩, rfl, ?_, ?_⟩
  · simp [hload, roomToLoad]
  · intro name
    show [e].countP (Event.isBuilding name) + c.roomToBuild name ≤ c.roomToBuild name
    simp [hbuild name]

/-- A vocabulary that is read from a named file is told of and not kept. -/
theorem leads_loaded (sections : Nat) (path : Text) (c : Catalogue) :
    Leads 1 [.vocabularyLoaded sections path] c
      { c with journal := c.journal ++ [.vocabularyLoaded sections path] } := by
  refine ⟨rfl, rfl, rfl, fun hc => ⟨hc.vocabulary, hc.registries⟩, rfl, ?_, ?_⟩
  · simp [Event.isLoading, roomToLoad]
    omega
  · intro name
    show [Event.vocabularyLoaded sections path].countP (Event.isBuilding name)
      + c.roomToBuild name ≤ c.roomToBuild name
    simp [Event.isBuilding]

/-- The path that is told of when the default vocabulary is read. -/
def defaultPath (c : Catalogue) : Text := c.chosen.getD shippedPath

/-- The catalogue after the default vocabulary was read, or could not be. -/
def keepRead : Except Failure Vocabulary → Catalogue → Catalogue
  | .ok v, c => { c with
      vocabulary := some v
      journal := c.journal ++ [.vocabularyLoaded v.length c.defaultPath] }
  | .error _, c => c

/-- The catalogue after a registry was built, or could not be. -/
def keepBuilt (name : Scalar) : Except Failure Registry → Catalogue → Catalogue
  | .ok r, c => { c with
      journal := c.journal ++ [.registryBuilt name r.size]
      registries := c.registries ++ [(name, r)] }
  | .error _, c => c

/-- The default vocabulary is kept where none was. -/
theorem leads_keepRead (hnone : c.vocabulary = none) :
    ∃ es, Leads 0 es c (keepRead c.reading c) := by
  cases hv : c.reading with
  | error f => exact ⟨[], Leads.refl c⟩
  | ok v =>
      refine ⟨_, rfl, rfl, rfl, ?_, rfl, ?_, ?_⟩
      · intro hc
        refine ⟨?_, ?_⟩
        · intro w hw
          cases hw
          exact hv
        · -- Nothing can have been built without a vocabulary.
          intro name r hr
          obtain ⟨w, hw, -⟩ := hc.registries name r hr
          rw [hnone] at hw
          cases hw
      · simp [Event.isLoading, keepRead, roomToLoad, hnone]
      · intro name
        show [Event.vocabularyLoaded v.length c.defaultPath].countP (Event.isBuilding name)
          + c.roomToBuild name ≤ c.roomToBuild name
        simp [Event.isBuilding]

/-- A registry is kept where none of its name was. -/
theorem leads_keepBuilt {v : Vocabulary} (hnone : c.kept? (.text name) = none)
    (hv : c.vocabulary = some v) :
    ∃ es, Leads 0 es c (keepBuilt (.text name) (Vocabulary.build (.text name) v) c) := by
  cases hr : Vocabulary.build (.text name) v with
  | error f => exact ⟨[], Leads.refl c⟩
  | ok r =>
      refine ⟨_, rfl, rfl, rfl, ?_, rfl, ?_, ?_⟩
      · intro hc
        refine ⟨hc.vocabulary, ?_⟩
        intro name' r' hr'
        rcases List.mem_append.mp hr' with hold | hnew
        · exact hc.registries name' r' hold
        · rw [List.mem_singleton] at hnew
          cases hnew
          exact ⟨v, hv, hr⟩
      · show 0 + c.roomToLoad ≤ c.roomToLoad + 0
        omega
      · intro other
        rw [roomToBuild_append (c := c) rfl other]
        by_cases hother : name = other
        · subst hother
          simp [Event.isBuilding, roomToBuild, hnone]
        · simp [Event.isBuilding, hother]

/-! ### What a consultation answers -/

section Consultations

variable {α β : Type}

/-- The answer of a consultation and the catalogue after it. -/
def consult (m : Consultation α) (c : Catalogue) : Except Failure α × Catalogue :=
  match m c with
  | .ok a c' => (.ok a, c')
  | .error f c' => (.error f, c')

theorem consult_bind (m : Consultation α) (f : α → Consultation β) (c : Catalogue) :
    consult (m >>= f) c =
      match consult m c with
      | (.ok a, c') => consult (f a) c'
      | (.error e, c') => (.error e, c') := by
  simp only [consult, bind, EStateM.bind]
  cases m c with
  | ok a c' => rfl
  | error e c' => rfl

/-- A consultation that looks at the catalogue first. -/
theorem consult_get_bind (f : Catalogue → Consultation α) (c : Catalogue) :
    consult (get >>= f) c = consult (f c) c := rfl

theorem consult_ofExcept (r : Except Failure α) (c : Catalogue) :
    consult (MonadExcept.ofExcept r) c = (r, c) := by
  cases r <;> rfl

/-- What fails is handled in the catalogue that it left behind. -/
theorem consult_tryCatch (m : Consultation α) (handle : Failure → Consultation α) (c : Catalogue) :
    consult (tryCatch m handle) c =
      match consult m c with
      | (.ok a, c') => (.ok a, c')
      | (.error f, c') => consult (handle f) c' := by
  show (match EStateM.tryCatch m handle c with
    | .ok a s => (Except.ok a, s)
    | .error f s => (.error f, s)) = _
  delta EStateM.tryCatch
  unfold consult
  cases m c with
  | ok a c' => rfl
  | error f c' => rfl

/-- What the reading of the default says, `said`, is what the consultation answers, whatever is
kept. -/
def Answers (m : Consultation α) (said : Except Failure Vocabulary → Except Failure α) : Prop :=
  ∀ c, c.Faithful → ∃ es c', Leads 0 es c c' ∧ consult m c = (said c.reading, c')

namespace Answers

variable {m : Consultation α} {f : α → Consultation β}
  {said : Except Failure Vocabulary → Except Failure α}
  {later : α → Except Failure Vocabulary → Except Failure β}

theorem ofExcept (r : Except Failure α) : Answers (MonadExcept.ofExcept r) fun _ => r := by
  intro c _
  refine ⟨[], c, Leads.refl c, ?_⟩
  cases r with
  | ok a => rfl
  | error e => rfl

/-- One consultation after another, both asking what does not depend on what is kept. -/
theorem bind (hm : Answers m said) (hf : ∀ a, Answers (f a) (later a)) :
    Answers (m >>= f) fun r => said r >>= fun a => later a r := by
  intro c hc
  obtain ⟨es, c', hleads, hanswer⟩ := hm c hc
  simp only [consult_bind, hanswer]
  cases said c.reading with
  | error e => exact ⟨es, c', hleads, rfl⟩
  | ok a =>
      obtain ⟨fs, c'', hleads', hanswer'⟩ := hf a c' (hleads.faithful hc)
      rw [hleads.reading_eq] at hanswer'
      exact ⟨es ++ fs, c'', hleads.trans hleads', hanswer'⟩

end Answers

end Consultations

/-! ### Vocabularies and registries -/

/-- A file that is read is told of, and nothing else changes. -/
theorem consult_readFile (path : Text) (c : Catalogue) :
    consult (readFile path) c =
      match vocabularyOf c.reader path (c.file? path) with
      | .ok v => (.ok v, { c with journal := c.journal ++ [.vocabularyLoaded v.length path] })
      | .error f => (.error f, c) := by
  unfold readFile
  simp only [consult_get_bind]
  cases vocabularyOf c.reader path (c.file? path) with
  | ok v => rfl
  | error f => rfl

theorem consult_defaultVocabulary_of_some {v : Vocabulary} (h : c.vocabulary = some v) :
    consult defaultVocabulary c = (.ok v, c) := by
  unfold defaultVocabulary
  simp only [consult_get_bind, h]
  rfl

theorem consult_defaultVocabulary_of_none (h : c.vocabulary = none) :
    consult defaultVocabulary c = (c.reading, keepRead c.reading c) := by
  obtain ⟨reader, files, chosen, vocabulary, registries, journal⟩ := c
  subst h
  cases chosen with
  | none => rfl
  | some path =>
      have hread := consult_readFile path ⟨reader, files, some path, none, registries, journal⟩
      unfold defaultVocabulary reading
      simp only [consult_get_bind]
      simp only [consult_bind, hread]
      cases vocabularyOf reader path
        (file? path ⟨reader, files, some path, none, registries, journal⟩) with
      | ok v => rfl
      | error f => rfl

theorem consult_registry_of_some {name : Scalar} {r : Registry} (h : c.kept? name = some r) :
    consult (registry name) c = (.ok r, c) := by
  unfold registry
  simp only [consult_get_bind, h]
  rfl

theorem consult_registry_of_none {name : Scalar} (h : c.kept? name = none) :
    consult (registry name) c =
      match consult defaultVocabulary c with
      | (.error f, c') => (.error f, c')
      | (.ok v, c') => (Vocabulary.build name v, keepBuilt name (Vocabulary.build name v) c') := by
  unfold registry build
  simp only [consult_get_bind, h]
  simp only [consult_bind]
  generalize consult defaultVocabulary c = done
  obtain ⟨answer, c'⟩ := done
  cases answer with
  | error f => rfl
  | ok v =>
      simp only
      cases Vocabulary.build name v with
      | error f => rfl
      | ok r => rfl

/-- The default vocabulary is what reading it gives, and is kept from then on. -/
theorem leads_defaultVocabulary (hc : c.Faithful) :
    ∃ es c', Leads 0 es c c' ∧ consult defaultVocabulary c = (c.reading, c') ∧
      c'.registries = c.registries ∧ ∀ v, c.reading = .ok v → c'.vocabulary = some v := by
  cases hv : c.vocabulary with
  | some v =>
      have hreading := hc.vocabulary v hv
      refine ⟨[], c, Leads.refl c, ?_, rfl, ?_⟩
      · rw [consult_defaultVocabulary_of_some hv, hreading]
      · intro w hw
        rw [hreading] at hw
        cases hw
        exact hv
  | none =>
      obtain ⟨es, hleads⟩ := leads_keepRead hv
      refine ⟨es, _, hleads, consult_defaultVocabulary_of_none hv, ?_, ?_⟩
      · cases c.reading with
        | ok v => rfl
        | error f => rfl
      · intro v hreading
        rw [hreading]
        rfl

theorem answers_defaultVocabulary : Answers defaultVocabulary id := by
  intro c hc
  obtain ⟨es, c', hleads, hdefault, -⟩ := leads_defaultVocabulary hc
  exact ⟨es, c', hleads, hdefault⟩

/-- **A registry is what building it from the default vocabulary gives.** -/
theorem answers_registry (name : Text) :
    Answers (registry (.text name)) fun r => r >>= Vocabulary.build (.text name) := by
  intro c hc
  cases hkept : c.kept? (.text name) with
  | some r =>
      obtain ⟨v, hv, hr⟩ := hc.registries _ r (kept?_eq_some hkept)
      refine ⟨[], c, Leads.refl c, ?_⟩
      rw [consult_registry_of_some hkept, hc.vocabulary v hv, ← hr]
      rfl
  | none =>
      obtain ⟨es, c', hleads, hdefault, hregistries, hvocabulary⟩ := leads_defaultVocabulary hc
      rw [consult_registry_of_none hkept, hdefault]
      cases hreading : c.reading with
      | error f => exact ⟨es, c', hleads, rfl⟩
      | ok v =>
          have hkept' : c'.kept? (.text name) = none := by
            unfold kept?
            rw [hregistries]
            exact hkept
          obtain ⟨fs, hbuilt⟩ := leads_keepBuilt hkept' (hvocabulary v hreading)
          exact ⟨es ++ fs, _, hleads.trans hbuilt, rfl⟩

theorem registries_consult_defaultVocabulary (c : Catalogue) :
    (consult defaultVocabulary c).2.registries = c.registries := by
  cases hv : c.vocabulary with
  | some v => rw [consult_defaultVocabulary_of_some hv]
  | none =>
      rw [consult_defaultVocabulary_of_none hv]
      cases c.reading with
      | ok v => rfl
      | error f => rfl

/-- A registry that cannot be had leaves the registries that are kept as they were. -/
theorem registries_of_registry_error {name : Scalar} {f : Failure}
    (h : (consult (registry name) c).1 = .error f) :
    (consult (registry name) c).2.registries = c.registries := by
  cases hkept : c.kept? name with
  | some r =>
      rw [consult_registry_of_some hkept] at h
      cases h
  | none =>
      have hdefault := registries_consult_defaultVocabulary c
      rw [consult_registry_of_none hkept] at h ⊢
      generalize consult defaultVocabulary c = done at h hdefault ⊢
      obtain ⟨answer, c'⟩ := done
      cases answer with
      | error g => exact hdefault
      | ok v =>
          have hbuild : Vocabulary.build name v = .error f := h
          simp only [hbuild]
          exact hdefault

end Catalogue

end SecurityMarking
