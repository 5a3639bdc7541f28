/-
Runs of calls to a catalogue.

A run is a sequence of calls, each made of the catalogue that the one before it left.
A call may fail, and the run goes on all the same.  `Turn` records one call with the
catalogue before and after it and with what it answered, and `turns` are those of a run.

Every call but one answers what the reading of the default says, so its answer is the
same wherever the files are the same.  The exception is the vocabulary of a named file,
which is read anew each time and kept nowhere.  So one turn leads from a faithful
catalogue to a faithful one, and by induction all of a run does.

The same induction counts.  A turn that reads the default vocabulary, or builds a
registry, uses up the room that was left for that; where nothing is kept yet the room is
one.
-/
import SecurityMarking.Proofs.Catalogue.Keeping

namespace SecurityMarking.Catalogue

/-! ### Calls -/

/-- What can be asked of a catalogue. -/
inductive Call
  | registry (name : Text)
  | dissemControls
  | otherDissemControls
  | classificationLevels
  | aeaTypes
  /-- The vocabulary in a file, or the default one. -/
  | load (path : Option Text)
  | descriptions
  | findClassification (text : Option Text)
  | findClassificationByShortName (text : Option Text)
  | findAeaType (text : Option Text)

/-- What a catalogue can answer. -/
inductive Answer
  | registry (r : Registry)
  | vocabulary (v : Vocabulary)
  | descriptions (ds : List (Scalar × Value))
  | control (found : Option Entry)

namespace Call

/-- The consultation that a call is. -/
def asked : Call → Consultation Answer
  | registry name => return .registry (← Catalogue.registry (.text name))
  | dissemControls => return .registry (← Catalogue.dissemControls)
  | otherDissemControls => return .registry (← Catalogue.otherDissemControls)
  | classificationLevels => return .registry (← Catalogue.classificationLevels)
  | aeaTypes => return .registry (← Catalogue.aeaTypes)
  | load path => return .vocabulary (← Catalogue.load path)
  | descriptions => return .descriptions (← Catalogue.descriptions)
  | findClassification text => return .control (← Catalogue.findClassification text)
  | findClassificationByShortName text =>
    return .control (← Catalogue.findClassificationByShortName text)
  | findAeaType text => return .control (← Catalogue.findAeaType text)

/-- The name of the registry that a call asks for. -/
def registryName? : Call → Option Text
  | registry name => some name
  | dissemControls => some Vocabulary.dissemControls
  | otherDissemControls => some Vocabulary.otherDissemControls
  | classificationLevels => some Vocabulary.classificationLevels
  | aeaTypes => some Vocabulary.aeaTypes
  | _ => none

/-- The path of the file that a call names. -/
def path? : Call → Option Text
  | load path => path
  | _ => none

theorem asked_of_registryName? {call : Call} {name : Text} (h : call.registryName? = some name) :
    call.asked = do return .registry (← Catalogue.registry (.text name)) := by
  cases call <;> cases h <;> rfl

theorem asked_of_path? {call : Call} {path : Text} (h : call.path? = some path) :
    call.asked = do return .vocabulary (← readFile path) := by
  cases call with
  | load path' =>
      have hpath : path' = some path := h
      rw [hpath]
      rfl
  | _ => cases h

end Call

/-! ### What a call answers -/

variable {c c' : Catalogue} {call : Call}

theorem consult_return {α β : Type} (m : Consultation α) (f : α → β) (c : Catalogue) :
    consult (do return f (← m)) c = ((consult m c).1.map f, (consult m c).2) := by
  simp only [consult_bind]
  generalize consult m c = done
  obtain ⟨answer, c'⟩ := done
  cases answer with
  | ok a => rfl
  | error e => rfl

theorem Answers.return {α β : Type} {m : Consultation α}
    {said : Except Failure Vocabulary → Except Failure α} (h : Answers m said) (f : α → β) :
    Answers (do return f (← m)) fun r => (said r).map f := by
  intro c hc
  obtain ⟨es, c', hleads, hanswer⟩ := h c hc
  refine ⟨es, c', hleads, ?_⟩
  rw [consult_return, hanswer]

/-- **What a call answers is said by the default vocabulary alone, unless the call names a file.** -/
theorem Call.exists_answers (h : call.path? = none) : ∃ said, Answers call.asked said := by
  cases call with
  | registry name => exact ⟨_, (answers_registry name).return _⟩
  | dissemControls => exact ⟨_, (answers_registry _).return _⟩
  | otherDissemControls => exact ⟨_, (answers_registry _).return _⟩
  | classificationLevels => exact ⟨_, (answers_registry _).return _⟩
  | aeaTypes => exact ⟨_, (answers_registry _).return _⟩
  | load path =>
      have hpath : path = none := h
      rw [hpath]
      exact ⟨_, answers_defaultVocabulary.return _⟩
  | descriptions =>
      exact ⟨_, (answers_defaultVocabulary.bind fun v => Answers.ofExcept _).return _⟩
  | findClassification text => exact ⟨_, ((answers_registry _).return _).return _⟩
  | findClassificationByShortName text => exact ⟨_, ((answers_registry _).return _).return _⟩
  | findAeaType text =>
      exact ⟨_, ((answers_registry _).bind fun types => Answers.ofExcept _).return _⟩

/-- A file that is named is read, told of and not kept. -/
theorem exists_leads_readFile (path : Text) (c : Catalogue) :
    ∃ es, Leads 1 es c (consult (readFile path) c).2 ∧
      (consult (readFile path) c).1 = vocabularyOf c.reader path (c.file? path) ∧
      (consult (readFile path) c).2.vocabulary = c.vocabulary ∧
      (consult (readFile path) c).2.registries = c.registries := by
  rw [consult_readFile]
  cases vocabularyOf c.reader path (c.file? path) with
  | ok v => exact ⟨_, leads_loaded v.length path c, rfl, rfl, rfl⟩
  | error f =>
      have hrefl := Leads.refl c
      refine ⟨[], ⟨rfl, rfl, rfl, id, hrefl.journal, ?_, hrefl.built⟩, rfl, rfl, rfl⟩
      simp

/-! ### Turns -/

/-- One call of a run. -/
structure Turn where
  call : Call
  before : Catalogue
  answer : Except Failure Answer
  after : Catalogue

namespace Turn

/-- The turn in which a call is made of a catalogue. -/
def take (call : Call) (c : Catalogue) : Turn :=
  ⟨call, c, (consult call.asked c).1, (consult call.asked c).2⟩

/-- What was told in the turn. -/
def told (t : Turn) : List Event := t.after.journal.drop t.before.journal.length

/-- Whether the call names no file, so that it can read the default vocabulary at most. -/
def byDefault (t : Turn) : Bool := t.call.path?.isNone

end Turn

/-- The turns of a run. -/
def turns : List Call → Catalogue → List Turn
  | [], _ => []
  | call :: rest, c => Turn.take call c :: turns rest (Turn.take call c).after

/-- The most vocabularies that a call reads from named files. -/
def Call.named (call : Call) : Nat := if call.path?.isSome then 1 else 0

theorem told_of_leads {n : Nat} {es : List Event} (h : Leads n es c (Turn.take call c).after) :
    (Turn.take call c).told = es := by
  unfold Turn.told
  rw [h.journal]
  exact List.drop_left

/-- **One turn leads from a faithful catalogue to a faithful one.** -/
theorem leads_take (call : Call) (hc : c.Faithful) :
    Leads call.named (Turn.take call c).told c (Turn.take call c).after := by
  suffices h : ∃ es, Leads call.named es c (Turn.take call c).after by
    obtain ⟨es, hleads⟩ := h
    rw [told_of_leads hleads]
    exact hleads
  unfold Call.named
  cases hpath : call.path? with
  | none =>
      obtain ⟨said, hsaid⟩ := Call.exists_answers hpath
      obtain ⟨es, c', hleads, hanswer⟩ := hsaid c hc
      refine ⟨es, ?_⟩
      show Leads 0 es c (consult call.asked c).2
      rw [hanswer]
      exact hleads
  | some path =>
      obtain ⟨es, hleads, -⟩ := exists_leads_readFile path c
      refine ⟨es, ?_⟩
      show Leads 1 es c (consult call.asked c).2
      rw [Call.asked_of_path? hpath, consult_return]
      exact hleads

/-- Two faithful catalogues that read the same files alike give the same answer. -/
theorem answer_take_congr (call : Call) (hc : c.Faithful) (hc' : c'.Faithful)
    (hreader : c.reader = c'.reader) (hfiles : c.files = c'.files)
    (hchosen : c.chosen = c'.chosen) :
    (Turn.take call c).answer = (Turn.take call c').answer := by
  show (consult call.asked c).1 = (consult call.asked c').1
  cases hpath : call.path? with
  | none =>
      obtain ⟨said, hsaid⟩ := Call.exists_answers hpath
      obtain ⟨_, _, _, hanswer⟩ := hsaid c hc
      obtain ⟨_, _, _, hanswer'⟩ := hsaid c' hc'
      have hreading : c.reading = c'.reading := by
        unfold reading file?
        rw [hreader, hfiles, hchosen]
      rw [hanswer, hanswer', hreading]
  | some path =>
      obtain ⟨-, -, hread, -⟩ := exists_leads_readFile path c
      obtain ⟨-, -, hread', -⟩ := exists_leads_readFile path c'
      rw [Call.asked_of_path? hpath, consult_return, consult_return, hread, hread']
      unfold file?
      rw [hreader, hfiles]

/-- A registry that cannot be had leaves those that are kept. -/
theorem registries_take_of_error {name : Text} {f : Failure}
    (hname : call.registryName? = some name) (hf : (Turn.take call c).answer = .error f) :
    (Turn.take call c).after.registries = c.registries := by
  simp only [Turn.take, Call.asked_of_registryName? hname, consult_return] at hf ⊢
  cases hanswer : (consult (registry (.text name)) c).1 with
  | error g => exact registries_of_registry_error hanswer
  | ok r =>
      rw [hanswer] at hf
      cases hf

/-- A call that names a file leaves all that is kept. -/
theorem kept_take_of_path? {path : Text} (hpath : call.path? = some path) :
    (Turn.take call c).after.vocabulary = c.vocabulary ∧
      (Turn.take call c).after.registries = c.registries := by
  obtain ⟨-, -, -, hkept⟩ := exists_leads_readFile path c
  simp only [Turn.take, Call.asked_of_path? hpath, consult_return]
  exact hkept

/-! ### Runs -/

/-- **Every turn of a run is one of a faithful catalogue that reads the same files.** -/
theorem faithful_of_mem_turns (calls : List Call) :
    ∀ c, c.Faithful → ∀ t ∈ turns calls c,
      t = Turn.take t.call t.before ∧ t.before.Faithful ∧ t.before.reader = c.reader ∧
        t.before.files = c.files ∧ t.before.chosen = c.chosen := by
  induction calls with
  | nil =>
      intro c _ t ht
      cases ht
  | cons call rest ih =>
      intro c hc t ht
      have hleads := leads_take call hc
      rcases List.mem_cons.mp ht with rfl | ht
      · exact ⟨rfl, hc, rfl, rfl, rfl⟩
      · obtain ⟨htake, hbefore, hreader, hfiles, hchosen⟩ := ih _ (hleads.faithful hc) t ht
        exact ⟨htake, hbefore, hreader.trans hleads.reader, hfiles.trans hleads.files,
          hchosen.trans hleads.chosen⟩

/-- Every turn of a run leaves a faithful catalogue, whose default reads as it did at the
beginning. -/
theorem reading_after_of_mem_turns (calls : List Call) (hc : c.Faithful) :
    ∀ t ∈ turns calls c, t.after.Faithful ∧ t.after.reading = c.reading := by
  intro t ht
  obtain ⟨htake, hbefore, hreader, hfiles, hchosen⟩ := faithful_of_mem_turns calls c hc t ht
  have hleads := leads_take t.call hbefore
  rw [← htake] at hleads
  refine ⟨hleads.faithful hbefore, hleads.reading_eq.trans ?_⟩
  unfold reading file?
  rw [hreader, hfiles, hchosen]

/-- What is told in the turns that name no file. -/
def toldByDefault (ts : List Turn) : List Event := (ts.filter Turn.byDefault).flatMap Turn.told

theorem countP_isLoading_turns (calls : List Call) :
    ∀ c, c.Faithful → (toldByDefault (turns calls c)).countP Event.isLoading ≤ c.roomToLoad := by
  induction calls with
  | nil =>
      intro c _
      exact Nat.zero_le _
  | cons call rest ih =>
      intro c hc
      have hleads := leads_take call hc
      have hrest := ih _ (hleads.faithful hc)
      have hloaded := hleads.loaded
      unfold toldByDefault at hrest ⊢
      unfold turns
      cases hpath : call.path? with
      | none =>
          have hcall : (Turn.take call c).byDefault = true := by
            simp [Turn.byDefault, Turn.take, hpath]
          have hnamed : call.named = 0 := by simp [Call.named, hpath]
          rw [List.filter_cons_of_pos hcall, List.flatMap_cons, List.countP_append]
          omega
      | some path =>
          have hcall : ¬ (Turn.take call c).byDefault = true := by
            simp [Turn.byDefault, Turn.take, hpath]
          rw [List.filter_cons_of_neg hcall]
          -- The turn leaves the room as it is, for nothing that it reads is kept.
          have hroom : (Turn.take call c).after.roomToLoad = c.roomToLoad := by
            unfold roomToLoad
            rw [(kept_take_of_path? hpath).1]
          omega

theorem countP_isBuilding_turns (name : Text) (calls : List Call) :
    ∀ c, c.Faithful →
      ((turns calls c).flatMap Turn.told).countP (Event.isBuilding name) ≤ c.roomToBuild name := by
  induction calls with
  | nil =>
      intro c _
      exact Nat.zero_le _
  | cons call rest ih =>
      intro c hc
      have hleads := leads_take call hc
      have hrest := ih _ (hleads.faithful hc)
      have hbuilt := hleads.built name
      unfold turns
      rw [List.flatMap_cons, List.countP_append]
      omega

/-- What is kept in a run that begins with `c` does not show in its turns. -/
structure Unseen (c : Catalogue) (ts : List Turn) : Prop where
  /-- Each call answers what it would have answered at the beginning. -/
  answer : ∀ t ∈ ts, t.answer = (Turn.take t.call c).answer
  vocabulary : ∀ t ∈ ts, ∀ v, t.after.vocabulary = some v → c.reading = .ok v
  registries : ∀ t ∈ ts, ∀ name r, (name, r) ∈ t.after.registries →
    ∃ v, c.reading = .ok v ∧ Vocabulary.build name v = .ok r
  /-- Registries are kept only beside the vocabulary. -/
  kept : ∀ t ∈ ts, t.after.registries ≠ [] → t.after.vocabulary.isSome = true
  failed : ∀ t ∈ ts, t.call.registryName?.isSome = true → (∃ f, t.answer = .error f) →
    t.after.registries = t.before.registries
  named : ∀ t ∈ ts, t.call.path?.isSome = true →
    t.after.vocabulary = t.before.vocabulary ∧ t.after.registries = t.before.registries
  /-- The default vocabulary is read at most once, if calls that name its file are left aside. -/
  loadedOnce : (toldByDefault ts).countP Event.isLoading ≤ 1
  /-- Each registry is built at most once. -/
  builtOnce : ∀ name, (ts.flatMap Turn.told).countP (Event.isBuilding name) ≤ 1

/--
**What a catalogue keeps is not seen in any run of calls.**

The run begins with nothing kept.  Each call answers, or fails, as it would at the
beginning, whatever calls came before it and whichever of them failed.
-/
theorem unseen_turns_forget (calls : List Call) (c : Catalogue) :
    Unseen c.forget (turns calls c.forget) := by
  have hc := faithful_forget c
  have hturn := faithful_of_mem_turns calls c.forget hc
  have hafter := reading_after_of_mem_turns calls hc
  refine ⟨?_, ?_, ?_, ?_, ?_, ?_, ?_, ?_⟩
  · intro t ht
    obtain ⟨htake, hbefore, hreader, hfiles, hchosen⟩ := hturn t ht
    rw [htake]
    exact answer_take_congr t.call hbefore hc hreader hfiles hchosen
  · intro t ht v hv
    obtain ⟨hfaithful, hreading⟩ := hafter t ht
    rw [← hreading]
    exact hfaithful.vocabulary v hv
  · intro t ht name r hr
    obtain ⟨hfaithful, hreading⟩ := hafter t ht
    obtain ⟨v, hv, hbuild⟩ := hfaithful.registries name r hr
    refine ⟨v, ?_, hbuild⟩
    rw [← hreading]
    exact hfaithful.vocabulary v hv
  · intro t ht hne
    obtain ⟨hfaithful, -⟩ := hafter t ht
    obtain ⟨⟨name, r⟩, hr⟩ := List.exists_mem_of_ne_nil _ hne
    obtain ⟨v, hv, -⟩ := hfaithful.registries name r hr
    rw [hv]
    rfl
  · intro t ht hname hfailed
    obtain ⟨htake, -⟩ := hturn t ht
    obtain ⟨name, hname⟩ := Option.isSome_iff_exists.mp hname
    obtain ⟨f, hf⟩ := hfailed
    rw [htake] at hf ⊢
    exact registries_take_of_error hname hf
  · intro t ht hpath
    obtain ⟨htake, -⟩ := hturn t ht
    obtain ⟨path, hpath⟩ := Option.isSome_iff_exists.mp hpath
    rw [htake]
    exact kept_take_of_path? hpath
  · exact countP_isLoading_turns calls c.forget hc
  · intro name
    exact countP_isBuilding_turns name calls c.forget hc

end SecurityMarking.Catalogue
