/-
Runs of scenarios.

The steps of a scenario run until one does not pass.  `Course` says what becomes of them
and what is remembered: the steps that pass come first, then one that does not, if there
is one, and the rest is skipped; the error is that of a match of a missing text, if such a
step has passed; and the result is what the last step computed that passed and computes
one.  One step adds to a course at its beginning, and so by induction all steps have one:
`exists_course`.  As a step comes to the same whatever the catalogue keeps, so does a
course.

What follows a step does not change what has become of it.  `runSteps_append` is that
fact, for any vocabulary, and with it the two cases of a step that is added at the end:
either all steps before it have passed, and it is run with what they leave, or it is
skipped.
-/
import SecurityMarking.Proofs.Scenario.Steps

namespace SecurityMarking.Scenario

open Catalogue

variable {memory after : Memory} {c c' : Catalogue} {written : WrittenStep} {step : Step}
  {steps rest : List WrittenStep}

/-! ### Running one step after another -/

/-- Whether a step has passed. -/
def Answer.isPassed : Answer → Bool
  | .passed => true
  | _ => false

/-- The answers to steps that are not run. -/
def skip (steps : List WrittenStep) : List Answer := steps.map fun _ => .skipped

theorem runSteps_of_undefined (h : written.step? = none) :
    runSteps memory c (written :: rest) = (.undefined :: skip rest, memory, c) := by
  rw [runSteps, h]
  rfl

theorem runSteps_of_error {fault : StepFault} (h : written.step? = some step)
    (hrun : step.run memory c = (.error fault, c')) :
    runSteps memory c (written :: rest) = (.failed fault :: skip rest, memory, c') := by
  rw [runSteps, h]
  simp only [hrun]
  rfl

theorem runSteps_of_ok (h : written.step? = some step)
    (hrun : step.run memory c = (.ok after, c')) :
    runSteps memory c (written :: rest)
      = (.passed :: (runSteps after c' rest).1, (runSteps after c' rest).2) := by
  rw [runSteps, h]
  simp only [hrun]

/-- **Steps that follow are run with what the steps before them leave, or skipped.** -/
theorem runSteps_append (memory : Memory) (c : Catalogue) (steps more : List WrittenStep) :
    runSteps memory c (steps ++ more) =
      match runSteps memory c steps with
      | (answers, after, c') =>
        if answers.all Answer.isPassed then
          (answers ++ (runSteps after c' more).1, (runSteps after c' more).2)
        else (answers ++ skip more, after, c') := by
  induction steps generalizing memory c with
  | nil => rfl
  | cons written rest ih =>
      have hskip : skip (rest ++ more) = skip rest ++ skip more := List.map_append
      cases hstep : written.step? with
      | none =>
          rw [List.cons_append, runSteps_of_undefined hstep, runSteps_of_undefined hstep, hskip]
          rfl
      | some step =>
          cases hrun : step.run memory c with
          | mk answer c' =>
              cases answer with
              | error fault =>
                  rw [List.cons_append, runSteps_of_error hstep hrun,
                    runSteps_of_error hstep hrun, hskip]
                  rfl
              | ok after =>
                  rw [List.cons_append, runSteps_of_ok hstep hrun, runSteps_of_ok hstep hrun, ih]
                  simp only [List.all_cons, Answer.isPassed, Bool.true_and]
                  split <;> rfl

/-- What has become of steps does not depend on what follows them. -/
theorem prefix_runSteps_append (memory : Memory) (c : Catalogue) (steps more : List WrittenStep) :
    (runSteps memory c steps).1 <+: (runSteps memory c (steps ++ more)).1 := by
  rw [runSteps_append]
  split
  rename_i answers after c' hrun
  rw [hrun]
  split
  · exact List.prefix_append answers _
  · exact List.prefix_append answers _

/-- A check, and any step that does not pass, leaves what is remembered. -/
theorem memory_runSteps_singleton (memory : Memory) (c : Catalogue)
    (h : written.keyword = .then ∨ (runSteps memory c [written]).1 ≠ [.passed]) :
    (runSteps memory c [written]).2.1 = memory := by
  cases hstep : written.step? with
  | none => rw [runSteps_of_undefined hstep]
  | some step =>
      cases hrun : step.run memory c with
      | mk answer c' =>
          cases answer with
          | error fault => rw [runSteps_of_error hstep hrun]
          | ok after =>
              rw [runSteps_of_ok hstep hrun] at h ⊢
              rcases h with hthen | hpassed
              · exact eq_of_run_check (isCheck_of_then hthen hstep) hrun
              · exact absurd rfl hpassed

theorem memory_runSteps_append_singleton (memory : Memory) (c : Catalogue)
    (steps : List WrittenStep) (written : WrittenStep)
    (h : written.keyword = .then ∨
      (runSteps memory c (steps ++ [written])).1.getLast? ≠ some .passed) :
    (runSteps memory c (steps ++ [written])).2.1 = (runSteps memory c steps).2.1 := by
  rw [runSteps_append] at h ⊢
  split at h
  rename_i answers after c' hrun
  rw [hrun]
  simp only
  split at h
  · rename_i hall
    rw [if_pos hall]
    refine memory_runSteps_singleton after c' (h.imp_right fun hlast hpassed => hlast ?_)
    rw [hpassed]
    exact List.getLast?_concat
  · rename_i hall
    rw [if_neg hall]

/-! ### Courses -/

/-- The answers after those of the steps that pass: none, or that of a step that does not pass and
then those of the steps that are skipped. -/
inductive Ending : Nat → List Answer → Prop
  | allPassed : Ending 0 []
  | undefined (n : Nat) : Ending (n + 1) (.undefined :: List.replicate n .skipped)
  | failed (fault : StepFault) (n : Nat) :
    Ending (n + 1) (.failed fault :: List.replicate n .skipped)

/-- What becomes of steps, with the shipped vocabulary: `passed` are those that pass. -/
structure Course (steps : List WrittenStep) (before : Memory) (passed : List Step)
    (answers : List Answer) (after : Memory) : Prop where
  /-- The steps that pass are written before all others. -/
  written : (steps.take passed.length).map WrittenStep.step? = passed.map some
  answered : ∃ ending, answers = List.replicate passed.length .passed ++ ending ∧
    Ending (steps.length - passed.length) ending
  /-- The error is written by a match of a missing text only. -/
  error : after.error =
    if .action .matchNothing ∈ passed then some nothingMatched else before.error
  /-- The result is what the last step computed that passed and computes one. -/
  result : (passed.filterMap Step.computed?).getLast?.getD (.ok before.result) = .ok after.result

theorem course_nil (memory : Memory) : Course [] memory [] [] memory :=
  ⟨rfl, ⟨[], rfl, .allPassed⟩, rfl, rfl⟩

/-- A course that ends with its first step. -/
theorem course_stop (stop : Answer) (memory : Memory)
    (h : Ending (written :: rest).length (stop :: skip rest)) :
    Course (written :: rest) memory [] (stop :: skip rest) memory :=
  ⟨rfl, ⟨stop :: skip rest, rfl, h⟩, rfl, rfl⟩

theorem skip_eq_replicate (steps : List WrittenStep) :
    skip steps = List.replicate steps.length .skipped :=
  List.map_const' ..

/-- **A step that passes adds to a course at its beginning.** -/
theorem Course.cons {middle : Memory} {passed : List Step} {answers : List Answer}
    (hstep : written.step? = some step) (hpasses : step.Passes memory middle)
    (h : Course rest middle passed answers after) :
    Course (written :: rest) memory (step :: passed) (.passed :: answers) after := by
  obtain ⟨ending, hanswers, hending⟩ := h.answered
  refine ⟨?_, ⟨ending, ?_, ?_⟩, ?_, ?_⟩
  · rw [List.length_cons, List.take_succ_cons, List.map_cons, List.map_cons, h.written, hstep]
  · rw [hanswers]
    rfl
  · rwa [List.length_cons, List.length_cons, Nat.add_sub_add_right]
  · rw [h.error, hpasses.error_eq]
    by_cases hpassed : Step.action .matchNothing ∈ passed
    · simp [hpassed]
    · by_cases hnow : step = .action .matchNothing
      · simp [hnow]
      · simp [hpassed, hnow, Ne.symm hnow]
  · have hresult := hpasses.result_eq
    rw [← h.result]
    cases hcomputed : step.computed? with
    | none =>
        rw [hcomputed] at hresult
        rw [List.filterMap_cons_none hcomputed, ← hresult]
        rfl
    | some computed =>
        rw [hcomputed] at hresult
        rw [List.filterMap_cons_some hcomputed, List.getLast?_cons, ← hresult]
        rfl

/-- **Steps have a course, whatever is kept.** -/
theorem exists_course (steps : List WrittenStep) :
    ∀ memory, ∃ passed answers after, Course steps memory passed answers after ∧
      ∀ c, c.Faithful → c.chosen = none →
        ∃ es c', Leads 0 es c c' ∧ runSteps memory c steps = (answers, after, c') := by
  induction steps with
  | nil =>
      intro memory
      exact ⟨[], [], memory, course_nil memory, fun c _ _ => ⟨[], c, Leads.refl c, rfl⟩⟩
  | cons written rest ih =>
      intro memory
      cases hstep : written.step? with
      | none =>
          refine ⟨[], _, memory, course_stop .undefined memory ?_, fun c _ _ => ?_⟩
          · rw [skip_eq_replicate]
            exact .undefined rest.length
          · exact ⟨[], c, Leads.refl c, runSteps_of_undefined hstep⟩
      | some step =>
          cases houtcome : step.outcome memory with
          | error fault =>
              refine ⟨[], _, memory, course_stop (.failed fault) memory ?_,
                fun c hc hchosen => ?_⟩
              · rw [skip_eq_replicate]
                exact .failed fault rest.length
              · obtain ⟨es, c', hleads, hrun⟩ := leads_run step memory hc hchosen
                rw [houtcome] at hrun
                exact ⟨es, c', hleads, runSteps_of_error hstep hrun⟩
          | ok middle =>
              obtain ⟨passed, answers, after, hcourse, hrest⟩ := ih middle
              refine ⟨step :: passed, .passed :: answers, after,
                hcourse.cons hstep (passes_of_outcome houtcome), fun c hc hchosen => ?_⟩
              obtain ⟨es, c', hleads, hrun⟩ := leads_run step memory hc hchosen
              obtain ⟨fs, c'', hleads', hrunRest⟩ :=
                hrest c' (hleads.faithful hc) (hleads.chosen.trans hchosen)
              rw [houtcome] at hrun
              refine ⟨es ++ fs, c'', hleads.trans hleads', ?_⟩
              rw [runSteps_of_ok hstep hrun, hrunRest]

/-! ### Scenarios -/

/-- The names of the shipped registries and the numbers of their controls. -/
def shippedSizes : List (Scalar × Nat) :=
  Vocabulary.shippedRows.map fun p => (.text p.1, p.2.length)

theorem exists_gives_descriptions :
    ∃ ds, Gives Catalogue.descriptions ds ∧
      ds.map (·.1) = Vocabulary.shippedRows.map fun p => Scalar.text p.1 := by
  have hshipped : Gives defaultVocabulary Vocabulary.shipped := by
    intro c hc hchosen
    obtain ⟨es, c', hleads, hanswer⟩ := answers_defaultVocabulary c hc
    refine ⟨es, c', hleads, ?_⟩
    rw [hanswer]
    unfold reading
    rw [hchosen]
    rfl
  exact ⟨_, hshipped.bind (Gives.ofExcept rfl), rfl⟩

/-- Each of several shipped registries can be had, and has a control for each row. -/
theorem gives_askForAll (sections : List (Text × List Row))
    (h : ∀ p ∈ sections, p ∈ Vocabulary.shippedRows) :
    Gives (askForAll (sections.map fun p => .text p.1))
      (sections.map fun p => (.text p.1, p.2.length)) := by
  induction sections with
  | nil => exact Gives.pure []
  | cons p rest ih =>
      obtain ⟨name, rows⟩ := p
      have hsize : (Row.registry (.text name) rows).size = rows.length := by
        simp [Registry.size, Row.registry, Row.entriesFrom]
      have hrest := ih fun q hq => h q (List.mem_cons_of_mem _ hq)
      rw [List.map_cons, List.map_cons, ← hsize]
      exact (gives_registry (h _ List.mem_cons_self)).bind (hrest.bind (Gives.pure _))

/-- A scenario comes to what its steps come to. -/
theorem gives_run_of_runSteps {answers : List Answer}
    (h : ∀ c, c.Faithful → c.chosen = none →
      ∃ es c', Leads 0 es c c' ∧ runSteps .blank c steps = (answers, after, c')) :
    Gives (run steps) ⟨shippedSizes, answers, after⟩ := by
  obtain ⟨ds, hds, hnames⟩ := exists_gives_descriptions
  refine hds.bind ?_
  rw [hnames]
  refine (gives_askForAll Vocabulary.shippedRows fun p hp => hp).bind fun c hc hchosen => ?_
  obtain ⟨es, c', hleads, hrun⟩ := h c hc hchosen
  refine ⟨es, c', hleads, ?_⟩
  simp only [consult_get_bind, hrun]
  rfl

/-- A check that fails stops the steps, and the result of the action before it stays. -/
example (reader : Reader) :
    let played := runSteps .blank (fresh reader)
      [⟨.when, "I decode the SCI segment \"SI-TK\""⟩, ⟨.then, "no control should be found"⟩,
        ⟨.when, "I decode the SAP segment \"BP\""⟩]
    played.1 = [.passed, .failed (.mismatch "SI-TK"), .skipped] ∧
      played.2.1 = ⟨some (.sci ⟨"SI", [⟨"TK", []⟩]⟩), none⟩ :=
  ⟨rfl, rfl⟩

end SecurityMarking.Scenario
