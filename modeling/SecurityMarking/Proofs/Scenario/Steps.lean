/-
What one step of a scenario comes to.

A step that begins with `then` is a check, because every definition with that keyword
writes checks only.  A check reads what is remembered and writes nothing.

An action asks the catalogue, and what it is told there does not depend on what the
catalogue keeps.  With the shipped vocabulary each action but one computes a result, or
fails, from its own text alone: `Action.computed?`.  The other one matches a missing text,
computes nothing, and keeps the failure of the match as the error.  So a step comes to
`Step.outcome`, whatever is kept, and `leads_run` says so of the step that is run.  All
that is said of a run afterwards is said of outcomes.
-/
import SecurityMarking.Scenario.Run
import SecurityMarking.Proofs.Catalogue.Runs
import SecurityMarking.Proofs.Scenario.Definitions
import SecurityMarking.Proofs.Segment.Shipped

namespace SecurityMarking

/-- What is done to an answer is done to what the consultation comes to. -/
theorem Catalogue.ComesTo.map {α β : Type} {m : Consultation α} {r : Except Failure α}
    (h : ComesTo m r) (g : α → β) : ComesTo (do return g (← m)) (r.map g) := by
  intro c hc hchosen
  obtain ⟨es, c', hleads, hanswer⟩ := h c hc hchosen
  refine ⟨es, c', hleads, ?_⟩
  rw [consult_return, hanswer]

namespace Scenario

open Catalogue

/-! ### Steps that check -/

/-- A step that compares. -/
def Step.isCheck : Step → Bool
  | .check _ => true
  | .action _ => false

namespace Definition

/-- All steps that a definition writes have the property. -/
def WritesOnly (p : Step → Prop) : Definition → Prop
  | .plain _ _ step => p step
  | .withField _ _ _ step => ∀ v, p (step v)
  | .withFields _ _ _ _ step => ∀ first second, p (step first second)

theorem WritesOnly.of_match? {p : Step → Prop} {d : Definition} (h : d.WritesOnly p)
    {written : WrittenStep} {step : Step} (hmatch : d.match? written = some step) : p step := by
  obtain ⟨-, hsentence⟩ := match?_eq_some_iff.mp hmatch
  cases d with
  | plain keyword sentence step' =>
      obtain ⟨-, hstep⟩ := (Option.ite_none_right_eq_some ..).mp hsentence
      cases hstep
      exact h
  | withField keyword before after step' =>
      obtain ⟨v, -, rfl⟩ := Option.map_eq_some_iff.mp hsentence
      exact h v
  | withFields keyword before between after step' =>
      obtain ⟨⟨first, second⟩, -, rfl⟩ := Option.map_eq_some_iff.mp hsentence
      exact h first second

/-- If its steps begin with `then`, a definition writes checks only. -/
def ChecksThen (d : Definition) : Prop :=
  d.keyword = .then → d.WritesOnly fun step => step.isCheck = true

end Definition

theorem checksThen_definitions : ∀ d ∈ definitions, d.ChecksThen := by
  have haction : ∀ before action, (quotedAction before action).ChecksThen :=
    fun _ _ hkeyword => nomatch hkeyword
  have hcheck : ∀ before after check, (quotedCheck before after check).ChecksThen :=
    fun _ _ _ _ _ => rfl
  have hplainAction : ∀ sentence action,
      (Definition.plain .when sentence (.action action)).ChecksThen :=
    fun _ _ hkeyword => nomatch hkeyword
  have hplainCheck : ∀ sentence check,
      (Definition.plain .then sentence (.check check)).ChecksThen :=
    fun _ _ _ => rfl
  have hcheckOfTwo : ∀ before between after,
      (Definition.withFields .then before between after fun name subs =>
        .check (.subCompartments name subs)).ChecksThen :=
    fun _ _ _ _ _ _ => rfl
  simp only [definitions, List.forall_mem_cons, List.not_mem_nil, haction, hcheck, hplainAction,
    hplainCheck, hcheckOfTwo, true_and, false_implies, implies_true]

/-- **A step that begins with `then` is a check.** -/
theorem isCheck_of_then {written : WrittenStep} (hthen : written.keyword = .then) {step : Step}
    (h : written.step? = some step) : step.isCheck = true := by
  obtain ⟨d, hd, hmatch⟩ := List.exists_of_findSome?_eq_some h
  have hkeyword : d.keyword = .then := (Definition.match?_eq_some_iff.mp hmatch).1.trans hthen
  exact (checksThen_definitions d hd hkeyword).of_match? hmatch

/-! ### What a step comes to -/

/-- The failure of matching a missing text. -/
def nothingMatched : Failure := .missingMarking "prefix_match"

/-- The shipped registry of dissemination controls. -/
def dissemControls : Registry :=
  Row.registry (.text Vocabulary.dissemControls) Vocabulary.dissemControlsRows

/-- What an action that decodes a segment or looks up a name computes, or how it fails.  The other
one computes nothing. -/
def Action.computed? : Action → Option (Except Failure (Option Subject))
  | .decodeSci segment => some (.ok (some (.sci (SciControl.ofText segment))))
  | .decodeSap segment => some (.ok (some (.sap (SapControl.ofText segment))))
  | .decodeAea segment =>
    some ((AeaMarking.ofText? Decoding.types (some segment)).map fun m => some (.aea m))
  | .lookUpBannerName name =>
    some (.ok ((dissemControls.findByBannerName? (some name)).map .entry))
  | .lookUpPortionName name =>
    some (.ok ((dissemControls.findByPortionName? (some name)).map .entry))
  | .matchNothing => none

/-- What a step computes, if it is one that decodes a segment or looks up a name. -/
def Step.computed? : Step → Option (Except Failure (Option Subject))
  | .action a => a.computed?
  | .check _ => none

/-- What is remembered after an action, or how it fails. -/
def Action.outcome (memory : Memory) (a : Action) : Except Failure Memory :=
  match a.computed? with
  | some computed => computed.map fun v => { memory with result := v }
  | none => .ok { memory with error := some nothingMatched }

/-- What is remembered after a step, or why it does not pass. -/
def Step.outcome (memory : Memory) : Step → Except StepFault Memory
  | .action a => (a.outcome memory).mapError .raised
  | .check k => (k.run memory).map fun _ => memory

variable {memory after : Memory} {step : Step}

theorem comesTo_run (a : Action) (memory : Memory) : ComesTo (a.run memory) (a.outcome memory) := by
  have hdissem : Gives Catalogue.dissemControls dissemControls :=
    gives_registry RegistryKind.dissem.mem_shippedRows
  cases a with
  | decodeSci segment => exact Gives.pure _
  | decodeSap segment => exact Gives.pure _
  | decodeAea segment =>
      have houtcome : Action.outcome memory (.decodeAea segment)
          = (AeaMarking.ofText? Decoding.types (some segment)).map fun m =>
              { memory with result := some (.aea m) } := by
        show Except.map _ (Except.map _ (AeaMarking.ofText? Decoding.types (some segment))) = _
        cases AeaMarking.ofText? Decoding.types (some segment) with
        | ok marking => rfl
        | error failure => rfl
      rw [houtcome]
      exact (Decoding.comesTo_aeaMarking segment).map _
  | lookUpBannerName name =>
      refine hdissem.bind_comesTo ?_
      exact Gives.pure _
  | lookUpPortionName name =>
      refine hdissem.bind_comesTo ?_
      exact Gives.pure _
  | matchNothing =>
      refine (gives_registry RegistryKind.otherDissem.mem_shippedRows).bind_comesTo ?_
      exact Gives.pure _

/-- An action that is run as a step is a consultation. -/
theorem run_action (a : Action) (memory : Memory) (c : Catalogue) :
    Step.run memory c (.action a)
      = ((consult (a.run memory) c).1.mapError .raised, (consult (a.run memory) c).2) := by
  simp only [Step.run, consult]
  cases a.run memory c with
  | ok after c' => rfl
  | error failure c' => rfl

/-- **A step comes to its outcome, whatever is kept.** -/
theorem leads_run (step : Step) (memory : Memory) {c : Catalogue} (hc : c.Faithful)
    (hchosen : c.chosen = none) :
    ∃ es c', Leads 0 es c c' ∧ step.run memory c = (step.outcome memory, c') := by
  cases step with
  | check k => exact ⟨[], c, Leads.refl c, rfl⟩
  | action a =>
      obtain ⟨es, c', hleads, hanswer⟩ := comesTo_run a memory c hc hchosen
      refine ⟨es, c', hleads, ?_⟩
      rw [run_action, hanswer]
      rfl

/-! ### What a step writes -/

/-- What a step that passes does to what is remembered. -/
inductive Step.Passes (memory : Memory) : Step → Memory → Prop
  | computes {step : Step} {v : Option Subject} (h : step.computed? = some (.ok v)) :
    Passes memory step { memory with result := v }
  | matchesNothing :
    Passes memory (.action .matchNothing) { memory with error := some nothingMatched }
  | checks (check : Check) : Passes memory (.check check) memory

/-- **A step that passes computes the result, keeps an error, or checks.** -/
theorem passes_of_outcome (h : step.outcome memory = .ok after) : step.Passes memory after := by
  cases step with
  | check k =>
      simp only [Step.outcome] at h
      cases hanswer : k.run memory with
      | error fault =>
          rw [hanswer] at h
          cases h
      | ok u =>
          rw [hanswer] at h
          cases h
          exact .checks k
  | action a =>
      simp only [Step.outcome, Action.outcome] at h
      cases hcomputed : a.computed? with
      | none =>
          rw [hcomputed] at h
          cases h
          cases a with
          | matchNothing => exact .matchesNothing
          | _ => cases hcomputed
      | some computed =>
          rw [hcomputed] at h
          cases computed with
          | error failure => cases h
          | ok v =>
              cases h
              exact .computes hcomputed

/-- A check leaves what is remembered, whatever the vocabulary. -/
theorem eq_of_run_check {c c' : Catalogue} (hcheck : step.isCheck = true)
    (h : step.run memory c = (.ok after, c')) : after = memory := by
  cases step with
  | action a => cases hcheck
  | check k =>
      have houtcome : Step.outcome memory (.check k) = .ok after := congrArg Prod.fst h
      cases passes_of_outcome houtcome with
      | computes hcomputed => cases hcomputed
      | checks k => rfl

/-- The error is written by the step that matches a missing text, and by no other. -/
theorem Step.Passes.error_eq (h : step.Passes memory after) :
    after.error = if step = .action .matchNothing then some nothingMatched else memory.error := by
  cases h with
  | computes hcomputed =>
      rw [if_neg]
      rintro rfl
      cases hcomputed
  | matchesNothing => rfl
  | checks k => rfl

/-- The result is written by the steps that compute one, and by no other. -/
theorem Step.Passes.result_eq (h : step.Passes memory after) :
    step.computed?.getD (.ok memory.result) = .ok after.result := by
  cases h with
  | computes hcomputed =>
      rw [hcomputed]
      rfl
  | matchesNothing => rfl
  | checks k => rfl

end Scenario

end SecurityMarking
