/-
What a check of names can confirm.

A field lists names with commas between them, and empty ones do not count.  So what a field
lists are names that are not empty and have no comma in them, and any such names are listed
by joining them.  A control may well have other names, as an empty one between two slashes
is kept, and then there is no step that confirms what it has.

No names at all are listed by a comma alone.  Joining them does not do, as a field is never
empty: `ConfirmsNames` leaves that case out where it speaks of joining.
-/
import SecurityMarking.Proofs.Scenario.Runs

namespace SecurityMarking.Scenario

open Text

variable {memory : Memory} {c : Catalogue} {written : WrittenStep} {check : Check} {t p : Text}
  {names : List Text}

/-! ### Lists with commas -/

theorem listedNames_eq (t : Text) :
    listedNames t = (t.splitOn ',').filter fun p => !p.isEmpty := by
  unfold listedNames Delimiter.comma
  rw [pieces_char]

theorem mem_listedNames (h : p ∈ listedNames t) : p ≠ [] ∧ ',' ∉ p := by
  obtain ⟨hpiece, hfilled⟩ := List.mem_filter.mp h
  exact ⟨by simpa using hfilled, not_mem_of_mem_pieces hpiece⟩

theorem listedNames_join (hne : names ≠ []) (h : ∀ p ∈ names, p ≠ [] ∧ ',' ∉ p) :
    listedNames (join .comma names) = names := by
  have hpieces : pieces .comma (join .comma names) = names := pieces_join hne fun p hp => (h p hp).2
  unfold listedNames
  rw [hpieces]
  exact List.filter_eq_self.mpr fun p hp => by simpa using (h p hp).1

theorem join_comma_ne_nil (hne : names ≠ []) (h : ∀ p ∈ names, p ≠ [] ∧ ',' ∉ p) :
    join .comma names ≠ [] := by
  intro hnil
  have hback := listedNames_join hne h
  rw [hnil] at hback
  exact hne hback.symm

/-- **The names that a field can list.** -/
theorem exists_listedNames_eq_iff :
    (∃ t, t ≠ [] ∧ listedNames t = names) ↔ ∀ p ∈ names, p ≠ [] ∧ ',' ∉ p := by
  constructor
  · rintro ⟨t, -, rfl⟩ p hp
    exact mem_listedNames hp
  · intro h
    by_cases hnil : names = []
    · -- Between the comma and the two ends there are empty names only.
      exact ⟨[','], List.cons_ne_nil _ _, hnil ▸ rfl⟩
    · exact ⟨join .comma names, join_comma_ne_nil hnil h, listedNames_join hnil h⟩

/-! ### Steps that check -/

/-- The step passes when it is run. -/
def Passes (memory : Memory) (c : Catalogue) (written : WrittenStep) : Prop :=
  (runSteps memory c [written]).1 = [.passed]

theorem not_passes_of_undefined (h : written.step? = none) : ¬ Passes memory c written := by
  unfold Passes
  rw [runSteps_of_undefined h]
  intro hpassed
  cases hpassed

theorem passes_iff_of_check (h : written.step? = some (.check check)) :
    Passes memory c written ↔ check.run memory = .ok () := by
  unfold Passes
  cases hrun : check.run memory with
  | ok u =>
      have hstep : Step.run memory c (.check check) = (.ok memory, c) := by
        simp only [Step.run, hrun]
        rfl
      rw [runSteps_of_ok h hstep]
      exact iff_of_true rfl rfl
  | error fault =>
      have hstep : Step.run memory c (.check check) = (.error fault, c) := by
        simp only [Step.run, hrun]
        rfl
      rw [runSteps_of_error h hstep]
      constructor
      · intro hpassed
        cases hpassed
      · intro hok
        cases hok

/-- A check with one field passes if the field is filled and the check of its value passes. -/
theorem passes_withField_iff {before after : Text} {check : Text → Check}
    (hd : Definition.withField .then before after (fun v => .check (check v)) ∈ definitions)
    (t : Text) :
    Passes memory c ⟨.then, before ++ t ++ after⟩ ↔ t ≠ [] ∧ (check t).run memory = .ok () := by
  by_cases ht : t = []
  · subst ht
    exact iff_of_false (not_passes_of_undefined (WrittenStep.step?_withField_empty hd))
      fun h => h.1 rfl
  · rw [passes_iff_of_check (WrittenStep.step?_eq_some hd (Definition.match?_withField ht))]
    exact ⟨fun h => ⟨ht, h⟩, fun h => h.2⟩

theorem expect_eq_ok_iff {holds : Bool} {actual : Text} :
    expect holds actual = .ok () ↔ holds = true := by
  unfold expect
  cases holds with
  | true => exact iff_of_true rfl rfl
  | false =>
      constructor
      · intro hok
        cases hok
      · intro htrue
        cases htrue

/-! ### Checks of names -/

/-- The texts for which a check passes are those that list the names. -/
structure ConfirmsNames (passes : Text → Prop) (names : List Text) : Prop where
  /-- It passes if the parts between commas that are not empty are the names in order. -/
  passes_iff : ∀ t, passes t ↔ t ≠ [] ∧ ((t.splitOn ',').filter fun p => !p.isEmpty) = names
  /-- It can pass if no name is empty or has a comma in it. -/
  exists_iff : (∃ t, t ≠ [] ∧ passes t) ↔ ∀ p ∈ names, p ≠ [] ∧ ',' ∉ p
  /-- The names joined with commas are a text for which it passes. -/
  joined : names ≠ [] → (∀ p ∈ names, p ≠ [] ∧ ',' ∉ p) →
    join .comma names ≠ [] ∧ passes (join .comma names)

/-- A check that compares the names with those that its field lists confirms names. -/
theorem confirmsNames_of_iff {passes : Text → Prop}
    (h : ∀ t, passes t ↔ t ≠ [] ∧ listedNames t = names) : ConfirmsNames passes names := by
  refine ⟨fun t => by rw [h, listedNames_eq], ?_, fun hne hnames => ?_⟩
  · rw [← exists_listedNames_eq_iff]
    refine exists_congr fun t => ?_
    rw [h]
    exact ⟨fun ht => ht.2, fun ht => ⟨ht.1, ht⟩⟩
  · have hfilled := join_comma_ne_nil hne hnames
    exact ⟨hfilled, (h _).mpr ⟨hfilled, listedNames_join hne hnames⟩⟩

/--
**What the checks of names can confirm.**

Of the programs of a SAP control and of the names of the compartments of an SCI control:
there is a field for which the check passes exactly if no name is empty or has a comma in
it, the names joined with commas are one if there are any, and the check passes for those
that list the names in order.
-/
theorem checks_confirmNames (error : Option Failure) (c : Catalogue) :
    (∀ x : SapControl,
      ConfirmsNames
        (fun t => Passes ⟨some (.sap x), error⟩ c
          ⟨.then, "the SAP programs should be " ++ ['"'] ++ t ++ ['"']⟩) x.names) ∧
      ∀ x : SciControl,
        ConfirmsNames
          (fun t => Passes ⟨some (.sci x), error⟩ c
            ⟨.then, "the compartments should be " ++ ['"'] ++ t ++ ['"']⟩)
          (x.compartments.map Compartment.name) := by
  have hprograms : quotedCheck "the SAP programs should be " [] .programs ∈ definitions := by
    simp only [definitions, List.mem_cons, true_or, or_true]
  have hcompartments :
      quotedCheck "the compartments should be " [] .compartments ∈ definitions := by
    simp only [definitions, List.mem_cons, true_or, or_true]
  refine ⟨fun x => confirmsNames_of_iff fun t => ?_, fun x => confirmsNames_of_iff fun t => ?_⟩
  · refine (passes_withField_iff hprograms t).trans (and_congr_right fun _ => ?_)
    show expect _ _ = _ ↔ _
    rw [expect_eq_ok_iff, decide_eq_true_eq, eq_comm]
  · refine (passes_withField_iff hcompartments t).trans (and_congr_right fun _ => ?_)
    show expect _ _ = _ ↔ _
    rw [expect_eq_ok_iff, decide_eq_true_eq, eq_comm]

end SecurityMarking.Scenario
