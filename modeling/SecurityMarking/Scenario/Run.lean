/-
Running a scenario.

A scenario remembers the last result of an action and the last failure of the kind
that an action keeps.  Its steps run in order until one does not pass; that one
leaves what is remembered as it was, and the steps after it are skipped.

Before a scenario all registries of the default vocabulary are asked for, so that a
vocabulary that cannot be used is found before any step is.
-/
import SecurityMarking.Scenario.Step
import SecurityMarking.Segment

namespace SecurityMarking.Scenario

/-- What an action results in. -/
inductive Subject
  | sci (control : SciControl)
  | sap (control : SapControl)
  | aea (marking : AeaMarking)
  | entry (entry : Entry)

/-- What a scenario remembers. -/
structure Memory where
  result : Option Subject
  error : Option Failure

/-- Why a step does not pass. -/
inductive StepFault
  /-- What is remembered is not what the sentence says. -/
  | mismatch (actual : Text)
  /-- The control has no compartment of that name. -/
  | noCompartment (name : Text)
  /-- The step failed. -/
  | raised (failure : Failure)

/-- What becomes of a step. -/
inductive Answer
  | passed
  | undefined
  | skipped
  | failed (fault : StepFault)

/-! ### Actions -/

/-- What is remembered after an action. -/
def Action.run (memory : Memory) : Action → Consultation Memory
  | .decodeSci segment => return { memory with result := some (.sci (SciControl.ofText segment)) }
  | .decodeSap segment => return { memory with result := some (.sap (SapControl.ofText segment)) }
  | .decodeAea segment => do
    let marking ← Catalogue.aeaMarking (some segment)
    return { memory with result := some (.aea marking) }
  | .lookUpBannerName name => do
    let registry ← Catalogue.dissemControls
    return { memory with result := (registry.findByBannerName? (some name)).map .entry }
  | .lookUpPortionName name => do
    let registry ← Catalogue.dissemControls
    return { memory with result := (registry.findByPortionName? (some name)).map .entry }
  | .matchNothing => do
    let registry ← Catalogue.otherDissemControls
    match PrefixMatch.beginsWithAnyName registry.entries none with
    | .error (.missingMarking operation) =>
      return { memory with error := some (.missingMarking operation) }
    | .error failure => throw failure
    | .ok _ => return memory

/-! ### Checks -/

/-- The word for the type of a result. -/
def ownerWord : Option Subject → Text
  | none => "NoneType"
  | some (.sci _) => "SciControl"
  | some (.sap _) => "SapControl"
  | some (.aea _) => "AeaMarking"
  | some (.entry _) => "ControlEntry"

/-- A result that lacks a part. -/
def lacks (result : Option Subject) (part : Text) : StepFault :=
  .raised (.misuse (.noSuchPart (ownerWord result) part))

/-- The SCI control that is remembered; only that has the part. -/
def sciOf (result : Option Subject) (part : Text) : Except StepFault SciControl :=
  match result with
  | some (.sci x) => .ok x
  | other => .error (lacks other part)

/-- The SAP control that is remembered; only that has the part. -/
def sapOf (result : Option Subject) (part : Text) : Except StepFault SapControl :=
  match result with
  | some (.sap x) => .ok x
  | other => .error (lacks other part)

/-- The AEA marking that is remembered; only that has the part. -/
def aeaOf (result : Option Subject) (part : Text) : Except StepFault AeaMarking :=
  match result with
  | some (.aea x) => .ok x
  | other => .error (lacks other part)

/-- A result as it stands in a sentence. -/
def shownResult : Option Subject → Except Failure Text
  | none => .ok "None"
  | some (.sci x) => .ok x.banner
  | some (.sap x) => .ok x.banner
  | some (.aea x) => .ok x.banner
  | some (.entry e) => e.shown

/-- The expression that builds a result, if it can be written. -/
def Subject.expression : Subject → Except Failure Text
  | .sci x => .ok x.expression
  | .sap x => .ok x.expression
  | .aea x => .ok x.expression
  | .entry e => e.expression

/-- The names that a field lists with commas between them; empty ones do not count. -/
def listedNames (t : Text) : List Text := (t.pieces .comma).filter fun p => !p.isEmpty

/-- An integer that a field lists. -/
def listedNumber (t : Text) : Except StepFault Int :=
  match Numeral.readPadded t with
  | .ok n => .ok n
  | .error .malformed => .error (.raised (.misuse (.notAnInteger 10 t)))
  | .error (.tooLong digits) => .error (.raised (.misuse (.tooManyDigits digits)))

/-- Passes if the condition holds; else what is remembered is shown. -/
def expect (holds : Bool) (actual : Text) : Except StepFault Unit :=
  if holds then .ok () else .error (.mismatch actual)

/-- A failure of a step's own work. -/
def raising {α : Type} (r : Except Failure α) : Except StepFault α := r.mapError .raised

/-- Whether what is remembered is as a check says. -/
def Check.run (memory : Memory) : Check → Except StepFault Unit
  | .sciControl control => do
    let x ← sciOf memory.result "control"
    expect (x.control = control) x.control
  | .compartments names => do
    let x ← sciOf memory.result "compartments"
    let actual := x.compartments.map Compartment.name
    expect (actual = listedNames names) (quotedTexts actual)
  | .subCompartments name subs => do
    let x ← sciOf memory.result "compartments"
    match x.subCompartments? name with
    | none => .error (.noCompartment name)
    | some actual => expect (actual = listedNames subs) []
  | .rendering banner => do
    let actual ← raising (shownResult memory.result)
    expect (actual = banner) actual
  | .programs names => do
    let x ← sapOf memory.result "programs"
    expect (x.names = listedNames names) (quotedTuple (x.names.map Text.quoted))
  | .multiplePrograms => do
    let x ← sapOf memory.result "is_multiple"
    expect x.isMultiple []
  | .nothingFound =>
    match memory.result with
    | none => .ok ()
    | result => do .error (.mismatch (← raising (shownResult result)))
  | .found key =>
    match memory.result with
    | none => .error (.mismatch [])
    | some (.entry e) => expect (e.key.same (.text key)) []
    | other => .error (lacks other "key")
  | .missingMarking =>
    match memory.error with
    | some (.missingMarking _) => .ok ()
    | some failure => .error (.mismatch failure.message)
    | none => .error (.mismatch "None")
  | .aeaType key => do
    let x ← aeaOf memory.result "type"
    expect (x.type.key.same (.text key)) x.type.key.shown
  | .cnwdi => do
    let x ← aeaOf memory.result "cnwdi"
    expect x.cnwdi []
  | .sigmas numbers => do
    let x ← aeaOf memory.result "sigmas"
    let listed ← (listedNames numbers).mapM listedNumber
    expect (x.sigmas = listed) (quotedTuple (x.sigmas.map Numeral.write))

/-! ### Scenarios -/

/-- What is remembered after a step, or why it does not pass, and the catalogue after it. -/
def Step.run (memory : Memory) (c : Catalogue) : Step → Except StepFault Memory × Catalogue
  | .action a =>
    match a.run memory c with
    | .ok memory c => (.ok memory, c)
    | .error failure c => (.error (.raised failure), c)
  | .check k => ((k.run memory).map fun _ => memory, c)

/-- What becomes of steps, and what is remembered and kept after them. -/
def runSteps (memory : Memory) (c : Catalogue) :
    List WrittenStep → List Answer × Memory × Catalogue
  | [] => ([], memory, c)
  | written :: rest =>
    match written.step? with
    | none => (.undefined :: rest.map fun _ => .skipped, memory, c)
    | some step =>
      match step.run memory c with
      | (.ok memory, c) =>
        let (answers, after) := runSteps memory c rest
        (.passed :: answers, after)
      | (.error fault, c) => (.failed fault :: rest.map fun _ => .skipped, memory, c)

/-- What is remembered before the first step: nothing. -/
def Memory.blank : Memory := ⟨none, none⟩

/-- What a scenario comes to. -/
structure Report where
  /-- The registries and the numbers of their controls. -/
  registries : List (Scalar × Nat)
  answers : List Answer
  memory : Memory

/-- Asks for the registries of those names. -/
def askForAll : List Scalar → Consultation (List (Scalar × Nat))
  | [] => return []
  | name :: rest => do
    let registry ← Catalogue.registry name
    return (name, registry.size) :: (← askForAll rest)

/-- Runs a scenario. -/
def run (steps : List WrittenStep) : Consultation Report := do
  let descriptions ← Catalogue.descriptions
  let registries ← askForAll (descriptions.map (·.1))
  let (answers, memory, c) := runSteps .blank (← get) steps
  set c
  return ⟨registries, answers, memory⟩

end SecurityMarking.Scenario
