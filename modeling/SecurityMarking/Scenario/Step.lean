/-
The steps of a scenario.

A scenario is written in steps, each a keyword and a sentence.  An action decodes a
segment or looks up a control and remembers the result; a check compares what is
remembered with what the sentence says.  So only actions change what is remembered,
and that is what the two types are for.

A sentence has at most two fields.  A definition matches a whole sentence, with one
or more characters for each field, and of two fields the first as few as it can.
-/
import SecurityMarking.Text.Split

namespace SecurityMarking.Scenario

/-- What a step begins with. -/
inductive Keyword
  | given
  | «when»
  | «then»
deriving DecidableEq

/-- A step that does something. -/
inductive Action
  | decodeSci (segment : Text)
  | decodeSap (segment : Text)
  | decodeAea (segment : Text)
  | lookUpBannerName (name : Text)
  | lookUpPortionName (name : Text)
  /-- Matches a missing text against a registry. -/
  | matchNothing
deriving DecidableEq

/-- A step that checks what is remembered. -/
inductive Check
  | sciControl (control : Text)
  | compartments (names : Text)
  | subCompartments (name subs : Text)
  | rendering (banner : Text)
  | programs (names : Text)
  | multiplePrograms
  | nothingFound
  | found (key : Text)
  | missingMarking
  | aeaType (key : Text)
  | cnwdi
  | sigmas (numbers : Text)
deriving DecidableEq

/-- A step of a scenario. -/
inductive Step
  | action (action : Action)
  | check (check : Check)
deriving DecidableEq

/-- A step as it is written. -/
structure WrittenStep where
  keyword : Keyword
  sentence : Text

/-! ### Matching sentences -/

/-- What stands between a beginning and an end, if it is something. -/
def field? (before after sentence : Text) : Option Text := do
  let rest ← Text.after? before sentence
  let v ← Text.before? after rest
  if v.isEmpty then none else some v

/-- What stands around the first place of `between` that leaves something on both sides. -/
def cutAround? (between : Text) : Text → Option (Text × Text)
  | [] => none
  | c :: cs =>
    match Text.after? between cs with
    | some (d :: ds) => some ([c], d :: ds)
    | _ => (cutAround? between cs).map fun (first, second) => (c :: first, second)

/-- What stands between a beginning, a middle and an end: the first part as short as it can be, and
each of them something. -/
def fields? (before between after sentence : Text) : Option (Text × Text) := do
  let rest ← Text.after? before sentence
  let body ← Text.before? after rest
  cutAround? between body

/-- How a step is written. -/
inductive Definition
  /-- A sentence without fields. -/
  | plain (keyword : Keyword) (sentence : Text) (step : Step)
  /-- A sentence with one field. -/
  | withField (keyword : Keyword) (before after : Text) (step : Text → Step)
  /-- A sentence with two fields. -/
  | withFields (keyword : Keyword) (before between after : Text) (step : Text → Text → Step)

namespace Definition

/-- What the steps of a definition begin with. -/
def keyword : Definition → Keyword
  | .plain keyword _ _ => keyword
  | .withField keyword _ _ _ => keyword
  | .withFields keyword _ _ _ _ => keyword

/-- The step that a sentence writes by a definition. -/
def ofSentence? (sentence : Text) : Definition → Option Step
  | .plain _ t step => if sentence = t then some step else none
  | .withField _ before after step => (field? before after sentence).map step
  | .withFields _ before between after step =>
    (fields? before between after sentence).map fun (first, second) => step first second

/-- The step that is written, if a definition has its keyword and matches its sentence. -/
def match? (written : WrittenStep) (d : Definition) : Option Step :=
  if d.keyword = written.keyword then d.ofSentence? written.sentence else none

end Definition

/-- A definition of an action with one field between double quotes. -/
def quotedAction (before : Text) (action : Text → Action) : Definition :=
  .withField .when (before ++ ['"']) ['"'] fun v => .action (action v)

/-- A definition of a check with one field between double quotes, which may end in more text. -/
def quotedCheck (before after : Text) (check : Text → Check) : Definition :=
  .withField .then (before ++ ['"']) ('"' :: after) fun v => .check (check v)

/-- How the steps of scenarios are written. -/
def definitions : List Definition :=
  [quotedAction "I decode the SCI segment " .decodeSci,
    quotedAction "I decode the SAP segment " .decodeSap,
    quotedAction "I look up the dissemination banner name " .lookUpBannerName,
    quotedAction "I look up the dissemination portion name " .lookUpPortionName,
    .plain .when "I prefix match nothing against the other dissemination controls"
      (.action .matchNothing),
    quotedCheck "the SCI control should be " [] .sciControl,
    quotedCheck "the compartments should be " [] .compartments,
    .withFields .then "compartment \"" "\" should have sub-compartments \"" "\""
      fun name subs => .check (.subCompartments name subs),
    quotedCheck "the SCI control should render as " [] .rendering,
    quotedCheck "the AEA marking should render as " [] .rendering,
    quotedCheck "the SAP control should render as " [] .rendering,
    quotedCheck "the SAP programs should be " [] .programs,
    .plain .then "the SAP control should be a multiple programs control"
      (.check .multiplePrograms),
    .plain .then "no control should be found" (.check .nothingFound),
    quotedCheck "the control " " should be found" .found,
    .plain .then "a missing marking error should be raised" (.check .missingMarking),
    quotedAction "I decode the AEA segment " .decodeAea,
    quotedCheck "the AEA type should be " [] .aeaType,
    .plain .then "the AEA marking should be CNWDI" (.check .cnwdi),
    quotedCheck "the SIGMA categories should be " [] .sigmas]

/-- The step that is written, by the first definition that matches. -/
def WrittenStep.step? (written : WrittenStep) : Option Step :=
  definitions.findSome? fun d => d.match? written

end SecurityMarking.Scenario
