/-
Runs of the command line.

A run lists the registries of the default vocabulary or decodes a segment, and
reports the result in lines or in JSON.  It ends with status nought if something
was found and two if not.  A failure that is about a marking or its configuration is
told and ends the run with status one; any other ends it as a failure.

Both outputs are written in the encoding of the console.  What is printed has to be
encodable, and the run ends as a failure where it is not.  What is told of failures and
of other events is escaped instead.
-/
import SecurityMarking.CommandLine.Arguments
import SecurityMarking.CommandLine.Report

namespace SecurityMarking.CommandLine

/-- How a run ended. -/
inductive Outcome
  /-- With a status, after writing to its output and to its error output. -/
  | finished (status : Nat) (output errors : Text)
  /-- The arguments were refused. -/
  | refused (refusal : Refusal)
  /-- Help was asked for. -/
  | help

/-- What the work of a run comes to: its status and its output. -/
structure Work where
  status : Nat
  output : Text

/-- A text as a line. -/
def asLine (t : Text) : Text := t ++ ['\n']

variable (console : Encoding)

/-- A text as a line of output, if it can be written. -/
def print (t : Text) : Except Failure Text :=
  match console.fault? t with
  | none => .ok (asLine t)
  | some fault => .error (.misuse (.notEncodable fault))

/-- The width of the column of names in a listing. -/
def columnWidth : Nat := 24

/-- A name in its column.  A date takes the width for a pattern of its own, one that has no part of
a date in it and is written as it stands. -/
def column : Scalar → Except Failure Text
  | .text t => .ok (t.padRight columnWidth)
  | .date _ | .moment _ => .ok (Numeral.write columnWidth ++ ['s'])
  | s => .error (.misuse (.columnNotText s.kind))

/-- The line for a registry in a listing: its name in a column, and its description. -/
def listingLine (name : Scalar) (description : Value) : Except Failure Text := do
  return Text.concat [← column name, " ", ← description.shownIfPossible]

/-- A listing in lines, each printed before the next is made. -/
def listing : List (Scalar × Value) → Except Failure Text
  | [] => .ok []
  | (name, description) :: rest => do
    let line ← print console (← listingLine name description)
    return line ++ (← listing rest)

/-- Lists the registries. -/
def list (options : Options) : Consultation Work := do
  let descriptions ← Catalogue.descriptions
  if options.json then
    let output ← ofExcept (Json.writeIfPossible (.map descriptions))
    return ⟨0, ← ofExcept (print console output)⟩
  else return ⟨0, ← ofExcept (listing console descriptions)⟩

/-- What is to be printed of a decoded segment. -/
def reported (options : Options) (d : Decoding) : Except Failure Text :=
  if options.json then Json.writeIfPossible d.toValue else d.report

/-- Decodes a segment. -/
def decode (options : Options) : Consultation Work := do
  let d ← Decoding.decode options.kind.word options.segment options.portion
  let output ← ofExcept (reported options d)
  return ⟨if d.finding.isFound then 0 else 2, ← ofExcept (print console output)⟩

/-- The work that the options ask for. -/
def work (options : Options) : Consultation Work :=
  if options.listRegistries then list console options else decode console options

/-- The events since the journal had a length that are told with the options. -/
def told (options : Options) (since : Nat) (c : Catalogue) : List Event :=
  (c.journal.drop since).filter fun e => options.verbose || e.isAlwaysTold

/-- What is told in a run of the events since the journal had a length. -/
def account (options : Options) (since : Nat) (c : Catalogue) : Text :=
  console.escape (Text.concat ((told options since c).map Event.line))

/-- Ends a run on a failure, by telling of it if it is one that is reported. -/
def endOn (options : Options) (since : Nat) (failure : Failure) : Consultation Outcome := do
  if failure.isReported then
    Catalogue.record (.failed failure)
    let message := asLine (console.escape ("[ERROR] ".toList ++ failure.message))
    return .finished 1 [] (account console options since (← get) ++ message)
  else throw failure

/-- Does what the options ask for. -/
def runOptions (options : Options) : Consultation Outcome := do
  let since := (← get).journal.length
  let finish : Consultation Outcome := do
    let done ← work console options
    return .finished done.status done.output (account console options since (← get))
  tryCatch finish (endOn console options since)

/-- Runs the command line on arguments. -/
def run (arguments : List Text) : Consultation Outcome :=
  match read arguments with
  | .error refusal => return .refused refusal
  | .ok .help => return .help
  | .ok (.run options) => runOptions console options

end SecurityMarking.CommandLine
