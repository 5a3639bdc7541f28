/-
Reports of decoded segments.

A decoded segment is reported in lines for a reader, or as a value to be written in
JSON.  Both say what was found and nothing of how.
-/
import SecurityMarking.Segment
import SecurityMarking.Json

namespace SecurityMarking

/-- A flag as a value. -/
def Value.flag (b : Bool) : Value := .scalar (.flag b)

/-- A list of texts as a value. -/
def Value.texts (ts : List Text) : Value := .list (ts.map .text)

/-- A list of integers as a value. -/
def Value.numbers (ns : List Int) : Value := .list (ns.map fun n => .scalar (.number n))

/-! ### Values -/

/-- What a report says of a control, as a value. -/
def Entry.Summary.toValue (e : Entry.Summary) : Value :=
  .map [(.text "key", e.key), (.text "name", e.name), (.text "portion_name", e.portionName),
    (.text "banner_names", .list e.bannerNames), (.text "portion_names", .list e.portionNames)]

/-- An SCI control as a value. -/
def SciControl.toValue (x : SciControl) : Value :=
  .map [(.text "control", .text x.control),
    (.text "compartments", .map (x.compartments.map fun c => (.text c.name, .texts c.subs))),
    (.text "banner", .text x.banner)]

/-- A SAP control as a value. -/
def SapControl.toValue (x : SapControl) : Value :=
  .map [(.text "kind", .text x.shape), (.text "programs", .texts x.names),
    (.text "is_multiple", .flag x.isMultiple), (.text "is_hvsaco", .flag x.isHvsaco),
    (.text "banner", .text x.banner)]

/-- An AEA marking of a type as a value. -/
def AeaMarking.toValue (type : Entry.Summary) (m : AeaMarking) : Value :=
  .map [(.text "type", type.key), (.text "name", type.name), (.text "cnwdi", .flag m.cnwdi),
    (.text "sigmas", .numbers m.sigmas), (.text "banner", .text m.banner)]

/-- A control that may not have been found, as a value. -/
def Entry.Summary.toValue? (found : Option Entry.Summary) : Value :=
  (found.map Entry.Summary.toValue).getD .null

namespace Decoding

/-- A decoded segment as a value. -/
def toValue (d : Decoding) : Value :=
  let head : List (Scalar × Value) :=
    [(.text "kind", .text d.kind.word), (.text "segment", .ofText? d.segment)]
  let found : Scalar × Value := (.text "found", .flag d.finding.isFound)
  match d.finding with
  | .sci controls => .map (head ++ [found, (.text "sci", .list (controls.map SciControl.toValue))])
  | .sap control => .map (head ++ [found, (.text "sap", control.toValue)])
  | .aea result =>
    .map (head ++ [(.text "aea", (result.map fun r => r.2.toValue r.1).getD .null), found,
      (.text "control", Entry.Summary.toValue? (result.map (·.1)))])
  | .named result => .map (head ++ [found, (.text "control", Entry.Summary.toValue? result)])

/-! ### Lines -/

/-- The line of a compartment. -/
def compartmentLine (c : Compartment) : Text :=
  Text.concat ["  compartment ", c.name,
    if c.subs.isEmpty then [] else Text.concat [" [", commaSeparated c.subs, "]"]]

/-- The lines of an SCI control. -/
def sciLines (x : SciControl) : List Text :=
  Text.concat ["SCI control ", x.control] :: x.compartments.map compartmentLine

/-- What is said where nothing was found. -/
def unmatchedLine (d : Decoding) : Text :=
  Text.concat ["No ", d.kind.word, " control matches '", (Value.ofText? d.segment).shown, "'"]

/-- A decoded segment in lines for a reader. -/
def lines (d : Decoding) : List Text :=
  if d.finding.isFound then
    match d.finding with
    | .sci controls => controls.flatMap sciLines
    | .sap control =>
      [Text.concat ["SAP ", control.shape, ": ", control.banner, " programs=",
        quotedTexts control.names]]
    | .aea (some (type, m)) =>
      [Text.concat ["AEA ", type.key.shown, ": ", m.banner, " cnwdi=",
        (Scalar.flag m.cnwdi).shown, " sigmas=", (Value.numbers m.sigmas).shown]]
    | .named (some e) =>
      [Text.concat [e.key.shown, ": ", e.name.shown, " (", e.portionName.shown, ")"]]
    | .aea none | .named none => [d.unmatchedLine]
  else [d.unmatchedLine]

/-- The values of the configuration that the lines show. -/
def shownValues (d : Decoding) : List Value :=
  match d.finding with
  | .aea (some (type, _)) => [type.key]
  | .named (some e) => [e.key, e.name, e.portionName]
  | _ => []

/-- A decoded segment in lines, if they can be written. -/
def report (d : Decoding) : Except Failure Text :=
  if d.shownValues.all Value.isWritable then .ok (Text.join (.char '\n') d.lines)
  else .error (.misuse .tooLongToWrite)

end Decoding

end SecurityMarking
