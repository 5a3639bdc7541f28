/-
What is told of a run besides its result.

Events are told by the part of the program that they belong to.  A part that reads
and decodes tells what it does for those who look for the cause of something; the
command line tells what it failed with.  At what time an event happened is not known here:
whoever writes its line for a reader puts the time before it.
-/
import SecurityMarking.Failure

namespace SecurityMarking

/-- Something that happened in a run. -/
inductive Event
  /-- A segment is about to be decoded. -/
  | decoding (kind : Text) (segment : Option Text) (portion : Bool)
  /-- No control of the kind is what the segment says. -/
  | unmatched (kind : Text) (segment : Option Text)
  /-- A vocabulary was read. -/
  | vocabularyLoaded (sections : Nat) (path : Text)
  /-- A registry was built. -/
  | registryBuilt (name : Scalar) (controls : Nat)
  /-- A word in a list of SIGMA categories was passed over. -/
  | sigmaSkipped (word : Text)
  /-- A run failed. -/
  | failed (failure : Failure)

namespace Event

/-- Whether the event is told of every run, and not only where details are wanted. -/
def isAlwaysTold : Event → Bool
  | .failed _ => true
  | _ => false

/-- The part of the program that tells an event. -/
def teller : Event → Text
  | .decoding .. | .unmatched .. | .failed _ => "banner_marking.controls.segment_decoder"
  | .vocabularyLoaded .. | .registryBuilt .. => "banner_marking.controls.control_vocabulary"
  | .sigmaSkipped _ => "banner_marking.controls.aea_marking"

/-- How much an event matters. -/
def weight (e : Event) : Text := if e.isAlwaysTold then "ERROR" else "DEBUG"

/-- What is told of an event. -/
def message : Event → Text
  | .decoding kind segment portion =>
    Text.concat ["Decoding ", kind, " segment ", (Value.ofText? segment).quoted, " (portion=",
      (Scalar.flag portion).shown, ")"]
  | .unmatched kind segment =>
    Text.concat ["No ", kind, " control matches ", (Value.ofText? segment).quoted]
  | .vocabularyLoaded sections path =>
    Text.concat ["Loaded ", Numeral.write sections, " control vocabularies from ", path]
  | .registryBuilt name controls =>
    Text.concat ["Built registry ", name.shown, " with ", Numeral.write controls, " controls"]
  | .sigmaSkipped word => Text.concat ["Skipping non-numeric SIGMA value ", word.quoted]
  | .failed failure => failure.message

/-- The line that tells an event, after the time at which it happened. -/
def line (e : Event) : Text := Text.concat ["[", e.teller, "] ", e.weight, ": ", e.message, "\n"]

end Event

end SecurityMarking
