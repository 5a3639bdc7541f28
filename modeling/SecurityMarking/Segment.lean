/-
Decoding a segment of a banner.

A banner consists of segments, and whoever has cut it knows what kind each of them
is.  Decoding a segment finds the controls that it stands for.  A segment of SCI
controls lists them with slashes between them; one of SAP has one control, and
says HVSACO if it is missing; one of AEA begins with an AEA type.  A segment of any
other kind is a name in a registry: a banner name or, where the segment comes from
a portion marking, a portion name.
-/
import SecurityMarking.Catalogue
import SecurityMarking.Sci
import SecurityMarking.Sap

namespace SecurityMarking

/-- The kinds of segments that are names in a registry. -/
inductive RegistryKind
  | classification
  | dissem
  | otherDissem
deriving DecidableEq

/-- The kinds of segments. -/
inductive SegmentKind
  | sci
  | sap
  | aea
  | named (kind : RegistryKind)
deriving DecidableEq

namespace SegmentKind

/-- The kinds in the order in which messages list them. -/
def all : List SegmentKind :=
  [.named .classification, .sci, .sap, .aea, .named .dissem, .named .otherDissem]

/-- The word for a kind. -/
def word : SegmentKind → Text
  | .named .classification => "classification"
  | .sci => "sci"
  | .sap => "sap"
  | .aea => "aea"
  | .named .dissem => "dissem"
  | .named .otherDissem => "other-dissem"

/-- The kind that a word is for. -/
def ofWord? (t : Text) : Option SegmentKind := all.find? fun kind => kind.word = t

end SegmentKind

/-- The registry that holds the names of a kind of segment. -/
def RegistryKind.registry : RegistryKind → Consultation Registry
  | .classification => Catalogue.classificationLevels
  | .dissem => Catalogue.dissemControls
  | .otherDissem => Catalogue.otherDissemControls

/-- What a segment was found to say. -/
inductive Finding
  | sci (controls : List SciControl)
  | sap (control : SapControl)
  /-- The AEA type and the marking, if the segment begins with a type. -/
  | aea (found : Option (Entry.Summary × AeaMarking))
  /-- The control, if the segment is a name. -/
  | named (found : Option Entry.Summary)

/-- A decoded segment. -/
structure Decoding where
  kind : SegmentKind
  segment : Option Text
  finding : Finding

/-- Whether a segment was found to say something. -/
def Finding.isFound : Finding → Bool
  | .sci controls => !controls.isEmpty
  | .sap _ => true
  | .aea found => found.isSome
  | .named found => found.isSome

/-- The SCI controls that a segment lists. -/
def sciControlsOfSegment (t : Text) : List SciControl := (t.split .slash).map SciControl.ofText

namespace Decoding

/-- Tells that no control was found. -/
def recordUnmatched (kind : SegmentKind) (segment : Option Text) : Consultation Unit :=
  Catalogue.record (.unmatched kind.word segment)

/-- What a segment of SCI controls says. -/
def findSci : Option Text → Except Failure Finding
  | none => .error (.missingMarking "decode_segment")
  | some t => .ok (.sci (sciControlsOfSegment t))

/-- What a segment of a SAP control says. -/
def findSap : Option Text → Finding
  | none => .sap .hvsaco
  | some t => .sap (SapControl.ofSegment t)

/-- What a segment of an AEA marking says. -/
def findAea (segment : Option Text) : Consultation Finding := do
  match ← Catalogue.findAeaType segment with
  | none =>
    recordUnmatched .aea segment
    return .aea none
  | some type =>
    let marking ← Catalogue.aeaMarking segment
    return .aea (some (← ofExcept type.summary, marking))

/-- What a segment that is a name says. -/
def findNamed (kind : RegistryKind) (segment : Option Text) (portion : Bool) :
    Consultation Finding := do
  let registry ← kind.registry
  match if portion then registry.findByPortionName? segment
    else registry.findByBannerName? segment with
  | none =>
    recordUnmatched (.named kind) segment
    return .named none
  | some e => return .named (some (← ofExcept e.summary))

/-- What a segment of a kind says. -/
def find (kind : SegmentKind) (segment : Option Text) (portion : Bool) : Consultation Finding :=
  match kind with
  | .sci => ofExcept (findSci segment)
  | .sap => return findSap segment
  | .aea => findAea segment
  | .named kind => findNamed kind segment portion

/-- Decodes a segment of the kind that a word is for. -/
def decode (kind : Option Text) (segment : Option Text) (portion : Bool) :
    Consultation Decoding := do
  let word := (Value.ofText? kind).shown
  Catalogue.record (.decoding word segment portion)
  match kind.bind SegmentKind.ofWord? with
  | none => throw (.misuse (.unknownSegmentKind word))
  | some kind => return ⟨kind, segment, ← find kind segment portion⟩

end Decoding

end SecurityMarking
