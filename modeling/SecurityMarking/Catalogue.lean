/-
The catalogue of vocabularies.

A catalogue stands before a directory of files, one of which may have been chosen
for the vocabulary that is used by default; otherwise that is the shipped one.  It
keeps the default vocabulary once that has been read, and each registry once it
has been built from it.  What fails is not kept, so it is tried again the next
time, and a vocabulary from a named file is read anew each time.

How the text of a file is read as a document is no concern of the catalogue: it is
given a reader, and nothing here depends on which.

What is kept says no more than reading and building again would say, as long as
the default stays as it was: choosing another file leaves what is kept, and
`forget` is there to drop it.
-/
import SecurityMarking.Vocabulary.Shipped
import SecurityMarking.Yaml.Fault
import SecurityMarking.Journal
import SecurityMarking.Aea

namespace SecurityMarking

/-- What reads the text of a file as a document. -/
abbrev Reader := Text → Except Yaml.Fault Value

/-- The state of the catalogue. -/
structure Catalogue where
  /-- What reads the files. -/
  reader : Reader
  /-- The files of the directory: the text of each by its path. -/
  files : List (Text × Text)
  /-- The path of the default vocabulary, unless that is the shipped one. -/
  chosen : Option Text
  /-- The default vocabulary, once read. -/
  vocabulary : Option Vocabulary
  /-- The registries built from the default vocabulary, by name. -/
  registries : List (Scalar × Registry)
  /-- What has happened, in order. -/
  journal : List Event

/-- A question to the catalogue, which may fail and may change what is kept. -/
abbrev Consultation := EStateM Failure Catalogue

namespace Catalogue

/-- What messages call the shipped vocabulary. -/
def shippedPath : Text := "<default>"

/-- A catalogue before an empty directory, with nothing kept. -/
def fresh (reader : Reader) : Catalogue := ⟨reader, [], none, none, [], []⟩

/-! ### Files -/

/-- The text of a file. -/
def file? (path : Text) (c : Catalogue) : Option Text := c.files.lookup path

/-- The catalogue with the file removed. -/
def delete (path : Text) (c : Catalogue) : Catalogue :=
  { c with files := c.files.filter fun f => f.1 != path }

/-- The catalogue with a text in a file, new or not. -/
def write (path text : Text) (c : Catalogue) : Catalogue :=
  { c with files := (path, text) :: (c.delete path).files }

/-- The catalogue with another default, all that is kept being kept. -/
def choose (path : Option Text) (c : Catalogue) : Catalogue := { c with chosen := path }

/-- The catalogue with nothing kept. -/
def forget (c : Catalogue) : Catalogue := { c with vocabulary := none, registries := [] }

/-! ### Vocabularies -/

/-- Adds an event to the journal. -/
def record (e : Event) : Consultation Unit := modify fun c => { c with journal := c.journal ++ [e] }

/-- The vocabulary in a file. -/
def vocabularyOf (reader : Reader) (path : Text) : Option Text → Except Failure Vocabulary
  | none => .error (.configuration (.fileNotFound path))
  | some text =>
    match reader text with
    | .error .malformed => .error (.configuration (.invalidDocument path))
    | .error (.misuse cause) => .error (.misuse cause)
    | .ok document => Vocabulary.ofDocument path document

/-- Reads the vocabulary in a file. -/
def readFile (path : Text) : Consultation Vocabulary := do
  let c ← get
  let vocabulary ← ofExcept (vocabularyOf c.reader path (c.file? path))
  record (.vocabularyLoaded vocabulary.length path)
  return vocabulary

/-- Reads the shipped vocabulary. -/
def readShipped : Consultation Vocabulary := do
  record (.vocabularyLoaded Vocabulary.shipped.length shippedPath)
  return Vocabulary.shipped

/-- The default vocabulary, read if it is not kept yet. -/
def defaultVocabulary : Consultation Vocabulary := do
  let c ← get
  match c.vocabulary with
  | some vocabulary => return vocabulary
  | none =>
    let vocabulary ← match c.chosen with
      | none => readShipped
      | some path => readFile path
    modify fun c => { c with vocabulary := some vocabulary }
    return vocabulary

/-- The vocabulary in a file, or the default one if none is named. -/
def load : Option Text → Consultation Vocabulary
  | none => defaultVocabulary
  | some path => readFile path

/-- The descriptions of the default vocabulary by the names of its registries. -/
def descriptions : Consultation (List (Scalar × Value)) := do
  ofExcept (Vocabulary.descriptions (← defaultVocabulary))

/-! ### Registries -/

/-- Builds a registry from a vocabulary. -/
def build (name : Scalar) (vocabulary : Vocabulary) : Consultation Registry := do
  let registry ← ofExcept (Vocabulary.build name vocabulary)
  record (.registryBuilt name registry.size)
  return registry

/-- The registry of that name that is kept. -/
def kept? (name : Scalar) (c : Catalogue) : Option Registry :=
  (c.registries.find? fun r => r.1.same name).map (·.2)

/-- The registry of that name in the default vocabulary, built if it is not kept yet. -/
def registry (name : Scalar) : Consultation Registry := do
  match (← get).kept? name with
  | some registry => return registry
  | none =>
    let registry ← build name (← defaultVocabulary)
    modify fun c => { c with registries := c.registries ++ [(name, registry)] }
    return registry

def dissemControls : Consultation Registry := registry (.text Vocabulary.dissemControls)

def otherDissemControls : Consultation Registry := registry (.text Vocabulary.otherDissemControls)

def classificationLevels : Consultation Registry :=
  registry (.text Vocabulary.classificationLevels)

def aeaTypes : Consultation Registry := registry (.text Vocabulary.aeaTypes)

/-! ### Controls -/

/-- The classification level of that name. -/
def findClassification (text : Option Text) : Consultation (Option Entry) := do
  return (← classificationLevels).findByBannerName? text

/-- The classification level of that short name. -/
def findClassificationByShortName (text : Option Text) : Consultation (Option Entry) := do
  return (← classificationLevels).findByPortionName? text

/-- The AEA type whose name begins the text. -/
def findAeaType (text : Option Text) : Consultation (Option Entry) := do
  ofExcept ((← aeaTypes).match? text)

/-- The AEA marking that a text writes. -/
def aeaMarking (text : Option Text) : Consultation AeaMarking := do
  let marking ← ofExcept (AeaMarking.ofText? (← aeaTypes) text)
  (Modifiers.skipped (text.getD [])).forM fun word => record (.sigmaSkipped word)
  return marking

end Catalogue

end SecurityMarking
