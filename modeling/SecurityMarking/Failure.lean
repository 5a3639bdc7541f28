/-
What can fail, by cause.

A failure is one of three sorts.  Most are about markings: a text that is none,
a key that no registry holds, a text that is missing where one is needed, or a
configuration that cannot be used.  These the command line reports and turns
into an exit status; `Failure.isReported` singles them out.  The others come
from data of a kind that an operation was not made for, and end a run.

Each cause carries what its message says, and `Failure.message` says it.
-/
import SecurityMarking.Value
import SecurityMarking.Text.Encoding

namespace SecurityMarking

/-! ### Configurations -/

/-- What makes a row of a registry unusable. -/
inductive RowFault
  /-- A field is missing. -/
  | missingField (field : Text)
  /-- The names of a control are neither a text nor several values. -/
  | notSeveral (kind : Kind)
  /-- The row is no map, so that it has positions at most and no fields. -/
  | noFields (kind : Kind)
deriving DecidableEq

/-- The ways in which an entry is found. -/
inductive NameSpace
  | key
  | bannerName
  | portionName
deriving DecidableEq

/-- Why a vocabulary cannot be used. -/
inductive ConfigurationFault
  /-- A cause that the reporter words itself, and the key it blames. -/
  | stated (message : Text) (blamed : Value)
  | fileNotFound (path : Text)
  | invalidDocument (path : Text)
  /-- The document is no map that has a map of registries. -/
  | noRegistries (path : Text)
  /-- The vocabulary has no section of that name, or one without controls. -/
  | noControls (registry : Scalar)
  /-- A row cannot be read; `key` is its key as shown, or empty. -/
  | malformedRow (registry : Scalar) (position : Nat) (fault : RowFault) (key : Text)
  /-- A control lacks a banner name or a portion name. -/
  | noNames (registry : Scalar) (key : Value)
  /-- A control has an empty name. -/
  | emptyName (registry : Scalar) (space : NameSpace) (key : Value)
  /-- A name has two uses; `first` and `second` are the keys of the controls. -/
  | sharedName (registry : Scalar) (space : NameSpace) (name first second : Value)

/-! ### Misuse -/

/-- Data of a kind that an operation was not made for. -/
inductive Misuse
  /-- A text was to be cut at the empty text. -/
  | emptyDelimiter
  /-- The first of no names was asked for. -/
  | noFirstName
  /-- A value that is no scalar and no pair of them was to be a key. -/
  | notAKey (kind : Kind)
  /-- A value without items was to be gone through. -/
  | notSeveral (kind : Kind)
  /-- A value that is no map was asked for a key. -/
  | notAMap (kind : Kind)
  /-- A text was to begin with a name that is no text. -/
  | nameNotText (kind : Kind)
  /-- A control was to be shown by a name that is no text. -/
  | shownNameNotText (kind : Kind)
  /-- A registry's name that is no text was to be set in a column. -/
  | columnNotText (kind : Kind)
  /-- There is no such kind of segment. -/
  | unknownSegmentKind (kind : Text)
  /-- A text was to be an integer in a base. -/
  | notAnInteger (base : Nat) (t : Text)
  /-- The text that was to be an integer is empty. -/
  | emptyInteger
  /-- A numeral has too many digits. -/
  | tooManyDigits (digits : Nat)
  /-- A number would have too many digits if it were written. -/
  | tooLongToWrite
  /-- A text was to be a binary number. -/
  | notAReal (t : Text)
  /-- A number is too large to be a binary number. -/
  | tooLargeForReal
  /-- A text was to be a flag. -/
  | notAFlag (t : Text)
  /-- A text was to be a date or a moment. -/
  | notAMoment
  /-- What was to be the text of a date or of a moment is no text. -/
  | momentNotText
  /-- A part of a date or of a moment is out of range. -/
  | calendar (fault : CalendarFault)
  /-- A document has nodes inside nodes too many times over, or without end. -/
  | tooDeep
  /-- No character has the code point. -/
  | notACodePoint (n : Nat)
  /-- A value was to be written in JSON, which has no such values. -/
  | notInJson (kind : Kind)
  /-- A key was to be written in JSON, which has no such keys. -/
  | notAKeyInJson (kind : Kind)
  /-- A value that stands inside itself was to be written in JSON. -/
  | endlessInJson
  /-- A result was asked for a part that only another kind of result has. -/
  | noSuchPart (owner part : Text)
  /-- A text was to be written in an encoding that has no codes for all of it. -/
  | notEncodable (fault : Encoding.Fault)
deriving DecidableEq

/-- What can fail. -/
inductive Failure
  /-- A failure about a marking that the reporter words itself. -/
  | stated (message : Text) (marking : Value)
  /-- The text does not begin with the name of an AEA type. -/
  | noAeaType (marking : Text)
  /-- The registry holds no control of that key. -/
  | unknownControl (registry key : Value)
  /-- The operation needs a text and was given none. -/
  | missingMarking (operation : Text)
  | configuration (fault : ConfigurationFault)
  | misuse (fault : Misuse)

/-! ### Wording -/

def NameSpace.word : NameSpace → Text
  | .key => "key"
  | .bannerName => "banner name"
  | .portionName => "portion name"

def RowFault.message : RowFault → Text
  | .missingField field => field.quoted
  | .notSeveral kind => Text.concat ["'", kind.word, "' object is not iterable"]
  | .noFields .text => "string indices must be integers, not 'str'"
  | .noFields .bytes => "byte indices must be integers or slices, not str"
  | .noFields .pair => "tuple indices must be integers or slices, not str"
  | .noFields .list => "list indices must be integers or slices, not str"
  | .noFields kind => Text.concat ["'", kind.word, "' object is not subscriptable"]

namespace ConfigurationFault

def message : ConfigurationFault → Text
  | .stated message _ => message
  | .fileNotFound path => Text.concat ["Control vocabulary not found: ", path]
  | .invalidDocument path => Text.concat ["Invalid YAML in ", path]
  | .noRegistries path => Text.concat [path, " has no 'registries' mapping"]
  | .noControls registry => Text.concat ["Vocabulary '", registry.shown, "' has no controls"]
  | .malformedRow registry position fault _ =>
    Text.concat [registry.shown, ": malformed control row #", Numeral.write position, ": ",
      fault.message]
  | .noNames registry key =>
    Text.concat [registry.shown, ": control '", key.shown,
      "' needs at least one banner name and one portion name"]
  | .emptyName registry space key =>
    Text.concat [registry.shown, ": control '", key.shown, "' has an empty ", space.word]
  | .sharedName registry space name first second =>
    Text.concat [registry.shown, ": ", space.word, " '", name.shown, "' is used by both '",
      first.shown, "' and '", second.shown, "'"]

/-- What in the configuration is to blame. -/
def blamed : ConfigurationFault → Value
  | .stated _ blamed => blamed
  | .fileNotFound path => .text path
  | .invalidDocument path => .text path
  | .noRegistries _ => .text "registries"
  | .noControls registry => .scalar registry
  | .malformedRow _ _ _ key => .text key
  | .noNames _ key => key
  | .emptyName _ _ key => key
  | .sharedName _ _ name _ _ => name

/-- The values of the configuration that the message shows. -/
def shownValues : ConfigurationFault → List Value
  | .noNames _ key => [key]
  | .emptyName _ _ key => [key]
  | .sharedName _ _ name first second => [name, first, second]
  | _ => []

end ConfigurationFault

/-- The kinds of segments in the order in which a message lists them. -/
def segmentKindWords : List Text :=
  ["classification", "sci", "sap", "aea", "dissem", "other-dissem"]

def Misuse.message : Misuse → Text
  | .emptyDelimiter => "empty separator"
  | .noFirstName => "tuple index out of range"
  | .notAKey kind => Text.concat ["unhashable type: '", kind.word, "'"]
  | .notSeveral kind => Text.concat ["'", kind.word, "' object is not iterable"]
  | .notAMap kind => Text.concat ["'", kind.word, "' object has no attribute 'get'"]
  | .nameNotText kind =>
    Text.concat ["tuple for startswith must only contain str, not ", kind.word]
  | .shownNameNotText kind =>
    Text.concat ["__str__ returned non-string (type ", kind.word, ")"]
  | .columnNotText .null => "unsupported format string passed to NoneType.__format__"
  | .columnNotText .bytes => "unsupported format string passed to bytes.__format__"
  | .columnNotText kind =>
    Text.concat ["Unknown format code 's' for object of type '", kind.word, "'"]
  | .unknownSegmentKind kind =>
    Text.concat ["Unknown segment kind '", kind, "'. Expected one of: ",
      commaSeparated segmentKindWords]
  | .notAnInteger base t =>
    Text.concat ["invalid literal for int() with base ", Numeral.write base, ": ",
      t.quoted.take 200]
  | .emptyInteger => "string index out of range"
  | .tooManyDigits digits =>
    Text.concat ["Exceeds the limit (", Numeral.write Numeral.maxDigits,
      " digits) for integer string conversion: value has ", Numeral.write digits,
      " digits; use sys.set_int_max_str_digits() to increase the limit"]
  | .tooLongToWrite =>
    Text.concat ["Exceeds the limit (", Numeral.write Numeral.maxDigits,
      " digits) for integer string conversion; use sys.set_int_max_str_digits() to increase ",
      "the limit"]
  | .notAReal t => Text.concat ["could not convert string to float: ", t.quoted]
  | .tooLargeForReal => "int too large to convert to float"
  | .notAFlag t => t.quoted
  | .notAMoment => "'NoneType' object has no attribute 'groupdict'"
  | .momentNotText => "expected string or bytes-like object, got 'list'"
  | .calendar fault => fault.message
  | .tooDeep => "maximum recursion depth exceeded"
  | .notACodePoint n =>
    if n < Nat.pow 2 31 then "chr() arg not in range(0x110000)"
    else "Python int too large to convert to C int"
  | .notInJson kind =>
    Text.concat ["Object of type ", kind.ownWord, " is not JSON serializable"]
  | .notAKeyInJson kind =>
    Text.concat ["keys must be str, int, float, bool or None, not ", kind.ownWord]
  | .endlessInJson => "Circular reference detected"
  | .noSuchPart owner part =>
    Text.concat ["'", owner, "' object has no attribute '", part, "'"]
  | .notEncodable fault => fault.message

namespace Failure

/-- What a failure says. -/
def message : Failure → Text
  | .stated message _ => message
  | .noAeaType marking => Text.concat ["'", marking, "' does not start with an AEA type"]
  | .unknownControl registry key =>
    Text.concat ["No control '", key.shown, "' in registry '", registry.shown, "'"]
  | .missingMarking operation => Text.concat [operation, " requires marking text, got None"]
  | .configuration fault => fault.message
  | .misuse fault => fault.message

/-- The marking or key that a failure is about, if it is about one. -/
def marking : Failure → Value
  | .stated _ marking => marking
  | .noAeaType marking => .text marking
  | .unknownControl _ key => key
  | .missingMarking _ => .text []
  | .configuration fault => fault.blamed
  | .misuse _ => .text []

/-- Whether a failure is about a marking or its configuration, so that the command line reports
it. -/
def isReported : Failure → Bool
  | .misuse _ => false
  | _ => true

end Failure

/-! ### What is raised -/

namespace Value

/-- The scalar that a value is. -/
def toScalar : Value → Except Failure Scalar
  | .scalar s => .ok s
  | v => .error (.misuse (.notAKey v.kind))

/-- The value as it stands in a sentence, if it can be written. -/
def shownIfPossible (v : Value) : Except Failure Text :=
  if v.isWritable then .ok v.shown else .error (.misuse .tooLongToWrite)

end Value

/-- The failure for a fault of a configuration.  One whose message cannot be written is a misuse
instead. -/
def ConfigurationFault.raised (fault : ConfigurationFault) : Failure :=
  if fault.shownValues.all Value.isWritable then .configuration fault else .misuse .tooLongToWrite

end SecurityMarking
