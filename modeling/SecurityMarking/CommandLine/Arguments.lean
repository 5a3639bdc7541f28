/-
The arguments of the command line.

An argument is an option, the value of one, or neither.  A long option may be cut
short as long as no other begins in the same way, and its value is either the
next argument or what follows an equals sign.  An argument that begins with a dash
is taken for an option, unless it is a dash alone, reads as a negative number or
holds a space.  After an argument of two dashes nothing is an option.

All arguments are told apart before any takes effect.  Then options take effect in
order, each of the last value that it is given, and the first that cannot is what
the arguments are refused for.  Only if all can is it said that a segment or the
listing is needed, and after that which arguments nothing was done with.
-/
import SecurityMarking.Segment

namespace SecurityMarking.CommandLine

/-- The options of the command line. -/
inductive Flag
  | help
  | segment
  | listRegistries
  | kind
  | portion
  | verbose
  | json
deriving DecidableEq

namespace Flag

/-- The long spellings of all options. -/
def longSpellings : List (Text × Flag) :=
  [("--help", .help), ("--segment", .segment), ("--list-registries", .listRegistries),
    ("--kind", .kind), ("--portion", .portion), ("--verbose", .verbose), ("--json", .json)]

/-- All spellings of all options. -/
def spellings : List (Text × Flag) := ("-h", .help) :: longSpellings

/-- What messages call an option. -/
def title : Flag → Text
  | .help => "-h/--help"
  | .segment => "--segment"
  | .listRegistries => "--list-registries"
  | .kind => "--kind"
  | .portion => "--portion"
  | .verbose => "--verbose"
  | .json => "--json"

/-- Whether an option takes a value. -/
def takesValue : Flag → Bool
  | .segment | .kind => true
  | _ => false

end Flag

/-- Why arguments are refused. -/
inductive Refusal
  /-- A cut option begins several. -/
  | ambiguous (argument : Text) (spellings : List Text)
  /-- An option lacks its value. -/
  | valueNeeded (flag : Flag)
  /-- An option was given a value and takes none. -/
  | valueIgnored (flag : Flag) (value : Text)
  /-- There is no such kind of segment. -/
  | unknownKind (word : Text)
  /-- Two options exclude each other. -/
  | excluded (flag earlier : Flag)
  /-- There is nothing to do. -/
  | nothingToDo
  /-- There are arguments that nothing was done with. -/
  | unrecognized (arguments : List Text)

/-- What is said of a refusal. -/
def Refusal.message : Refusal → Text
  | .ambiguous argument spellings =>
    Text.concat ["ambiguous option: ", argument, " could match ", commaSeparated spellings]
  | .valueNeeded flag => Text.concat ["argument ", flag.title, ": expected one argument"]
  | .valueIgnored flag value =>
    Text.concat ["argument ", flag.title, ": ignored explicit argument ", value.quoted]
  | .unknownKind word =>
    Text.concat ["argument --kind: invalid choice: ", word.quoted, " (choose from ",
      commaSeparated (segmentKindWords.map Text.quoted), ")"]
  | .excluded flag earlier =>
    Text.concat ["argument ", flag.title, ": not allowed with argument ", earlier.title]
  | .nothingToDo => "one of the arguments --segment --list-registries is required"
  | .unrecognized arguments =>
    "unrecognized arguments: ".toList ++ Text.join .space arguments

/-- What an argument is taken for. -/
inductive Argument
  /-- An option, with what follows an equals sign if there is one. -/
  | option (flag : Flag) (value : Option Text)
  /-- The letter for help, with what follows it. -/
  | helpLetter (rest : Text)
  /-- What begins like an option and is none. -/
  | unknown (t : Text)
  /-- Two dashes. -/
  | separator
  /-- Anything else. -/
  | plain (t : Text)

/-- Whether a text reads as a negative number: a dash and digits, with a point before the last of
them or none.  A line end may follow. -/
def isNegativeNumber : Text → Bool
  | '-' :: t =>
    let t := (Text.before? ['\n'] t).getD t
    let isDigit (c : Char) : Bool := (Text.digitValue? c).isSome
    let fraction := t.dropWhile isDigit
    (!t.isEmpty && t.all isDigit)
      || (fraction.head? == some '.' && !fraction.tail.isEmpty && fraction.tail.all isDigit)
  | _ => false

/-- What comes before the first equals sign of a text, and what follows it if there is one. -/
def cutAtEquals (t : Text) : Text × Option Text :=
  let name := t.takeWhile (· != '=')
  (name, ((t.dropWhile (· != '=')).tail?))

/-- The options that an argument could be cut short from. -/
def candidates (t : Text) : List (Text × Argument) :=
  match t with
  | '-' :: '-' :: _ =>
    let (name, value) := cutAtEquals t
    (Flag.longSpellings.filter fun s => name.isPrefixOf s.1).map
      fun (spelling, flag) => (spelling, .option flag value)
  | '-' :: 'h' :: rest => [("-h", .helpLetter rest)]
  | _ => []

/-- What an argument is taken for where options may stand. -/
def classify (t : Text) : Except Refusal Argument :=
  if t.head? != some '-' || t.length == 1 then .ok (.plain t)
  else
    match Flag.spellings.lookup t with
    | some flag => .ok (.option flag none)
    | none =>
      let (name, value) := cutAtEquals t
      match value, Flag.spellings.lookup name with
      | some rest, some flag =>
        .ok (if name = "-h".toList then .helpLetter rest else .option flag value)
      | _, _ =>
        match candidates t with
        | [(_, argument)] => .ok argument
        | [] => .ok (if isNegativeNumber t || t.contains ' ' then .plain t else .unknown t)
        | several => .error (.ambiguous t (several.map (·.1)))

/-- What arguments are taken for. -/
def classifyAll : List Text → Except Refusal (List Argument)
  | [] => .ok []
  | t :: ts =>
    if t = ['-', '-'] then .ok (.separator :: ts.map .plain)
    else do
      let argument ← classify t
      return argument :: (← classifyAll ts)

/-- What the arguments ask for. -/
structure Options where
  segment : Option Text
  listRegistries : Bool
  kind : SegmentKind
  portion : Bool
  verbose : Bool
  json : Bool

/-- The options before any argument. -/
def Options.default : Options := ⟨none, false, .named .dissem, false, false, false⟩

/-- Whether what follows the letter for help is the same letter again and again, so that it goes on
asking for help; else what cannot be used of it. -/
def helpAgain : Text → Except Refusal Unit
  | ['h'] => .ok ()
  | 'h' :: rest => helpAgain rest
  | rest => .error (.valueIgnored .help rest)

/-- The options after an option that takes a value. -/
def setValue (options : Options) (flag : Flag) (value : Text) : Except Refusal Options :=
  match flag with
  | .kind =>
    match SegmentKind.ofWord? value with
    | some kind => .ok { options with kind := kind }
    | none => .error (.unknownKind value)
  | _ =>
    if options.listRegistries then .error (.excluded .segment .listRegistries)
    else .ok { options with segment := some value }

/-- The options after an option that takes no value. -/
def setFlag (options : Options) : Flag → Except Refusal Options
  | .listRegistries =>
    if options.segment.isSome then .error (.excluded .listRegistries .segment)
    else .ok { options with listRegistries := true }
  | .portion => .ok { options with portion := true }
  | .verbose => .ok { options with verbose := true }
  | .json => .ok { options with json := true }
  | .help | .segment | .kind => .ok options

/-- What arguments come to. -/
inductive Request
  | help
  | run (options : Options)

/-- What arguments come to that follow those which gave `options` and left `extras`, the last
first. -/
def request (options : Options) (extras : List Text) : List Argument → Except Refusal Request
  | [] =>
    if options.segment.isNone && !options.listRegistries then .error .nothingToDo
    else if extras.isEmpty then .ok (.run options)
    else .error (.unrecognized extras.reverse)
  | .plain t :: rest => request options (t :: extras) rest
  | .unknown t :: rest => request options (t :: extras) rest
  | .separator :: rest => request options (['-', '-'] :: extras) rest
  | .option .help none :: _ => .ok .help
  | .helpLetter again :: _ => do
    helpAgain again
    return .help
  | .option flag (some value) :: rest =>
    if flag.takesValue then do request (← setValue options flag value) extras rest
    else .error (.valueIgnored flag value)
  | .option flag none :: rest =>
    if flag.takesValue then
      match rest with
      | .plain value :: rest => do request (← setValue options flag value) extras rest
      | _ => .error (.valueNeeded flag)
    else do request (← setFlag options flag) extras rest

/-- What the arguments of a command line ask for. -/
def read (arguments : List Text) : Except Refusal Request := do
  request .default [] (← classifyAll arguments)

end SecurityMarking.CommandLine
