/-
Runs on a segment.

The arguments of such a run are the kind, the segment and any switches, these in any order
and as often as one likes.  What a segment says does not matter to how arguments are read:
after the equals sign all of it is the value of the option.  So the run is one of
decoding, `read_segmentArguments`.

With the shipped vocabulary decoding succeeds on every text, and what is found can be
reported in both forms.  Whether something is found can be told from the report, and from
the text and the rows of the vocabulary: `Reports`.  So how the run ends depends on nothing
else than the console: `Ends`.  It ends well if the console can write what is printed, which
it can in JSON, and in lines if it can write the segment.  Otherwise the run fails, for what
is printed is not escaped.
-/
import SecurityMarking.CommandLine.Run
import SecurityMarking.Proofs.CommandLine.Console

namespace SecurityMarking.CommandLine

/-! ### Arguments -/

/-- An option that takes no value and only turns something on. -/
inductive Switch
  | portion
  | verbose
  | json
deriving DecidableEq

/-- The option that a switch is. -/
def Switch.flag : Switch → Flag
  | portion => .portion
  | verbose => .verbose
  | json => .json

/-- The options with some switches turned on. -/
def Options.switch (options : Options) (switches : List Switch) : Options :=
  { options with
    portion := options.portion || switches.contains .portion
    verbose := options.verbose || switches.contains .verbose
    json := options.json || switches.contains .json }

/-- The options for decoding a segment of a kind. -/
def segmentOptions (kind : SegmentKind) (t : Text) (switches : List Switch) : Options :=
  (Options.mk (some t) false kind false false false).switch switches

/-- The arguments that ask for decoding a segment of a kind. -/
def segmentArguments (kind : SegmentKind) (t : Text) (switches : List Switch) : List Text :=
  ("--kind=".toList ++ kind.word) :: ("--segment=".toList ++ t)
    :: switches.map fun switch => switch.flag.title

variable {options : Options}

theorem switch_nil : options.switch [] = options := by
  simp [Options.switch]

/-- A switch is turned on by the option that it is, and others stay as they are. -/
theorem setFlag_switch (switch : Switch) :
    setFlag options switch.flag = .ok (options.switch [switch]) := by
  cases switch <;> simp [setFlag, Switch.flag, Options.switch]

theorem switch_cons (switch : Switch) (rest : List Switch) :
    (options.switch [switch]).switch rest = options.switch (switch :: rest) := by
  simp [Options.switch, Bool.or_assoc]

theorem classify_switch (switch : Switch) :
    classify switch.flag.title = .ok (.option switch.flag none) := by
  cases switch <;> rfl

theorem classifyAll_cons {t : Text} {ts : List Text} {argument : Argument}
    (hseparator : t ≠ ['-', '-']) (h : classify t = .ok argument) :
    classifyAll (t :: ts) = (classifyAll ts).map (argument :: ·) := by
  rw [classifyAll, if_neg hseparator, h]
  cases classifyAll ts <;> rfl

theorem classifyAll_switches (switches : List Switch) :
    classifyAll (switches.map fun switch => switch.flag.title) =
      .ok (switches.map fun switch => .option switch.flag none) := by
  induction switches with
  | nil => rfl
  | cons switch rest ih =>
      have hseparator : switch.flag.title ≠ ['-', '-'] := by cases switch <;> decide
      rw [List.map_cons, classifyAll_cons hseparator (classify_switch switch), ih]
      rfl

theorem request_switch (switch : Switch) (extras : List Text) (rest : List Argument) :
    request options extras (.option switch.flag none :: rest) =
      request (options.switch [switch]) extras rest := by
  have hset : (do request (← setFlag options switch.flag) extras rest) =
      request (options.switch [switch]) extras rest := by
    rw [setFlag_switch]
    rfl
  rw [← hset, request.eq_def]
  cases switch <;> rfl

theorem request_value {flag : Flag} {value : Text} {changed : Options}
    (hvalue : flag.takesValue = true) (h : setValue options flag value = .ok changed)
    (extras : List Text) (rest : List Argument) :
    request options extras (.option flag (some value) :: rest) = request changed extras rest := by
  rw [request, if_pos hvalue, h]
  rfl

/-- Switches change nothing but what they turn on. -/
theorem request_switches (switches : List Switch) :
    ∀ options : Options, options.segment.isSome = true →
      request options [] (switches.map fun switch => .option switch.flag none) =
        .ok (.run (options.switch switches)) := by
  induction switches with
  | nil =>
      intro options hsegment
      have hneeded : (options.segment.isNone && !options.listRegistries) = false := by
        rw [Option.isNone_eq_false_iff.mpr hsegment, Bool.false_and]
      rw [switch_nil, List.map_nil, request, hneeded]
      rfl
  | cons switch rest ih =>
      intro options hsegment
      have hrest := ih (options.switch [switch]) hsegment
      rw [switch_cons] at hrest
      rw [List.map_cons, request_switch, hrest]

/-- **The arguments are read as they are meant, whatever the segment says.** -/
theorem read_segmentArguments (kind : SegmentKind) (t : Text) (switches : List Switch) :
    read (segmentArguments kind t switches) = .ok (.run (segmentOptions kind t switches)) := by
  have hkind : classify ("--kind=".toList ++ kind.word) = .ok (.option .kind (some kind.word)) :=
    rfl
  have hsegment : classify ("--segment=".toList ++ t) = .ok (.option .segment (some t)) := rfl
  have hclassified : classifyAll (segmentArguments kind t switches) =
      .ok (.option .kind (some kind.word) :: .option .segment (some t)
        :: switches.map fun switch => .option switch.flag none) := by
    unfold segmentArguments
    rw [classifyAll_cons (by simp) hkind, classifyAll_cons (by simp) hsegment, classifyAll_switches]
    rfl
  have hset : setValue .default .kind kind.word = .ok { Options.default with kind := kind } := by
    simp [setValue, kind.ofWord?_word]
  unfold read
  rw [hclassified]
  show request .default [] (.option .kind (some kind.word) :: .option .segment (some t)
    :: switches.map fun switch => .option switch.flag none) = _
  rw [request_value rfl hset, request_value rfl rfl]
  exact request_switches switches _ rfl

/-! ### Runs -/

open Catalogue Encoding

variable {console : Encoding} {c c' : Catalogue} {kind : SegmentKind} {segment : Option Text}
  {finding : Finding} {t : Text}

/-- What is printed of a decoding, but for the end of the line. -/
def output (options : Options) (d : Decoding) : Text :=
  if options.json then Json.write d.toValue else Text.join (.char '\n') d.lines

/-- What is printed in JSON can be written, and so can be what is printed of a segment that can. -/
theorem writes_output (hfits : finding.Fits t kind)
    (h : options.json = true ∨ console.Writes t) :
    console.Writes (output options ⟨kind, some t, finding⟩) := by
  unfold output
  rcases h with hjson | ht
  · rw [if_pos hjson]
    exact Json.writes_write console _
  · split
    · exact Json.writes_write console _
    · exact Text.writes_join (covers_of_lt (by decide)) (Decoding.writes_lines hfits ht)

/-- Work that was done is reported, and so is what was told meanwhile. -/
theorem consult_runOptions {done : Work} (h : consult (work console options) c = (.ok done, c')) :
    consult (runOptions console options) c =
      (.ok (.finished done.status done.output (account console options c.journal.length c')),
        c') := by
  unfold runOptions
  rw [consult_get_bind, consult_tryCatch, consult_bind, h]
  rfl

/-- Work that fails makes the run fail, unless the failure is one that is reported. -/
theorem consult_runOptions_error {failure : Failure} (hreported : failure.isReported = false)
    (h : consult (work console options) c = (.error failure, c')) :
    consult (runOptions console options) c = (.error failure, c') := by
  unfold runOptions
  rw [consult_get_bind, consult_tryCatch, consult_bind, h]
  simp only [endOn, hreported]
  rfl

theorem reported_eq (hfits : finding.Fits t kind) :
    reported options ⟨kind, segment, finding⟩ = .ok (output options ⟨kind, segment, finding⟩) := by
  unfold reported output
  split
  · exact Decoding.writeIfPossible_toValue hfits
  · exact Decoding.report_eq hfits

/-- The work on a segment is to decode it and to print what was found. -/
theorem consult_work (hlist : options.listRegistries = false) (hfits : finding.Fits t kind)
    (h : consult (Decoding.decode options.kind.word options.segment options.portion) c
      = (.ok ⟨kind, segment, finding⟩, c')) :
    consult (work console options) c =
      ((print console (output options ⟨kind, segment, finding⟩)).map
        (Work.mk (if finding.isFound then 0 else 2)), c') := by
  unfold work
  rw [hlist]
  show consult (decode console options) c = _
  unfold decode
  simp only [consult_bind, h, consult_ofExcept, reported_eq hfits]
  cases print console (output options ⟨kind, segment, finding⟩) with
  | ok text => rfl
  | error failure => rfl

/-- How a run on a segment ends once the segment is decoded. -/
theorem consult_run_segment {switches : List Switch} (hfits : finding.Fits t kind)
    (h : consult (Decoding.decode (some kind.word) (some t) (switches.contains .portion)) c
      = (.ok ⟨kind, some t, finding⟩, c')) :
    consult (run console (segmentArguments kind t switches)) c =
      match console.fault? (output (segmentOptions kind t switches) ⟨kind, some t, finding⟩) with
      | none =>
        (.ok (.finished (if finding.isFound then 0 else 2)
          (asLine (output (segmentOptions kind t switches) ⟨kind, some t, finding⟩))
          (account console (segmentOptions kind t switches) c.journal.length c')), c')
      | some fault => (.error (.misuse (.notEncodable fault)), c') := by
  have hwork : consult (work console (segmentOptions kind t switches)) c = _ :=
    consult_work rfl hfits h
  unfold print at hwork
  unfold run
  rw [read_segmentArguments]
  cases hfault : console.fault? (output (segmentOptions kind t switches)
      ⟨kind, some t, finding⟩) with
  | none =>
      rw [hfault] at hwork
      exact consult_runOptions hwork
  | some fault =>
      rw [hfault] at hwork
      exact consult_runOptions_error rfl hwork

/-- What a decoding of a text reports of it. -/
structure Reports (kind : SegmentKind) (portion : Bool) (t : Text) (d : Decoding) : Prop where
  kind_eq : d.kind = kind
  segment_eq : d.segment = some t
  found : d.toValue.part? "found" = some (.flag d.finding.isFound)
  /-- What it says is found exactly if it says something. -/
  isFound_iff : d.finding.isFound = true ↔ kind.Says portion t
  /-- A text that says nothing has no control.  The report of SCI controls has no part for one. -/
  unmatched : d.finding.isFound = false →
    (kind = .sci → d.toValue.part? "control" = none ∧ d.toValue.part? "sci" = some (.list [])) ∧
      (kind = .aea → d.toValue.part? "aea" = some .null ∧ d.toValue.part? "control" = some .null) ∧
      ∀ k, kind = .named k → d.toValue.part? "control" = some .null
  /-- The lines for a reader need no part that the report has not. -/
  lines : d.toValue.lines? = some d.lines

/-- How a run with options ends that decoded a segment, where `since` is the length of the journal
before it and `c` the catalogue after it. -/
structure Ends (console : Encoding) (options : Options) (since : Nat) (t : Text) (d : Decoding)
    (c : Catalogue) (r : Except Failure Outcome × Catalogue) : Prop where
  /-- It ends well if the console can write what is printed. -/
  finished : console.Writes (output options d) →
    r = (.ok (.finished (if d.finding.isFound then 0 else 2) (asLine (output options d))
      (account console options since c)), c)
  /-- Otherwise it fails on a character that has no code, which is no failure that is reported. -/
  failed : ¬ console.Writes (output options d) →
    ∃ fault, r = (.error (.misuse (.notEncodable fault)), c) ∧
      (output options d)[fault.position]? = some fault.first ∧ console.covers fault.first = false
  /-- In JSON everything can be written, and in lines whatever is found in a text that can. -/
  writes : options.json = true ∨ console.Writes t → console.Writes (output options d)
  /-- What is told meanwhile can always be written. -/
  writes_account : console.Writes (account console options since c)

/-- A run on SCI controls that the console cannot write fails. -/
theorem exists_consult_run_sci (console : Encoding) (t : Text) (fault : Fault)
    (hfault : console.fault? (output (segmentOptions .sci t [])
      ⟨.sci, some t, .sci (sciControlsOfSegment t)⟩) = some fault) :
    ∃ c', consult (run console (segmentArguments .sci t [])) unread
      = (.error (.misuse (.notEncodable fault)), c') := by
  have hfind : Gives (Decoding.find .sci (some t) false) (.sci (sciControlsOfSegment t)) :=
    Gives.pure _
  obtain ⟨es, c', -, hdecode⟩ :=
    Decoding.gives_decode_of_find hfind unread faithful_unread rfl
  have hrun : consult (run console (segmentArguments .sci t [])) unread = _ :=
    consult_run_segment .sci hdecode
  rw [hfault] at hrun
  exact ⟨c', hrun⟩

end SecurityMarking.CommandLine
