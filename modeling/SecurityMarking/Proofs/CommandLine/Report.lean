/-
Reports can be written.

A report is a map of parts, and the lines for a reader can be had from that map as well
as from what was found: `Value.lines?` looks up each part by its name where it is
wanted, and has no lines if a part is missing.  It has the lines of every report:
`lines?_toValue`.  So each of the four shapes of a report has all the parts that its
lines are made of, and where nothing was found there is a line that needs only the kind
and the segment.

In JSON the report of what a text was found to say can be written.  Texts always can be,
and of numbers there are only SIGMA categories.
-/
import SecurityMarking.Proofs.Segment.Shipped

namespace SecurityMarking

/-! ### Reading a report by its parts -/

namespace Value

/-- What a map has under a name, as it stands in a sentence. -/
def shownPart? (name : Text) (v : Value) : Option Text := (v.part? name).map shown

/-- The text that a value is. -/
def text? : Value → Option Text
  | scalar (.text t) => some t
  | _ => none

/-- The texts that a list holds. -/
def texts? (v : Value) : Option (List Text) := do (← v.items?).mapM text?

/-- The line of a compartment and its sub-compartments. -/
def compartmentLine? (entry : Scalar × Value) : Option Text := do
  let subs ← entry.2.texts?
  return Text.concat ["  compartment ", entry.1.shown,
    if subs.isEmpty then [] else Text.concat [" [", commaSeparated subs, "]"]]

/-- The lines of an SCI control. -/
def sciLines? (v : Value) : Option (List Text) := do
  let control ← v.shownPart? "control"
  let compartments ← (← v.part? "compartments").entries?
  return Text.concat ["SCI control ", control] :: (← compartments.mapM compartmentLine?)

/-- The line of a SAP control. -/
def sapLine? (v : Value) : Option Text := do
  return Text.concat ["SAP ", ← v.shownPart? "kind", ": ", ← v.shownPart? "banner", " programs=",
    ← v.shownPart? "programs"]

/-- The line of an AEA marking. -/
def aeaLine? (v : Value) : Option Text := do
  return Text.concat ["AEA ", ← v.shownPart? "type", ": ", ← v.shownPart? "banner", " cnwdi=",
    ← v.shownPart? "cnwdi", " sigmas=", ← v.shownPart? "sigmas"]

/-- The line of a control in a registry. -/
def controlLine? (v : Value) : Option Text := do
  return Text.concat [← v.shownPart? "key", ": ", ← v.shownPart? "name", " (",
    ← v.shownPart? "portion_name", ")"]

/-- The line that is written where nothing was found. -/
def unmatchedLine? (v : Value) : Option Text := do
  return Text.concat ["No ", ← v.shownPart? "kind", " control matches '",
    ← v.shownPart? "segment", "'"]

/-- The lines of a report for a reader.  What the report is of shows in the parts that it has. -/
def lines? (v : Value) : Option (List Text) := do
  if (← v.part? "found").isFilled then
    match v.part? "sap", v.part? "sci", v.part? "aea" with
    | some sap, _, _ => return [← sapLine? sap]
    | none, some listed, _ => return (← (← listed.items?).mapM sciLines?).flatten
    | none, none, some aea =>
      if aea.isFilled then return [← aeaLine? aea]
      else return [← controlLine? (← v.part? "control")]
    | none, none, none => return [← controlLine? (← v.part? "control")]
  else return [← unmatchedLine? v]

end Value

/-- What is read of each of several things is read of all. -/
theorem mapM_map_eq_some {α β γ : Type} {read : β → Option γ} {write : α → β} {said : α → γ}
    (h : ∀ x, read (write x) = some (said x)) (xs : List α) :
    (xs.map write).mapM read = some (xs.map said) := by
  induction xs with
  | nil => rfl
  | cons x rest ih =>
      rw [List.map_cons, List.mapM_cons, h x, ih]
      rfl

theorem Value.texts?_texts (ts : List Text) : (Value.texts ts).texts? = some ts := by
  have htext : ∀ t : Text, (Value.text t).text? = some (id t) := fun _ => rfl
  have hread := mapM_map_eq_some htext ts
  rw [List.map_id] at hread
  exact hread

theorem SciControl.sciLines?_toValue (x : SciControl) :
    x.toValue.sciLines? = some (Decoding.sciLines x) := by
  have hcompartment : ∀ c : Compartment,
      Value.compartmentLine? (.text c.name, .texts c.subs) = some (Decoding.compartmentLine c) := by
    intro c
    unfold Value.compartmentLine?
    rw [Value.texts?_texts]
    rfl
  have hcompartments := mapM_map_eq_some hcompartment x.compartments
  show (do
    return Text.concat ["SCI control ", x.control] ::
      (← (x.compartments.map fun c => (Scalar.text c.name, Value.texts c.subs)).mapM
        Value.compartmentLine?)) = some (Decoding.sciLines x)
  rw [hcompartments]
  rfl

namespace Decoding

/-- **The lines of a report can be had from its parts.** -/
theorem lines?_toValue (d : Decoding) : d.toValue.lines? = some d.lines := by
  obtain ⟨kind, segment, finding⟩ := d
  cases finding with
  | sap control => rfl
  | sci controls =>
      cases controls with
      | nil => rfl
      | cons x rest =>
          have hlisted := mapM_map_eq_some SciControl.sciLines?_toValue (x :: rest)
          show (do return (← ((x :: rest).map SciControl.toValue).mapM Value.sciLines?).flatten)
            = some ((x :: rest).flatMap sciLines)
          rw [hlisted, List.flatMap_def]
          rfl
  | aea found =>
      cases found with
      | none => rfl
      | some result => rfl
  | named found =>
      cases found with
      | none => rfl
      | some e => rfl

variable {kind : SegmentKind} {segment : Option Text} {finding : Finding} {t : Text}

/-- Where nothing was found there is no control in the report. -/
theorem part?_of_not_isFound (hfits : finding.Fits t kind) (h : finding.isFound = false) :
    (kind = .sci →
        (toValue ⟨kind, segment, finding⟩).part? "control" = none ∧
        (toValue ⟨kind, segment, finding⟩).part? "sci" = some (.list [])) ∧
      (kind = .aea →
        (toValue ⟨kind, segment, finding⟩).part? "aea" = some .null ∧
        (toValue ⟨kind, segment, finding⟩).part? "control" = some .null) ∧
      ∀ k, kind = .named k → (toValue ⟨kind, segment, finding⟩).part? "control" = some .null := by
  cases hfits with
  | sci =>
      have hnone : sciControlsOfSegment t = [] := by simpa [Finding.isFound] using h
      rw [hnone]
      exact ⟨fun _ => ⟨rfl, rfl⟩, by simp, by simp⟩
  | sap => cases h
  | type hs hname hsigmas => cases h
  | noType => exact ⟨by simp, fun _ => ⟨rfl, rfl⟩, by simp⟩
  | control hs => cases h
  | noControl => exact ⟨by simp, by simp, fun _ _ => rfl⟩

end Decoding

/-! ### Writing a report in JSON -/

namespace Json

variable {vs : List Value}

theorem fault?_of_isText {v : Value} (h : v.IsText) : fault? v = none := by
  obtain ⟨t, rfl⟩ := h
  rfl

theorem fault?_list (h : ∀ v ∈ vs, fault? v = none) : fault? (.list vs) = none := by
  rw [fault?]
  induction vs with
  | nil => rfl
  | cons v rest ih =>
      rw [faultOfItems?, h v List.mem_cons_self, Option.none_or]
      exact ih fun w hw => h w (List.mem_cons_of_mem v hw)

theorem fault?_texts (ts : List Text) : fault? (.texts ts) = none := by
  refine fault?_list ?_
  intro v hv
  obtain ⟨t, -, rfl⟩ := List.mem_map.mp hv
  rfl

theorem fault?_numbers {ns : List Int} (h : ∀ n ∈ ns, Numeral.isWritable n = true) :
    fault? (.numbers ns) = none := by
  refine fault?_list ?_
  intro v hv
  obtain ⟨n, hn, rfl⟩ := List.mem_map.mp hv
  simp [fault?, scalarFault?, Scalar.isWritable, h n hn]

/-- Under a text anything can be written that can be written by itself. -/
theorem fault?_map_cons {k : Text} {v : Value} {rest : List (Scalar × Value)} :
    fault? (.map ((.text k, v) :: rest)) = none ↔ fault? v = none ∧ fault? (.map rest) = none := by
  have hkey : keyFault? (.text k) = none := rfl
  rw [fault?, fault?, faultOfEntries?, hkey, Option.none_or, Option.or_eq_none_iff]

theorem fault?_compartments (cs : List Compartment) :
    fault? (.map (cs.map fun c => (.text c.name, .texts c.subs))) = none := by
  induction cs with
  | nil => rfl
  | cons c rest ih => exact fault?_map_cons.mpr ⟨fault?_texts c.subs, ih⟩

theorem fault?_sci (x : SciControl) : fault? x.toValue = none := by
  refine fault?_map_cons.mpr ⟨rfl, fault?_map_cons.mpr ⟨fault?_compartments x.compartments, ?_⟩⟩
  exact fault?_map_cons.mpr ⟨rfl, rfl⟩

theorem fault?_sap (x : SapControl) : fault? x.toValue = none := by
  refine fault?_map_cons.mpr ⟨rfl, fault?_map_cons.mpr ⟨fault?_texts x.names, ?_⟩⟩
  rfl

theorem fault?_summary {s : Entry.Summary} (h : s.Plain) : fault? s.toValue = none := by
  refine fault?_map_cons.mpr ⟨fault?_of_isText h.key.isText, ?_⟩
  refine fault?_map_cons.mpr ⟨fault?_of_isText h.name.isText, ?_⟩
  refine fault?_map_cons.mpr ⟨fault?_of_isText h.portionName.isText, ?_⟩
  refine fault?_map_cons.mpr
    ⟨fault?_list fun v hv => fault?_of_isText (h.bannerNames v hv).isText, ?_⟩
  exact fault?_map_cons.mpr
    ⟨fault?_list fun v hv => fault?_of_isText (h.portionNames v hv).isText, rfl⟩

theorem fault?_aea {type : Entry.Summary} {m : AeaMarking} (htype : type.Plain)
    (hsigmas : ∀ n ∈ m.sigmas, Numeral.isWritable n = true) :
    fault? (m.toValue type) = none := by
  refine fault?_map_cons.mpr ⟨fault?_of_isText htype.key.isText, ?_⟩
  refine fault?_map_cons.mpr ⟨fault?_of_isText htype.name.isText, ?_⟩
  refine fault?_map_cons.mpr ⟨rfl, ?_⟩
  exact fault?_map_cons.mpr ⟨fault?_numbers hsigmas, rfl⟩

end Json

namespace Decoding

variable {kind : SegmentKind} {segment : Option Text} {finding : Finding} {t : Text}

/-- **A report of what a text was found to say can be written in JSON.** -/
theorem fault?_toValue (h : finding.Fits t kind) :
    Json.fault? (toValue ⟨kind, segment, finding⟩) = none := by
  have hsegment : Json.fault? (.ofText? segment) = none := by cases segment <;> rfl
  have hhead : ∀ {entries : List (Scalar × Value)}, Json.fault? (.map entries) = none →
      Json.fault? (.map ([(.text "kind", .text kind.word), (.text "segment", .ofText? segment)]
        ++ entries)) = none := by
    intro entries hentries
    exact Json.fault?_map_cons.mpr ⟨rfl, Json.fault?_map_cons.mpr ⟨hsegment, hentries⟩⟩
  cases h with
  | sci =>
      have hcontrols : Json.fault? (.list ((sciControlsOfSegment t).map SciControl.toValue))
          = none := by
        refine Json.fault?_list ?_
        intro v hv
        obtain ⟨x, -, rfl⟩ := List.mem_map.mp hv
        exact Json.fault?_sci x
      exact hhead (Json.fault?_map_cons.mpr ⟨rfl, Json.fault?_map_cons.mpr ⟨hcontrols, rfl⟩⟩)
  | sap =>
      exact hhead (Json.fault?_map_cons.mpr
        ⟨rfl, Json.fault?_map_cons.mpr ⟨Json.fault?_sap (.ofSegment t), rfl⟩⟩)
  | type hs hname hsigmas =>
      refine hhead (Json.fault?_map_cons.mpr ⟨Json.fault?_aea hs hsigmas, ?_⟩)
      exact Json.fault?_map_cons.mpr
        ⟨rfl, Json.fault?_map_cons.mpr ⟨Json.fault?_summary hs, rfl⟩⟩
  | noType => exact hhead rfl
  | control hs =>
      exact hhead (Json.fault?_map_cons.mpr
        ⟨rfl, Json.fault?_map_cons.mpr ⟨Json.fault?_summary hs, rfl⟩⟩)
  | noControl => exact hhead rfl

theorem writeIfPossible_toValue (h : finding.Fits t kind) :
    Json.writeIfPossible (toValue ⟨kind, segment, finding⟩)
      = .ok (Json.write (toValue ⟨kind, segment, finding⟩)) := by
  unfold Json.writeIfPossible
  rw [fault?_toValue h]

/-- **A report of what a text was found to say can be written in lines.** -/
theorem report_eq (h : finding.Fits t kind) :
    report ⟨kind, segment, finding⟩
      = .ok (Text.join (.char '\n') (lines ⟨kind, segment, finding⟩)) := by
  have hwritable : (shownValues ⟨kind, segment, finding⟩).all Value.isWritable = true := by
    cases h with
    | sci => rfl
    | sap => rfl
    | type hs hname hsigmas => simp [shownValues, hs.key.isText.isWritable]
    | noType => rfl
    | control hs =>
        simp [shownValues, hs.key.isText.isWritable, hs.name.isText.isWritable,
          hs.portionName.isText.isWritable]
    | noControl => rfl
  unfold report
  rw [if_pos hwritable]

end Decoding

end SecurityMarking
