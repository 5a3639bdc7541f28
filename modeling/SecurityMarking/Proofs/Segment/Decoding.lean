/-
What decoding a segment comes to.

A segment is decoded by the word for its kind.  Each kind is found by its own word, so
that of the decoding nothing is left but to tell of it and to find what the segment
says: `decode_word`.

What was found is reported as a map of parts by their names.  `Value.part?` is what
stands under a name in such a map, and whatever is said of a report is said of its
parts.
-/
import SecurityMarking.CommandLine.Report

namespace SecurityMarking

/-- What a map has under a name. -/
def Value.part? (name : Text) (v : Value) : Option Value :=
  v.entries?.bind (Scalar.valueIn? (.text name))

/-- Each kind is found by its own word. -/
theorem SegmentKind.ofWord?_word (kind : SegmentKind) : ofWord? kind.word = some kind := by
  cases kind with
  | sci => rfl
  | sap => rfl
  | aea => rfl
  | named kind => cases kind <;> rfl

namespace Decoding

variable {segment : Option Text} {portion : Bool}

/-- **A segment of a kind is decoded by finding what it says.** -/
theorem decode_word (kind : SegmentKind) (segment : Option Text) (portion : Bool) :
    decode (some kind.word) segment portion = do
      Catalogue.record (.decoding kind.word segment portion)
      return ⟨kind, segment, ← find kind segment portion⟩ := by
  have hkind : (some kind.word).bind SegmentKind.ofWord? = some kind := kind.ofWord?_word
  unfold decode
  simp only [hkind]
  rfl

end Decoding

end SecurityMarking
