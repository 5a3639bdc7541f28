/-
The definitions of steps do not get in each other's way.

A sentence that a definition matches begins as the definition does.  Of two definitions
with one keyword neither beginning begins the other, and two beginnings of one sentence
always do, so that at most one definition matches a sentence, whatever stands in its
fields.  With a new definition only that comparison of beginnings has to be made again.

What stands in a field does not move its borders either.  One field lies between a
beginning and an end that are taken off exactly.  Of two fields the first ends at the first
place where the text between them fits, and as that text begins with a double quote, it
fits at no place inside a first field without one.
-/
import Mathlib.Data.List.Infix
import Mathlib.Data.List.Pairwise
import SecurityMarking.Scenario.Step

namespace SecurityMarking.Scenario

variable {before between after sentence first second v body : Text} {written : WrittenStep}
  {step : Step}

/-! ### Fields -/

/-- The value of a field is all that stands between the beginning and the end. -/
theorem field?_eq_some_iff :
    field? before after sentence = some v ↔ v ≠ [] ∧ sentence = before ++ v ++ after := by
  unfold field?
  constructor
  · intro h
    obtain ⟨rest, hrest, h⟩ := Option.bind_eq_some_iff.mp h
    obtain ⟨u, hu, h⟩ := Option.bind_eq_some_iff.mp h
    rw [Text.after?_eq_some_iff] at hrest
    rw [Text.before?_eq_some_iff] at hu
    split at h
    · cases h
    · rename_i hne
      cases h
      exact ⟨fun hnil => hne (by simp [hnil]), by rw [hrest, hu, List.append_assoc]⟩
  · rintro ⟨hne, rfl⟩
    have hrest : Text.after? before (before ++ v ++ after) = some (v ++ after) :=
      Text.after?_eq_some_iff.mpr (List.append_assoc before v after)
    have hv : Text.before? after (v ++ after) = some v := Text.before?_eq_some_iff.mpr rfl
    rw [hrest, Option.bind_eq_bind, Option.bind_some, hv, Option.bind_some,
      if_neg (by simpa using hne)]

/-- The two texts are something and stand around the third in what they are a part of. -/
structure StandAround (between body first second : Text) : Prop where
  filledFirst : first ≠ []
  filledSecond : second ≠ []
  eq : body = first ++ between ++ second

theorem not_standAround_nil : ¬ StandAround between [] first second := by
  intro h
  have heq := h.eq
  rw [List.append_assoc] at heq
  exact h.filledFirst (List.append_eq_nil_iff.mp heq.symm).1

/-- Two texts stand around the third in a longer text if the first is one character and the rest
goes on with the third, or if they do in the rest. -/
theorem standAround_cons_iff {c : Char} {cs : Text} :
    StandAround between (c :: cs) first second ↔
      (first = [c] ∧ second ≠ [] ∧ cs = between ++ second) ∨
        ∃ rest, first = c :: rest ∧ StandAround between cs rest second := by
  constructor
  · rintro ⟨hfirst, hsecond, heq⟩
    obtain ⟨x, rest, rfl⟩ := List.exists_cons_of_ne_nil hfirst
    simp only [List.cons_append, List.cons.injEq] at heq
    obtain ⟨rfl, hcs⟩ := heq
    by_cases hrest : rest = []
    · subst hrest
      exact Or.inl ⟨rfl, hsecond, hcs⟩
    · exact Or.inr ⟨rest, rfl, hrest, hsecond, hcs⟩
  · rintro (⟨rfl, hsecond, rfl⟩ | ⟨rest, rfl, h⟩)
    · exact ⟨List.cons_ne_nil c [], hsecond, rfl⟩
    · exact ⟨List.cons_ne_nil c rest, h.filledSecond, by rw [h.eq]; rfl⟩

/-- What is found stands around the text, and no shorter first part does. -/
theorem standAround_of_cutAround? (h : cutAround? between body = some (first, second)) :
    StandAround between body first second ∧
      ∀ first' second', StandAround between body first' second' →
        first.length ≤ first'.length := by
  induction body generalizing first second with
  | nil => cases h
  | cons c cs ih =>
      unfold cutAround? at h
      split at h
      · rename_i d ds hafter
        cases h
        refine ⟨standAround_cons_iff.mpr (Or.inl ⟨rfl, List.cons_ne_nil d ds, ?_⟩), ?_⟩
        · exact Text.after?_eq_some_iff.mp hafter
        · intro first' second' h'
          exact List.length_pos_iff.mpr h'.filledFirst
      · rename_i hafter
        obtain ⟨⟨rest, second⟩, hrest, heq⟩ := Option.map_eq_some_iff.mp h
        cases heq
        obtain ⟨haround, hleast⟩ := ih hrest
        refine ⟨standAround_cons_iff.mpr (Or.inr ⟨rest, rfl, haround⟩), ?_⟩
        intro first' second' h'
        rcases standAround_cons_iff.mp h' with ⟨-, hsecond, hcs⟩ | ⟨rest', rfl, hrest'⟩
        · obtain ⟨d, ds, rfl⟩ := List.exists_cons_of_ne_nil hsecond
          exact absurd (Text.after?_eq_some_iff.mpr hcs) (hafter d ds)
        · exact Nat.succ_le_succ (hleast rest' second' hrest')

/-- If two parts stand around the text, some are found. -/
theorem exists_cutAround?_eq_some (h : StandAround between body first second) :
    ∃ parts, cutAround? between body = some parts := by
  induction body generalizing first with
  | nil => exact absurd h not_standAround_nil
  | cons c cs ih =>
      unfold cutAround?
      split
      · exact ⟨_, rfl⟩
      · rename_i hafter
        rcases standAround_cons_iff.mp h with ⟨-, hsecond, hcs⟩ | ⟨rest, -, h⟩
        · obtain ⟨d, ds, rfl⟩ := List.exists_cons_of_ne_nil hsecond
          exact absurd (Text.after?_eq_some_iff.mpr hcs) (hafter d ds)
        · obtain ⟨parts, hparts⟩ := ih h
          exact ⟨_, by rw [hparts]; rfl⟩

/-- **What is found around a text are the parts of which the first is the shortest.** -/
theorem cutAround?_eq_some_iff :
    cutAround? between body = some (first, second) ↔
      StandAround between body first second ∧
        ∀ first' second', StandAround between body first' second' →
          first.length ≤ first'.length := by
  refine ⟨standAround_of_cutAround?, ?_⟩
  rintro ⟨h, hleast⟩
  obtain ⟨⟨first', second'⟩, hfound⟩ := exists_cutAround?_eq_some h
  obtain ⟨h', hleast'⟩ := standAround_of_cutAround? hfound
  have hlength : first.length = first'.length :=
    Nat.le_antisymm (hleast first' second' h') (hleast' first second h)
  have heq := h.eq.symm.trans h'.eq
  rw [List.append_assoc, List.append_assoc] at heq
  obtain ⟨rfl, hrest⟩ := List.append_inj heq hlength
  rw [hfound, List.append_cancel_left hrest]

/-- The values of two fields are what stands around the text between them, the first as short as it
can be. -/
theorem fields?_eq_some_iff :
    fields? before between after sentence = some (first, second) ↔
      ∃ body, sentence = before ++ body ++ after ∧ StandAround between body first second ∧
        ∀ first' second', StandAround between body first' second' →
          first.length ≤ first'.length := by
  unfold fields?
  constructor
  · intro h
    obtain ⟨rest, hrest, h⟩ := Option.bind_eq_some_iff.mp h
    obtain ⟨body, hbody, h⟩ := Option.bind_eq_some_iff.mp h
    rw [Text.after?_eq_some_iff] at hrest
    rw [Text.before?_eq_some_iff] at hbody
    exact ⟨body, by rw [hrest, hbody, List.append_assoc], cutAround?_eq_some_iff.mp h⟩
  · rintro ⟨body, rfl, h⟩
    have hrest : Text.after? before (before ++ body ++ after) = some (body ++ after) :=
      Text.after?_eq_some_iff.mpr (List.append_assoc before body after)
    have hbody : Text.before? after (body ++ after) = some body :=
      Text.before?_eq_some_iff.mpr rfl
    rw [hrest, Option.bind_eq_bind, Option.bind_some, hbody, Option.bind_some]
    exact cutAround?_eq_some_iff.mpr h

/-- A text that begins with a character stands at no place inside a part without that character. -/
theorem fields?_eq_some {c : Char} {rest : Text} (hfirst : first ≠ []) (hsecond : second ≠ [])
    (hfree : c ∉ first) :
    fields? before (c :: rest) after (before ++ (first ++ c :: rest ++ second) ++ after)
      = some (first, second) := by
  refine fields?_eq_some_iff.mpr ⟨_, rfl, ⟨hfirst, hsecond, rfl⟩, ?_⟩
  intro first' second' h
  have heq := h.eq
  rw [List.append_assoc, List.append_assoc] at heq
  rcases List.append_eq_append_iff.mp heq with ⟨more, rfl, -⟩ | ⟨more, rfl, hmore⟩
  · rw [List.length_append]
    exact Nat.le_add_right _ _
  · cases more with
    | nil => simp
    | cons d more =>
        -- The text between would begin inside the first part.
        have hd : c = d := (List.cons.inj hmore).1
        exact absurd (by simp [hd]) hfree

/-! ### Beginnings -/

namespace Definition

/-- What all sentences that the definition matches begin with. -/
def beginning : Definition → Text
  | .plain _ sentence _ => sentence
  | .withField _ before _ _ => before
  | .withFields _ before _ _ _ => before

theorem beginning_prefix {d : Definition} (h : d.ofSentence? sentence = some step) :
    d.beginning <+: sentence := by
  cases d with
  | plain keyword t step' =>
      obtain ⟨rfl, -⟩ := (Option.ite_none_right_eq_some ..).mp h
      exact List.prefix_rfl
  | withField keyword before after step' =>
      obtain ⟨v, hv, -⟩ := Option.map_eq_some_iff.mp h
      obtain ⟨-, rfl⟩ := field?_eq_some_iff.mp hv
      rw [List.append_assoc]
      exact List.prefix_append before _
  | withFields keyword before between after step' =>
      obtain ⟨⟨first, second⟩, hparts, -⟩ := Option.map_eq_some_iff.mp h
      obtain ⟨body, rfl, -⟩ := fields?_eq_some_iff.mp hparts
      rw [List.append_assoc]
      exact List.prefix_append before _

theorem match?_eq_some_iff {d : Definition} :
    d.match? written = some step ↔
      d.keyword = written.keyword ∧ d.ofSentence? written.sentence = some step :=
  Option.ite_none_right_eq_some ..

/-- Whether the definition matches the step as it is written. -/
def fits (written : WrittenStep) (d : Definition) : Bool := (d.match? written).isSome

/-- The definitions have different keywords, or neither beginning begins the other. -/
def ApartFrom (d e : Definition) : Prop :=
  d.keyword = e.keyword → ¬ d.beginning <+: e.beginning ∧ ¬ e.beginning <+: d.beginning

instance (d e : Definition) : Decidable (ApartFrom d e) :=
  inferInstanceAs (Decidable (_ → _))

instance : Std.Symm ApartFrom where
  symm _ _ h hkeyword := (h hkeyword.symm).symm

/-- Definitions that are apart and have one keyword do not begin one sentence. -/
theorem ApartFrom.not_both {d e : Definition} (h : ApartFrom d e) (hkeyword : d.keyword = e.keyword)
    (hd : d.beginning <+: sentence) (he : e.beginning <+: sentence) : False := by
  obtain ⟨hde, hed⟩ := h hkeyword
  rcases List.prefix_or_prefix_of_prefix hd he with hpre | hpre
  · exact hde hpre
  · exact hed hpre

end Definition

/-- **Each two definitions are apart.** -/
theorem apart_definitions : definitions.Pairwise Definition.ApartFrom := by
  decide +kernel

/-- Only one definition of a keyword begins a sentence. -/
theorem Definition.eq_of_beginning_prefix {d e : Definition} (hd : d ∈ definitions)
    (he : e ∈ definitions) (hkeyword : d.keyword = e.keyword) (hds : d.beginning <+: sentence)
    (hes : e.beginning <+: sentence) : d = e := by
  by_contra hne
  exact (List.Pairwise.forall apart_definitions hd he hne).not_both hkeyword hds hes

/-! ### The one definition that matches -/

namespace WrittenStep

/-- The definitions that match a step. -/
def matching (written : WrittenStep) : List Definition :=
  definitions.filter fun d => d.fits written

theorem length_matching_le (written : WrittenStep) : written.matching.length ≤ 1 := by
  have hapart : written.matching.Pairwise Definition.ApartFrom := apart_definitions.filter _
  have hfits : ∀ d ∈ written.matching,
      d.keyword = written.keyword ∧ d.beginning <+: written.sentence := by
    intro d hd
    obtain ⟨step, hstep⟩ := Option.isSome_iff_exists.mp (List.mem_filter.mp hd).2
    obtain ⟨hkeyword, hsentence⟩ := Definition.match?_eq_some_iff.mp hstep
    exact ⟨hkeyword, Definition.beginning_prefix hsentence⟩
  match hmatching : written.matching with
  | [] => exact Nat.zero_le 1
  | [d] => exact Nat.le_refl 1
  | d :: e :: rest =>
      rw [hmatching] at hapart hfits
      have hde : d.ApartFrom e := List.rel_of_pairwise_cons hapart List.mem_cons_self
      obtain ⟨hdk, hds⟩ := hfits d (by simp)
      obtain ⟨hek, hes⟩ := hfits e (by simp)
      exact (hde.not_both (hdk.trans hek.symm) hds hes).elim

theorem matching_eq_singleton {d : Definition} (hd : d ∈ definitions)
    (h : d.match? written = some step) : written.matching = [d] := by
  have hmem : d ∈ written.matching := List.mem_filter.mpr ⟨hd, by rw [Definition.fits, h]; rfl⟩
  have hlength := length_matching_le written
  match hmatching : written.matching with
  | [] => exact absurd (hmatching ▸ hmem) List.not_mem_nil
  | [e] =>
      rw [hmatching] at hmem
      rw [List.mem_singleton.mp hmem]
  | e :: f :: rest =>
      rw [hmatching] at hlength
      simp at hlength

/-- A step that a definition matches is the one that it writes. -/
theorem step?_eq_some {d : Definition} (hd : d ∈ definitions)
    (h : d.match? written = some step) : written.step? = some step := by
  cases hstep : written.step? with
  | none =>
      rw [List.findSome?_eq_none_iff.mp hstep d hd] at h
      cases h
  | some step' =>
      obtain ⟨e, he, hmatch⟩ := List.exists_of_findSome?_eq_some hstep
      have hone := (matching_eq_singleton he hmatch).symm.trans (matching_eq_singleton hd h)
      cases hone
      exact hmatch.symm.trans h

end WrittenStep

/-! ### Filled fields -/

namespace Definition

variable {keyword : Keyword} {ofOne : Text → Step} {ofTwo : Text → Text → Step}

/-- A field that is filled is read as what it was filled with. -/
theorem match?_withField (hv : v ≠ []) :
    (withField keyword before after ofOne).match? ⟨keyword, before ++ v ++ after⟩
      = some (ofOne v) := by
  have hfield : field? before after (before ++ v ++ after) = some v :=
    field?_eq_some_iff.mpr ⟨hv, rfl⟩
  exact match?_eq_some_iff.mpr ⟨rfl, by rw [ofSentence?, hfield]; rfl⟩

/-- Two fields that are filled are read as what they were filled with, if the first one has none of
the character that ends it. -/
theorem match?_withFields {c : Char} {rest : Text} (hfirst : first ≠ []) (hfree : c ∉ first)
    (hsecond : second ≠ []) :
    (withFields keyword before (c :: rest) after ofTwo).match?
        ⟨keyword, before ++ (first ++ c :: rest ++ second) ++ after⟩
      = some (ofTwo first second) := by
  have hfields : fields? before (c :: rest) after
      (before ++ (first ++ c :: rest ++ second) ++ after) = some (first, second) :=
    fields?_eq_some hfirst hsecond hfree
  exact match?_eq_some_iff.mpr ⟨rfl, by rw [ofSentence?, hfields]; rfl⟩

/-- A field that is not filled is not read. -/
theorem match?_withField_empty :
    (withField keyword before after ofOne).match? ⟨keyword, before ++ [] ++ after⟩ = none := by
  rw [Option.eq_none_iff_forall_ne_some]
  intro step h
  obtain ⟨v, hv, -⟩ := Option.map_eq_some_iff.mp (match?_eq_some_iff.mp h).2
  obtain ⟨hne, heq⟩ := field?_eq_some_iff.mp hv
  exact hne (List.append_cancel_left (List.append_cancel_right heq)).symm

/-- The text between two fields begins with a double quote. -/
def QuotesBetween : Definition → Prop
  | .withFields _ _ between _ _ => between.head? = some '"'
  | _ => True

instance : (d : Definition) → Decidable d.QuotesBetween
  | .plain _ _ _ => inferInstanceAs (Decidable True)
  | .withField _ _ _ _ => inferInstanceAs (Decidable True)
  | .withFields _ _ between _ _ => inferInstanceAs (Decidable (between.head? = some '"'))

end Definition

theorem quotesBetween_definitions : ∀ d ∈ definitions, d.QuotesBetween := by decide

/-- A definition with a field that is not filled matches nothing, and no other definition does. -/
theorem WrittenStep.step?_withField_empty {keyword : Keyword} {ofOne : Text → Step}
    (hd : Definition.withField keyword before after ofOne ∈ definitions) :
    WrittenStep.step? ⟨keyword, before ++ [] ++ after⟩ = none := by
  rw [Option.eq_none_iff_forall_ne_some]
  intro step h
  obtain ⟨e, he, hmatch⟩ := List.exists_of_findSome?_eq_some h
  have hsame : Definition.withField keyword before after ofOne = e := by
    obtain ⟨hkeyword, hsentence⟩ := Definition.match?_eq_some_iff.mp hmatch
    refine Definition.eq_of_beginning_prefix hd he hkeyword.symm ?_
      (Definition.beginning_prefix hsentence)
    rw [List.append_assoc]
    exact List.prefix_append before _
  rw [← hsame, Definition.match?_withField_empty] at hmatch
  cases hmatch

/--
**Definitions are unambiguous, and fields are read as they are filled.**

At most one definition matches a step.  If the field of a definition is filled with
anything but the empty text, only that definition matches, the field is read as what it was
filled with, and the step is that of this value.  The same holds of two fields if there is
no double quote in the first.
-/
theorem definitions_unambiguous :
    (∀ written : WrittenStep, written.matching.length ≤ 1) ∧
      (∀ keyword before after step,
        Definition.withField keyword before after step ∈ definitions → ∀ v, v ≠ [] →
          let written : WrittenStep := ⟨keyword, before ++ v ++ after⟩
          written.matching = [.withField keyword before after step] ∧
            field? before after written.sentence = some v ∧ written.step? = some (step v)) ∧
      ∀ keyword before between after step,
        Definition.withFields keyword before between after step ∈ definitions →
          ∀ first second, first ≠ [] → '"' ∉ first → second ≠ [] →
            let written : WrittenStep :=
              ⟨keyword, before ++ (first ++ between ++ second) ++ after⟩
            written.matching = [.withFields keyword before between after step] ∧
              fields? before between after written.sentence = some (first, second) ∧
              written.step? = some (step first second) := by
  refine ⟨WrittenStep.length_matching_le, ?_, ?_⟩
  · intro keyword before after step hd v hv written
    have hmatch : Definition.match? written (.withField keyword before after step)
        = some (step v) := Definition.match?_withField hv
    exact ⟨WrittenStep.matching_eq_singleton hd hmatch, field?_eq_some_iff.mpr ⟨hv, rfl⟩,
      WrittenStep.step?_eq_some hd hmatch⟩
  · intro keyword before between after step hd first second hfirst hfree hsecond written
    obtain ⟨rest, rfl⟩ : ∃ rest, between = '"' :: rest :=
      List.head?_eq_some_iff.mp (quotesBetween_definitions _ hd)
    have hmatch : Definition.match? written (.withFields keyword before ('"' :: rest) after step)
        = some (step first second) := Definition.match?_withFields hfirst hfree hsecond
    exact ⟨WrittenStep.matching_eq_singleton hd hmatch, fields?_eq_some hfirst hsecond hfree,
      WrittenStep.step?_eq_some hd hmatch⟩

/-- A first field with a double quote in it can end too soon. -/
example :
    let inserted : Text := "\" should have sub-compartments \""
    let written : WrittenStep :=
      ⟨.then, "compartment \"" ++ ("A" ++ inserted ++ "B" ++ inserted ++ "C") ++ "\""⟩
    written.step? = some (.check (.subCompartments "A" ("B" ++ inserted ++ "C"))) := by
  decide

end SecurityMarking.Scenario
