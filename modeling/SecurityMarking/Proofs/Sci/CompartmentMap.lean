/-
What is found in the compartments of a control.

A control that was read maps the names of its compartments to their sub-compartments.
The text of each compartment is a token between dashes, and its name is what comes
before the first space in it.  Tokens are inserted in the order in which they are
written, and an insertion changes what is found for its own name only.  So what is found
for a name is what the last token of that name writes: `subCompartments?_ofText`.

The compartments ascend by name, and a list that ascends is determined by what is found
in it: `Ascending.ext`.  That is why two controls are equal exactly if the last tokens
agree name by name, whatever stands before them and in whatever order the names are
written.
-/
import Mathlib.Data.List.Sort
import SecurityMarking.Comparison
import SecurityMarking.Proofs.Sci.RoundTrip

namespace SecurityMarking

open Text

/-- Controls are equal by what they say. -/
theorem Comparable.same_sci {x y : SciControl} :
    (Comparable.sci x).same (.sci y) = true ↔ x = y :=
  decide_eq_true_iff

namespace Compartment

variable {name token : Text} {tokens : List Text} {cs ds : List Compartment}

/-! ### Tokens -/

/-- The name that a token writes: what comes before its first space. -/
def nameOf (token : Text) : Text := token.takeWhile (· ≠ ' ')

/-- The sub-compartments that a token writes: the parts after its name, less the empty ones at the
end. -/
def subsOf (token : Text) : List Text := (token.splitOn ' ').tail.rdropWhile List.isEmpty

/-- A token writes its name and its sub-compartments, also if it consists of spaces. -/
theorem ofText_eq (token : Text) : ofText token = ⟨nameOf token, subsOf token⟩ := by
  have hread : ofText token = ⟨(split .space token).headD [], (split .space token).tail⟩ := by
    unfold ofText
    cases split .space token with
    | nil => rfl
    | cons name subs => rfl
  rw [hread]
  exact congrArg₂ Compartment.mk (headD_split_char ' ' token) (tail_split_char ' ' token)

theorem map_name_map_ofText (tokens : List Text) :
    (tokens.map ofText).map Compartment.name = tokens.map nameOf := by
  simp [ofText_eq]

/-- The last of several tokens that writes a name. -/
def IsLast (name token : Text) (tokens : List Text) : Prop :=
  ∃ before after, tokens = before ++ token :: after ∧
    nameOf token = name ∧ ∀ t ∈ after, nameOf t ≠ name

/-- The last of several tokens that writes a name, if one does. -/
def last? (name : Text) (tokens : List Text) : Option Text :=
  tokens.reverse.find? fun t => nameOf t = name

theorem last?_eq_none_iff : last? name tokens = none ↔ ∀ t ∈ tokens, nameOf t ≠ name := by
  simp [last?]

theorem last?_eq_some_iff : last? name tokens = some token ↔ IsLast name token tokens := by
  unfold last? IsLast
  rw [List.find?_eq_some_iff_append]
  constructor
  · rintro ⟨hname, after, before, hsplit, hafter⟩
    refine ⟨before.reverse, after.reverse, ?_, by simpa using hname, ?_⟩
    · rw [← List.reverse_reverse tokens, hsplit]
      simp
    · intro t ht
      simpa using hafter t (List.mem_reverse.mp ht)
  · rintro ⟨before, after, rfl, hname, hafter⟩
    refine ⟨by simpa using hname, after.reverse, before.reverse, by simp, ?_⟩
    intro t ht
    simpa using hafter t (List.mem_reverse.mp ht)

/-! ### What is found among compartments -/

theorem find?_append (name : Text) (cs ds : List Compartment) :
    find? name (cs ++ ds) = (find? name cs).or (find? name ds) := by
  induction cs with
  | nil => simp
  | cons c cs ih =>
      rw [List.cons_append, find?_cons, find?_cons, ih]
      split <;> rfl

private theorem find?_foldl_insert (name : Text) :
    ∀ (ds cs : List Compartment),
      find? name (ds.foldl (fun ordered c => insert c ordered) cs)
        = (find? name ds.reverse).or (find? name cs) := by
  intro ds
  induction ds with
  | nil => intro cs; rfl
  | cons d rest ih =>
      intro cs
      rw [List.foldl_cons, ih, find?_insert, List.reverse_cons, find?_append, Option.or_assoc]
      congr 1
      rw [find?_cons, find?_nil]
      split <;> rfl

/-- **Sorted compartments are found as the last of their name.** -/
theorem find?_sorted (name : Text) (cs : List Compartment) :
    find? name (sorted cs) = find? name cs.reverse := by
  show find? name (cs.foldl (fun ordered c => insert c ordered) []) = _
  rw [find?_foldl_insert, find?_nil, Option.or_none]

theorem find?_reverse_map_ofText (name : Text) (tokens : List Text) :
    find? name (tokens.map ofText).reverse = (last? name tokens).map subsOf := by
  unfold find? last?
  rw [← List.map_reverse, List.find?_map, Option.map_map]
  have hname : (fun c : Compartment => decide (c.name = name)) ∘ ofText
      = fun t => decide (nameOf t = name) := by
    funext t
    simp [ofText_eq]
  have hsubs : subs ∘ ofText = subsOf := by
    funext t
    simp [ofText_eq]
  rw [hname, hsubs]

/-! ### Ascending compartments -/

/-- Where no name occurs twice, what is found for a name is what is there. -/
theorem find?_eq_some_iff {subs : List Text} (h : (cs.map Compartment.name).Nodup) :
    find? name cs = some subs ↔ ⟨name, subs⟩ ∈ cs := by
  constructor
  · intro hfound
    obtain ⟨c, hc, rfl⟩ := Option.map_eq_some_iff.mp hfound
    have hname : c.name = name := by simpa using List.find?_some hc
    rw [← hname]
    exact List.mem_of_find?_eq_some hc
  · intro hmem
    induction cs with
    | nil => cases hmem
    | cons x xs ih =>
        rw [List.map_cons, List.nodup_cons] at h
        rw [find?_cons]
        rcases List.mem_cons.mp hmem with rfl | hmem
        · exact if_pos rfl
        · have hne : x.name ≠ name := by
            intro heq
            exact h.1 (heq ▸ List.mem_map_of_mem hmem)
          rw [if_neg hne]
          exact ih h.2 hmem

/-- Where no name occurs twice, the order does not matter to what is found. -/
theorem find?_of_perm (h : cs.Perm ds) (hnodup : (cs.map Compartment.name).Nodup) (name : Text) :
    find? name cs = find? name ds := by
  have hnodup' : (ds.map Compartment.name).Nodup := (h.map _).nodup_iff.mp hnodup
  ext subs
  rw [find?_eq_some_iff hnodup, find?_eq_some_iff hnodup', h.mem_iff]

theorem Ascending.nodup (h : Ascending cs) : (cs.map Compartment.name).Nodup := by
  rw [List.Nodup, List.pairwise_map]
  refine h.imp fun {a b} hlt heq => ?_
  rw [heq] at hlt
  exact List.lt_irrefl _ hlt

/-- **Compartments that ascend are determined by what is found among them.** -/
theorem Ascending.ext (h : Ascending cs) (h' : Ascending ds)
    (hfind : ∀ name, find? name cs = find? name ds) : cs = ds := by
  have hirrefl : Std.Irrefl fun a b : Compartment => a.name < b.name :=
    ⟨fun a => List.lt_irrefl a.name⟩
  have hantisymm : Std.Antisymm fun a b : Compartment => a.name < b.name :=
    ⟨fun a b hab hba => absurd (List.lt_trans hab hba) (List.lt_irrefl a.name)⟩
  refine List.Pairwise.eq_of_mem_iff h h' fun c => ?_
  have hc : c ∈ cs ↔ find? c.name cs = some c.subs := (find?_eq_some_iff h.nodup).symm
  have hd : c ∈ ds ↔ find? c.name ds = some c.subs := (find?_eq_some_iff h'.nodup).symm
  rw [hc, hd, hfind]

/-- Sorting the same compartments in another order gives the same if no name occurs twice. -/
theorem sorted_eq_of_perm (h : cs.Perm ds) (hnodup : (cs.map Compartment.name).Nodup) :
    sorted cs = sorted ds := by
  refine (ascending_sorted cs).ext (ascending_sorted ds) fun name => ?_
  rw [find?_sorted, find?_sorted]
  refine find?_of_perm ?_ ?_ name
  · exact (List.reverse_perm cs).trans (h.trans (List.reverse_perm ds).symm)
  · rw [List.map_reverse]
    exact List.nodup_reverse.mpr hnodup

end Compartment

namespace SciControl

open Compartment

variable {control control' : Text} {ts ts' : List Text}

/-- The tokens of a text: the pieces after its first dash, less the empty ones at the end. -/
def tokens (m : Text) : List Text := (m.splitOn '-').tail.rdropWhile List.isEmpty

/-- A text writes what comes before its first dash, and its tokens. -/
theorem ofText_eq (m : Text) :
    ofText m = ⟨m.takeWhile (· ≠ '-'), sorted ((tokens m).map Compartment.ofText)⟩ := by
  have hread : ofText m = ⟨(split .dash m).headD [],
      sorted ((split .dash m).tail.map Compartment.ofText)⟩ := by
    unfold ofText
    cases split .dash m with
    | nil => rfl
    | cons control tokens => rfl
  rw [hread]
  exact congrArg₂ (fun control ts => SciControl.mk control (sorted (ts.map Compartment.ofText)))
    (headD_split_char '-' m) (tail_split_char '-' m)

/-- **What is found for a name is what the last token of that name writes.** -/
theorem subCompartments?_ofText (m name : Text) :
    (ofText m).subCompartments? name = (last? name (tokens m)).map subsOf := by
  rw [subCompartments?, ofText_eq, find?_sorted, find?_reverse_map_ofText]

/--
**The compartments of a control ascend, and each is the last of its name.**

There is none of a name exactly if no token writes that name.
-/
theorem ascending_and_last_ofText (m : Text) :
    Ascending (ofText m).compartments ∧ ∀ name,
      ((ofText m).subCompartments? name = none ↔ ∀ t ∈ tokens m, nameOf t ≠ name) ∧
        ∀ subs, (ofText m).subCompartments? name = some subs ↔
          ∃ t, IsLast name t (tokens m) ∧ subsOf t = subs := by
  refine ⟨?_, fun name => ⟨?_, fun subs => ?_⟩⟩
  · rw [ofText_eq]
    exact ascending_sorted _
  · rw [subCompartments?_ofText, Option.map_eq_none_iff, last?_eq_none_iff]
  · rw [subCompartments?_ofText, Option.map_eq_some_iff]
    exact exists_congr fun t => and_congr_left fun _ => last?_eq_some_iff

/-- A repeated name takes its last sub-compartments, and an empty part between others stays. -/
example :
    (ofText "SI-TK ALFA-G-  -TK X  Y -").compartments
      = [⟨[], []⟩, ⟨"G", []⟩, ⟨"TK", ["X", [], "Y"]⟩] := by
  decide

/-! ### Equality -/

/-- The tokens of a text in which they stand after a control, less the empty ones at the end. -/
theorem tokens_join (hcontrol : '-' ∉ control) (hts : ∀ t ∈ ts, '-' ∉ t) :
    tokens (join .dash (control :: ts)) = ts.rdropWhile List.isEmpty := by
  have hfree : ∀ p ∈ control :: ts, '-' ∉ p := List.forall_mem_cons.mpr ⟨hcontrol, hts⟩
  have hpieces : (join .dash (control :: ts)).splitOn '-' = control :: ts := by
    rw [← pieces_char]
    exact pieces_join (by simp) hfree
  rw [tokens, hpieces, List.tail_cons]

theorem ofText_join_of_tokens (hcontrol : '-' ∉ control) (hts : ∀ t ∈ ts, t ≠ [] ∧ '-' ∉ t) :
    ofText (join .dash (control :: ts)) = ⟨control, sorted (ts.map Compartment.ofText)⟩ := by
  refine ofText_join hcontrol (fun t ht => (hts t ht).2) fun hlast => ?_
  exact (hts [] (List.mem_of_getLast? hlast)).1 rfl

/-- Tokens write the same compartments exactly if for each name the last of them do. -/
theorem sorted_map_ofText_eq_iff :
    sorted (ts.map Compartment.ofText) = sorted (ts'.map Compartment.ofText) ↔
      ∀ name, (last? name ts).map subsOf = (last? name ts').map subsOf := by
  have hfind : ∀ (us : List Text) (name : Text),
      find? name (sorted (us.map Compartment.ofText)) = (last? name us).map subsOf := by
    intro us name
    rw [find?_sorted, find?_reverse_map_ofText]
  constructor
  · intro h name
    rw [← hfind, ← hfind, h]
  · intro h
    refine (ascending_sorted _).ext (ascending_sorted _) fun name => ?_
    rw [hfind, hfind, h]

/-- Neither list of tokens has the name, or the last tokens that have it write the same
sub-compartments. -/
theorem map_last?_eq_iff (name : Text) :
    (last? name ts).map subsOf = (last? name ts').map subsOf ↔
      ((∀ t ∈ ts, nameOf t ≠ name) ∧ ∀ t ∈ ts', nameOf t ≠ name) ∨
        ∃ t t', IsLast name t ts ∧ IsLast name t' ts' ∧ subsOf t = subsOf t' := by
  rw [← last?_eq_none_iff, ← last?_eq_none_iff]
  simp only [← last?_eq_some_iff]
  cases last? name ts with
  | none =>
      cases last? name ts' with
      | none => simp
      | some t' => simp
  | some t =>
      cases last? name ts' with
      | none => simp
      | some t' => simp

/--
**Equality of controls does not depend on the order of compartments.**

Two controls are equal exactly if they have the same name and, name by name, the last
tokens write the same sub-compartments.  So tokens with names of their own can be
written in any order, and the control keeps its banner.
-/
theorem same_ofText_join_iff (hcontrol : '-' ∉ control) (hcontrol' : '-' ∉ control')
    (hts : ∀ t ∈ ts, t ≠ [] ∧ '-' ∉ t) (hts' : ∀ t ∈ ts', t ≠ [] ∧ '-' ∉ t) :
    ((Comparable.sci (ofText (join .dash (control :: ts)))).same
          (.sci (ofText (join .dash (control' :: ts')))) = true ↔
        control = control' ∧ ∀ name,
          ((∀ t ∈ ts, nameOf t ≠ name) ∧ ∀ t ∈ ts', nameOf t ≠ name) ∨
            ∃ t t', IsLast name t ts ∧ IsLast name t' ts' ∧ subsOf t = subsOf t') ∧
      ∀ us, ts.Perm us → (ts.map nameOf).Nodup →
        (Comparable.sci (ofText (join .dash (control :: ts)))).same
            (.sci (ofText (join .dash (control :: us)))) = true ∧
          (ofText (join .dash (control :: ts))).banner
            = (ofText (join .dash (control :: us))).banner := by
  have hread := ofText_join_of_tokens hcontrol hts
  refine ⟨?_, ?_⟩
  · rw [hread, ofText_join_of_tokens hcontrol' hts', Comparable.same_sci, SciControl.mk.injEq,
      sorted_map_ofText_eq_iff]
    simp only [map_last?_eq_iff]
  · intro us hperm hnodup
    have hus : ∀ t ∈ us, t ≠ [] ∧ '-' ∉ t := fun t ht => hts t (hperm.mem_iff.mpr ht)
    have hnames : ((ts.map Compartment.ofText).map Compartment.name).Nodup := by
      rwa [map_name_map_ofText]
    have hsame : ofText (join .dash (control :: ts)) = ofText (join .dash (control :: us)) := by
      rw [hread, ofText_join_of_tokens hcontrol hus, sorted_eq_of_perm (hperm.map _) hnames]
    rw [hsame, Comparable.same_sci]
    exact ⟨rfl, rfl⟩

/-- A repeated name hides what it writes before its last token, and the rest can change places. -/
theorem same_reordered :
    (∀ t ∈ (["TK ALFA", "G", "TK"] : List Text), t ≠ [] ∧ '-' ∉ t) ∧
      (∀ t ∈ (["TK", "G"] : List Text), t ≠ [] ∧ '-' ∉ t) ∧
      (Comparable.sci (ofText "SI-TK ALFA-G-TK")).same (.sci (ofText "SI-TK-G")) = true ∧
      (ofText "SI-TK-G").banner = (ofText "SI-G-TK").banner := by
  have hcontrol : '-' ∉ ("SI" : Text) := by decide
  have hts : ∀ t ∈ (["TK ALFA", "G", "TK"] : List Text), t ≠ [] ∧ '-' ∉ t := by decide
  have hts' : ∀ t ∈ (["TK", "G"] : List Text), t ≠ [] ∧ '-' ∉ t := by decide
  refine ⟨hts, hts', ?_, ?_⟩
  · refine (same_ofText_join_iff hcontrol hcontrol hts hts').1.mpr ⟨rfl, fun name => ?_⟩
    by_cases htk : ("TK" : Text) = name
    · exact Or.inr ⟨"TK", "TK", ⟨["TK ALFA", "G"], [], by decide, htk, by simp⟩,
        ⟨[], ["G"], by decide, htk, by simp [← htk, nameOf]⟩, rfl⟩
    by_cases hg : ("G" : Text) = name
    · exact Or.inr ⟨"G", "G", ⟨["TK ALFA"], ["TK"], by decide, hg, by simp [← hg, nameOf]⟩,
        ⟨["TK"], [], by decide, hg, by simp⟩, rfl⟩
    · simp only [String.reduceToList] at htk hg
      exact Or.inl ⟨by simp [nameOf, htk, hg], by simp [nameOf, htk, hg]⟩
  · exact ((same_ofText_join_iff hcontrol hcontrol hts' hts').2 ["G", "TK"] (by decide)
      (by decide)).2

end SciControl

end SecurityMarking
