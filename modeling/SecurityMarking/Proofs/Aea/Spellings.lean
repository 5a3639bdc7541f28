/-
An AEA type by any of its names.

Which name of a type a marking begins with is not kept.  It settles the type, as no other type
has a name that begins the same text, and it does nothing else: no name has a dash in it, so
that the first dash of the marking stands in what follows the name, and the modifiers are
those of what follows: `Distinguishes.ofText?_append`.

What follows may begin with anything.  It may go on with the word that the name ends in, or
complete a longer name of the same type, and neither is looked at.
-/
import SecurityMarking.Proofs.Aea.Composition
import SecurityMarking.Proofs.Aea.RoundTrip

namespace SecurityMarking.AeaMarking

open Text

variable {types : Registry} {type : Entry} {name n : Text} {x : AeaMarking}

/-- A marking whose type has a text for a key equals itself. -/
theorem same_self (h : x.type.key.IsText) : x.same x = true := by
  have hkey : x.type.key.same x.type.key = true := (h.same_iff h).mpr rfl
  simp [same, hkey]

/-- **Behind a name of a type stands what the marking says of that type, whichever name it is.** -/
theorem Distinguishes.ofText?_append (h : Distinguishes types) (htype : type ∈ types.entries)
    (hshown : type.shown = .ok name) (hn : type.Names n) (s : Text) :
    ofText? types (some (n ++ s)) = .ok (ofType hshown s) := by
  have hdash : '-' ∉ n := h.dashFree type htype n hn
  have hsaid : Modifiers.ofText (n ++ s) = Modifiers.ofText s :=
    congrArg Modifiers.ofList (modifiersOfText_append_of_not_mem hdash s)
  rw [h.ofText?_of_begins htype hshown ⟨n, hn, List.prefix_append n s⟩]
  unfold ofType
  rw [hsaid]

/--
**The names of an AEA type stand for each other, with the shipped types.**

The types are those of the rows.  Two texts that begin with names of one type and go on alike are
markings of that type, are equal, say the same and have the same banner.
-/
theorem shipped_spellings :
    ∃ types, Vocabulary.build (.text Vocabulary.aeaTypes) Vocabulary.shipped = .ok types ∧
      types.entries = (Vocabulary.aeaTypesRows.mapIdx fun i row => row.entry i) ∧
      ∀ type ∈ types.entries, ∀ a b, type.Names a → type.Names b → ∀ s, ∃ x y,
        ofText? types (some (a ++ s)) = .ok x ∧ ofText? types (some (b ++ s)) = .ok y ∧
        x.type = type ∧ y.type = type ∧ x.same y = true ∧
        x.cnwdi = y.cnwdi ∧ x.sigmas = y.sigmas ∧ x.banner = y.banner := by
  have hshipped := distinguishes_shipped
  refine ⟨_, Vocabulary.build_shipped Vocabulary.aeaTypes_mem_shippedRows,
    Row.entriesFrom_zero _, ?_⟩
  intro type htype a b ha hb s
  obtain ⟨name, hshown⟩ := hshipped.exists_shown htype
  have hkey : (ofType hshown s).type.key.IsText := (hshipped.textual type htype).key
  exact ⟨ofType hshown s, ofType hshown s, hshipped.ofText?_append htype hshown ha s,
    hshipped.ofText?_append htype hshown hb s, rfl, rfl, same_self hkey, rfl, rfl, rfl⟩

/-- A short name with more letters behind it, and the long name with the same letters behind it. -/
theorem shipped_spellings_runOn :
    ∃ types type, Vocabulary.build (.text Vocabulary.aeaTypes) Vocabulary.shipped = .ok types ∧
      type ∈ types.entries ∧ type.Names "RD" ∧ type.Names "RESTRICTED DATA" ∧
      ∃ x y, ofText? types (some "RDX -N-SG 7") = .ok x ∧
        ofText? types (some "RESTRICTED DATAX -N-SG 7") = .ok y ∧
        x.type = type ∧ y.type = type ∧ x.same y = true ∧
        x.cnwdi = y.cnwdi ∧ x.sigmas = y.sigmas ∧ x.banner = y.banner := by
  obtain ⟨types, hbuild, hentries, hspellings⟩ := shipped_spellings
  have htype : Entry.ofTexts "RD" 0 ["RESTRICTED DATA", "RD"] ["RD"] ∈ types.entries := by
    rw [hentries]
    exact List.mem_cons_self
  have hshort : (Entry.ofTexts "RD" 0 ["RESTRICTED DATA", "RD"] ["RD"]).Names "RD" :=
    Or.inr List.mem_cons_self
  have hlong : (Entry.ofTexts "RD" 0 ["RESTRICTED DATA", "RD"] ["RD"]).Names "RESTRICTED DATA" :=
    Or.inl List.mem_cons_self
  exact ⟨types, _, hbuild, htype, hshort, hlong,
    hspellings _ htype "RD" "RESTRICTED DATA" hshort hlong "X -N-SG 7"⟩

end SecurityMarking.AeaMarking
