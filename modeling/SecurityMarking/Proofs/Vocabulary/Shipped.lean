/-
The registries of the shipped vocabulary.

The rows of each section can stand together, which is decided row by row, and so the
registry that is built from the section is the registry of its rows.  Everything that
is said of a shipped registry afterwards is a condition on rows.

All that stands in the rows is ASCII, so what is shown of a shipped control can be written in
every encoding.
-/
import SecurityMarking.Vocabulary.Shipped
import SecurityMarking.Proofs.Registry.PrefixMatch
import SecurityMarking.Proofs.Text.Encoding

namespace SecurityMarking.Vocabulary

variable {rows : List Row}

theorem build_of_rows? {name : Scalar} {vocabulary : Vocabulary}
    (h : rows? name vocabulary = some (.list (rows.map Row.toValue)))
    (hrows : Row.Compatible rows) : build name vocabulary = .ok (Row.registry name rows) := by
  have hsettles := Registry.settles_ofRows name (Row.forall₂_writtenAs_toValue rows)
  unfold build
  rw [h]
  exact (hsettles.ok_iff _).mpr ⟨hrows, rfl⟩

/-- The names of the shipped registries with the rows of each. -/
def shippedRows : List (Text × List Row) :=
  [(dissemControls, dissemControlsRows), (otherDissemControls, otherDissemControlsRows),
    (classificationLevels, classificationLevelsRows), (aeaTypes, aeaTypesRows)]

theorem compatible_shippedRows : ∀ p ∈ shippedRows, Row.Compatible p.2 := by
  decide +kernel

/-- **Each shipped registry is built from its rows.** -/
theorem build_shipped {name : Text} (h : (name, rows) ∈ shippedRows) :
    build (.text name) shipped = .ok (Row.registry (.text name) rows) := by
  refine build_of_rows? ?_ (compatible_shippedRows _ h)
  simp only [shippedRows, List.mem_cons, List.not_mem_nil, or_false, Prod.mk.injEq] at h
  rcases h with ⟨rfl, rfl⟩ | ⟨rfl, rfl⟩ | ⟨rfl, rfl⟩ | ⟨rfl, rfl⟩
  · rfl
  · rfl
  · rfl
  · rfl

theorem ascii_shippedRows : ∀ p ∈ shippedRows, ∀ row ∈ p.2,
    ∀ t ∈ row.key :: (row.bannerNames ++ row.portionNames), Encoding.ascii.Writes t := by
  decide +kernel

theorem aeaTypes_mem_shippedRows : (aeaTypes, aeaTypesRows) ∈ shippedRows := by
  simp [shippedRows]

theorem otherDissemControls_mem_shippedRows :
    (otherDissemControls, otherDissemControlsRows) ∈ shippedRows := by
  simp [shippedRows]

theorem apart_aeaTypesRows : Row.Apart aeaTypesRows := by
  decide

end SecurityMarking.Vocabulary
