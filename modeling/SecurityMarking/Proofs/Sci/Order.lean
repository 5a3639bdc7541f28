/-
Compartments stand in ascending order.

A control keeps its compartments in a list that each new one is inserted into, and
the order of that list is an invariant of the insertion: what ascends by name still
does with one more compartment in it, whether that takes a new place or the place of
one with its name.  So the compartments of every control that was read ascend, and
in particular no name occurs twice.

The other half is that sorting does nothing to compartments that ascend already,
for each of them is inserted after all others.  That is what reading a control again
from its own text comes down to.
-/
import SecurityMarking.Sci

namespace SecurityMarking.Compartment

variable {c x : Compartment} {cs ds : List Compartment}

/-- The compartments ascend by name, so that no name occurs twice. -/
def Ascending (cs : List Compartment) : Prop := cs.Pairwise fun a b => a.name < b.name

@[simp] theorem ascending_nil : Ascending [] := List.Pairwise.nil

theorem ascending_cons : Ascending (c :: cs) ↔ (∀ x ∈ cs, c.name < x.name) ∧ Ascending cs :=
  List.pairwise_cons

theorem ascending_append :
    Ascending (cs ++ ds) ↔
      Ascending cs ∧ Ascending ds ∧ ∀ a ∈ cs, ∀ b ∈ ds, a.name < b.name :=
  List.pairwise_append

/-! ### Inserting -/

theorem mem_insert (h : x ∈ insert c cs) : x = c ∨ x ∈ cs := by
  induction cs with
  | nil => exact Or.inl (by simpa [insert] using h)
  | cons y ys ih =>
      by_cases hlt : c.name < y.name
      · rw [insert, if_pos hlt] at h
        exact List.mem_cons.mp h
      by_cases heq : c.name = y.name
      · rw [insert, if_neg hlt, if_pos heq] at h
        rcases List.mem_cons.mp h with hx | hx
        · exact Or.inl hx
        · exact Or.inr (List.mem_cons_of_mem y hx)
      rw [insert, if_neg hlt, if_neg heq] at h
      rcases List.mem_cons.mp h with hx | hx
      · exact Or.inr (by simp [hx])
      · rcases ih hx with hc | hy
        · exact Or.inl hc
        · exact Or.inr (List.mem_cons_of_mem y hy)

theorem ascending_insert (h : Ascending cs) : Ascending (insert c cs) := by
  induction cs with
  | nil => simp [insert, ascending_cons]
  | cons y ys ih =>
      obtain ⟨hy, hys⟩ := ascending_cons.mp h
      by_cases hlt : c.name < y.name
      · rw [insert, if_pos hlt, ascending_cons]
        refine ⟨?_, h⟩
        intro x hx
        rcases List.mem_cons.mp hx with rfl | hx
        · exact hlt
        · exact List.lt_trans hlt (hy x hx)
      by_cases heq : c.name = y.name
      · rw [insert, if_neg hlt, if_pos heq, ascending_cons]
        exact ⟨fun x hx => heq ▸ hy x hx, hys⟩
      rw [insert, if_neg hlt, if_neg heq, ascending_cons]
      refine ⟨?_, ih hys⟩
      -- The new compartment comes after `y`, as it comes neither before nor in its place.
      have hyc : y.name < c.name := by
        rcases List.le_iff_lt_or_eq.mp (List.not_lt.mp hlt) with hyc | hyc
        · exact hyc
        · exact absurd hyc.symm heq
      intro x hx
      rcases mem_insert hx with rfl | hx
      · exact hyc
      · exact hy x hx

/-- A compartment whose name comes after all others is inserted at the end. -/
theorem insert_of_forall_lt (h : ∀ x ∈ cs, x.name < c.name) : insert c cs = cs ++ [c] := by
  induction cs with
  | nil => rfl
  | cons y ys ih =>
      have hyc : y.name < c.name := h y List.mem_cons_self
      have hlt : ¬ c.name < y.name := fun hcy => List.lt_irrefl _ (List.lt_trans hyc hcy)
      have heq : c.name ≠ y.name := by
        intro heq
        rw [heq] at hyc
        exact List.lt_irrefl _ hyc
      rw [insert, if_neg hlt, if_neg heq, ih fun x hx => h x (List.mem_cons_of_mem y hx),
        List.cons_append]

/-! ### Sorting -/

private theorem mem_foldl_insert :
    ∀ (ds cs : List Compartment),
      x ∈ ds.foldl (fun ordered c => insert c ordered) cs → x ∈ ds ∨ x ∈ cs := by
  intro ds
  induction ds with
  | nil => intro cs h; exact Or.inr h
  | cons d rest ih =>
      intro cs h
      rcases ih (insert d cs) h with hx | hx
      · exact Or.inl (List.mem_cons_of_mem d hx)
      · rcases mem_insert hx with rfl | hx
        · exact Or.inl List.mem_cons_self
        · exact Or.inr hx

theorem mem_of_mem_sorted (h : x ∈ sorted cs) : x ∈ cs := by
  rcases mem_foldl_insert cs [] h with hx | hx
  · exact hx
  · exact absurd hx List.not_mem_nil

private theorem ascending_foldl_insert :
    ∀ (ds cs : List Compartment), Ascending cs →
      Ascending (ds.foldl (fun ordered c => insert c ordered) cs) := by
  intro ds
  induction ds with
  | nil => intro cs h; exact h
  | cons d rest ih => intro cs h; exact ih _ (ascending_insert h)

/-- **What was sorted ascends.** -/
theorem ascending_sorted (cs : List Compartment) : Ascending (sorted cs) :=
  ascending_foldl_insert cs [] ascending_nil

private theorem foldl_insert_of_ascending :
    ∀ (ds cs : List Compartment), Ascending (cs ++ ds) →
      ds.foldl (fun ordered c => insert c ordered) cs = cs ++ ds := by
  intro ds
  induction ds with
  | nil => intro cs _; simp
  | cons d rest ih =>
      intro cs h
      have hd : insert d cs = cs ++ [d] :=
        insert_of_forall_lt fun x hx => (ascending_append.mp h).2.2 x hx d List.mem_cons_self
      have happ : cs ++ d :: rest = cs ++ [d] ++ rest := by simp
      rw [List.foldl_cons, hd, happ]
      exact ih (cs ++ [d]) (happ ▸ h)

/-- **Sorting changes nothing in what ascends already.** -/
theorem sorted_of_ascending (h : Ascending cs) : sorted cs = cs :=
  foldl_insert_of_ascending cs [] h

end SecurityMarking.Compartment
