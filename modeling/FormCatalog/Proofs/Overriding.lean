import Mathlib.Data.List.Induction

/-!
# Lists whose later entries override earlier ones

Requests that are made one after the other, and lists in which the last entry for a name counts,
have this in common: an entry counts until a later one overrides it. `Counts` says so of a list as
it stands, and `counts_concat_iff` says what one more entry changes, which is all that an induction
over the list needs. Where every entry of a kind overrides the others of its kind, the one that
counts is the last of them (`getLast?_filter_eq_some_iff`).
-/

set_option autoImplicit false
set_option relaxedAutoImplicit false

namespace FormCatalog

variable {α : Type} {overrides : α → α → Prop} {l before : List α} {a b : α}

/-- An entry stands in a list behind certain others, and no entry after it overrides it. -/
def Counts (overrides : α → α → Prop) (l before : List α) (a : α) : Prop :=
  ∃ after, l = before ++ a :: after ∧ ∀ b ∈ after, ¬ overrides b a

theorem not_counts_nil : ¬ Counts overrides [] before a := by
  rintro ⟨after, h, -⟩
  exact List.append_ne_nil_of_right_ne_nil before (List.cons_ne_nil a after) h.symm

/-- One more entry counts itself, and the others count that it does not override. -/
theorem counts_concat_iff :
    Counts overrides (l ++ [b]) before a ↔
      (before = l ∧ a = b) ∨ (Counts overrides l before a ∧ ¬ overrides b a) := by
  constructor
  · rintro ⟨after, h, hafter⟩
    rcases List.eq_nil_or_concat after with rfl | ⟨rest, c, rfl⟩
    · obtain ⟨rfl, hlast⟩ := List.append_inj' h rfl
      exact Or.inl ⟨rfl, (List.cons.inj hlast).1.symm⟩
    · rw [List.concat_eq_append] at h hafter
      have hsplit : l ++ [b] = (before ++ a :: rest) ++ [c] := by
        rw [h, List.append_assoc, List.cons_append]
      obtain ⟨rfl, hlast⟩ := List.append_inj' hsplit rfl
      obtain rfl : b = c := (List.cons.inj hlast).1
      refine Or.inr ⟨⟨rest, rfl, fun d hd ↦ hafter d (List.mem_append_left _ hd)⟩, ?_⟩
      exact hafter b (List.mem_append_right _ (List.mem_singleton_self b))
  · rintro (⟨rfl, rfl⟩ | ⟨⟨after, rfl, hafter⟩, hb⟩)
    · exact ⟨[], rfl, List.forall_mem_nil _⟩
    · refine ⟨after ++ [b], by rw [List.append_assoc, List.cons_append], fun c hc ↦ ?_⟩
      rcases List.mem_append.mp hc with hc | hc
      · exact hafter c hc
      · rwa [List.mem_singleton.mp hc]

theorem getLast?_filter_concat (p : α → Bool) :
    ((l ++ [b]).filter p).getLast? = if p b = true then some b else (l.filter p).getLast? := by
  rw [List.filter_append]
  by_cases hb : p b = true
  · rw [if_pos hb, List.filter_cons_of_pos hb, List.filter_nil, List.getLast?_concat]
  · rw [if_neg hb, List.filter_cons_of_neg hb, List.filter_nil, List.append_nil]

/-- The last entry of a kind is the one that no other of its kind overrides. -/
theorem getLast?_filter_eq_some_iff {p : α → Bool} : (l.filter p).getLast? = some a ↔
    p a = true ∧ ∃ before, Counts (fun b _ ↦ p b = true) l before a := by
  induction l using List.reverseRecOn with
  | nil => simp [not_counts_nil]
  | append_singleton l b ih =>
    simp only [getLast?_filter_concat, counts_concat_iff, exists_or, exists_and_right, exists_eq,
      true_and]
    by_cases hb : p b = true
    · rw [if_pos hb, Option.some_inj]
      constructor
      · rintro rfl
        exact ⟨hb, Or.inl rfl⟩
      · rintro ⟨-, rfl | ⟨-, hnot⟩⟩
        · rfl
        · exact absurd hb hnot
    · rw [if_neg hb, ih]
      refine and_congr_right fun ha ↦ ⟨fun h ↦ Or.inr ⟨h, hb⟩, ?_⟩
      rintro (rfl | ⟨h, -⟩)
      · exact absurd ha hb
      · exact h

end FormCatalog
