import FormCatalog.Proofs.Catalog.Records
import FormCatalog.Proofs.Shelf.Handling

/-!
# The order of the table

The rows of the table are in the order of their ids, and every change to the table keeps them so
(`Table.Ordered`). Hence no two rows share an id, and the record that a pass finds for an id among
all records is the one of the row that the table finds (`Ordered.recordOf?_map_record`).
-/

set_option autoImplicit false
set_option relaxedAutoImplicit false

namespace FormCatalog

open Op

namespace Table

/-- The rows are in the strict order of their ids. -/
def Ordered (t : Table) : Prop := t.Pairwise fun a b ↦ a.formId < b.formId

instance (t : Table) : Decidable t.Ordered := inferInstanceAs (Decidable (List.Pairwise _ _))

variable {t : Table} {row r : Row}

theorem mem_put (h : r ∈ t.put row) : r = row ∨ r ∈ t := by
  induction t with
  | nil => exact Or.inl (List.mem_singleton.mp h)
  | cons first rest ih =>
    unfold put at h
    split at h
    · rcases List.mem_cons.mp h with rfl | h
      · exact Or.inl rfl
      · exact Or.inr (List.mem_cons_of_mem _ h)
    · split at h
      · exact List.mem_cons.mp h
      · rcases List.mem_cons.mp h with rfl | h
        · exact Or.inr List.mem_cons_self
        · exact (ih h).imp_right (List.mem_cons_of_mem _)

theorem Ordered.put (h : t.Ordered) (row : Row) : (t.put row).Ordered := by
  induction t with
  | nil => exact List.pairwise_singleton _ _
  | cons first rest ih =>
    obtain ⟨hfirst, hrest⟩ := List.pairwise_cons.mp h
    unfold Table.put
    split
    · rename_i hsame
      exact List.pairwise_cons.mpr ⟨fun r hr ↦ by rw [← hsame]; exact hfirst r hr, hrest⟩
    · rename_i hne
      split
      · rename_i hbefore
        refine List.pairwise_cons.mpr ⟨fun r hr ↦ ?_, h⟩
        rcases List.mem_cons.mp hr with rfl | hr
        · exact hbefore
        · exact String.lt_trans hbefore (hfirst r hr)
      · rename_i hnot
        refine List.pairwise_cons.mpr ⟨fun r hr ↦ ?_, ih hrest⟩
        rcases mem_put hr with rfl | hr
        · by_contra hafter
          exact hne (String.le_antisymm (String.not_lt.mp hnot) (String.not_lt.mp hafter))
        · exact hfirst r hr

theorem Ordered.remove (h : t.Ordered) (formId : String) : (t.remove formId).Ordered :=
  List.Pairwise.filter _ h

theorem Ordered.nodup (h : t.Ordered) : (t.map (·.formId)).Nodup := by
  unfold List.Nodup
  rw [List.pairwise_map]
  refine List.Pairwise.imp (fun {a b} hab hsame ↦ ?_) h
  rw [hsame] at hab
  exact String.lt_irrefl _ hab

theorem Ordered.map (h : t.Ordered) {g : Row → Row} (hg : ∀ r, (g r).formId = r.formId) :
    Table.Ordered (List.map g t) := by
  unfold Ordered
  rw [List.pairwise_map]
  refine List.Pairwise.imp (fun {a b} hab ↦ ?_) h
  rw [hg, hg]
  exact hab

theorem Ordered.remember (h : t.Ordered) (formId : String) (key : Option String) :
    (t.remember formId key).Ordered := by
  refine h.map fun r ↦ ?_
  split <;> rfl

theorem row?_put_self (t : Table) (row : Row) : (t.put row).row? row.formId = some row := by
  induction t with
  | nil => simp [put, row?]
  | cons first rest ih =>
    unfold put
    split
    · simp [row?]
    · rename_i hne
      split
      · simp [row?]
      · unfold row? at ih ⊢
        rw [List.find?_cons, decide_eq_false hne, ih]

theorem mem_of_row? {formId : String} (h : t.row? formId = some row) :
    row ∈ t ∧ row.formId = formId :=
  ⟨List.mem_of_find?_eq_some h, by simpa using List.find?_some h⟩

theorem isSome_row?_of_mem (h : row ∈ t) : (t.row? row.formId).isSome = true :=
  List.find?_isSome.mpr ⟨row, h, by simp⟩

theorem Ordered.row?_of_mem (h : t.Ordered) (hrow : row ∈ t) : t.row? row.formId = some row := by
  obtain ⟨found, hfound⟩ := Option.isSome_iff_exists.mp (isSome_row?_of_mem hrow)
  obtain ⟨hmem, hid⟩ := mem_of_row? hfound
  rw [hfound, List.inj_on_of_nodup_map h.nodup hmem hrow hid]

theorem Ordered.mem_iff (h : t.Ordered) : row ∈ t ↔ t.row? row.formId = some row :=
  ⟨h.row?_of_mem, fun hrow ↦ (mem_of_row? hrow).1⟩

theorem Ordered.mem_put_iff (h : t.Ordered) :
    r ∈ t.put row ↔ r = row ∨ r ∈ t ∧ r.formId ≠ row.formId := by
  rw [(h.put row).mem_iff, h.mem_iff]
  by_cases hid : row.formId = r.formId
  · rw [← hid, row?_put_self, Option.some_inj]
    exact ⟨fun hsame ↦ Or.inl hsame.symm, fun hcases ↦ (hcases.resolve_right fun hother ↦
      hother.2 rfl).symm⟩
  · rw [t.row?_put_of_ne hid]
    exact ⟨fun hrow ↦ Or.inr ⟨hrow, Ne.symm hid⟩, fun hcases ↦ (hcases.resolve_left fun hsame ↦
      hid (by rw [hsame])).1⟩

theorem mem_remove_iff {formId : String} : r ∈ t.remove formId ↔ r ∈ t ∧ r.formId ≠ formId := by
  unfold remove
  rw [List.mem_filter, decide_eq_true_eq]

/-- Among the records of all rows, the one of an id is that of its row. -/
theorem Ordered.recordOf?_map_record (h : t.Ordered) (formId : String) :
    Catalog.recordOf? (t.map (·.record)) formId = (t.row? formId).map (·.record) := by
  have hids : (t.map (·.record)).map (·.formId) = t.map (·.formId) := by
    rw [List.map_map]
    rfl
  cases hrow : t.row? formId with
  | none =>
    rw [Option.map_none, Catalog.recordOf?_eq_none_iff, hids, List.mem_map]
    rintro ⟨r, hr, hid⟩
    exact List.find?_eq_none.mp hrow r hr (by simpa using hid)
  | some row =>
    obtain ⟨hmem, rfl⟩ := mem_of_row? hrow
    have hkeyed : ((t.map (·.record)).map (·.formId)).Nodup := by
      rw [hids]
      exact h.nodup
    exact Catalog.recordOf?_of_mem hkeyed (List.mem_map_of_mem hmem)

end Table

namespace Shelf

variable {x : Details} {table table' : Table}

theorem Filed.ordered {outcome : Except Fault Downloaded} (h : Filed x table outcome table')
    (hordered : table.Ordered) : table'.Ordered := by
  cases h with
  | stored => exact hordered.put _
  | forgotten => exact hordered.remember _ _
  | unseen | left => exact hordered

/-- A download that returned stored its form. -/
theorem Filed.isSome_of_ok {downloaded : Downloaded} (h : Filed x table (.ok downloaded) table') :
    (table'.row? x.formId).isSome = true := by
  cases h with
  | stored =>
    have hput : (table.put (rowOf x downloaded)).row? x.formId = some (rowOf x downloaded) :=
      table.row?_put_self (rowOf x downloaded)
    rw [hput]
    rfl

end Shelf

end FormCatalog
