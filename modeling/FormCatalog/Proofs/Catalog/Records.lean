import FormCatalog.Catalog.Memory
import Mathlib.Data.List.Nodup

/-!
# Records by form, and what each change does to them

A pass looks a record up by the id of its form (`Catalog.recordOf?`). This module says what becomes
of the record of each form when the records are changed in one place: revising, removing or putting
the record of one form leaves the records of all others as they were. `Keyed` is the shape that a
device in memory always has, one record for an id; it holds of what `Holdings.recordsOf` builds and
every change keeps it.
-/

set_option autoImplicit false
set_option relaxedAutoImplicit false

namespace FormCatalog

namespace Catalog

/-! ### Looking a record up -/

theorem recordOf?_nil (id : String) : recordOf? [] id = none := rfl

private theorem foldl_recordOf? (records : List FormRecord) (id : String)
    (found : Option FormRecord) :
    records.foldl (fun found r ↦ if r.formId = id then some r else found) found =
      (recordOf? records id).or found := by
  unfold recordOf?
  induction records generalizing found with
  | nil => rfl
  | cons r rest ih =>
    rw [List.foldl_cons, List.foldl_cons, ih, ih (if r.formId = id then some r else none)]
    by_cases h : r.formId = id
    · simp [h]
    · simp [h]

theorem recordOf?_cons (r : FormRecord) (rest : List FormRecord) (id : String) :
    recordOf? (r :: rest) id =
      (recordOf? rest id).or (if r.formId = id then some r else none) := by
  rw [recordOf?, List.foldl_cons, foldl_recordOf?]

/-- Changing records without changing their ids changes what is found. -/
theorem recordOf?_map {f : FormRecord → FormRecord} (hf : ∀ r, (f r).formId = r.formId)
    (records : List FormRecord) (id : String) :
    recordOf? (records.map f) id = (recordOf? records id).map f := by
  induction records with
  | nil => rfl
  | cons r rest ih =>
    rw [List.map_cons, recordOf?_cons, recordOf?_cons, ih, hf, Option.map_or]
    by_cases h : r.formId = id
    · simp [h]
    · simp [h]

theorem mem_of_recordOf? {records : List FormRecord} {id : String} {r : FormRecord}
    (h : recordOf? records id = some r) : r ∈ records ∧ r.formId = id := by
  induction records with
  | nil => cases h
  | cons first rest ih =>
    rw [recordOf?_cons] at h
    cases hrest : recordOf? rest id with
    | some r' =>
      rw [hrest, Option.some_or] at h
      obtain ⟨hmem, hid⟩ := ih (by rw [hrest, h])
      exact ⟨List.mem_cons_of_mem _ hmem, hid⟩
    | none =>
      rw [hrest, Option.none_or] at h
      split at h
      · cases h
        exact ⟨List.mem_cons_self, ‹_›⟩
      · cases h

theorem recordOf?_eq_none_iff {records : List FormRecord} {id : String} :
    recordOf? records id = none ↔ id ∉ records.map (·.formId) := by
  induction records with
  | nil => simp [recordOf?_nil]
  | cons r rest ih =>
    rw [recordOf?_cons, Option.or_eq_none_iff, ih]
    by_cases h : r.formId = id
    · simp [h]
    · simp [h, Ne.symm h]

/-- With one record for an id, looking its id up finds a record. -/
theorem recordOf?_of_mem {records : List FormRecord} (hkeyed : (records.map (·.formId)).Nodup)
    {r : FormRecord} (h : r ∈ records) : recordOf? records r.formId = some r := by
  induction records with
  | nil => cases h
  | cons first rest ih =>
    rw [List.map_cons, List.nodup_cons] at hkeyed
    rw [recordOf?_cons]
    rcases List.mem_cons.mp h with rfl | hrest
    · rw [recordOf?_eq_none_iff.mpr hkeyed.1, if_pos rfl, Option.none_or]
    · rw [ih hkeyed.2 hrest, Option.some_or]

end Catalog

namespace Memory.Holdings

open Catalog

/-! ### Changing the record of one form -/

theorem recordOf?_revise {f : FormRecord → FormRecord} (hf : ∀ r, (f r).formId = r.formId)
    (formId id : String) (records : List FormRecord) :
    recordOf? (revise formId f records) id =
      if formId = id then (recordOf? records id).map f else recordOf? records id := by
  induction records with
  | nil => split <;> rfl
  | cons r rest ih =>
    change recordOf? ((if r.formId = formId then f r else r) :: revise formId f rest) id = _
    rw [recordOf?_cons, recordOf?_cons, ih]
    have hid : (if r.formId = formId then f r else r).formId = r.formId := by
      split
      · exact hf r
      · rfl
    rw [hid]
    by_cases hform : formId = id
    · rw [if_pos hform, if_pos hform, Option.map_or]
      by_cases hr : r.formId = id
      · simp [hr, hform]
      · simp [hr]
    · rw [if_neg hform, if_neg hform]
      by_cases hr : r.formId = id
      · rw [if_pos hr, if_pos hr, if_neg fun h ↦ hform (h.symm.trans hr)]
      · rw [if_neg hr, if_neg hr]

theorem recordOf?_filter (keep : String → Bool) (records : List FormRecord) (id : String) :
    recordOf? (records.filter fun r ↦ keep r.formId) id =
      if keep id then recordOf? records id else none := by
  induction records with
  | nil => split <;> rfl
  | cons r rest ih =>
    rw [List.filter_cons, recordOf?_cons]
    by_cases hr : r.formId = id
    · cases hk : keep id with
      | true => rw [if_pos (by rw [hr, hk]), recordOf?_cons, ih, if_pos hk, if_pos rfl]
      | false =>
        rw [if_neg (by rw [hr, hk]; exact Bool.false_ne_true), ih, hk]
        rfl
    · rw [if_neg hr, Option.or_none]
      split
      · rw [recordOf?_cons, if_neg hr, Option.or_none, ih]
      · exact ih

theorem recordOf?_put_of_ne {record : FormRecord} {id : String} (h : record.formId ≠ id)
    (records : List FormRecord) : recordOf? (put record records) id = recordOf? records id := by
  induction records with
  | nil => simp [put, recordOf?_cons, h]
  | cons r rest ih =>
    unfold put
    by_cases hr : r.formId = record.formId
    · rw [if_pos hr, recordOf?_cons, recordOf?_cons, if_neg h, if_neg fun h' ↦ h (hr ▸ h')]
    · rw [if_neg hr, recordOf?_cons, recordOf?_cons, ih]

/-- The ids after a record was put: those from before, and its own at the end if it was missing. -/
theorem map_formId_put (record : FormRecord) (records : List FormRecord) :
    (put record records).map (·.formId) =
      if record.formId ∈ records.map (·.formId) then records.map (·.formId)
      else records.map (·.formId) ++ [record.formId] := by
  induction records with
  | nil => simp [put]
  | cons r rest ih =>
    unfold put
    by_cases hr : r.formId = record.formId
    · simp [hr]
    · rw [if_neg hr, List.map_cons, ih, List.map_cons]
      by_cases hmem : record.formId ∈ rest.map (·.formId)
      · rw [if_pos hmem, if_pos (List.mem_cons_of_mem _ hmem)]
      · have hnot : record.formId ∉ r.formId :: rest.map (·.formId) :=
          List.not_mem_cons_of_ne_of_not_mem (Ne.symm hr) hmem
        rw [if_neg hmem, if_neg hnot, List.cons_append]

theorem recordOf?_put_self {record : FormRecord} {records : List FormRecord}
    (hkeyed : (records.map (·.formId)).Nodup) :
    recordOf? (put record records) record.formId = some record := by
  induction records with
  | nil => simp [put, recordOf?_cons, recordOf?_nil]
  | cons r rest ih =>
    rw [List.map_cons, List.nodup_cons] at hkeyed
    unfold put
    by_cases hr : r.formId = record.formId
    · rw [if_pos hr, recordOf?_cons, if_pos rfl,
        recordOf?_eq_none_iff.mpr (hr ▸ hkeyed.1), Option.none_or]
    · rw [if_neg hr, recordOf?_cons, ih hkeyed.2, Option.some_or]

theorem map_formId_revise {f : FormRecord → FormRecord} (hf : ∀ r, (f r).formId = r.formId)
    (formId : String) (records : List FormRecord) :
    (revise formId f records).map (·.formId) = records.map (·.formId) := by
  rw [revise, List.map_map]
  refine List.map_congr_left fun r _ ↦ ?_
  dsimp only [Function.comp_apply]
  split
  · exact hf r
  · rfl

/-! ### One record for an id -/

/-- No two records share an id. -/
def Keyed (h : Holdings) : Prop := (h.records.map (·.formId)).Nodup

instance (h : Holdings) : Decidable h.Keyed :=
  inferInstanceAs (Decidable (List.Nodup _))

theorem nodup_put {record : FormRecord} {records : List FormRecord}
    (h : (records.map (·.formId)).Nodup) : ((put record records).map (·.formId)).Nodup := by
  rw [map_formId_put]
  split
  · exact h
  · exact List.nodup_append.mpr ⟨h, List.nodup_singleton _, by
      rintro a ha b hb rfl
      exact ‹¬ _› (List.mem_singleton.mp hb ▸ ha)⟩

/-- Records that are put one after the other are keyed. -/
theorem keyed_recordsOf (records : List FormRecord) (h : Holdings) :
    Keyed { h with records := recordsOf records } := by
  have hfold : ∀ rs : List FormRecord, (rs.map (·.formId)).Nodup →
      ((records.foldl (fun rs r ↦ put r rs) rs).map (·.formId)).Nodup := by
    induction records with
    | nil => exact fun _ h ↦ h
    | cons r rest ih => exact fun rs hrs ↦ ih _ (nodup_put hrs)
  exact hfold [] List.nodup_nil

theorem Keyed.drop {h : Holdings} (hk : h.Keyed) (formId : String) : (h.drop formId).Keyed :=
  (List.filter_sublist.map _).nodup hk

theorem Keyed.refuse {h : Holdings} (hk : h.Keyed) (formId : String) : (h.refuse formId).Keyed := by
  change ((revise formId _ h.records).map (·.formId)).Nodup
  rw [map_formId_revise]
  · exact hk
  · exact fun _ ↦ rfl

theorem Keyed.mark {h : Holdings} (hk : h.Keyed) (formId key : String) :
    (h.mark formId key).Keyed := by
  change ((revise formId _ h.records).map (·.formId)).Nodup
  rw [map_formId_revise]
  · exact hk
  · exact fun _ ↦ rfl

theorem Keyed.receive {h : Holdings} (hk : h.Keyed) (details : Details) :
    (h.receive details).Keyed := nodup_put hk

/-! ### Media files -/

theorem find?_putMedia (key key' : MediaKey) (files : List MediaRecord)
    (media : List (MediaKey × List MediaRecord)) :
    (putMedia key files media).find? (·.1 = key') =
      if key = key' then some (key, files) else media.find? (·.1 = key') := by
  induction media with
  | nil => by_cases h : key = key' <;> simp [putMedia, h]
  | cons m rest ih =>
    unfold putMedia
    by_cases hm : m.1 = key
    · by_cases h : key = key'
      · simp [hm, h]
      · simp [hm, h]
    · rw [if_neg hm, List.find?_cons, List.find?_cons, ih]
      by_cases h : key = key'
      · subst h
        simp [hm]
      · simp [h]

theorem mediaAt_receive (details : Details) (h : Holdings) (key : MediaKey) :
    (h.receive details).mediaAt key =
      if (details.formId, details.descriptor.version) = key then mediaOf details
      else h.mediaAt key := by
  unfold mediaAt receive
  dsimp only
  rw [find?_putMedia]
  split <;> rfl

end Memory.Holdings

end FormCatalog
