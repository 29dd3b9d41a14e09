import FormCatalog.Catalog.Comparison
import FormCatalog.Proofs.Catalog.Keys
import Mathlib.Data.List.Induction
import Mathlib.Data.List.Nodup
import Mathlib.Data.List.Perm.Subperm

/-!
# Files as finite maps

A manifest and a device each describe a finite map from file names to hashes, where the last entry
for a name counts (`get?_ofList_concat`). Two such maps agree exactly if they give every name the
same hash (`agree_ofList_iff`), so whether media files differ does not depend on the order in which
either side lists them, nor on entries that a later one replaces.
-/

set_option autoImplicit false
set_option relaxedAutoImplicit false

namespace FormCatalog

namespace FileHashes

@[simp] theorem get?_nil (name : String) : get? name [] = none := rfl

theorem get?_cons (name : String) (f : String × String) (rest : FileHashes) :
    get? name (f :: rest) = if f.1 = name then some f.2 else get? name rest := rfl

theorem get?_insert (m : FileHashes) (inserted hash name : String) :
    get? name (m.insert inserted hash) = if inserted = name then some hash else get? name m := by
  induction m with
  | nil => rfl
  | cons f rest ih =>
    unfold insert
    by_cases hf : f.1 = inserted
    · rw [if_pos hf, get?_cons, get?_cons]
      dsimp only
      rw [hf]
      split <;> rfl
    · rw [if_neg hf, get?_cons, get?_cons, ih]
      by_cases hn : f.1 = name
      · rw [if_pos hn, if_pos hn, if_neg fun h ↦ hf (hn.trans h.symm)]
      · rw [if_neg hn, if_neg hn]

theorem get?_eq_none_iff {m : FileHashes} {name : String} :
    get? name m = none ↔ name ∉ m.map Prod.fst := by
  induction m with
  | nil => simp
  | cons f rest ih =>
    rw [get?_cons]
    by_cases hf : f.1 = name
    · simp [hf]
    · rw [if_neg hf, ih, List.map_cons, List.mem_cons, not_or]
      exact (and_iff_right (Ne.symm hf)).symm

/-- No name has two entries in a map that is made from a list. -/
def Keyed (m : FileHashes) : Prop := (m.map Prod.fst).Nodup

theorem map_fst_insert (m : FileHashes) (name hash : String) :
    (m.insert name hash).map Prod.fst =
      if name ∈ m.map Prod.fst then m.map Prod.fst else m.map Prod.fst ++ [name] := by
  induction m with
  | nil => rfl
  | cons f rest ih =>
    unfold insert
    by_cases hf : f.1 = name
    · simp [hf]
    · rw [if_neg hf, List.map_cons, ih, List.map_cons]
      by_cases hmem : name ∈ rest.map Prod.fst
      · rw [if_pos hmem, if_pos (List.mem_cons_of_mem _ hmem)]
      · rw [if_neg hmem, if_neg (List.not_mem_cons_of_ne_of_not_mem (Ne.symm hf) hmem),
          List.cons_append]

theorem Keyed.insert {m : FileHashes} (h : m.Keyed) (name hash : String) :
    (m.insert name hash).Keyed := by
  unfold Keyed
  rw [map_fst_insert]
  split
  · exact h
  · rename_i hnew
    rw [← List.concat_eq_append]
    exact (List.nodup_concat _ _).mpr ⟨hnew, h⟩

theorem ofList_concat (files : List (String × String)) (f : String × String) :
    ofList (files ++ [f]) = (ofList files).insert f.1 f.2 := by
  unfold ofList
  rw [List.foldl_append]
  rfl

theorem keyed_ofList (files : List (String × String)) : (ofList files).Keyed := by
  induction files using List.reverseRecOn with
  | nil => exact List.nodup_nil
  | append_singleton files f ih =>
    rw [ofList_concat]
    exact ih.insert f.1 f.2

/-- The last entry for a name counts. -/
theorem get?_ofList_concat (files : List (String × String)) (f : String × String) (name : String) :
    get? name (ofList (files ++ [f])) =
      if f.1 = name then some f.2 else get? name (ofList files) := by
  rw [ofList_concat, get?_insert]

/-- What a list says of a name is said by one of its entries. -/
theorem mem_of_get?_ofList {files : List (String × String)} {name hash : String}
    (h : get? name (ofList files) = some hash) : (name, hash) ∈ files := by
  induction files using List.reverseRecOn with
  | nil => cases h
  | append_singleton files f ih =>
    rw [get?_ofList_concat] at h
    split at h
    · rename_i hf
      cases h
      exact List.mem_append_right _ (List.mem_singleton.mpr (Prod.ext hf.symm rfl))
    · exact List.mem_append_left _ (ih h)

/-- A list says something of every name that it has an entry for. -/
theorem exists_get?_ofList {files : List (String × String)} {f : String × String}
    (hf : f ∈ files) : ∃ hash, get? f.1 (ofList files) = some hash := by
  induction files using List.reverseRecOn with
  | nil => cases hf
  | append_singleton files last ih =>
    rw [get?_ofList_concat]
    split
    · exact ⟨_, rfl⟩
    · rename_i hne
      rcases List.mem_append.mp hf with hmem | hlast
      · exact ih hmem
      · exact absurd (congrArg Prod.fst (List.mem_singleton.mp hlast)).symm hne

theorem get?_of_mem {m : FileHashes} (h : m.Keyed) {f : String × String} (hf : f ∈ m) :
    get? f.1 m = some f.2 := by
  induction m with
  | nil => cases hf
  | cons first rest ih =>
    obtain ⟨hfirst, hrest⟩ := List.nodup_cons.mp h
    rw [get?_cons]
    rcases List.mem_cons.mp hf with rfl | hmem
    · exact if_pos rfl
    · have hne : first.1 ≠ f.1 := fun heq ↦ hfirst (heq ▸ List.mem_map_of_mem hmem)
      rw [if_neg hne, ih hrest hmem]

theorem mem_of_get? {m : FileHashes} {name hash : String} (h : get? name m = some hash) :
    (name, hash) ∈ m := by
  induction m with
  | nil => cases h
  | cons f rest ih =>
    rw [get?_cons] at h
    split at h
    · rename_i hf
      cases h
      exact List.mem_cons.mpr (Or.inl (Prod.ext hf.symm rfl))
    · exact List.mem_cons_of_mem _ (ih h)

/-- Two maps agree when they give every name the same hash. -/
theorem agree_iff {a b : FileHashes} (ha : a.Keyed) (hb : b.Keyed) :
    a.agree b = true ↔ ∀ name, get? name a = get? name b := by
  have hall : (a.all fun f ↦ get? f.1 b == some f.2) = true ↔
      ∀ f ∈ a, get? f.1 b = some f.2 := by simp
  unfold agree
  rw [Bool.and_eq_true, hall, beq_iff_eq]
  constructor
  · rintro ⟨hlength, hsame⟩ name
    have hsubset : a.map Prod.fst ⊆ b.map Prod.fst := by
      intro n hn
      obtain ⟨f, hf, rfl⟩ := List.mem_map.mp hn
      by_contra hnot
      have hnone := hsame f hf
      rw [get?_eq_none_iff.mpr hnot] at hnone
      cases hnone
    -- As many names and all of them in the other map: the names are the same.
    have hnames : (a.map Prod.fst).Perm (b.map Prod.fst) :=
      (List.subperm_of_subset ha hsubset).perm_of_length_le (by simp [hlength])
    cases hget : get? name a with
    | none =>
      rw [get?_eq_none_iff] at hget
      exact (get?_eq_none_iff.mpr fun h ↦ hget (hnames.mem_iff.mpr h)).symm
    | some hash => exact (hsame _ (mem_of_get? hget)).symm
  · intro hsame
    refine ⟨?_, fun f hf ↦ by rw [← hsame, get?_of_mem ha hf]⟩
    have hnames : (a.map Prod.fst).Perm (b.map Prod.fst) := by
      refine (List.perm_ext_iff_of_nodup ha hb).mpr fun name ↦ ?_
      rw [← not_iff_not, ← get?_eq_none_iff, ← get?_eq_none_iff, hsame]
    simpa using hnames.length_eq

theorem agree_ofList_iff (a b : List (String × String)) :
    (ofList a).agree (ofList b) = true ↔ ∀ name, get? name (ofList a) = get? name (ofList b) :=
  agree_iff (keyed_ofList a) (keyed_ofList b)

end FileHashes

/-- Media files do not differ when both sides give every name the same hash. -/
theorem mediaDiffer_eq_false_iff (published : List MediaEntry) (onDevice : List MediaRecord) :
    mediaDiffer published onDevice = false ↔
      ∀ name, (FileHashes.ofEntries published).get? name =
        (FileHashes.ofRecords onDevice).get? name := by
  unfold mediaDiffer
  rw [Bool.not_eq_false', FileHashes.ofEntries, FileHashes.ofRecords, FileHashes.agree_ofList_iff]

end FormCatalog
