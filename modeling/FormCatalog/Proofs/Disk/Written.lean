import FormCatalog.Proofs.Disk.Places
import Mathlib.Data.List.Basic

/-!
# Paths and their texts

A path that some text writes (`Path.Written`) is the path that its own text writes
(`Written.ofText_text`): cutting a text at its slashes undoes joining with slashes, as long as no
component holds one. `CanonicalName` says of the name of a media file that it is written in the one
way in which the files below a directory are named; followed from a directory such a name leads to
the place with just these components (`CanonicalName.confined_eq`).
-/

set_option autoImplicit false
set_option relaxedAutoImplicit false

namespace FormCatalog

namespace Path

/-! ### Cutting a text at its slashes -/

theorem components_cons (c : Char) (rest : List Char) :
    components (c :: rest) =
      if c = '/' then [] :: components rest else
        match components rest with
        | p :: pieces => (c :: p) :: pieces
        | [] => [[c]] := rfl

theorem components_eq_splitOn (cs : List Char) : components cs = cs.splitOn '/' := by
  rw [List.splitOn_eq_splitOnP]
  induction cs with
  | nil => rfl
  | cons c rest ih =>
    rw [List.splitOnP_cons_eq_if_modifyHead, components_cons, ih]
    by_cases hc : c = '/'
    · simp [hc]
    · rw [if_neg hc, if_neg (by simpa using hc)]
      cases hrest : rest.splitOnP (· == '/') with
      | nil => exact absurd hrest (List.splitOnP_ne_nil _ rest)
      | cons p pieces => rfl

theorem slash_notMem_of_mem_components {cs piece : List Char} (h : piece ∈ components cs) :
    '/' ∉ piece := by
  induction cs generalizing piece with
  | nil =>
    obtain rfl := List.mem_singleton.mp h
    exact List.not_mem_nil
  | cons c rest ih =>
    rw [components_cons] at h
    split at h
    · rcases List.mem_cons.mp h with rfl | hrest
      · exact List.not_mem_nil
      · exact ih hrest
    · rename_i hc
      split at h
      · rename_i p pieces hpieces
        rw [hpieces] at ih
        rcases List.mem_cons.mp h with rfl | hrest
        · exact List.not_mem_cons_of_ne_of_not_mem (Ne.symm hc) (ih List.mem_cons_self)
        · exact ih (List.mem_cons_of_mem _ hrest)
      · obtain rfl := List.mem_singleton.mp h
        exact List.not_mem_cons_of_ne_of_not_mem (Ne.symm hc) List.not_mem_nil

theorem components_slashes (n : Nat) (cs : List Char) :
    components (List.replicate n '/' ++ cs) = List.replicate n [] ++ components cs := by
  induction n with
  | zero => rfl
  | succ n ih =>
    rw [List.replicate_succ, List.replicate_succ, List.cons_append, List.cons_append, ← ih]
    rfl

/-! ### Paths that a text writes -/

/-- What a component of a path can be in a text. -/
structure IsComponent (c : String) : Prop where
  nonempty : c ≠ ""
  noDot : c ≠ "."
  noSlash : '/' ∉ c.toList

/-- A path that some text writes. -/
structure Written (p : Path) : Prop where
  slashes : p.slashes ≤ 2
  parts : ∀ c ∈ p.parts, IsComponent c

theorem written_ofText (s : String) : (ofText s).Written where
  slashes := by
    unfold ofText keptSlashes
    dsimp only
    split <;> decide
  parts c hc := by
    obtain ⟨hcut, hkept⟩ := List.mem_filter.mp hc
    obtain ⟨piece, hpiece, rfl⟩ := List.mem_map.mp hcut
    simp only [Bool.and_eq_true, decide_eq_true_eq] at hkept
    refine ⟨hkept.1, hkept.2, ?_⟩
    rw [String.toList_ofList]
    exact slash_notMem_of_mem_components hpiece

theorem Written.child {p : Path} (h : p.Written) {name : String} (hname : IsComponent name) :
    (p.child name).Written where
  slashes := h.slashes
  parts c hc := by
    rcases List.mem_append.mp hc with hc | hc
    · exact h.parts c hc
    · rw [List.mem_singleton.mp hc]
      exact hname

/-- The text of a path with a component shows the slashes in front and the components. -/
theorem Written.toList_text {p : Path} (h : p.Written) (hparts : p.parts ≠ []) :
    p.text.toList = List.replicate p.slashes '/' ++ ['/'].intercalate (p.parts.map String.toList) ∧
      ∃ c rest, ['/'].intercalate (p.parts.map String.toList) = c :: rest ∧ c ≠ '/' := by
  have hbegins : ∃ c rest,
      ['/'].intercalate (p.parts.map String.toList) = c :: rest ∧ c ≠ '/' := by
    cases hp : p.parts with
    | nil => exact absurd hp hparts
    | cons first rest =>
      have hfirst : IsComponent first := h.parts first (by rw [hp]; exact List.mem_cons_self)
      cases hchars : first.toList with
      | nil => exact absurd (String.toList_eq_nil_iff.mp hchars) hfirst.nonempty
      | cons c cs =>
        have hc : c ≠ '/' := by
          rintro rfl
          exact hfirst.noSlash (by rw [hchars]; exact List.mem_cons_self)
        cases rest with
        | nil => exact ⟨c, cs, by simp [hchars], hc⟩
        | cons next rest =>
          refine ⟨c, cs ++ ['/'] ++ ['/'].intercalate ((next :: rest).map String.toList), ?_, hc⟩
          rw [List.map_cons, List.map_cons, List.intercalate_cons_cons, hchars]
          rfl
  refine ⟨?_, hbegins⟩
  obtain ⟨c, rest, hbody, -⟩ := hbegins
  have hlist : (String.ofList (List.replicate p.slashes '/') ++ "/".intercalate p.parts).toList =
      List.replicate p.slashes '/' ++ ['/'].intercalate (p.parts.map String.toList) := by
    rw [String.toList_append, String.toList_ofList, String.toList_intercalate]
    rfl
  unfold text
  dsimp only
  rw [if_neg, hlist]
  intro hempty
  rw [← String.toList_eq_nil_iff, hlist, hbody] at hempty
  simp at hempty

/-- Reading the text of a path gives the path again. -/
theorem Written.ofText_text {p : Path} (h : p.Written) (hparts : p.parts ≠ []) :
    ofText p.text = p := by
  obtain ⟨htext, c, rest, hbody, hc⟩ := h.toList_text hparts
  have hslashes : keptSlashes p.text.toList = p.slashes := by
    have hkept : (p.text.toList.takeWhile (· = '/')).length = p.slashes := by
      rw [htext, List.takeWhile_append_of_pos (by simp), hbody]
      simp [hc]
    have hfew := h.slashes
    unfold keptSlashes
    rw [hkept]
    generalize p.slashes = n at hfew
    match n, hfew with
    | 0, _ | 1, _ | 2, _ => rfl
  have hcomponents : components p.text.toList =
      List.replicate p.slashes [] ++ p.parts.map String.toList := by
    rw [htext, components_slashes, components_eq_splitOn, List.splitOn_intercalate]
    · intro piece hpiece
      obtain ⟨part, hpart, rfl⟩ := List.mem_map.mp hpiece
      exact (h.parts part hpart).noSlash
    · simpa using hparts
  have hparts : ((components p.text.toList).map String.ofList).filter
      (fun c ↦ c ≠ "" && c ≠ ".") = p.parts := by
    have hempty : ((List.replicate p.slashes []).map String.ofList).filter
        (fun c ↦ c ≠ "" && c ≠ ".") = [] := by
      simp
    have hkept : p.parts.filter (fun c ↦ c ≠ "" && c ≠ ".") = p.parts := by
      refine List.filter_eq_self.mpr fun part hpart ↦ ?_
      simp [(h.parts part hpart).nonempty, (h.parts part hpart).noDot]
    rw [hcomponents, List.map_append, List.filter_append, hempty, List.map_map]
    simpa [Function.comp_def] using hkept
  unfold ofText
  rw [hslashes, hparts]

/-- The text of a path with one more component ends in the component. -/
theorem exists_text_child (p : Path) :
    ∃ above, ∀ name ≠ "", (p.child name).text = above ++ name := by
  have hbody (parts : List String) :
      ∃ above, ∀ name, "/".intercalate (parts ++ [name]) = above ++ name := by
    induction parts with
    | nil => exact ⟨"", fun name ↦ by simp⟩
    | cons first rest ih =>
      obtain ⟨above, habove⟩ := ih
      refine ⟨first ++ "/" ++ above, fun name ↦ ?_⟩
      rw [List.cons_append, String.intercalate_cons_of_ne_nil (by simp), habove,
        String.append_assoc, String.append_assoc, String.append_assoc]
  obtain ⟨above, habove⟩ := hbody p.parts
  refine ⟨String.ofList (List.replicate p.slashes '/') ++ above, fun name hname ↦ ?_⟩
  unfold text child
  dsimp only
  rw [habove, ← String.append_assoc, if_neg]
  intro hempty
  exact hname (String.append_eq_empty_iff.mp hempty).2

end Path

/-! ### Names of media files -/

/-- The name of a media file is relative to the directory of the media files, and written as the
path of a file below that directory is: without empty components and dots. -/
structure CanonicalName (name : String) : Prop where
  relative : (Path.ofText name).isAbsolute = false
  noReturn : ".." ∉ (Path.ofText name).parts
  named : (Path.ofText name).parts ≠ []
  written : "/".intercalate (Path.ofText name).parts = name

instance (name : String) : Decidable (CanonicalName name) :=
  decidable_of_iff
    ((Path.ofText name).isAbsolute = false ∧ ".." ∉ (Path.ofText name).parts ∧
      (Path.ofText name).parts ≠ [] ∧ "/".intercalate (Path.ofText name).parts = name)
    ⟨fun ⟨hrelative, hreturn, hnamed, hwritten⟩ ↦ ⟨hrelative, hreturn, hnamed, hwritten⟩,
      fun h ↦ ⟨h.relative, h.noReturn, h.named, h.written⟩⟩

/-- Followed from a directory, such a name leads to the place with just these components. -/
theorem CanonicalName.confined_eq {name : String} (h : CanonicalName name) {working : Place}
    {base target : Path} (hconfined : base.confined working name = .ok (some target)) :
    target = .ofPlace (base.resolve working ++ (Path.ofText name).parts) := by
  have hplace : (base.join (Path.ofText name)).resolve working =
      base.resolve working ++ (Path.ofText name).parts := by
    have hjoin : base.join (Path.ofText name) =
        ⟨base.slashes, base.parts ++ (Path.ofText name).parts⟩ := by
      unfold Path.join
      rw [if_neg (by simp [h.relative])]
    rw [hjoin]
    change Path.follow (if base.isAbsolute then [] else working)
      (base.parts ++ (Path.ofText name).parts) = _
    rw [Path.follow_append, Path.follow_of_noReturn h.noReturn]
    rfl
  unfold Path.confined at hconfined
  dsimp only at hconfined
  split at hconfined
  · cases hconfined
  · split at hconfined
    · cases hconfined
      rw [hplace]
    · cases hconfined

end FormCatalog
