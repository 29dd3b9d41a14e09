import FormCatalog.Proofs.Disk.Prepare
import Mathlib.Data.List.Induction
import Mathlib.Data.List.Nodup

/-!
# Sound disks

The items of a disk form a tree: no place has two of them, and every item is below directories only
(`Disk.Sound`). The operations of the file system keep it so. Moving a directory keeps it so when
neither place is inside the other one, and what is then below the new place is what was below the
old one (`Sound.moveDirectory_eq`).

Which files a disk holds is said by membership of its items (`mem_filesBelow`), and for each of the
three ways in which a disk changes there is a lemma that says which items it has afterwards
(`mem_put`, `mem_clear`, `mem_relocate`).
-/

set_option autoImplicit false
set_option relaxedAutoImplicit false

namespace FormCatalog.Disk

open Op

variable {d d' : Disk} {place : Place} {item : Item}

/-! ### Which items a changed disk has -/

theorem mem_put {q : Place} {x : Item} :
    (q, x) ∈ (d.put place item).items ↔
      q = place ∧ x = item ∨ q ≠ place ∧ (q, x) ∈ d.items := by
  unfold put
  split
  · rename_i hthere
    obtain ⟨i, hi, hplace⟩ := List.any_eq_true.mp hthere
    rw [List.mem_map]
    constructor
    · rintro ⟨j, hj, hmoved⟩
      split at hmoved
      · cases hmoved
        exact Or.inl ⟨rfl, rfl⟩
      · rename_i hne
        subst hmoved
        exact Or.inr ⟨hne, hj⟩
    · rintro (⟨rfl, rfl⟩ | ⟨hne, hmem⟩)
      · exact ⟨i, hi, if_pos (of_decide_eq_true hplace)⟩
      · exact ⟨(q, x), hmem, if_neg hne⟩
  · rename_i hmissing
    rw [List.mem_append, List.mem_singleton, Prod.mk.injEq]
    constructor
    · rintro (hmem | hnew)
      · refine Or.inr ⟨fun hq ↦ hmissing ?_, hmem⟩
        exact List.any_eq_true.mpr ⟨(q, x), hmem, decide_eq_true hq⟩
      · exact Or.inl hnew
    · rintro (hnew | ⟨-, hmem⟩)
      · exact Or.inr hnew
      · exact Or.inl hmem

theorem mem_clear {q : Place} {x : Item} :
    (q, x) ∈ (d.clear place).items ↔ ¬ place <+: q ∧ (q, x) ∈ d.items := by
  unfold clear
  rw [List.mem_filter, and_comm]
  refine and_congr_left fun _ ↦ ?_
  rw [Bool.not_eq_true', Bool.eq_false_iff, ne_eq, List.isPrefixOf_iff_prefix]

theorem mem_relocate {source target q : Place} {x : Item} :
    (q, x) ∈ (d.relocate source target).items ↔
      (∃ below, q = target ++ below ∧ (source ++ below, x) ∈ d.items) ∨
        ¬ source <+: q ∧ (q, x) ∈ d.items := by
  unfold relocate
  rw [List.mem_map]
  constructor
  · rintro ⟨⟨p, y⟩, hp, hmoved⟩
    split at hmoved
    · rename_i hbegins
      obtain ⟨below, rfl⟩ := List.isPrefixOf_iff_prefix.mp hbegins
      rw [List.drop_left] at hmoved
      cases hmoved
      exact Or.inl ⟨below, rfl, hp⟩
    · rename_i hout
      cases hmoved
      exact Or.inr ⟨fun hbegins ↦ hout (List.isPrefixOf_iff_prefix.mpr hbegins), hp⟩
  · rintro (⟨below, rfl, hmem⟩ | ⟨hout, hmem⟩)
    · refine ⟨(source ++ below, x), hmem, ?_⟩
      rw [if_pos (List.isPrefixOf_iff_prefix.mpr (List.prefix_append _ _)), List.drop_left]
    · exact ⟨(q, x), hmem, if_neg fun h ↦ hout (List.isPrefixOf_iff_prefix.mp h)⟩

/-! ### Files -/

theorem mem_filesBelow {below : Place} {content : Bytes} :
    (below, content) ∈ d.filesBelow place ↔
      below ≠ [] ∧ (place ++ below, .file content) ∈ d.items := by
  unfold filesBelow Disk.below
  dsimp only
  rw [List.mem_filterMap]
  constructor
  · rintro ⟨⟨q, x⟩, hmem, hfile⟩
    rw [List.mem_mergeSort, List.mem_map] at hmem
    obtain ⟨⟨p, y⟩, hp, hcut⟩ := hmem
    obtain ⟨hp, hbelow⟩ := List.mem_filter.mp hp
    rw [Bool.and_eq_true, List.isPrefixOf_iff_prefix] at hbelow
    obtain ⟨⟨rest, rfl⟩, hne⟩ := hbelow
    rw [List.drop_left] at hcut
    cases hcut
    cases y with
    | directory => cases hfile
    | file c =>
      cases hfile
      exact ⟨by simpa using hne, hp⟩
  · rintro ⟨hne, hmem⟩
    refine ⟨(below, .file content), ?_, rfl⟩
    rw [List.mem_mergeSort, List.mem_map]
    refine ⟨(place ++ below, .file content), List.mem_filter.mpr ⟨hmem, ?_⟩, ?_⟩
    · rw [Bool.and_eq_true, List.isPrefixOf_iff_prefix]
      exact ⟨List.prefix_append _ _, by simpa using hne⟩
    · rw [List.drop_left]

/-- Where the trees of two disks are the same, so are the files. -/
theorem filesBelow_eq_of_tree (h : d'.tree place = d.tree place) :
    d'.filesBelow place = d.filesBelow place := by
  have hinside (e : Disk) : (e.items.filter fun i ↦ place.isPrefixOf i.1 && i.1 ≠ place) =
      (e.tree place).filter fun i ↦ i.1 ≠ place := by
    unfold tree part
    rw [List.filter_filter]
    refine List.filter_congr fun i _ ↦ ?_
    rw [Bool.and_comm]
  unfold filesBelow Disk.below
  rw [hinside d', hinside d, h]

theorem filesBelow_put_of_not_prefix {q : Place} (h : ¬ place <+: q) (item : Item) :
    (d.put q item).filesBelow place = d.filesBelow place := by
  refine filesBelow_eq_of_tree (part_put (Bool.eq_false_iff.mpr fun hbegins ↦ h ?_))
  exact List.isPrefixOf_iff_prefix.mp hbegins

theorem filesBelow_clear_of_apart {q : Place} (h : Place.Apart place q) :
    (d.clear q).filesBelow place = d.filesBelow place :=
  filesBelow_eq_of_tree (part_clear fun _ hp ↦ h.not_both (List.isPrefixOf_iff_prefix.mp hp))

theorem filesBelow_clear_self : (d.clear place).filesBelow place = [] := by
  refine List.eq_nil_iff_forall_not_mem.mpr fun f hf ↦ ?_
  exact (mem_clear.mp (mem_filesBelow.mp hf).2).1 (List.prefix_append _ _)

/-- The two disks hold the same files at the same places. -/
def SameFiles (d d' : Disk) : Prop :=
  ∀ q content, (q, Item.file content) ∈ d'.items ↔ (q, Item.file content) ∈ d.items

theorem SameFiles.refl (d : Disk) : SameFiles d d := fun _ _ ↦ Iff.rfl

theorem SameFiles.mem_filesBelow_iff (h : SameFiles d d') (place : Place) (f : Place × Bytes) :
    f ∈ d'.filesBelow place ↔ f ∈ d.filesBelow place := by
  rw [mem_filesBelow, mem_filesBelow, h]

theorem mem_of_item? (h : d.item? place = some item) (hplace : place ≠ []) :
    (place, item) ∈ d.items := by
  unfold item? at h
  rw [if_neg hplace] at h
  obtain ⟨⟨q, x⟩, hfound, rfl⟩ := Option.map_eq_some_iff.mp h
  have hq := List.find?_some hfound
  obtain rfl : q = place := of_decide_eq_true hq
  exact List.mem_of_find?_eq_some hfound

theorem notMem_of_item?_eq_none (h : d.item? place = none) : (place, item) ∉ d.items := by
  intro hmem
  unfold item? at h
  split at h
  · cases h
  · rw [Option.map_eq_none_iff, List.find?_eq_none] at h
    exact h _ hmem (decide_eq_true rfl)

/-- A directory that is put where nothing was brings and takes no file. -/
theorem SameFiles.put_directory {d₀ : Disk} (h : SameFiles d₀ d) (hmissing : d.item? place = none) :
    SameFiles d₀ (d.put place .directory) := by
  intro q content
  rw [mem_put, ← h q content]
  constructor
  · rintro (⟨-, hfile⟩ | ⟨-, hmem⟩)
    · cases hfile
    · exact hmem
  · intro hmem
    refine Or.inr ⟨?_, hmem⟩
    rintro rfl
    exact notMem_of_item?_eq_none hmissing hmem

/-! ### Soundness -/

/-- The items form a tree. -/
structure Sound (d : Disk) : Prop where
  /-- No place has two items. -/
  single : ∀ {place : Place} {a b : Item}, (place, a) ∈ d.items → (place, b) ∈ d.items → a = b
  /-- What an item is in is a directory. -/
  rooted : ∀ {place : Place} {name : String} {a : Item},
    (place ++ [name], a) ∈ d.items → d.item? place = some .directory

/-- A list of items is a tree when it names no place twice, and each is in a directory. -/
theorem sound_of_items (hplaces : (d.items.map (·.1)).Nodup)
    (hparents : ∀ i ∈ d.items, d.item? i.1.dropLast = some .directory) : d.Sound where
  single ha hb := (Prod.mk.inj (List.inj_on_of_nodup_map hplaces ha hb rfl)).2
  rooted h := by
    have hparent := hparents _ h
    rwa [List.dropLast_concat] at hparent

/-- Nothing is below a place where nothing is. -/
theorem Sound.notMem_below (h : d.Sound) (hmissing : d.item? place = none) (below : Place) :
    (place ++ below, item) ∉ d.items := by
  induction below using List.reverseRecOn generalizing item with
  | nil =>
    rw [List.append_nil]
    exact notMem_of_item?_eq_none hmissing
  | append_singleton below name ih =>
    intro hmem
    rw [← List.append_assoc] at hmem
    have hdirectory := h.rooted hmem
    by_cases hroot : place ++ below = []
    · rw [List.append_eq_nil_iff.mp hroot |>.1] at hmissing
      cases hmissing
    · exact ih (mem_of_item? hdirectory hroot)

theorem Sound.item?_of_mem (h : d.Sound) (hmem : (place, item) ∈ d.items) (hplace : place ≠ []) :
    d.item? place = some item := by
  cases hitem : d.item? place with
  | none => exact absurd hmem (notMem_of_item?_eq_none hitem)
  | some found => rw [h.single (mem_of_item? hitem hplace) hmem]

/-- What is above an item is a directory. -/
theorem Sound.directory_above (h : d.Sound) {below : Place}
    (hmem : (place ++ below, item) ∈ d.items) (hbelow : below ≠ []) :
    d.item? place = some .directory := by
  induction below using List.reverseRecOn generalizing item with
  | nil => exact absurd rfl hbelow
  | append_singleton above name ih =>
    rw [← List.append_assoc] at hmem
    have hdirectory := h.rooted hmem
    by_cases habove : above = []
    · rwa [habove, List.append_nil] at hdirectory
    · exact ih (mem_of_item? hdirectory (by simp [habove])) habove

theorem Sound.put (h : d.Sound) (hplace : place ≠ [])
    (hparent : d.item? place.dropLast = some .directory)
    (hitem : d.item? place = some .directory → item = .directory) :
    (d.put place item).Sound where
  single hx hy := by
    rcases mem_put.mp hx with ⟨rfl, rfl⟩ | ⟨hne, hx⟩
    · rcases mem_put.mp hy with ⟨-, rfl⟩ | ⟨hne, -⟩
      · rfl
      · exact absurd rfl hne
    · rcases mem_put.mp hy with ⟨rfl, -⟩ | ⟨-, hy⟩
      · exact absurd rfl hne
      · exact h.single hx hy
  rooted {q name x} hmem := by
    rcases mem_put.mp hmem with ⟨rfl, -⟩ | ⟨-, hmem⟩
    · rw [List.dropLast_concat] at hparent
      rwa [item?_put_of_ne (by simp)]
    · have hdirectory := h.rooted hmem
      by_cases hq : place = q
      · subst hq
        rw [item?_put_self hplace, hitem hdirectory]
      · rwa [item?_put_of_ne hq]

theorem Sound.clear (h : d.Sound) (place : Place) : (d.clear place).Sound where
  single hx hy := h.single (mem_clear.mp hx).2 (mem_clear.mp hy).2
  rooted {q name x} hmem := by
    obtain ⟨hout, hmem⟩ := mem_clear.mp hmem
    have hparent : ¬ place <+: q := fun hq ↦ hout (hq.trans (List.prefix_append _ _))
    exact (Disk.item?_clear_of_not_prefix hparent).trans (h.rooted hmem)

theorem Sound.relocate (h : d.Sound) {source target : Place} (hapart : Place.Apart source target)
    (hparent : d.item? target.dropLast = some .directory)
    (hfree : ∀ below x, (target ++ below, x) ∉ d.items) : (d.relocate source target).Sound := by
  have hsingle {q : Place} {x y : Item} (hx : (q, x) ∈ (d.relocate source target).items)
      (hy : (q, y) ∈ (d.relocate source target).items) : x = y := by
    rcases mem_relocate.mp hx with ⟨below, rfl, hx'⟩ | ⟨-, hx⟩
    · rcases mem_relocate.mp hy with ⟨below', hsame, hy⟩ | ⟨-, hy⟩
      · obtain rfl := List.append_cancel_left hsame
        exact h.single hx' hy
      · exact absurd hy (hfree _ _)
    · rcases mem_relocate.mp hy with ⟨below, rfl, -⟩ | ⟨-, hy⟩
      · exact absurd hx (hfree _ _)
      · exact h.single hx hy
  obtain ⟨hsource, htarget⟩ := hapart.ne_nil
  refine ⟨hsingle, fun {q name x} hmem ↦ ?_⟩
  rcases mem_relocate.mp hmem with ⟨below, hq, hbelow⟩ | ⟨hout, hmem⟩
  · rcases List.eq_nil_or_concat below with rfl | ⟨above, last, rfl⟩
    · -- the place itself is in the directory that the target is in
      rw [List.append_nil] at hq
      subst hq
      rw [List.dropLast_concat] at hparent
      have hout : ¬ source <+: q := fun hbegins ↦
        hapart.1 (hbegins.trans (List.prefix_append _ _))
      exact (Disk.item?_relocate_of_not_prefix hout (Place.not_name_prefix q name)).trans hparent
    · rw [List.concat_eq_append, ← List.append_assoc] at hq hbelow
      obtain ⟨rfl, -⟩ := List.append_inj' hq rfl
      have hdirectory := mem_of_item? (h.rooted hbelow) (by simp [hsource])
      have hmoved : (target ++ above, .directory) ∈ (d.relocate source target).items :=
        mem_relocate.mpr (Or.inl ⟨above, rfl, hdirectory⟩)
      cases hitem : (d.relocate source target).item? (target ++ above) with
      | none => exact absurd hmoved (notMem_of_item?_eq_none hitem)
      | some y => rw [hsingle hmoved (mem_of_item? hitem (by simp [htarget]))]
  · have hsource' : ¬ source <+: q := fun hbegins ↦ hout (hbegins.trans (List.prefix_append _ _))
    have htarget' : ¬ target <+: q := by
      rintro ⟨below, rfl⟩
      rw [List.append_assoc] at hmem
      exact hfree _ _ hmem
    exact (Disk.item?_relocate_of_not_prefix hsource' htarget').trans (h.rooted hmem)

/-! ### Operations -/

theorem parent_of_makeDirectory {p : Path} (h : d.makeDirectory p = .ok d') :
    d.item? (p.resolve d.working).dropLast = some .directory := by
  obtain ⟨-, hmade⟩ := checked_eq_ok h
  obtain ⟨place, hplace, hmade⟩ := Except.bind_eq_ok_iff.mp hmade
  obtain rfl := eq_resolve_of_locate hplace
  split at hmade
  · cases hmade
  · split at hmade
    · rename_i hparent
      exact hparent
    · cases hmade
    · cases hmade

theorem Sound.makeDirectory (h : d.Sound) {p : Path} (hmade : d.makeDirectory p = .ok d') :
    d'.Sound := by
  have hparent := parent_of_makeDirectory hmade
  obtain ⟨-, -, hmissing, rfl⟩ := makeDirectory_eq_ok hmade
  refine h.put ?_ hparent fun _ ↦ rfl
  intro hroot
  rw [hroot] at hmissing
  cases hmissing

theorem Sound.writeContent (h : d.Sound) {p : Path} {content : Bytes}
    (hwritten : d.writeContent p content = .ok d') : d'.Sound := by
  obtain ⟨-, hnot, rfl⟩ := writeContent_eq_ok hwritten
  have hplace : p.resolve d.working ≠ [] := by
    intro hroot
    rw [hroot] at hnot
    exact hnot rfl
  refine h.put hplace ?_ fun hdirectory ↦ absurd hdirectory hnot
  obtain ⟨-, hwritten⟩ := checked_eq_ok hwritten
  obtain ⟨place, hlocated, hwritten⟩ := Except.bind_eq_ok_iff.mp hwritten
  obtain rfl := eq_resolve_of_locate hlocated
  split at hwritten
  · cases hwritten
  · rename_i hfile
    obtain ⟨above, name, hq⟩ := (List.eq_nil_or_concat _).resolve_left hplace
    rw [hq, List.concat_eq_append] at hfile ⊢
    rw [List.dropLast_concat]
    exact h.rooted (mem_of_item? hfile (by simp))
  · split at hwritten
    · rename_i hparent
      exact hparent
    · cases hwritten
    · cases hwritten

theorem Sound.removeEntry (h : d.Sound) {p : Path} (hremoved : d.removeEntry p = .ok d') :
    d'.Sound := by
  rcases removeEntry_eq_ok hremoved with rfl | rfl
  · exact h
  · exact h.clear _

theorem Sound.clear_eq_self (h : d.Sound) (hmissing : d.item? place = none) :
    d.clear place = d := by
  have hall : d.items.filter (fun i ↦ !place.isPrefixOf i.1) = d.items := by
    refine List.filter_eq_self.mpr fun i hi ↦ ?_
    rw [Bool.not_eq_true', Bool.eq_false_iff]
    intro hbegins
    obtain ⟨below, hbelow⟩ := List.isPrefixOf_iff_prefix.mp hbegins
    have hmem : (place ++ below, i.2) ∈ d.items := by rwa [hbelow]
    exact h.notMem_below hmissing below hmem
  unfold Disk.clear
  rw [hall]

/-- A directory that was moved is at the new place, with nothing else below it. -/
theorem Sound.moveDirectory_eq (h : d.Sound) {source target : Path}
    (hapart : Place.Apart (source.resolve d.working) (target.resolve d.working))
    (hmoved : d.moveDirectory source target = .ok d') :
    d' = (d.clear (target.resolve d.working)).relocate (source.resolve d.working)
        (target.resolve d.working) ∧ d'.Sound := by
  obtain ⟨-, htarget⟩ := hapart.ne_nil
  obtain ⟨above, name, hgoal⟩ := (List.eq_nil_or_concat _).resolve_left htarget
  rw [List.concat_eq_append] at hgoal
  -- Either way the target is in a directory, and it is cleared or nothing is there.
  have hcleared : d.item? (target.resolve d.working).dropLast = some .directory ∧
      d' = (d.clear (target.resolve d.working)).relocate (source.resolve d.working)
        (target.resolve d.working) := by
    unfold Disk.moveDirectory at hmoved
    dsimp only at hmoved
    split at hmoved
    · rename_i e houtcome
      cases hmoved
      obtain ⟨⟨origin, x⟩, hfound, houtcome⟩ := Except.bind_eq_ok_iff.mp houtcome
      obtain ⟨goal, hlocated, houtcome⟩ := Except.bind_eq_ok_iff.mp houtcome
      obtain rfl := eq_resolve_of_probe hfound
      obtain rfl := eq_resolve_of_locate hlocated
      split at houtcome
      · cases houtcome
      · rename_i hdirectory
        split at houtcome
        · cases houtcome
          refine ⟨?_, rfl⟩
          rw [hgoal] at hdirectory ⊢
          rw [List.dropLast_concat]
          exact h.rooted (mem_of_item? hdirectory (by simp))
        · cases houtcome
      · rename_i hmissing
        split at houtcome
        · rename_i hparent
          cases houtcome
          exact ⟨hparent, by rw [h.clear_eq_self hmissing]⟩
        · cases houtcome
        · cases houtcome
    · cases hmoved
  refine ⟨hcleared.2, ?_⟩
  rw [hcleared.2]
  refine (h.clear _).relocate hapart ?_ fun below x hmem ↦ ?_
  · refine (Disk.item?_clear_of_not_prefix ?_).trans hcleared.1
    rw [hgoal, List.dropLast_concat]
    exact Place.not_name_prefix above name
  · exact (mem_clear.mp hmem).1 (List.prefix_append _ _)

/-- The files below the new place are those that were below the old one. -/
theorem Sound.mem_filesBelow_moveDirectory (h : d.Sound) {source target : Path}
    (hapart : Place.Apart (source.resolve d.working) (target.resolve d.working))
    (hmoved : d.moveDirectory source target = .ok d') (f : Place × Bytes) :
    f ∈ d'.filesBelow (target.resolve d.working) ↔
      f ∈ d.filesBelow (source.resolve d.working) := by
  obtain ⟨rfl, -⟩ := h.moveDirectory_eq hapart hmoved
  obtain ⟨below, content⟩ := f
  rw [mem_filesBelow, mem_filesBelow, mem_relocate]
  refine and_congr_right fun _ ↦ ⟨?_, fun hmem ↦ Or.inl ⟨below, rfl, mem_clear.mpr ⟨?_, hmem⟩⟩⟩
  · rintro (⟨below', hsame, hmem⟩ | ⟨-, hmem⟩)
    · obtain rfl := List.append_cancel_left hsame
      exact (mem_clear.mp hmem).2
    · exact absurd (List.prefix_append _ _) (mem_clear.mp hmem).1
  · exact hapart.not_both (List.prefix_append _ _)

/-- Making directories leaves the disk sound and the files as they were. -/
theorem keeps_prepare (d₀ : Disk) (p : Path) :
    Keeps (fun d ↦ d.Sound ∧ d.working = d₀.working ∧ SameFiles d₀ d) (prepare p) := by
  suffices h : Guards (fun d : Disk ↦ d.Sound ∧ d.working = d₀.working ∧ SameFiles d₀ d)
      (fun _ ↦ True) (prepare p) from h.keeps
  refine guards_prepareWithin_of_make (fun n ↦ ?_) (fun _ ↦ trivial) _
  refine guards_update (fun d d' hd hmade ↦ ?_) fun _ _ _ _ ↦ trivial
  obtain ⟨hsound, hworking, hfiles⟩ := hd
  refine ⟨hsound.makeDirectory hmade, ?_⟩
  obtain ⟨-, -, hmissing, rfl⟩ := makeDirectory_eq_ok hmade
  exact ⟨by rw [working_put, hworking], hfiles.put_directory hmissing⟩

end FormCatalog.Disk
