import FormCatalog.Proofs.Catalog.FileHashes
import FormCatalog.Proofs.Overriding
import FormCatalog.Proofs.Programs

/-!
# What the comparison of media files goes by

Of either side the comparison sees the hash that each name has in the end (`get?_ofList_map`), and
two lists that agree on these are the same to it (`mediaDiffer_congr`). That settles what does not
matter: the order of items of distinct names, addresses, and items that a later one replaces. In
full, the files are the same exactly if both sides have the same names and the last items of each
name have the same hash (`SameFiles`). Otherwise a file was added, removed or changed (`Moved`), and
the full comparison of the form reports it (`returns_isUpdated`).
-/

set_option autoImplicit false
set_option relaxedAutoImplicit false

namespace FormCatalog

/-! ### The last item of a name -/

section LastOfItsName

variable {α : Type} {nameOf : α → String} {hashOf : α → String} {items items' : List α} {a : α}
  {name : String}

/-- The last item of a name, if a list has one. -/
def lastNamed? (nameOf : α → String) (name : String) (items : List α) : Option α :=
  (items.filter (nameOf · = name)).getLast?

/-- An item of a list has no other of its name behind it. -/
def IsLast (nameOf : α → String) (items : List α) (a : α) : Prop :=
  ∃ before, Counts (fun b a ↦ nameOf b = nameOf a) items before a

/-- Two lists have the same items, and the items of one name in the same order. -/
def SameByName (nameOf : α → String) (items items' : List α) : Prop :=
  ∀ name, items.filter (nameOf · = name) = items'.filter (nameOf · = name)

/-- What comes later goes first. -/
theorem lastNamed?_append : lastNamed? nameOf name (items ++ items') =
    (lastNamed? nameOf name items').or (lastNamed? nameOf name items) := by
  unfold lastNamed?
  rw [List.filter_append, List.getLast?_append]

theorem lastNamed?_singleton :
    lastNamed? nameOf name [a] = if nameOf a = name then some a else none := by
  unfold lastNamed?
  rw [List.filter_singleton]
  by_cases ha : nameOf a = name <;> simp [ha]

theorem lastNamed?_concat : lastNamed? nameOf name (items ++ [a]) =
    if nameOf a = name then some a else lastNamed? nameOf name items := by
  rw [lastNamed?, lastNamed?, getLast?_filter_concat]
  simp only [decide_eq_true_eq]

theorem lastNamed?_eq_some_iff :
    lastNamed? nameOf name items = some a ↔ nameOf a = name ∧ IsLast nameOf items a := by
  rw [lastNamed?, getLast?_filter_eq_some_iff, decide_eq_true_eq]
  refine and_congr_right ?_
  rintro rfl
  simp only [decide_eq_true_eq]
  rfl

theorem lastNamed?_eq_none_iff :
    lastNamed? nameOf name items = none ↔ name ∉ items.map nameOf := by
  unfold lastNamed?
  simp

/-- Each name of a list has a last item. -/
theorem exists_isLast (h : name ∈ items.map nameOf) :
    ∃ a, nameOf a = name ∧ IsLast nameOf items a := by
  cases hlast : lastNamed? nameOf name items with
  | none => exact absurd h (lastNamed?_eq_none_iff.mp hlast)
  | some a => exact ⟨a, lastNamed?_eq_some_iff.mp hlast⟩

/-- Where no name comes twice, the order does not matter at all. -/
theorem sameByName_of_perm (h : items.Perm items') (hnodup : (items'.map nameOf).Nodup) :
    SameByName nameOf items items' := by
  intro name
  have hperm := h.filter fun a ↦ nameOf a = name
  have hnames : (items'.filter (nameOf · = name)).map nameOf =
      List.replicate (items'.filter (nameOf · = name)).length name := by
    refine List.eq_replicate_iff.mpr ⟨List.length_map _, fun n hn ↦ ?_⟩
    obtain ⟨a, ha, rfl⟩ := List.mem_map.mp hn
    exact of_decide_eq_true (List.mem_filter.mp ha).2
  have hfew : (items'.filter (nameOf · = name)).length ≤ 1 := by
    rw [← List.nodup_replicate (a := name), ← hnames]
    exact hnodup.sublist (List.filter_sublist.map nameOf)
  rcases hlast : items'.filter (nameOf · = name) with _ | ⟨a, _ | ⟨b, rest⟩⟩
  · rw [hlast] at hperm
    exact hperm.eq_nil
  · rw [hlast] at hperm
    exact List.perm_singleton.mp hperm
  · rw [hlast] at hfew
    simp at hfew

/-- An item does not matter if there is another of its name behind it. -/
theorem lastNamed?_replaced {before after : List α} (h : ∃ b ∈ after, nameOf b = nameOf a) :
    lastNamed? nameOf name (before ++ a :: after) = lastNamed? nameOf name (before ++ after) := by
  rw [← List.singleton_append, lastNamed?_append, lastNamed?_append, lastNamed?_append,
    lastNamed?_singleton]
  split
  · rename_i ha
    obtain ⟨b, hb, hsame⟩ := h
    have hmem : name ∈ after.map nameOf := List.mem_map.mpr ⟨b, hb, hsame.trans ha⟩
    obtain ⟨c, hc⟩ : ∃ c, lastNamed? nameOf name after = some c :=
      Option.ne_none_iff_exists'.mp fun hnone ↦ lastNamed?_eq_none_iff.mp hnone hmem
    rw [hc]
    rfl
  · rw [Option.or_none]

/-- The hash that a list gives a name in the end. -/
def lastHash? (nameOf hashOf : α → String) (name : String) (items : List α) : Option String :=
  (lastNamed? nameOf name items).map hashOf

/-- The map that a list of names and hashes describes gives each name its last hash. -/
theorem get?_ofList_map : FileHashes.get? name
    (FileHashes.ofList (items.map fun a ↦ (nameOf a, hashOf a))) =
      lastHash? nameOf hashOf name items := by
  unfold lastHash?
  induction items using List.reverseRecOn with
  | nil => rfl
  | append_singleton items a ih =>
    rw [List.map_append, List.map_singleton, FileHashes.get?_ofList_concat, lastNamed?_concat, ih]
    split <;> rfl

theorem lastHash?_of_isLast (h : IsLast nameOf items a) :
    lastHash? nameOf hashOf (nameOf a) items = some (hashOf a) := by
  rw [lastHash?, lastNamed?_eq_some_iff.mpr ⟨rfl, h⟩]
  rfl

theorem lastHash?_eq_none_iff :
    lastHash? nameOf hashOf name items = none ↔ name ∉ items.map nameOf := by
  rw [lastHash?, Option.map_eq_none_iff, lastNamed?_eq_none_iff]

theorem SameByName.lastHash?_eq (h : SameByName nameOf items items') (name : String) :
    lastHash? nameOf hashOf name items = lastHash? nameOf hashOf name items' := by
  rw [lastHash?, lastHash?, lastNamed?, lastNamed?, h name]

theorem lastHash?_replaced {before after : List α} (h : ∃ b ∈ after, nameOf b = nameOf a) :
    lastHash? nameOf hashOf name (before ++ a :: after) =
      lastHash? nameOf hashOf name (before ++ after) := by
  rw [lastHash?, lastHash?, lastNamed?_replaced h]

end LastOfItsName

namespace ContentKey

/-- Stripping takes one label away, and leaves a hash alone that has none. -/
theorem stripLabel_eq_iff {hash digest : String} : stripLabel hash = digest ↔
    hash.toList = label ++ digest.toList ∨ (hash = digest ∧ ¬ label <+: hash.toList) := by
  unfold stripLabel
  split
  · rename_i h
    obtain ⟨rest, hrest⟩ := List.isPrefixOf_iff_prefix.mp h
    rw [← hrest, List.drop_left, List.append_cancel_left_eq, ← String.toList_inj,
      String.toList_ofList]
    simp
  · rename_i h
    rw [List.isPrefixOf_iff_prefix] at h
    have hnot : hash.toList ≠ label ++ digest.toList := fun heq ↦ h ⟨_, heq.symm⟩
    simp [h, hnot]

end ContentKey

/-! ### The comparison -/

/-- Both sides have the same names, and the last items of each name have the same hash. -/
structure SameFiles (published : List MediaEntry) (onDevice : List MediaRecord) : Prop where
  names : ∀ name, name ∈ published.map (·.fileName) ↔ name ∈ onDevice.map (·.name)
  hashes : ∀ e r, IsLast (·.fileName) published e → IsLast (·.name) onDevice r →
    e.fileName = r.name →
      ContentKey.stripLabel e.contentHash = ContentKey.stripLabel r.contentHash

/-- A file was added to the manifest, removed from it or changed there: only one side has its name,
or the last items of the name have two hashes. -/
inductive Moved (published : List MediaEntry) (onDevice : List MediaRecord) : Prop
  | added (e : MediaEntry) (he : e ∈ published) (hnew : e.fileName ∉ onDevice.map (·.name))
  | removed (r : MediaRecord) (hr : r ∈ onDevice) (hgone : r.name ∉ published.map (·.fileName))
  | changed (e : MediaEntry) (r : MediaRecord) (he : IsLast (·.fileName) published e)
      (hr : IsLast (·.name) onDevice r) (hname : e.fileName = r.name)
      (hhash : ContentKey.stripLabel e.contentHash ≠ ContentKey.stripLabel r.contentHash)

/-- The hash of an entry, without its label. -/
def MediaEntry.digest (e : MediaEntry) : String := ContentKey.stripLabel e.contentHash

/-- The hash of a record, without its label. -/
def MediaRecord.digest (r : MediaRecord) : String := ContentKey.stripLabel r.contentHash

section Comparison

variable {published published' : List MediaEntry} {onDevice onDevice' : List MediaRecord}

theorem mediaDiffer_eq_false_iff_last : mediaDiffer published onDevice = false ↔
    ∀ name, lastHash? MediaEntry.fileName MediaEntry.digest name published =
      lastHash? MediaRecord.name MediaRecord.digest name onDevice := by
  rw [mediaDiffer_eq_false_iff]
  refine forall_congr' fun name ↦ ?_
  rw [← get?_ofList_map, ← get?_ofList_map]
  rfl

/-- Nothing but the last hash of each name matters. -/
theorem mediaDiffer_congr
    (hp : ∀ name, lastHash? MediaEntry.fileName MediaEntry.digest name published =
      lastHash? MediaEntry.fileName MediaEntry.digest name published')
    (hd : ∀ name, lastHash? MediaRecord.name MediaRecord.digest name onDevice =
      lastHash? MediaRecord.name MediaRecord.digest name onDevice') :
    mediaDiffer published onDevice = mediaDiffer published' onDevice' := by
  have hiff :
      mediaDiffer published onDevice = false ↔ mediaDiffer published' onDevice' = false := by
    rw [mediaDiffer_eq_false_iff_last, mediaDiffer_eq_false_iff_last]
    exact forall_congr' fun name ↦ by rw [hp, hd]
  rwa [Bool.eq_iff_iff, ← not_iff_not, Bool.not_eq_true, Bool.not_eq_true]

/-- The order of items of distinct names does not matter, on either side. -/
theorem mediaDiffer_of_sameByName (hp : SameByName (·.fileName) published published')
    (hd : SameByName (·.name) onDevice onDevice') :
    mediaDiffer published onDevice = mediaDiffer published' onDevice' :=
  mediaDiffer_congr hp.lastHash?_eq hd.lastHash?_eq

/-- Nothing but the names and the hashes of a manifest matters. -/
theorem mediaDiffer_of_map_eq (h : published.map (fun e ↦ (e.fileName, e.contentHash)) =
    published'.map fun e ↦ (e.fileName, e.contentHash)) :
    mediaDiffer published onDevice = mediaDiffer published' onDevice := by
  have hdigests := congrArg (List.map fun p ↦ (p.1, ContentKey.stripLabel p.2)) h
  rw [List.map_map, List.map_map] at hdigests
  refine mediaDiffer_congr (fun name ↦ ?_) fun _ ↦ rfl
  rw [← get?_ofList_map, ← get?_ofList_map]
  exact congrArg (fun files ↦ (FileHashes.ofList files).get? name) hdigests

theorem mediaDiffer_eq_false_iff_sameFiles :
    mediaDiffer published onDevice = false ↔ SameFiles published onDevice := by
  rw [mediaDiffer_eq_false_iff_last]
  constructor
  · intro h
    refine ⟨fun name ↦ ?_, fun e r he hr hname ↦ ?_⟩
    · rw [← not_iff_not, ← lastHash?_eq_none_iff, ← lastHash?_eq_none_iff, h]
    · have hlast := h e.fileName
      rw [lastHash?_of_isLast he, hname, lastHash?_of_isLast hr] at hlast
      exact Option.some.inj hlast
  · intro h name
    by_cases hmem : name ∈ published.map (·.fileName)
    · obtain ⟨e, rfl, he⟩ := exists_isLast hmem
      obtain ⟨r, hname, hr⟩ := exists_isLast ((h.names _).mp hmem)
      rw [lastHash?_of_isLast he, ← hname, lastHash?_of_isLast hr]
      exact congrArg some (h.hashes e r he hr hname.symm)
    · have hgone : name ∉ onDevice.map (·.name) := fun hdevice ↦ hmem ((h.names name).mpr hdevice)
      rw [lastHash?_eq_none_iff.mpr hmem, lastHash?_eq_none_iff.mpr hgone]

theorem moved_iff_not_sameFiles : Moved published onDevice ↔ ¬ SameFiles published onDevice := by
  constructor
  · rintro (⟨e, he, hnew⟩ | ⟨r, hr, hgone⟩ | ⟨e, r, he, hr, hname, hhash⟩) h
    · exact hnew ((h.names _).mp (List.mem_map_of_mem he))
    · exact hgone ((h.names _).mpr (List.mem_map_of_mem hr))
    · exact hhash (h.hashes e r he hr hname)
  · intro h
    by_contra hstill
    refine h ⟨fun name ↦ ⟨fun hmem ↦ ?_, fun hmem ↦ ?_⟩, fun e r he hr hname ↦ ?_⟩
    · obtain ⟨e, he, rfl⟩ := List.mem_map.mp hmem
      by_contra hnew
      exact hstill (.added e he hnew)
    · obtain ⟨r, hr, rfl⟩ := List.mem_map.mp hmem
      by_contra hgone
      exact hstill (.removed r hr hgone)
    · by_contra hhash
      exact hstill (.changed e r he hr hname hhash)

theorem mediaDiffer_eq_true_iff_moved :
    mediaDiffer published onDevice = true ↔ Moved published onDevice := by
  rw [moved_iff_not_sameFiles, ← mediaDiffer_eq_false_iff_sameFiles, Bool.not_eq_false]

/-- The full comparison of a form goes by its files, where its content is the same. -/
theorem returns_isUpdated {σ : Type} {device : Device σ} {form : Descriptor} {manifest : Manifest}
    {record : FormRecord} {s t : σ} (hmoved : Moved manifest.files onDevice)
    (hlists : device.mediaFiles form.formId form.version s = .ok onDevice t) :
    Op.Returns (device.isUpdated form (some manifest) record) s fun updated _ ↦
      updated = true := by
  unfold Device.isUpdated
  split
  · exact ⟨true, s, rfl, rfl⟩
  · exact ⟨_, t, Op.bind_of_ok hlists, mediaDiffer_eq_true_iff_moved.mpr hmoved⟩

end Comparison

/-- What the comparison of a manifest with the files on the device goes by. -/
structure ComparedAsMaps (published : List MediaEntry) (onDevice : List MediaRecord) : Prop where
  /-- The files do not differ exactly if they are the same by name and hash. -/
  same : mediaDiffer published onDevice = false ↔ SameFiles published onDevice
  /-- The files differ exactly if one was added, removed or changed. -/
  moved : mediaDiffer published onDevice = true ↔ Moved published onDevice
  /-- A hash is compared without the one label that it may have in front. -/
  labels : ∀ hash digest, ContentKey.stripLabel hash = digest ↔
    hash.toList = ContentKey.label ++ digest.toList ∨
      (hash = digest ∧ ¬ ContentKey.label <+: hash.toList)
  /-- The order of items of distinct names does not matter, on either side. -/
  order : ∀ published' onDevice', SameByName (·.fileName) published published' →
    SameByName (·.name) onDevice onDevice' →
      mediaDiffer published onDevice = mediaDiffer published' onDevice'
  /-- Where no name comes twice on either side, no order matters. -/
  shuffled : ∀ published' onDevice', published.Perm published' → onDevice.Perm onDevice' →
    (published'.map (·.fileName)).Nodup → (onDevice'.map (·.name)).Nodup →
      mediaDiffer published onDevice = mediaDiffer published' onDevice'
  /-- It does not matter where files are downloaded from. -/
  addresses : ∀ published', published.map (fun e ↦ (e.fileName, e.contentHash)) =
    published'.map (fun e ↦ (e.fileName, e.contentHash)) →
      mediaDiffer published onDevice = mediaDiffer published' onDevice
  /-- An entry of the manifest that a later one replaces does not matter. -/
  replaced : ∀ before e after, published = before ++ e :: after →
    (∃ f ∈ after, f.fileName = e.fileName) →
      mediaDiffer published onDevice = mediaDiffer (before ++ after) onDevice
  /-- Nor does a record of the device that a later one replaces. -/
  replacedOnDevice : ∀ before r after, onDevice = before ++ r :: after →
    (∃ f ∈ after, f.name = r.name) →
      mediaDiffer published onDevice = mediaDiffer published (before ++ after)
  /-- A form with this manifest is reported, if a file was added, removed or changed. -/
  reported : Moved published onDevice →
    ∀ (σ : Type) (device : Device σ) (form : Descriptor) (manifest : Manifest)
      (record : FormRecord) (s t : σ), manifest.files = published →
      device.mediaFiles form.formId form.version s = .ok onDevice t →
        Op.Returns (device.isUpdated form (some manifest) record) s fun updated _ ↦
          updated = true

/-- Media files are compared as finite maps from names to hashes. -/
theorem comparedAsMaps (published : List MediaEntry) (onDevice : List MediaRecord) :
    ComparedAsMaps published onDevice where
  same := mediaDiffer_eq_false_iff_sameFiles
  moved := mediaDiffer_eq_true_iff_moved
  labels _ _ := ContentKey.stripLabel_eq_iff
  order _ _ hp hd := mediaDiffer_of_sameByName hp hd
  shuffled _ _ hp hd hpnodup hdnodup :=
    mediaDiffer_of_sameByName (sameByName_of_perm hp hpnodup) (sameByName_of_perm hd hdnodup)
  addresses _ h := mediaDiffer_of_map_eq h
  replaced before e after hsplit hlater := by
    rw [hsplit]
    exact mediaDiffer_congr (fun _ ↦ lastHash?_replaced hlater) fun _ ↦ rfl
  replacedOnDevice before r after hsplit hlater := by
    rw [hsplit]
    exact mediaDiffer_congr (fun _ ↦ rfl) fun _ ↦ lastHash?_replaced hlater
  reported hmoved σ device form manifest record s t hfiles hlists := by
    rw [← hfiles] at hmoved
    exact returns_isUpdated hmoved hlists

end FormCatalog
