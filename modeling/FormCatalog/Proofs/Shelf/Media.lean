import FormCatalog.Proofs.Catalog.FileHashes
import FormCatalog.Proofs.Catalog.Keys
import FormCatalog.Proofs.Digest.Pieces
import FormCatalog.Proofs.Disk.Sound
import FormCatalog.Proofs.Disk.Written
import FormCatalog.Shelf.Basic

/-!
# The media files at a place

`Disk.Carries` says that the files below a place are those of a map from names to digests, such as a
manifest describes. What a comparison in full asks for is enough to tell: where the files are those
of some map and the comparison finds no difference from a manifest, they are those of the manifest
(`Carries.of_unchanged`).

While media files are being collected, each file is moreover at the place that its name leads to
(`Disk.Collected`), so one more file takes the place of an earlier one with the same name and of no
other one (`Collected.write`).
-/

set_option autoImplicit false
set_option relaxedAutoImplicit false

namespace FormCatalog

theorem FileHashes.get?_ofEntries_concat (files : List MediaEntry) (f : MediaEntry)
    (name : String) :
    (ofEntries (files ++ [f])).get? name =
      if f.fileName = name then some (ContentKey.stripLabel f.contentHash)
      else (ofEntries files).get? name := by
  unfold ofEntries
  rw [List.map_append, List.map_singleton, get?_ofList_concat]

theorem FileHashes.exists_of_get?_ofEntries {files : List MediaEntry} {name hash : String}
    (h : (ofEntries files).get? name = some hash) : ∃ f ∈ files, f.fileName = name := by
  obtain ⟨f, hf, hpair⟩ := List.mem_map.mp (mem_of_get?_ofList h)
  exact ⟨f, hf, congrArg Prod.fst hpair⟩

theorem FileHashes.exists_get?_ofEntries {files : List MediaEntry} {f : MediaEntry}
    (hf : f ∈ files) : ∃ hash, (ofEntries files).get? f.fileName = some hash := by
  have hentry : (f.fileName, ContentKey.stripLabel f.contentHash) ∈
      files.map fun f ↦ (f.fileName, ContentKey.stripLabel f.contentHash) :=
    List.mem_map.mpr ⟨f, hf, rfl⟩
  exact exists_get?_ofList hentry

/-- A manifest that does not differ from no files lists none. -/
theorem eq_nil_of_not_mediaDiffer {files : List MediaEntry}
    (h : mediaDiffer files [] = false) : files = [] := by
  rw [mediaDiffer_eq_false_iff] at h
  refine List.eq_nil_iff_forall_not_mem.mpr fun f hf ↦ ?_
  obtain ⟨hash, hhash⟩ := FileHashes.exists_get?_ofEntries hf
  rw [h] at hhash
  cases hhash

theorem FileHashes.ofEntries_eq_nil_iff {files : List MediaEntry} :
    ofEntries files = [] ↔ files = [] := by
  refine ⟨fun h ↦ List.eq_nil_iff_forall_not_mem.mpr fun f hf ↦ ?_, fun h ↦ by rw [h]; rfl⟩
  obtain ⟨hash, hhash⟩ := exists_get?_ofEntries hf
  rw [h] at hhash
  cases hhash

namespace Disk

variable {d d' : Disk} {place : Place} {files done : List MediaEntry} {hashes : FileHashes}

/-- The files below a place are those of a map, by name and digest. -/
structure Carries (d : Disk) (place : Place) (hashes : FileHashes) : Prop where
  /-- Every file is in the map, under its name and with its digest. -/
  listed : ∀ f ∈ d.filesBelow place,
    hashes.get? ("/".intercalate f.1) = some (ContentKey.ofBytes f.2)
  /-- Every file of the map is there. -/
  kept : ∀ name hash, hashes.get? name = some hash →
    ∃ f ∈ d.filesBelow place, "/".intercalate f.1 = name ∧ ContentKey.ofBytes f.2 = hash

theorem carries_nil_iff : d.Carries place [] ↔ d.filesBelow place = [] := by
  constructor
  · intro h
    refine List.eq_nil_iff_forall_not_mem.mpr fun f hf ↦ ?_
    cases h.listed f hf
  · intro h
    refine ⟨fun f hf ↦ ?_, fun name hash hlisted ↦ by cases hlisted⟩
    rw [h] at hf
    cases hf

theorem Carries.of_files (h : d.Carries place hashes)
    (hsame : ∀ f, f ∈ d'.filesBelow place ↔ f ∈ d.filesBelow place) :
    d'.Carries place hashes where
  listed f hf := h.listed f ((hsame f).mp hf)
  kept name hash hlisted := by
    obtain ⟨f, hf, hname⟩ := h.kept name hash hlisted
    exact ⟨f, (hsame f).mpr hf, hname⟩

/-- What the device says that the media files at a place are. -/
def recordsBelow (d : Disk) (place : Place) : List MediaRecord :=
  (d.filesBelow place).map fun f ↦ ⟨"/".intercalate f.1, ContentKey.ofFile f.2⟩

/-- The device names each file by its path from there, and its hash is the digest. -/
theorem ofRecords_recordsBelow (d : Disk) (place : Place) :
    FileHashes.ofRecords (d.recordsBelow place) = FileHashes.ofList
      ((d.filesBelow place).map fun f ↦ ("/".intercalate f.1, ContentKey.ofBytes f.2)) := by
  unfold FileHashes.ofRecords recordsBelow
  rw [List.map_map]
  congr 1
  refine List.map_congr_left fun f _ ↦ ?_
  dsimp only [Function.comp]
  rw [ContentKey.ofFile_eq_ofBytes, ContentKey.stripLabel_ofBytes]

/-- What the device says of a name is the digest of a file there with this name. -/
theorem exists_of_get?_recordsBelow {name hash : String}
    (h : (FileHashes.ofRecords (d.recordsBelow place)).get? name = some hash) :
    ∃ f ∈ d.filesBelow place, "/".intercalate f.1 = name ∧ ContentKey.ofBytes f.2 = hash := by
  rw [ofRecords_recordsBelow] at h
  obtain ⟨f, hf, hpair⟩ := List.mem_map.mp (FileHashes.mem_of_get?_ofList h)
  exact ⟨f, hf, Prod.mk.inj hpair⟩

/-- The device says something of the name of each file there. -/
theorem exists_get?_recordsBelow {f : Place × Bytes} (hf : f ∈ d.filesBelow place) :
    ∃ hash, (FileHashes.ofRecords (d.recordsBelow place)).get? ("/".intercalate f.1) =
      some hash := by
  have hentry : ("/".intercalate f.1, ContentKey.ofBytes f.2) ∈
      (d.filesBelow place).map fun f ↦ ("/".intercalate f.1, ContentKey.ofBytes f.2) :=
    List.mem_map.mpr ⟨f, hf, rfl⟩
  rw [ofRecords_recordsBelow]
  exact FileHashes.exists_get?_ofList hentry

/-- Where the files are those of some map, no name has two digests, so a comparison that finds no
difference has seen the files of the manifest. -/
theorem Carries.of_unchanged (h : d.Carries place hashes)
    (hsame : mediaDiffer files (d.recordsBelow place) = false) :
    d.Carries place (FileHashes.ofEntries files) := by
  rw [mediaDiffer_eq_false_iff] at hsame
  constructor
  · intro f hf
    obtain ⟨hash, hhash⟩ := exists_get?_recordsBelow hf
    obtain ⟨g, hg, hname, rfl⟩ := exists_of_get?_recordsBelow hhash
    have hdigests : some (ContentKey.ofBytes g.2) = some (ContentKey.ofBytes f.2) := by
      rw [← h.listed g hg, ← h.listed f hf, hname]
    rw [hsame, hhash, hdigests]
  · intro name hash hlisted
    rw [hsame] at hlisted
    exact exists_of_get?_recordsBelow hlisted

/-- Where the files are those of the manifest, the comparison finds no difference. -/
theorem Carries.not_mediaDiffer (h : d.Carries place (FileHashes.ofEntries files)) :
    mediaDiffer files (d.recordsBelow place) = false := by
  rw [mediaDiffer_eq_false_iff]
  intro name
  cases hdevice : (FileHashes.ofRecords (d.recordsBelow place)).get? name with
  | some hash =>
    obtain ⟨f, hf, rfl, rfl⟩ := exists_of_get?_recordsBelow hdevice
    exact h.listed f hf
  | none =>
    cases hlisted : (FileHashes.ofEntries files).get? name with
    | none => rfl
    | some hash =>
      obtain ⟨f, hf, rfl, -⟩ := h.kept name hash hlisted
      obtain ⟨other, hother⟩ := exists_get?_recordsBelow hf
      rw [hdevice] at hother
      cases hother

/-! ### Collecting media files -/

/-- The files below a place are those of a list, each at the place that its name leads to. -/
structure Collected (d : Disk) (place : Place) (files : List MediaEntry) : Prop where
  only : ∀ f ∈ d.filesBelow place, ∃ name, f.1 = (Path.ofText name).parts ∧
    (FileHashes.ofEntries files).get? name = some (ContentKey.ofBytes f.2)
  all : ∀ name hash, (FileHashes.ofEntries files).get? name = some hash →
    ∃ content, ((Path.ofText name).parts, content) ∈ d.filesBelow place ∧
      ContentKey.ofBytes content = hash

theorem collected_nil (h : d.filesBelow place = []) : d.Collected place [] where
  only f hf := by
    rw [h] at hf
    cases hf
  all name hash hlisted := by cases hlisted

/-- Files that are carried to another place stay collected. -/
theorem Collected.of_files {place' : Place} (h : d.Collected place files)
    (hsame : ∀ f, f ∈ d'.filesBelow place' ↔ f ∈ d.filesBelow place) :
    d'.Collected place' files where
  only f hf := h.only f ((hsame f).mp hf)
  all name hash hlisted := by
    obtain ⟨content, hmem, hcontent⟩ := h.all name hash hlisted
    exact ⟨content, (hsame _).mpr hmem, hcontent⟩

/-- Under canonical names the places say the names. -/
theorem Collected.carries (h : d.Collected place files)
    (hnames : ∀ f ∈ files, CanonicalName f.fileName) :
    d.Carries place (FileHashes.ofEntries files) := by
  have hwritten {name hash : String}
      (hlisted : (FileHashes.ofEntries files).get? name = some hash) :
      "/".intercalate (Path.ofText name).parts = name := by
    obtain ⟨f, hf, rfl⟩ := FileHashes.exists_of_get?_ofEntries hlisted
    exact (hnames f hf).written
  constructor
  · intro f hf
    obtain ⟨name, hplace, hlisted⟩ := h.only f hf
    rw [hplace, hwritten hlisted, hlisted]
  · intro name hash hlisted
    obtain ⟨content, hmem, hcontent⟩ := h.all name hash hlisted
    exact ⟨_, hmem, hwritten hlisted, hcontent⟩

/-- One more file is written where its name leads, in the place of an earlier one with its name. -/
theorem Collected.write (h : d.Collected place done) {f : MediaEntry} {content : Bytes}
    (hnames : ∀ g ∈ done ++ [f], CanonicalName g.fileName)
    (hcontent : ContentKey.ofBytes content = ContentKey.stripLabel f.contentHash) :
    (d.put (place ++ (Path.ofText f.fileName).parts) (.file content)).Collected place
      (done ++ [f]) := by
  have hf : CanonicalName f.fileName := hnames f (List.mem_append_right _ List.mem_cons_self)
  have hmem {below : Place} {c : Bytes} :
      (below, c) ∈ (d.put (place ++ (Path.ofText f.fileName).parts) (.file content)).filesBelow
          place ↔
        below = (Path.ofText f.fileName).parts ∧ c = content ∨
          below ≠ (Path.ofText f.fileName).parts ∧ (below, c) ∈ d.filesBelow place := by
    simp only [mem_filesBelow, mem_put, ne_eq, List.append_cancel_left_eq, Item.file.injEq]
    constructor
    · rintro ⟨hne, hhere | ⟨hother, hold⟩⟩
      · exact Or.inl hhere
      · exact Or.inr ⟨hother, hne, hold⟩
    · rintro (⟨rfl, hc⟩ | ⟨hother, hne, hold⟩)
      · exact ⟨hf.named, Or.inl ⟨rfl, hc⟩⟩
      · exact ⟨hne, Or.inr ⟨hother, hold⟩⟩
  constructor
  · rintro ⟨below, c⟩ hfile
    rcases hmem.mp hfile with ⟨rfl, rfl⟩ | ⟨hother, hold⟩
    · refine ⟨f.fileName, rfl, ?_⟩
      rw [FileHashes.get?_ofEntries_concat, if_pos rfl, hcontent]
    · obtain ⟨name, hbelow, hlisted⟩ := h.only _ hold
      refine ⟨name, hbelow, ?_⟩
      rw [FileHashes.get?_ofEntries_concat, if_neg, hlisted]
      rintro rfl
      exact hother hbelow
  · intro name hash hlisted
    rw [FileHashes.get?_ofEntries_concat] at hlisted
    split at hlisted
    · rename_i hname
      cases hlisted
      subst hname
      exact ⟨content, hmem.mpr (Or.inl ⟨rfl, rfl⟩), hcontent⟩
    · rename_i hname
      obtain ⟨c, hold, hc⟩ := h.all name hash hlisted
      refine ⟨c, hmem.mpr (Or.inr ⟨fun hsame ↦ hname ?_, hold⟩), hc⟩
      -- two canonical names that lead to one place are the same name
      obtain ⟨g, hg, rfl⟩ := FileHashes.exists_of_get?_ofEntries hlisted
      rw [← (hnames g (List.mem_append_left _ hg)).written, hsame, hf.written]

end Disk

end FormCatalog
