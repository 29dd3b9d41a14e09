import FormCatalog.Proofs.Shelf.Directory
import FormCatalog.Proofs.Shelf.Faithful
import FormCatalog.Proofs.Shelf.Stock

/-!
# Forms that stay as they are

A pass leaves a listed form as it is when the remembered key is the published one or the comparison
in full finds nothing. Where the rows are faithful, both are right about the media files of the
form, if its manifest lists any: they are those of the manifest (`Shelf.carries_of_unneeded`). If it
lists none, nothing is said; the comparison does not even look at them.

The snapshot of a pass remembers the published key for every listed form that is on the device. For
a form that is to be downloaded this comes too early; the rows of all others stay faithful
(`Shelf.AllFaithful.of_snapshot`).
-/

set_option autoImplicit false
set_option relaxedAutoImplicit false

namespace FormCatalog

open Op

variable {N : Type}

/-! ### What a standing says -/

namespace Reading

variable {reading : Reading} {d : Descriptor} {manifest : Option Manifest}

/-- A form that needs no download has a record, and it took the shortcut or does not differ. -/
theorem standing_unneeded (h : reading.standing d manifest = .ok ⟨false, false⟩) :
    ∃ record, Catalog.recordOf? reading.records d.formId = some record ∧
      (record.seenKey = some (d.key manifest) ∨
        reading.differs d manifest record = .ok false) := by
  unfold standing at h
  cases hrecord : Catalog.recordOf? reading.records d.formId with
  | none =>
    rw [hrecord] at h
    cases h
  | some record =>
    refine ⟨record, rfl, ?_⟩
    rw [hrecord] at h
    dsimp only at h
    split at h
    · rename_i hseen
      exact Or.inl hseen
    · cases hdiffers : reading.differs d manifest record with
      | error e =>
        rw [hdiffers] at h
        cases h
      | ok differs =>
        rw [hdiffers] at h
        cases h
        exact Or.inr rfl

/-- When a form with a manifest does not differ, its media files on the device do not. -/
theorem media_of_differs {m : Manifest} {record : FormRecord}
    (h : reading.differs d (some m) record = .ok false) :
    ∃ files, reading.media d.formId d.version = .ok files ∧
      mediaDiffer m.files files = false := by
  unfold differs at h
  split at h
  · cases h
  · dsimp only at h
    cases hmedia : reading.media d.formId d.version with
    | error e =>
      rw [hmedia] at h
      cases h
    | ok files =>
      rw [hmedia] at h
      exact ⟨files, rfl, Except.ok.inj h⟩

end Reading

/-! ### What the shelf says the media files are -/

/-- The text of the media directory in a row leads to the place of the media files. -/
theorem FormsDirectory.resolve_ofText_mediaPath {forms : FormsDirectory}
    (hwritten : forms.path.Written) (working : Place) (formId : String) :
    (Path.ofText (forms.mediaPath formId).text).resolve working =
      forms.mediaPlace working formId := by
  rw [mediaPath, Owns.media.ofText_text hwritten]
  rfl

/-- Rows are known by their records and what they are without their keys. -/
theorem Table.eq_map_of_record {f : FormRecord → FormRecord} {table table' : Table}
    (hkeyless : table'.withoutKeys = table.withoutKeys)
    (hrecords : table'.map (·.record) = (table.map (·.record)).map f) :
    table' = table.map fun row ↦ { row with seenKey := (f row.record).seenKey } := by
  induction table generalizing table' with
  | nil =>
    cases table' with
    | nil => rfl
    | cons row' rest' => cases hrecords
  | cons row rest ih =>
    cases table' with
    | nil => cases hrecords
    | cons row' rest' =>
      obtain ⟨hkeyless, hkeylessRest⟩ := List.cons.inj hkeyless
      obtain ⟨hrecord, hrecordsRest⟩ := List.cons.inj hrecords
      rw [List.map_cons, ← ih hkeylessRest hrecordsRest]
      congr 1
      have hseen : row'.seenKey = (f row.record).seenKey := congrArg FormRecord.seenKey hrecord
      rw [← hseen]
      cases row
      cases row'
      cases hkeyless
      rfl

namespace Shelf

theorem mediaIn_eq_ok {d : Disk} {p : Path} {files : List MediaRecord}
    (h : mediaIn d p = .ok files) : files = [] ∨ files = d.recordsBelow (p.resolve d.working) := by
  unfold mediaIn at h
  cases hlook : d.look p with
  | error e =>
    rw [hlook] at h
    cases h
  | ok found =>
    rw [hlook] at h
    match found with
    | none => exact Or.inl (Except.ok.inj h).symm
    | some (place, .file _) => exact Or.inl (Except.ok.inj h).symm
    | some (place, .directory) =>
      have hprobe := Disk.probe_eq_ok_iff.mp (Disk.look_eq_some hlook)
      rw [← Disk.eq_resolve_of_locate hprobe.1]
      exact Or.inr (Except.ok.inj h).symm

/-- The shelf gives no media files, or those at the directory in the row of the form. -/
theorem mediaAt_eq_ok {d : Disk} {table : Table} {formId : String} {version : Option String}
    {files : List MediaRecord} (h : mediaAt d table formId version = .ok files) :
    files = [] ∨ ∃ row text, table.row? formId = some row ∧ row.mediaPath = some text ∧
      files = d.recordsBelow ((Path.ofText text).resolve d.working) := by
  unfold mediaAt at h
  split at h
  · rename_i row hrow
    split at h
    · rename_i text htext
      split at h
      · exact (mediaIn_eq_ok h).imp_right fun hfiles ↦ ⟨row, text, hrow, htext, hfiles⟩
      · exact Or.inl (Except.ok.inj h).symm
    · exact Or.inl (Except.ok.inj h).symm
  · exact Or.inl (Except.ok.inj h).symm

/-! ### Forms that need no download -/

variable {source : Source N} {forms : FormsDirectory} {listing : String → FileHashes}
  {settled : String → Prop} {s s₁ : Site N} {x : Details} {xs : List Details}

/-- A form that needs no download has the media files of its manifest, if the manifest lists any:
the key that was remembered stands for them, or they have just been compared. -/
theorem carries_of_unneeded (h : AllFaithful forms listing settled s)
    (hwritten : forms.path.Written) (hsettled : settled x.formId)
    (hlisting : listing ((x.manifest.map (·.hash)).getD "") = FileHashes.ofEntries x.mediaFiles)
    (hstanding : Reading.standing ⟨s.table.map (·.record), mediaAt s.disk s.table⟩ x.descriptor
      x.manifest = .ok ⟨false, false⟩) (hfiles : x.mediaFiles ≠ []) :
    s.disk.Carries (forms.mediaPlace s.disk.working x.formId)
      (FileHashes.ofEntries x.mediaFiles) := by
  obtain ⟨record, hrecord, hsame⟩ := Reading.standing_unneeded hstanding
  dsimp only at hrecord
  rw [h.ordered.recordOf?_map_record] at hrecord
  obtain ⟨row, hrow, rfl⟩ := Option.map_eq_some_iff.mp hrecord
  have hfaithful := h.rows x.formId row hrow
  have hid : row.formId = x.formId := (Table.mem_of_row? hrow).2
  rcases hsame with hseen | hsame
  · obtain ⟨contentHash, manifestHash, hkey, hcarries⟩ := hfaithful.key hsettled _ hseen
    obtain ⟨-, hhash⟩ := ContentKey.ofForm_eq_iff.mp hkey
    rw [← hhash, hlisting, hid] at hcarries
    exact hcarries fun hempty ↦ hfiles (FileHashes.ofEntries_eq_nil_iff.mp hempty)
  · cases hmanifest : x.manifest with
    | none => exact absurd (by simp [Details.mediaFiles, hmanifest]) hfiles
    | some m =>
      have hlists : x.mediaFiles = m.files := by simp [Details.mediaFiles, hmanifest]
      rw [hmanifest] at hsame
      obtain ⟨files, hmedia, hequal⟩ := Reading.media_of_differs hsame
      rw [← hlists] at hequal
      rcases mediaAt_eq_ok hmedia with rfl | ⟨row', text, hrow', htext, rfl⟩
      · exact absurd (eq_nil_of_not_mediaDiffer hequal) hfiles
      · have hsamerow : some row = some row' := hrow.symm.trans hrow'
        cases hsamerow
        obtain ⟨hashes, hcarries⟩ := hfaithful.carries
        rw [hfaithful.media text htext, FormsDirectory.resolve_ofText_mediaPath hwritten, hid]
          at hequal
        rw [hid] at hcarries
        exact hcarries.of_unchanged hequal

/-! ### The snapshot of a pass -/

/-- The rows of a table once the snapshot of a pass has remembered the keys of the listed forms. -/
def rekeyed (table : Table) (xs : List Details) (row : Row) : Row :=
  { row with seenKey := (Stock.reseen (table.map (·.record)) xs row.record).seenKey }

@[simp] theorem formId_rekeyed (table : Table) (xs : List Details) (row : Row) :
    (rekeyed table xs row).formId = row.formId := rfl

/-- What a snapshot of the shelf leaves, and what its entries say: the disk as it was, the rows with
their new keys, and each listed form as it stood when the snapshot began. -/
structure Noticed (s : Site N) (xs : List Details) (s₁ : Site N) : Prop where
  disk : s₁.disk = s.disk
  table : s₁.table = s.table.map (rekeyed s.table xs)
  standing : ∀ x ∈ xs, Reading.standing ⟨s.table.map (·.record), mediaAt s.disk s.table⟩
    x.descriptor x.manifest = .ok ⟨x.notOnDevice, x.updated⟩

theorem noticed_of_snapshot {catalog : Catalog (Site N)}
    (hdevice : catalog.device = device source forms) (hserver : catalog.server.Leaves stock)
    (hsnapshot : catalog.snapshot true s = .ok xs s₁) : Noticed s xs s₁ := by
  have hstocks := device_stocks source forms
  rw [← hdevice] at hstocks
  obtain ⟨hstock, hstanding⟩ :=
    (Catalog.ends_snapshot_of_stocks hserver hstocks true s).of_ok hsnapshot xs rfl
  rw [Stock.compared_true] at hstock
  have hrecords := congrArg Stock.records hstock
  have hrest := congrArg Stock.rest hstock
  obtain ⟨hdisk, hkeyless⟩ := Prod.mk.inj hrest
  refine ⟨hdisk, Table.eq_map_of_record hkeyless hrecords, fun x hx ↦ ?_⟩
  have hx := hstanding x hx
  rwa [stock, mediaAt_withoutKeys] at hx

theorem Noticed.row? (h : Noticed s xs s₁) (formId : String) :
    s₁.table.row? formId = (s.table.row? formId).map (rekeyed s.table xs) := by
  rw [h.table]
  exact Table.row?_map (formId_rekeyed s.table xs) s.table formId

theorem Noticed.stores_iff (h : Noticed s xs s₁) {formId : String} :
    Stores s₁ formId ↔ Stores s formId := by
  rw [Stores, Stores, h.row?, Option.isSome_map]

theorem standing_of_unneeded (hneeds : x.needsDownload = false) :
    (⟨x.notOnDevice, x.updated⟩ : Standing) = ⟨false, false⟩ := by
  obtain ⟨hnew, hupdated⟩ := Bool.or_eq_false_iff.mp hneeds
  rw [hnew, hupdated]

/-- A form that needs no download is stored. -/
theorem Noticed.stores (h : Noticed s xs s₁) (hordered : s.table.Ordered) (hx : x ∈ xs)
    (hneeds : x.needsDownload = false) : Stores s x.formId := by
  have hstanding := h.standing x hx
  rw [standing_of_unneeded hneeds] at hstanding
  obtain ⟨record, hrecord, -⟩ := Reading.standing_unneeded hstanding
  obtain ⟨row, hrow, -⟩ := Option.map_eq_some_iff.mp
    ((hordered.recordOf?_map_record x.formId).symm.trans hrecord)
  rw [Stores, hrow]
  rfl

/-- A catalog as a pass reads it. No two forms have one base name; the hash of a manifest tells
which files it lists, as `listing` says; the files have canonical names, and what is sent for them
is what their digests say. -/
structure Lists (source : Source N) (listing : String → FileHashes) (net : N)
    (xs : List Details) : Prop where
  names : (xs.map fun x ↦ FormsDirectory.baseName x.formId).Nodup
  manifests : ∀ x ∈ xs,
    listing ((x.manifest.map (·.hash)).getD "") = FileHashes.ofEntries x.mediaFiles
  canonical : ∀ x ∈ xs, ∀ f ∈ x.mediaFiles, CanonicalName f.fileName
  serves : ∃ fair : N → Prop, source.Answers fair (fun _ ↦ True) ∧ fair net ∧
    ∀ x ∈ xs, ∀ f ∈ x.mediaFiles, source.Serves fair f

/-- Listed forms with one base name are one form. -/
theorem Lists.eq_of_baseName {net : N} (h : Lists source listing net xs) {y : Details}
    (hx : x ∈ xs) (hy : y ∈ xs)
    (hbase : FormsDirectory.baseName x.formId = FormsDirectory.baseName y.formId) : x = y :=
  List.inj_on_of_nodup_map h.names hx hy hbase

theorem Lists.nodup {net : N} (h : Lists source listing net xs) :
    (xs.map (·.formId)).Nodup := by
  refine List.Nodup.of_map FormsDirectory.baseName ?_
  rw [List.map_map]
  exact h.names

/-- After the snapshot of a pass the rows are faithful, but for the keys of the forms that are to be
downloaded. -/
theorem AllFaithful.of_snapshot {net : N} (h : AllFaithful forms listing (fun _ ↦ True) s)
    (hwritten : forms.path.Written) (hlists : Lists source listing net xs)
    (hnoticed : Noticed s xs s₁) :
    AllFaithful forms listing (fun id ↦ ∀ x ∈ xs, x.formId = id → x.needsDownload = false) s₁ where
  ordered := by
    rw [hnoticed.table]
    exact h.ordered.map (formId_rekeyed s.table xs)
  sound := hnoticed.disk ▸ h.sound
  plain := hnoticed.disk ▸ h.plain
  apart formId hstored := by
    rw [hnoticed.disk]
    exact h.apart formId (hnoticed.stores_iff.mp hstored)
  rows formId row₁ hrow₁ := by
    rw [hnoticed.row?] at hrow₁
    obtain ⟨row, hrow, rfl⟩ := Option.map_eq_some_iff.mp hrow₁
    have hfaithful := h.rows formId row hrow
    rw [hnoticed.disk]
    refine ⟨hfaithful.media, hfaithful.carries, fun hsettled key hkey ↦ ?_⟩
    obtain ⟨-, rfl⟩ := Table.mem_of_row? hrow
    by_cases hlisted : row.formId ∈ xs.map (·.formId)
    · obtain ⟨x, hx, hid⟩ := List.mem_map.mp hlisted
      have hrecord : Catalog.recordOf? (s.table.map (·.record)) x.formId = some row.record := by
        rw [h.ordered.recordOf?_map_record, hid, hrow]
        rfl
      have hnew : some x.key = some key :=
        (Stock.seenKey_reseen_of_mem hlists.nodup hx hrecord).symm.trans hkey
      cases hnew
      refine ⟨x.descriptor.contentHash, x.manifest.map (·.hash), rfl, fun hsome ↦ ?_⟩
      rw [hlists.manifests x hx] at hsome ⊢
      have hstanding := hnoticed.standing x hx
      rw [standing_of_unneeded (hsettled x hx hid)] at hstanding
      rw [rekeyed, ← hid]
      exact carries_of_unneeded h hwritten trivial (hlists.manifests x hx) hstanding fun hempty ↦
        hsome (FileHashes.ofEntries_eq_nil_iff.mpr hempty)
    · have hold : row.seenKey = some key := by
        unfold rekeyed at hkey
        dsimp only at hkey
        rwa [Stock.reseen_of_not_mem hlisted] at hkey
      exact hfaithful.key trivial key hold

end Shelf

end FormCatalog
