import FormCatalog.Proofs.Shelf.Arrival
import FormCatalog.Proofs.Shelf.Rows

/-!
# Rows that the disk bears out

A remembered key stands for a manifest, and the shortcut relies on the media files of that manifest
being there. `Row.Faithful` says that they are, if the manifest lists any, and that the media
directory of the row is where the form's media files are. One download and one deletion keep all
rows faithful (`Shelf.ends_download_faithful`, `Shelf.ends_delete_faithful`). A download moreover
settles its own form: when it returns, the key and the files are those of the manifest, and when it
fails, no key is left to rely on.
-/

set_option autoImplicit false
set_option relaxedAutoImplicit false

namespace FormCatalog

open Op

variable {N : Type}

/-- What the disk must hold for a row: the media directory, if the row has one, is that of the form,
the files there are those of some map, and, once the form is settled, the remembered key is that of
a manifest whose files are there, unless it lists none. `listing` says which files a manifest with
a hash lists. -/
structure Row.Faithful (row : Row) (forms : FormsDirectory) (listing : String → FileHashes)
    (d : Disk) (settled : Prop) : Prop where
  media : ∀ text, row.mediaPath = some text → text = (forms.mediaPath row.formId).text
  carries : ∃ hashes, d.Carries (forms.mediaPlace d.working row.formId) hashes
  key : settled → ∀ key, row.seenKey = some key → ∃ contentHash manifestHash,
    key = ContentKey.ofForm contentHash manifestHash ∧
      (listing (manifestHash.getD "") ≠ [] →
        d.Carries (forms.mediaPlace d.working row.formId) (listing (manifestHash.getD "")))

section Rows

variable {row : Row} {forms : FormsDirectory} {listing : String → FileHashes} {d d' : Disk}
  {settled settled' : Prop}

theorem Row.Faithful.mono (h : row.Faithful forms listing d settled)
    (himp : settled' → settled) : row.Faithful forms listing d settled' :=
  ⟨h.media, h.carries, fun hsettled ↦ h.key (himp hsettled)⟩

theorem Row.Faithful.of_files (h : row.Faithful forms listing d settled)
    (hworking : d'.working = d.working)
    (hfiles : d'.filesBelow (forms.mediaPlace d.working row.formId) =
      d.filesBelow (forms.mediaPlace d.working row.formId)) :
    row.Faithful forms listing d' settled := by
  have hcarries {hashes : FileHashes}
      (hd : d.Carries (forms.mediaPlace d.working row.formId) hashes) :
      d'.Carries (forms.mediaPlace d'.working row.formId) hashes := by
    rw [hworking]
    exact hd.of_files fun f ↦ by rw [hfiles]
  refine ⟨h.media, h.carries.imp fun _ ↦ hcarries, fun hsettled key hkey ↦ ?_⟩
  obtain ⟨contentHash, manifestHash, hform, hd⟩ := h.key hsettled key hkey
  exact ⟨contentHash, manifestHash, hform, fun hlists ↦ hcarries (hd hlists)⟩

/-- A row without a key is faithful as soon as it is so for an unsettled form. -/
theorem Row.Faithful.unseen (h : row.Faithful forms listing d False) :
    Row.Faithful { row with seenKey := none } forms listing d settled :=
  ⟨h.media, h.carries, fun _ _ hkey ↦ by cases hkey⟩

/-- The row of a form that has come with its media files is faithful. -/
theorem Row.faithful_rowOf {x : Details} {downloaded : Downloaded}
    (hpath : downloaded.mediaPath = x.manifest.map fun _ ↦ forms.mediaPath x.formId)
    (hcarries : d.Carries (forms.mediaPlace d.working x.formId)
      (FileHashes.ofEntries x.mediaFiles))
    (hlisting : listing ((x.manifest.map (·.hash)).getD "") = FileHashes.ofEntries x.mediaFiles) :
    (Shelf.rowOf x downloaded).Faithful forms listing d settled := by
  refine ⟨fun text htext ↦ ?_, ⟨_, hcarries⟩, fun _ key hkey ↦ ?_⟩
  · unfold Shelf.rowOf at htext
    dsimp only at htext
    rw [hpath, Option.map_map] at htext
    obtain ⟨-, -, rfl⟩ := Option.map_eq_some_iff.mp htext
    rfl
  · obtain rfl := Option.some.inj hkey
    exact ⟨x.descriptor.contentHash, x.manifest.map (·.hash), rfl, fun _ ↦ hlisting ▸ hcarries⟩

end Rows

namespace Shelf

variable {source : Source N} {forms : FormsDirectory} {fair : N → Prop} {sent : Fault → Prop}
  {listing : String → FileHashes} {settled : String → Prop} {s t : Site N}

/-- The form has a row in the table. -/
abbrev Stores (s : Site N) (formId : String) : Prop := (s.table.row? formId).isSome = true

/-- The table is in order, the disk is sound, and all rows are faithful; those of the forms that are
settled with their keys. -/
structure AllFaithful (forms : FormsDirectory) (listing : String → FileHashes)
    (settled : String → Prop) (s : Site N) : Prop where
  ordered : s.table.Ordered
  sound : s.disk.Sound
  plain : s.disk.working.Plain
  apart : StoredApart forms s
  rows : ∀ formId row, s.table.row? formId = some row →
    row.Faithful forms listing s.disk (settled formId)

theorem AllFaithful.mono {settled' : String → Prop} (h : AllFaithful forms listing settled s)
    (himp : ∀ formId, settled' formId → settled formId) : AllFaithful forms listing settled' s :=
  ⟨h.ordered, h.sound, h.plain, h.apart, fun formId row hrow ↦
    (h.rows formId row hrow).mono (himp formId)⟩

theorem Untouched.filesBelow_eq {formId : String} (h : Untouched forms formId s t) :
    t.disk.filesBelow (forms.mediaPlace s.disk.working formId) =
      s.disk.filesBelow (forms.mediaPlace s.disk.working formId) := by
  have htree := h.media
  rw [h.working] at htree
  exact Disk.filesBelow_eq_of_tree htree

theorem Untouched.refl (forms : FormsDirectory) (formId : String) (s : Site N) :
    Untouched forms formId s s := ⟨rfl, rfl, rfl, rfl⟩

theorem Untouched.trans {formId : String} {u : Site N} (h : Untouched forms formId s t)
    (h' : Untouched forms formId t u) : Untouched forms formId s u :=
  ⟨h'.working.trans h.working, h'.row.trans h.row, h'.definition.trans h.definition,
    h'.media.trans h.media⟩

/-- An untouched row stays faithful. -/
theorem AllFaithful.of_untouched (h : AllFaithful forms listing settled s) {formId : String}
    {row : Row} (huntouched : Untouched forms formId s t)
    (hrow : t.table.row? formId = some row) :
    row.Faithful forms listing t.disk (settled formId) := by
  rw [huntouched.row] at hrow
  obtain ⟨-, rfl⟩ := Table.mem_of_row? hrow
  exact (h.rows _ row hrow).of_files huntouched.working huntouched.filesBelow_eq

/-- What a download files in the table about its own form is faithful: the row of a form that has
come, or an earlier row without a key. -/
theorem Filed.faithful {x : Details} {outcome : Except Fault Downloaded} {table table' : Table}
    {d : Disk} (h : Filed x table outcome table')
    (hfailed : ∀ e, outcome = .error e → ∃ formId message, e = .download formId message)
    (hrow : ∀ row, table.row? x.formId = some row → row.Faithful forms listing d False)
    (hstored : ∀ downloaded, outcome = .ok downloaded →
      (rowOf x downloaded).Faithful forms listing d True) :
    ∀ row, table'.row? x.formId = some row → row.Faithful forms listing d True := by
  intro row hfound
  cases h with
  | stored downloaded =>
    have hput : (table.put (rowOf x downloaded)).row? x.formId = some (rowOf x downloaded) :=
      table.row?_put_self (rowOf x downloaded)
    rw [hput] at hfound
    cases hfound
    exact hstored downloaded rfl
  | forgotten =>
    rw [Table.row?_remember] at hfound
    obtain ⟨old, hold, rfl⟩ := Option.map_eq_some_iff.mp hfound
    rw [if_pos (Table.mem_of_row? hold).2]
    exact (hrow old hold).unseen
  | unseen _ _ hunseen =>
    refine ⟨(hrow row hfound).media, (hrow row hfound).carries, fun _ key hkey ↦ ?_⟩
    rw [hunseen row hfound] at hkey
    cases hkey
  | @left e hnot =>
    obtain ⟨formId, message, he⟩ := hfailed e rfl
    exact absurd he (hnot formId message)

/-- While a stored form is brought, the files at the place of its media files are those of some
map. -/
theorem AllFaithful.tidy (h : AllFaithful forms listing settled s) (hfair : fair s.net)
    (formId : String) :
    Download.Tidy fair s.disk.working (forms.mediaPlace s.disk.working formId)
      (Stores s formId) s := by
  refine ⟨h.sound, rfl, hfair, fun hstored ↦ ?_⟩
  obtain ⟨row, hrow⟩ := Option.isSome_iff_exists.mp hstored
  have hcarries := (h.rows formId row hrow).carries
  rwa [(Table.mem_of_row? hrow).2] at hcarries

/-- What a download leaves: nothing has happened to the other stored forms, and no other form has
come; its own form is settled if it returned or failed as a download; and if it returned, the media
files of the form have come. -/
structure Settles (forms : FormsDirectory) (listing : String → FileHashes)
    (settled : String → Prop) (fair : N → Prop) (x : Details) (s : Site N)
    (r : Except Fault Unit) (t : Site N) : Prop where
  net : fair t.net
  untouched : ∀ other, other ≠ x.formId → Stores s other → Untouched forms other s t
  stored : ∀ other, Stores t other → Stores s other ∨ other = x.formId
  faithful : (∀ e, r = .error e → ∃ formId message, e = .download formId message) →
    AllFaithful forms listing (fun id ↦ settled id ∨ id = x.formId) t
  arrived : r = .ok () → Stores t x.formId ∧
    t.disk.Carries (forms.mediaPlace t.disk.working x.formId) (FileHashes.ofEntries x.mediaFiles)

/-- A download settles its form and leaves every other stored form with another base name alone. -/
theorem ends_download_faithful (hsource : source.Answers fair sent) (x : Details)
    (hserves : ∀ f ∈ x.mediaFiles, source.Serves fair f)
    (hnames : ∀ f ∈ x.mediaFiles, CanonicalName f.fileName)
    (hlisting : listing ((x.manifest.map (·.hash)).getD "") = FileHashes.ofEntries x.mediaFiles)
    (h : AllFaithful forms listing settled s) (hfair : fair s.net)
    (hbases : ∀ other, other ≠ x.formId → Stores s other →
      FormsDirectory.baseName x.formId ≠ FormsDirectory.baseName other) :
    Ends (download source forms x) s fun r t ↦
      Settles forms listing settled fair x s r t := by
  refine ((ends_download_storedApart hsource x h.plain hfair h.apart).and (ends_download_filed
    ((Download.ends_run hsource x h.plain hfair).and (Download.ends_run_carries hsource x h.plain
      hserves hnames (h.tidy hfair x.formId))))).mono ?_
  rintro r t ⟨⟨hhandles, hapart⟩, outcome, u, ⟨hunderway, hu, hbrought⟩, hdisk, -, hfiled, hr⟩
  rw [hunderway.table] at hfiled
  have huntouched (other : String) (hne : other ≠ x.formId) (hstored : Stores s other) :
      Untouched forms other s t :=
    hhandles.untouched h.apart (hbases other hne hstored) hstored
  have hother {other : String} (hne : other ≠ x.formId) :
      t.table.row? other = s.table.row? other := hhandles.rows other (Ne.symm hne)
  have hcarried : ∀ downloaded, outcome = .ok downloaded →
      downloaded.mediaPath = x.manifest.map (fun _ ↦ forms.mediaPath x.formId) ∧
        t.disk.Carries (forms.mediaPlace t.disk.working x.formId)
          (FileHashes.ofEntries x.mediaFiles) := by
    rw [hhandles.working_eq, hdisk]
    exact hbrought
  refine ⟨hhandles.net, huntouched, fun other hstored ↦ ?_, fun hfailed ↦ ?_, fun hok ↦ ?_⟩
  · by_cases hid : other = x.formId
    · exact Or.inr hid
    · exact Or.inl (by rwa [Stores, ← hother hid])
  · -- the row of the form itself, by what was filed
    have hself : ∀ row, t.table.row? x.formId = some row →
        row.Faithful forms listing t.disk True := by
      refine hfiled.faithful (fun e he ↦ hfailed e (by rw [hr, he]; rfl)) (fun row hrow ↦ ?_)
        fun downloaded houtcome ↦
          Row.faithful_rowOf (hcarried downloaded houtcome).1 (hcarried downloaded houtcome).2
            hlisting
      refine ⟨(h.rows x.formId row hrow).media, ?_, False.elim⟩
      rw [(Table.mem_of_row? hrow).2, hhandles.working_eq, hdisk]
      exact hu.carries (by rw [Stores, hrow]; rfl)
    refine ⟨hfiled.ordered h.ordered, hdisk ▸ hu.sound, hhandles.working_eq ▸ h.plain, hapart,
      fun id row hrow ↦ ?_⟩
    by_cases hid : id = x.formId
    · subst hid
      exact (hself row hrow).mono fun _ ↦ trivial
    · have hstored : Stores s id := by
        rw [Stores, ← hother hid, hrow]
        rfl
      exact (h.of_untouched (huntouched id hid hstored) hrow).mono fun hsettled ↦
        hsettled.resolve_right hid
  · cases outcome with
    | error e =>
      rw [hr] at hok
      cases hok
    | ok downloaded => exact ⟨hfiled.isSome_of_ok, (hcarried downloaded rfl).2⟩

/-- Removing the files of a form leaves a sound disk. -/
theorem ends_delete_sound (formId : String) (h : s.disk.Sound) :
    Ends (delete forms formId) s fun _ t ↦ t.disk.Sound := by
  unfold delete
  rw [ends_bind, ends_get, Next]
  split
  · exact h
  · unfold Download.remove
    rw [ends_bind, Site.changeTable, ends_modify, Next, ends_bind, Download.ends_change]
    dsimp only
    have hclear {u : Site N} (hu : u.disk.Sound) :
        Ends (Download.clearDirectory (forms.mediaPath formId)) u fun _ t ↦ t.disk.Sound := by
      refine (Download.ends_clearDirectory _).mono ?_
      rintro _ _ (rfl | rfl)
      · exact hu
      · exact hu.clear _
    cases hremoved : s.disk.removeEntry (forms.formPath formId) with
    | error e => exact h
    | ok d => exact hclear (h.removeEntry hremoved)

/-- A deletion takes its form out of the table, and leaves every other stored form with another base
name alone. -/
theorem ends_delete_faithful (fair : N → Prop) (formId : String) (hfair : fair s.net)
    (h : AllFaithful forms listing settled s)
    (hbases : ∀ other, other ≠ formId → Stores s other →
      FormsDirectory.baseName formId ≠ FormsDirectory.baseName other) :
    Ends (delete forms formId) s fun _ t ↦ fair t.net ∧
      t.table = s.table.remove formId ∧
      (∀ other, other ≠ formId → Stores s other → Untouched forms other s t) ∧
      AllFaithful forms listing settled t := by
  refine ((ends_delete fair formId hfair).and ((ends_delete_storedApart fair formId hfair
    h.apart).and (ends_delete_sound formId h.sound))).mono ?_
  rintro r t ⟨⟨hhandles, htable⟩, ⟨-, hapart⟩, hsound⟩
  have huntouched (other : String) (hne : other ≠ formId) (hstored : Stores s other) :
      Untouched forms other s t :=
    hhandles.untouched h.apart (hbases other hne hstored) hstored
  refine ⟨hhandles.net, htable, huntouched, htable ▸ h.ordered.remove formId, hsound,
    hhandles.working_eq ▸ h.plain, hapart, fun id row hrow ↦ ?_⟩
  have hne : id ≠ formId := by
    rintro rfl
    rw [htable, Table.row?_remove_self] at hrow
    cases hrow
  have hstored : Stores s id := by
    rw [Stores, ← hhandles.rows id hne.symm, hrow]
    rfl
  exact h.of_untouched (huntouched id hne hstored) hrow

end Shelf

end FormCatalog
