import FormCatalog.Proofs.Shelf.Staging

/-!
# Records and disk stay consistent

A shelf that starts with an empty table and an empty directory of forms, which may not even have
been made yet (`Shelf.Blank`), keeps the two in step from the first form on (`Shelf.InStep`): every
row has its definition on the disk, with the digest that the row says, and its media directory if it
names one, and nothing is in the directory that is not a row's. A download that fails leaves the
directory as it was and changes no more than a remembered key; one that returns replaces what the
form had; and a deletion takes away the row with all that is the row's. So the records and the disk
agree after every chronicle (`Shelf.consistent_of_chronicle`), as long as no two of the forms have
one base name.
-/

set_option autoImplicit false
set_option relaxedAutoImplicit false

namespace FormCatalog

open Op

variable {N : Type}

/-- The disk holds what a row says: the definition of the form with its digest, and the media
directory, if the row names one. -/
structure Row.Backed (row : Row) (forms : FormsDirectory) (d : Disk) : Prop where
  fits : forms.Fits (FormsDirectory.baseName row.formId ++ "-media")
  formPath : row.formPath = (forms.formPath row.formId).text
  definition : ∃ content, (forms.path.resolve d.working ++
    [FormsDirectory.baseName row.formId ++ ".xml"], .file content) ∈ d.items ∧
      ContentKey.ofBytes content = row.contentHash
  media : ∀ text, row.mediaPath = some text → text = (forms.mediaPath row.formId).text ∧
    (forms.path.resolve d.working ++ [FormsDirectory.baseName row.formId ++ "-media"],
      .directory) ∈ d.items

/-- What is in the directory of forms under a name, or below the name, is a row's: it is the
definition, or at or below the media directory that the row names. -/
def Row.Claims (row : Row) (name : String) (below : Place) : Prop :=
  (name = FormsDirectory.baseName row.formId ++ ".xml" ∧ below = []) ∨
    (name = FormsDirectory.baseName row.formId ++ "-media" ∧ row.mediaPath.isSome = true)

theorem Row.Claims.owns {row : Row} {name : String} {below : Place}
    (h : row.Claims name below) : FormsDirectory.Owns row.formId name := by
  rcases h with ⟨rfl, -⟩ | ⟨rfl, -⟩
  · exact .definition
  · exact .media

/-- A row is backed as long as its two places are as they were. -/
theorem Row.Backed.of_kept {row : Row} {forms : FormsDirectory} {d d' : Disk}
    (h : row.Backed forms d) (hworking : d'.working = d.working)
    (hkept : ∀ name item, FormsDirectory.Owns row.formId name →
      (forms.path.resolve d.working ++ [name], item) ∈ d.items →
        (forms.path.resolve d.working ++ [name], item) ∈ d'.items) : row.Backed forms d' where
  fits := h.fits
  formPath := h.formPath
  definition := by
    obtain ⟨content, hmem, hhash⟩ := h.definition
    rw [hworking]
    exact ⟨content, hkept _ _ .definition hmem, hhash⟩
  media text htext := by
    rw [hworking]
    exact ⟨(h.media text htext).1, hkept _ _ .media (h.media text htext).2⟩

namespace Shelf

/-- The table and the disk are in step: the rows are backed, and the directory of forms holds
nothing that is not a row's. -/
structure InStep (forms : FormsDirectory) (table : Table) (d : Disk) : Prop where
  ready : forms.Ready d
  ordered : table.Ordered
  rows : ∀ row ∈ table, row.Backed forms d
  only : ∀ name below item, (forms.path.resolve d.working ++ name :: below, item) ∈ d.items →
    ∃ row ∈ table, row.Claims name below

/-- An id has its base name to itself among the rows. -/
def Unshared (table : Table) (formId : String) : Prop :=
  ∀ row ∈ table, FormsDirectory.baseName row.formId = FormsDirectory.baseName formId →
    row.formId = formId

variable {source : Source N} {forms : FormsDirectory} {table table' : Table} {d d' : Disk}
  {formId : String} {x : Details} {content : Bytes} {s : Site N}

/-- Another row owns no name of a form that has its base name to itself. -/
theorem Unshared.not_owns (h : Unshared table formId) {row : Row} (hrow : row ∈ table)
    (hid : row.formId ≠ formId) {name : String} (hname : FormsDirectory.Owns row.formId name) :
    ¬ FormsDirectory.Owns formId name :=
  fun howns ↦ hid (h row hrow (FormsDirectory.baseName_eq_of_owns hname howns))

namespace InStep

/-- No directory is where a definition belongs. -/
theorem definition_free (h : InStep forms table d) (formId : String) :
    d.item? (forms.path.resolve d.working ++ [FormsDirectory.baseName formId ++ ".xml"]) ≠
      some .directory := by
  intro hdirectory
  have hmem := Disk.mem_of_item? hdirectory (by simp)
  obtain ⟨row, hrow, ⟨hname, -⟩ | ⟨hname, -⟩⟩ := h.only _ _ _ hmem
  · obtain ⟨content, hfile, -⟩ := (h.rows row hrow).definition
    rw [hname] at hmem
    cases h.ready.sound.single hmem hfile
  · exact FormsDirectory.definition_ne_media _ _ hname

/-- No file is where a media directory belongs. -/
theorem media_free (h : InStep forms table d) (formId : String) (content : Bytes) :
    d.item? (forms.path.resolve d.working ++ [FormsDirectory.baseName formId ++ "-media"]) ≠
      some (.file content) := by
  intro hfile
  have hmem := Disk.mem_of_item? hfile (by simp)
  obtain ⟨row, hrow, ⟨hname, -⟩ | ⟨hname, hmedia⟩⟩ := h.only _ _ _ hmem
  · exact FormsDirectory.definition_ne_media _ _ hname.symm
  · obtain ⟨text, htext⟩ := Option.isSome_iff_exists.mp hmedia
    rw [hname] at hmem
    cases h.ready.sound.single hmem ((h.rows row hrow).media text htext).2

/-- What was brought is what the row of the form says. -/
theorem backed_of_brought (h : Download.Brought forms x content d d') :
    (rowOf x (Download.broughtBy forms x content)).Backed forms d' where
  fits := h.fits
  formPath := rfl
  definition := by
    rw [h.working_eq]
    exact ⟨content, h.definition, rfl⟩
  media text htext := by
    rw [h.working_eq]
    obtain ⟨path, hpath, rfl⟩ := Option.map_eq_some_iff.mp htext
    obtain ⟨manifest, hmanifest, rfl⟩ := Option.map_eq_some_iff.mp hpath
    exact ⟨rfl, h.directory (by rw [hmanifest]; rfl)⟩

/-- What is under the names of a form that was brought is what the row of the form claims. -/
theorem claims_of_brought (h : Download.Brought forms x content d d') {name : String}
    {below : Place} {item : Item} (howns : FormsDirectory.Owns x.formId name)
    (hmem : (forms.path.resolve d.working ++ name :: below, item) ∈ d'.items) :
    (rowOf x (Download.broughtBy forms x content)).Claims name below := by
  cases howns with
  | definition =>
    refine Or.inl ⟨rfl, ?_⟩
    by_contra hbelow
    rw [List.append_cons, ← h.working_eq] at hmem
    have hdirectory := h.ready.sound.directory_above hmem hbelow
    rw [h.working_eq, h.ready.sound.item?_of_mem h.definition (by simp)] at hdirectory
    cases hdirectory
  | media =>
    refine Or.inr ⟨rfl, ?_⟩
    change ((x.manifest.map fun _ ↦ forms.mediaPath x.formId).map (·.text)).isSome = true
    rw [Option.isSome_map, Option.isSome_map]
    cases hmanifest : x.manifest with
    | some manifest => rfl
    | none =>
      rw [List.append_cons] at hmem
      exact absurd hmem (h.nothing hmanifest below item)

/-- A form that has come takes the place of what it had. -/
theorem stored (h : InStep forms table d) (hunshared : Unshared table x.formId)
    (hbrought : Download.Brought forms x content d d') :
    InStep forms (table.put (rowOf x (Download.broughtBy forms x content))) d' where
  ready := hbrought.ready
  ordered := h.ordered.put _
  rows row hrow := by
    rcases h.ordered.mem_put_iff.mp hrow with rfl | ⟨hold, hid⟩
    · exact backed_of_brought hbrought
    · refine (h.rows row hold).of_kept hbrought.working_eq fun name item hname hmem ↦ ?_
      exact (hbrought.mem_iff (hunshared.not_owns hold hid hname)).mpr hmem
  only name below item hmem := by
    rw [hbrought.working_eq] at hmem
    by_cases howns : FormsDirectory.Owns x.formId name
    · exact ⟨_, h.ordered.mem_put_iff.mpr (Or.inl rfl), claims_of_brought hbrought howns hmem⟩
    · obtain ⟨row, hrow, hclaims⟩ := h.only name below item ((hbrought.mem_iff howns).mp hmem)
      refine ⟨row, h.ordered.mem_put_iff.mpr (Or.inr ⟨hrow, fun hid ↦ howns ?_⟩), hclaims⟩
      have hid : row.formId = x.formId := hid
      exact hid ▸ hclaims.owns

/-- Remembering a key has nothing to do with the disk. -/
theorem remember (h : InStep forms table d) (formId : String) (key : Option String) :
    InStep forms (table.remember formId key) d where
  ready := h.ready
  ordered := h.ordered.remember _ _
  rows row hrow := by
    obtain ⟨old, hold, rfl⟩ := List.mem_map.mp hrow
    have hbacked := h.rows old hold
    split
    · exact ⟨hbacked.fits, hbacked.formPath, hbacked.definition, hbacked.media⟩
    · exact hbacked
  only name below item hmem := by
    obtain ⟨row, hrow, hclaims⟩ := h.only name below item hmem
    refine ⟨_, List.mem_map_of_mem hrow, ?_⟩
    split
    · exact hclaims
    · exact hclaims

/-- A form that is removed leaves nothing. -/
theorem removed (h : InStep forms table d) (hunshared : Unshared table formId) :
    InStep forms (table.remove formId)
      ((d.clear (forms.path.resolve d.working ++ [FormsDirectory.baseName formId ++ ".xml"])).clear
        (forms.path.resolve d.working ++ [FormsDirectory.baseName formId ++ "-media"])) where
  ready := (h.ready.clear _).clear _
  ordered := h.ordered.remove _
  rows row hrow := by
    obtain ⟨hold, hid⟩ := Table.mem_remove_iff.mp hrow
    refine (h.rows row hold).of_kept rfl fun name item hname hmem ↦ ?_
    have hnot := hunshared.not_owns hold hid hname
    rw [Disk.mem_clear, Disk.mem_clear]
    refine ⟨fun hbegins ↦ hnot ?_, fun hbegins ↦ hnot ?_, hmem⟩
    · obtain rfl := Place.name_prefix_iff.mp hbegins
      exact .media
    · obtain rfl := Place.name_prefix_iff.mp hbegins
      exact .definition
  only name below item hmem := by
    rw [Disk.mem_clear, Disk.mem_clear] at hmem
    obtain ⟨hmedia, hdefinition, hmem⟩ := hmem
    obtain ⟨row, hrow, hclaims⟩ := h.only name below item hmem
    refine ⟨row, Table.mem_remove_iff.mpr ⟨hrow, ?_⟩, hclaims⟩
    rintro rfl
    rcases hclaims with ⟨rfl, -⟩ | ⟨rfl, -⟩
    · exact hdefinition (Place.name_prefix_iff.mpr rfl)
    · exact hmedia (Place.name_prefix_iff.mpr rfl)

end InStep

/-! ### One call -/

/-- Once the directory is there, a download files its outcome in a table that stays in step with
the disk. -/
theorem ends_download_inStep (hsource : source.Answers (fun _ ↦ True) fun _ ↦ True)
    (hprepared : Disk.prepare forms.path s.disk = .ok () d) (h : InStep forms s.table d)
    (hworking : d.working.Plain) (hunshared : Unshared s.table x.formId) :
    Ends (download source forms x) s fun _ t ↦ InStep forms t.table t.disk := by
  have hrun := (Download.ends_run (s := { s with disk := d }) hsource x hworking trivial).and
    (Download.ends_run_of_ready hsource h.ready hworking x (h.definition_free _))
  refine (ends_download_filed
    (hrun.congr_run (Download.run_of_prepare_eq_ok hprepared))).mono ?_
  rintro r t ⟨outcome, u, ⟨hu, hrun⟩, hdisk, -, hfiled, -⟩
  rw [hu.table] at hfiled
  rw [hdisk]
  generalize t.table = filed at hfiled
  rcases hrun with ⟨e, rfl, hkept⟩ | ⟨content, rfl, hbrought⟩
  · rw [hkept]
    cases hfiled with
    | forgotten => exact h.remember _ _
    | unseen | left => exact h
  · cases hfiled with
    | stored => exact h.stored hunshared hbrought

/-- The definition and the media directory of a form are removed. -/
theorem remove_eq (h : forms.Ready s.disk)
    (hfits : forms.Fits (FormsDirectory.baseName formId ++ "-media"))
    (hfile : s.disk.item? (forms.path.resolve s.disk.working ++
      [FormsDirectory.baseName formId ++ ".xml"]) = some (.file content))
    (hmedia : ∀ c, s.disk.item? (forms.path.resolve s.disk.working ++
      [FormsDirectory.baseName formId ++ "-media"]) ≠ some (.file c)) :
    Download.remove forms formId s = .ok () { s with disk :=
      ((s.disk.clear (forms.path.resolve s.disk.working ++
        [FormsDirectory.baseName formId ++ ".xml"])).clear
        (forms.path.resolve s.disk.working ++ [FormsDirectory.baseName formId ++ "-media"])) } := by
  have hremoved := h.removeEntry_eq (.definition formId) hfits.definition hfile
  have hentry : Site.change (·.removeEntry (forms.formPath formId)) s =
      .ok () { s with disk := s.disk.clear (forms.path.resolve s.disk.working ++
        [FormsDirectory.baseName formId ++ ".xml"]) } :=
    Download.change_eq_ok hremoved
  unfold Download.remove
  rw [bind_of_ok hentry]
  have hout : ¬ forms.path.resolve s.disk.working ++ [FormsDirectory.baseName formId ++ ".xml"] <+:
      forms.path.resolve s.disk.working ++ [FormsDirectory.baseName formId ++ "-media"] :=
    (Place.apart_siblings (FormsDirectory.media_ne_definition formId)).2
  refine Download.clearDirectory_eq (h.clear _) (.media formId) hfits fun c hc ↦ hmedia c ?_
  rwa [Disk.working_clear, Disk.item?_clear_of_not_prefix hout] at hc

/-- A deletion takes the row of a form away together with what is the row's. -/
theorem ends_delete_inStep (h : InStep forms s.table s.disk) (hunshared : Unshared s.table formId) :
    Ends (delete forms formId) s fun _ t ↦ InStep forms t.table t.disk := by
  unfold delete
  rw [ends_bind, ends_get, Next]
  split
  · exact h
  · rename_i row hrow
    obtain ⟨hmem, rfl⟩ := Table.mem_of_row? hrow
    obtain ⟨content, hfile, -⟩ := (h.rows row hmem).definition
    rw [ends_bind, Site.changeTable, ends_modify, Next]
    have hremoved := remove_eq (s := { s with table := s.table.remove row.formId }) h.ready
      (h.rows row hmem).fits (h.ready.sound.item?_of_mem hfile (by simp)) (h.media_free _)
    rw [ends_iff_of_ok hremoved]
    exact h.removed hunshared

/-! ### Before the first form -/

/-- No form has been stored, and nothing is in the directory of forms, which may not have been made
yet. -/
structure Blank (forms : FormsDirectory) (table : Table) (d : Disk) : Prop where
  noRow : table = []
  plain : d.working.Plain
  sound : d.Sound
  apart : ∀ name, forms.KeepsOutOf d.working name
  nothing : ∀ name below item, (forms.path.resolve d.working ++ name :: below, item) ∉ d.items

namespace Blank

/-- Where the directory is there, an empty table is in step with it. -/
theorem inStep (h : Blank forms table d) (hforms : forms.path.holdsNull = false)
    (hthere : d.probe forms.path = .ok (forms.path.resolve d.working, .directory)) :
    InStep forms table d where
  ready := ⟨h.sound, hforms, hthere, h.apart⟩
  ordered := by
    rw [h.noRow]
    exact List.Pairwise.nil
  rows row hrow := by
    rw [h.noRow] at hrow
    cases hrow
  only name below item hmem := absurd hmem (h.nothing name below item)

/-- Nothing that is made on the way to the directory is in it. -/
theorem keeps_prepare : Keeps (Blank forms table) (Disk.prepare forms.path) := by
  suffices hguards : Guards (Blank forms table) (fun _ ↦ True) (Disk.prepare forms.path) from
    hguards.keeps
  refine Disk.guards_prepareWithin_of_make (fun n ↦ ?_) (fun _ ↦ trivial) _
  refine Disk.guards_update (fun d d' hd hmade ↦ ?_) fun _ _ _ _ ↦ trivial
  have hsound := hd.sound.makeDirectory hmade
  obtain ⟨-, -, -, rfl⟩ := Disk.makeDirectory_eq_ok hmade
  constructor
  case noRow => exact hd.noRow
  case plain =>
    rw [Disk.working_put]
    exact hd.plain
  case sound => exact hsound
  case apart =>
    rw [Disk.working_put]
    exact hd.apart
  case nothing =>
    intro name below item hmem
    rw [Disk.working_put] at hmem
    rcases Disk.mem_put.mp hmem with ⟨hsame, -⟩ | ⟨-, hmem⟩
    · refine hd.apart name n ⟨below, ?_⟩
      rw [← hsame, List.append_assoc, List.singleton_append]
    · exact hd.nothing name below item hmem

theorem ends_download (hsource : source.Answers (fun _ ↦ True) fun _ ↦ True)
    (h : Blank forms s.table s.disk) :
    Ends (download source forms x) s fun _ t ↦
      Blank forms t.table t.disk ∨ InStep forms t.table t.disk := by
  have hblank := keeps_prepare s.disk h
  cases hprepared : Disk.prepare forms.path s.disk with
  | error e d =>
    rw [ends_iff_of_error (download_of_prepare_eq_error hprepared)]
    exact Or.inl (hblank.of_error hprepared)
  | ok _ d =>
    have hd : Blank forms s.table d := hblank.of_ok hprepared
    obtain ⟨hforms, hthere⟩ := Disk.probe_of_prepare hprepared
    have hunshared : Unshared s.table x.formId := fun row hrow ↦ by
      rw [h.noRow] at hrow
      cases hrow
    exact (ends_download_inStep hsource hprepared (hd.inStep hforms hthere) hd.plain
      hunshared).mono fun _ _ ht ↦ Or.inr ht

/-- There is no row to delete. -/
theorem ends_delete (h : Blank forms s.table s.disk) :
    Ends (delete forms formId) s fun _ t ↦ Blank forms t.table t.disk := by
  unfold delete
  rw [ends_bind, ends_get, Next, h.noRow]
  exact h

/-- There is no row that could remember a key. -/
theorem remember (h : Blank forms table d) (formId : String) (key : Option String) :
    Blank forms (table.remember formId key) d := by
  have hnone : table.remember formId key = table := by
    rw [h.noRow]
    rfl
  rwa [hnone]

end Blank

/-! ### Chronicles -/

/-- A site where a shelf starts: the table is empty, and so is the directory of forms. -/
structure Empty (forms : FormsDirectory) (s : Site N) : Prop where
  table : s.table = []
  working : s.disk.working.Plain
  sound : s.disk.Sound
  nothing : s.disk.isEmptyAt (forms.path.resolve s.disk.working) = true
  /-- The directory may still be missing if its path only goes down. To make what is missing on the
  way through `forms/x/..` is to put `x` into the directory. -/
  path : s.disk.isDirectory? forms.path = .ok true ∨ ".." ∉ forms.path.parts

theorem Empty.blank (h : Empty forms s) : Blank forms s.table s.disk := by
  have hnothing (name : String) (below : Place) (item : Item) :
      (forms.path.resolve s.disk.working ++ name :: below, item) ∉ s.disk.items := by
    intro hmem
    have hany := h.nothing
    unfold Disk.isEmptyAt at hany
    rw [Bool.not_eq_true', List.any_eq_false] at hany
    refine hany _ hmem ?_
    rw [Bool.and_eq_true, List.isPrefixOf_iff_prefix]
    exact ⟨List.prefix_append _ _, by simp⟩
  refine ⟨h.table, h.working, h.sound, fun name n hvisit ↦ ?_, hnothing⟩
  rcases h.path with hthere | hdown
  · -- a path through a name in the directory could not be walked, as nothing is there
    obtain ⟨-, hprobe⟩ := Disk.probe_of_isDirectory hthere
    obtain ⟨below, hbelow⟩ := hvisit
    have hvisited := FormsDirectory.stands_of_probe hprobe n
    rw [← hbelow] at hvisited
    have hmem := Disk.mem_of_item? hvisited (by simp)
    rw [← List.append_cons] at hmem
    exact hnothing name below _ hmem
  · exact Place.not_name_prefix _ _ (hvisit.trans (Path.resolve_upTo_prefix hdown n _))

/-- No two of the forms that the events are about have one base name. -/
def Distinct (history : List Event) : Prop :=
  ∀ a ∈ history, ∀ b ∈ history,
    FormsDirectory.baseName a.formId = FormsDirectory.baseName b.formId → a.formId = b.formId

variable {history : List Event} {event : Event} {s₀ : Site N}

theorem Distinct.of_cons (h : Distinct (event :: history)) : Distinct history :=
  fun a ha b hb ↦ h a (List.mem_cons_of_mem _ ha) b (List.mem_cons_of_mem _ hb)

/-- The forms in the table are forms that events are about. -/
theorem Distinct.unshared (h : Distinct (event :: history))
    (hregisters : Registers forms history table) :
    Unshared table event.formId := by
  intro row hrow hbase
  have hfound := hregisters.ordered.row?_of_mem hrow
  rw [hregisters.rows] at hfound
  obtain ⟨⟨x, content⟩, hlast, -⟩ := Option.map_eq_some_iff.mp hfound
  obtain ⟨hid, htold⟩ := stored_of_lastDownload hlast
  rw [← hid] at hbase ⊢
  exact h (.stored x content) (List.mem_cons_of_mem _ htold) event List.mem_cons_self hbase

/-- Until the first form is stored there is nothing, and from then on every call keeps the table and
the disk in step. -/
theorem Chronicle.blank_or_inStep (hsource : source.Answers (fun _ ↦ True) fun _ ↦ True)
    (hempty : Empty forms s₀) (hnames : Distinct history)
    (h : Chronicle source forms s₀ history s) :
    Blank forms s.table s.disk ∨ InStep forms s.table s.disk := by
  have hregistered {earlier : List Event} {u : Site N}
      (h : Chronicle source forms s₀ earlier u) :=
    h.registers hsource hempty.table hempty.working
  have hdownload {event : Event} {earlier : List Event} {u : Site N}
      (hnames : Distinct (event :: earlier)) (h : Chronicle source forms s₀ earlier u)
      (hkept : Blank forms u.table u.disk ∨ InStep forms u.table u.disk) {x : Details}
      (hid : x.formId = event.formId) :
      Ends (download source forms x) u fun _ t ↦
        Blank forms t.table t.disk ∨ InStep forms t.table t.disk := by
    obtain ⟨hplain, hregisters⟩ := hregistered h
    rcases hkept with hblank | hinStep
    · exact hblank.ends_download hsource
    · have hprepared := Disk.prepare_of_probe hinStep.ready.noNull hinStep.ready.there
      have hunshared := hnames.unshared hregisters
      rw [← hid] at hunshared
      exact (ends_download_inStep hsource hprepared hinStep hplain hunshared).mono
        fun _ _ ht ↦ Or.inr ht
  induction h with
  | start => exact Or.inl hempty.blank
  | stored h _ hrun ih => exact (hdownload hnames h (ih hnames.of_cons) rfl).of_ok hrun
  | failed h hrun ih => exact (hdownload hnames h (ih hnames.of_cons) rfl).of_error hrun
  | broken h hrun _ ih => exact (hdownload hnames h (ih hnames.of_cons) rfl).of_error hrun
  | deleted h formId ih =>
    rcases ih hnames.of_cons with hblank | hinStep
    · have hdelete : Ends (delete forms formId) _ fun _ t ↦ Blank forms t.table t.disk :=
        hblank.ends_delete
      obtain ⟨_, hafter⟩ := hdelete.after
      exact Or.inl hafter
    · obtain ⟨-, hregisters⟩ := hregistered h
      obtain ⟨_, hafter⟩ := (ends_delete_inStep hinStep (hnames.unshared hregisters)).after
      exact Or.inr hafter
  | remembered _ formId key ih =>
    rcases ih hnames.of_cons with hblank | hinStep
    · exact Or.inl (hblank.remember formId (some key))
    · exact Or.inr (hinStep.remember formId (some key))
  | between _ hdisk htable ih =>
    rw [hdisk, htable]
    exact ih hnames

/-- The records and the disk agree. -/
structure Consistent (forms : FormsDirectory) (history : List Event) (s : Site N) : Prop where
  /-- The definition of every record is there, and it has the digest of the record. -/
  definition : ∀ row ∈ s.table, ∃ content,
    s.disk.readContent (.ofText row.formPath) = .ok content ∧
      ContentKey.ofBytes content = row.contentHash
  /-- A record names a media directory exactly if the last download that returned came with a
  manifest. -/
  manifest : ∀ row ∈ s.table, ∃ x content, lastDownload history row.formId = some (x, content) ∧
    row.mediaPath.isSome = x.manifest.isSome
  /-- The media directory that a record names is there. -/
  media : ∀ row ∈ s.table, ∀ text, row.mediaPath = some text →
    s.disk.isDirectory? (.ofText text) = .ok true
  /-- Where there are records, the directory of forms is there. -/
  there : s.table ≠ [] → s.disk.isDirectory? forms.path = .ok true
  /-- Nothing is in the directory of forms but definitions of records, and media directories that
  records name with what is in them. -/
  only : ∀ name below item,
    (forms.path.resolve s.disk.working ++ name :: below, item) ∈ s.disk.items →
      ∃ row ∈ s.table,
        forms.path.resolve s.disk.working ++ name :: below =
          (Path.ofText row.formPath).resolve s.disk.working ∨
        ∃ text, row.mediaPath = some text ∧
          (Path.ofText text).resolve s.disk.working <+:
            forms.path.resolve s.disk.working ++ name :: below

theorem Blank.consistent (h : Blank forms s.table s.disk) : Consistent forms history s := by
  have hnone (row : Row) : row ∉ s.table := by
    rw [h.noRow]
    exact List.not_mem_nil
  exact ⟨fun row hrow ↦ absurd hrow (hnone row), fun row hrow ↦ absurd hrow (hnone row),
    fun row hrow ↦ absurd hrow (hnone row), fun hsome ↦ absurd h.noRow hsome,
    fun name below item hmem ↦ absurd hmem (h.nothing name below item)⟩

/-- What is in step is what the records say, as their paths are read as what they were written
for. -/
theorem InStep.consistent (h : InStep forms s.table s.disk) (hwritten : forms.path.Written)
    (hregisters : Registers forms history s.table) : Consistent forms history s := by
  have hread (row : Row) (hrow : row ∈ s.table) :
      Path.ofText row.formPath = forms.formPath row.formId := by
    rw [(h.rows row hrow).formPath]
    exact FormsDirectory.Owns.definition.ofText_text hwritten
  have hreadMedia (row : Row) (hrow : row ∈ s.table) (text : String)
      (htext : row.mediaPath = some text) :
      Path.ofText text = forms.mediaPath row.formId := by
    rw [((h.rows row hrow).media text htext).1]
    exact FormsDirectory.Owns.media.ofText_text hwritten
  constructor
  case definition =>
    intro row hrow
    have hbacked := h.rows row hrow
    obtain ⟨content, hmem, hhash⟩ := hbacked.definition
    rw [hread row hrow]
    exact ⟨content, h.ready.readContent_eq (.definition row.formId) hbacked.fits.definition
      (h.ready.sound.item?_of_mem hmem (by simp)), hhash⟩
  case manifest =>
    intro row hrow
    have hfound := hregisters.ordered.row?_of_mem hrow
    rw [hregisters.rows] at hfound
    obtain ⟨⟨x, content⟩, hlast, hrow⟩ := Option.map_eq_some_iff.mp hfound
    refine ⟨x, content, hlast, ?_⟩
    rw [← hrow]
    change ((x.manifest.map fun _ ↦ forms.mediaPath x.formId).map (·.text)).isSome = _
    rw [Option.isSome_map, Option.isSome_map]
  case media =>
    intro row hrow text htext
    have hbacked := h.rows row hrow
    rw [hreadMedia row hrow text htext]
    exact h.ready.isDirectory?_eq (.media row.formId) hbacked.fits
      (h.ready.sound.item?_of_mem (hbacked.media text htext).2 (by simp))
  case there => exact fun _ ↦ Disk.isDirectory?_of_probe h.ready.noNull h.ready.there
  case only =>
    intro name below item hmem
    obtain ⟨row, hrow, ⟨rfl, rfl⟩ | ⟨rfl, hmedia⟩⟩ := h.only name below item hmem
    · refine ⟨row, hrow, Or.inl ?_⟩
      rw [hread row hrow]
      exact (Download.resolve_child_of_touches (.definition row.formId) _).symm
    · obtain ⟨text, htext⟩ := Option.isSome_iff_exists.mp hmedia
      refine ⟨row, hrow, Or.inr ⟨text, htext, ?_⟩⟩
      rw [hreadMedia row hrow text htext, FormsDirectory.mediaPath,
        Download.resolve_child_of_touches (.media row.formId)]
      exact Place.name_prefix_iff.mpr rfl

/-- Records and disk stay consistent: a shelf that started with an empty table and an empty
directory of forms, and that was asked for forms with different base names only, holds for each
record what the record says, and nothing else. It does not matter where the source failed, which
manifests came and went, and what the media files were called. -/
theorem consistent_of_chronicle {source : Source N} {forms : FormsDirectory} {s₀ s : Site N}
    {history : List Event} (hsource : source.Answers (fun _ ↦ True) fun _ ↦ True)
    (hwritten : forms.path.Written) (hempty : Empty forms s₀) (hnames : Distinct history)
    (h : Chronicle source forms s₀ history s) : Consistent forms history s := by
  have hregisters := (h.registers hsource hempty.table hempty.working).2
  rcases h.blank_or_inStep hsource hempty hnames with hblank | hinStep
  · exact hblank.consistent
  · exact hinStep.consistent hwritten hregisters

/-! ### A shelf that is filled -/

/-- A device without a directory of forms, and a server with definitions and a media file. -/
def cleared : Site Archive where
  disk := ⟨["device"], [(["device"], .directory)]⟩
  table := []
  net := { contents := [("u", .ok [117]), ("v", .ok [118]), ("w", .ok [119])] }
  journal := []

theorem empty_cleared : Empty besideWork cleared where
  table := rfl
  working := ⟨by decide, by decide⟩
  sound := Disk.sound_of_items (by decide +kernel) (by decide +kernel)
  nothing := by decide +kernel
  path := Or.inr (by decide +kernel)

/-- A form that comes with media files, all at one address. -/
def pictured (formId url : String) (names : List String) (mediaUrl : String) : Details :=
  { plainForm formId url with
    manifest := some ⟨"m", names.map fun name ↦ ⟨name, "h", mediaUrl⟩⟩ }

/-- The form `a` comes with a media file and `c` without; `b` fails, since its media file is nowhere
to be had; `c` is deleted. -/
def filling : List Event :=
  [.deleted "c", .failed (pictured "b" "v" ["q"] "gone"), .stored (plainForm "c" "v") [118],
    .stored (pictured "a" "u" ["p/q"] "w") [117]]

def withA : Site Archive :=
  (Shelf.download Archive.source besideWork (pictured "a" "u" ["p/q"] "w")).after cleared

def withC : Site Archive :=
  (Shelf.download Archive.source besideWork (plainForm "c" "v")).after withA

def withoutB : Site Archive :=
  (Shelf.download Archive.source besideWork (pictured "b" "v" ["q"] "gone")).after withC

def filled : Site Archive := (Shelf.delete besideWork "c").after withoutB

theorem chronicle_filling : Chronicle Archive.source besideWork cleared filling filled := by
  have ha : Chronicle Archive.source besideWork cleared
      [.stored (pictured "a" "u" ["p/q"] "w") [117]] withA :=
    .stored .start (by decide +kernel) (eq_ok_after (by decide +kernel))
  have hc : Chronicle Archive.source besideWork cleared
      [.stored (plainForm "c" "v") [118], .stored (pictured "a" "u" ["p/q"] "w") [117]] withC :=
    .stored ha (by decide +kernel) (eq_ok_after (by decide +kernel))
  have hb : Shelf.download Archive.source besideWork (pictured "b" "v" ["q"] "gone") withC =
      .error (.download "b" "GET gone returned 404") withoutB :=
    eq_error_after (by decide +kernel)
  exact (hc.failed hb).deleted "c"

/-- In the end there is the form `a` with its media file, and nothing else. -/
theorem consistent_of_chronicle_filling :
    Consistent besideWork filling filled ∧ filled.table.map (·.formId) = ["a"] ∧
      (filled.disk.tree ["device", "forms"]).map (·.1) =
        [["device", "forms"], ["device", "forms", "a-media"], ["device", "forms", "a-media", "p"],
          ["device", "forms", "a-media", "p", "q"], ["device", "forms", "a.xml"]] := by
  refine ⟨consistent_of_chronicle Archive.answers_source (Path.written_ofText "forms")
    empty_cleared ?_ chronicle_filling, by decide +kernel, by decide +kernel⟩
  unfold Distinct
  decide +kernel

end Shelf

end FormCatalog
