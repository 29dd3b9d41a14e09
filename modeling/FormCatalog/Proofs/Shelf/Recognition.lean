import FormCatalog.Proofs.Shelf.MediaMirror
import FormCatalog.Proofs.Shelf.Staging

/-!
# Recognising what was just downloaded

Right after a download that returned, the comparison in full should find no difference: the device
holds just what the published form and its manifest report. It finds none exactly when every media
file is listed under its canonical name (`Shelf.recognised_iff`). The two sides of the comparison
take names from different places. The manifest gives them as they are listed, and the device reads
them off the tree. A listed name is followed when the file is written, so the name read off the
tree is always canonical (`Disk.Named`), and a listed name that is not is never among those on the
device, though its file is there. `Shelf.dotted_name_unrecognised` shows one.
-/

set_option autoImplicit false
set_option relaxedAutoImplicit false

namespace FormCatalog

open Op

variable {N : Type}

/-! ### Names read off a tree -/

namespace Path

/-- Following components keeps a beginning of the place and goes on with some of the components. -/
theorem exists_follow_eq (place : Place) (parts : List String) :
    ∃ k after, follow place parts = place.take k ++ after ∧ ∀ c ∈ after, c ∈ parts ∧ c ≠ ".." := by
  induction parts generalizing place with
  | nil => exact ⟨place.length, [], by simp [follow], by simp⟩
  | cons c rest ih =>
    obtain ⟨k, after, hfollow, hafter⟩ := ih (step place c)
    have hrest : ∀ b ∈ after, b ∈ c :: rest ∧ b ≠ ".." := fun b hb ↦
      ⟨List.mem_cons_of_mem _ (hafter b hb).1, (hafter b hb).2⟩
    rw [follow_cons, hfollow]
    unfold step
    split
    · rw [List.dropLast_eq_take, List.take_take]
      exact ⟨_, after, rfl, hrest⟩
    · rename_i hc
      by_cases hk : k ≤ place.length
      · rw [List.take_append_of_le_length hk]
        exact ⟨k, after, rfl, hrest⟩
      · refine ⟨place.length, c :: after, ?_, ?_⟩
        · rw [List.take_of_length_le (by simp; omega), List.take_length, List.append_assoc,
            List.singleton_append]
        · exact List.forall_mem_cons.mpr ⟨⟨List.mem_cons_self, hc⟩, hrest⟩

/-- Components that name a file below a directory. -/
def Names (below : Place) : Prop := ∀ c ∈ below, IsComponent c ∧ c ≠ ".."

/-- What a confined name means is below the base under components that name it. -/
theorem confined_names {working : Place} {base : Path} {name : String} {below : Place}
    (h : base.confined working name = .ok (some (ofPlace (base.resolve working ++ below)))) :
    Names below := by
  have hplace : (base.join (ofText name)).resolve working = base.resolve working ++ below := by
    unfold confined at h
    dsimp only at h
    split at h
    · cases h
    · split at h
      · have hsame := Option.some.inj (Except.ok.inj h)
        exact congrArg Path.parts hsame
      · cases h
  have hparts {c : String} (hc : c ∈ (ofText name).parts ∧ c ≠ "..") : IsComponent c ∧ c ≠ ".." :=
    ⟨(written_ofText name).parts c hc.1, hc.2⟩
  unfold join at hplace
  by_cases habsolute : (ofText name).isAbsolute = true
  · rw [if_pos habsolute] at hplace
    unfold resolve at hplace
    rw [if_pos habsolute] at hplace
    obtain ⟨k, after, hfollow, hafter⟩ := exists_follow_eq [] (ofText name).parts
    rw [hfollow, List.take_nil, List.nil_append] at hplace
    exact fun c hc ↦ hparts (hafter c (hplace ▸ List.mem_append_right _ hc))
  · rw [if_neg habsolute] at hplace
    change follow (if base.isAbsolute then [] else working)
      (base.parts ++ (ofText name).parts) = _ at hplace
    obtain ⟨k, after, hfollow, hafter⟩ :=
      exists_follow_eq (base.resolve working) (ofText name).parts
    have hjoined : (base.resolve working).take k ++ after = base.resolve working ++ below := by
      rw [← hfollow, ← hplace, follow_append]
      rfl
    -- what is kept of the base is no longer than the base, so all of the rest has been followed
    have hbelow : below <:+ after := by
      rcases List.append_eq_append_iff.mp hjoined with ⟨kept, hbase, hafter'⟩ | ⟨more, htake, hmore⟩
      · exact ⟨kept, hafter'.symm⟩
      · have hlength := congrArg List.length htake
        rw [List.length_append, List.length_take] at hlength
        have hnil : more = [] := List.eq_nil_of_length_eq_zero (by omega)
        rw [hmore, hnil]
        exact List.suffix_refl after
    exact fun c hc ↦ hparts (hafter c (hbelow.subset hc))

/-- Components that name a file are read off the tree as a canonical name. -/
theorem Names.canonicalName {below : Place} (h : Names below) (hbelow : below ≠ []) :
    CanonicalName ("/".intercalate below) := by
  have hwritten : Written ⟨0, below⟩ := ⟨Nat.zero_le 2, fun c hc ↦ (h c hc).1⟩
  have htext : Path.text ⟨0, below⟩ = "/".intercalate below := by
    rw [← String.toList_inj, (hwritten.toList_text hbelow).1, String.toList_intercalate]
    rfl
  have hread : ofText ("/".intercalate below) = ⟨0, below⟩ := by
    rw [← htext]
    exact hwritten.ofText_text hbelow
  constructor
  case relative => rw [hread]; rfl
  case noReturn =>
    rw [hread]
    exact fun hmem ↦ (h ".." hmem).2 rfl
  case named => rwa [hread]
  case written => rw [hread]

end Path

/-- The files below a place are read off the tree under names of files. -/
def Disk.Named (d : Disk) (place : Place) : Prop := ∀ f ∈ d.filesBelow place, Path.Names f.1

/-- Making directories leaves a directory that is there. -/
theorem Disk.keeps_prepare_directory (place : Place) (p : Path) :
    Keeps (fun d ↦ d.item? place = some .directory) (Disk.prepare p) := by
  suffices hguards : Guards (fun d : Disk ↦ d.item? place = some .directory) (fun _ ↦ True)
      (Disk.prepare p) from hguards.keeps
  refine Disk.guards_prepareWithin_of_make (fun n ↦ ?_) (fun _ ↦ trivial) _
  refine Disk.guards_update (fun d d' hd hmade ↦ ?_) fun _ _ _ _ ↦ trivial
  obtain ⟨-, -, hmissing, rfl⟩ := Disk.makeDirectory_eq_ok hmade
  rw [Disk.item?_put_of_ne, hd]
  rintro rfl
  rw [hd] at hmissing
  cases hmissing

namespace Download

variable {source : Source N} {forms : FormsDirectory} {fair : N → Prop} {sent : Fault → Prop}
  {working place : Place} {formId : String} {x : Details} {s t : Site N} {n : Nat} {d : Disk}
  {content : Bytes}

/-! ### Collecting -/

/-- A sound site with a directory at a place, and named files in it. -/
structure Holding (fair : N → Prop) (working place : Place) (s : Site N) : Prop where
  net : fair s.net
  sound : s.disk.Sound
  working_eq : s.disk.working = working
  directory : s.disk.item? place = some .directory
  named : s.disk.Named place

/-- A file that is written under a name keeps the files named. -/
theorem Holding.write (h : Holding fair working place s) {below : Place}
    (hplain : (place ++ below).Plain) (hnames : Path.Names below)
    (hwritten : s.disk.writeContent (.ofPlace (place ++ below)) content = .ok d) :
    Holding fair working place { s with disk := d } := by
  have hsound := h.sound.writeContent hwritten
  obtain ⟨-, hnot, rfl⟩ := Disk.writeContent_eq_ok hwritten
  rw [hplain.resolve_ofPlace] at hsound hnot ⊢
  refine ⟨h.net, hsound, (Disk.working_put _ _).trans h.working_eq, ?_, ?_⟩
  · refine (Disk.item?_put_of_ne fun hsame ↦ hnot ?_).trans h.directory
    rw [hsame, h.directory]
  · rintro ⟨path, c⟩ hf
    obtain ⟨hpath, hmem⟩ := Disk.mem_filesBelow.mp hf
    rcases Disk.mem_put.mp hmem with ⟨hsame, -⟩ | ⟨-, hold⟩
    · obtain rfl := List.append_cancel_left hsame
      exact hnames
    · exact h.named _ (Disk.mem_filesBelow.mpr ⟨hpath, hold⟩)

/-- Each file that comes is written where its listed name leads, so the tree names it. -/
theorem keeps_collect_named (hsource : source.Answers fair sent) (hworking : working.Plain)
    (staging : Path) (file : MediaEntry) :
    Keeps (Holding fair working (staging.resolve working))
      (collect source formId staging file) := by
  have hasked : Keeps (Holding fair working (staging.resolve working))
      (source file.downloadUrl) := fun u hu ↦
    (hsource _ u hu.net).mono fun _ v ⟨hfair, hdisk, _, _⟩ ↦
      ⟨hfair, hdisk ▸ hu.sound, hdisk ▸ hu.working_eq, hdisk ▸ hu.directory, hdisk ▸ hu.named⟩
  have hprepared (p : Path) : Keeps (Holding fair working (staging.resolve working))
      (Site.onDisk (Disk.prepare p)) := fun u hu ↦
    ((ends_prepare_sameFiles p hu.sound).and
      (Site.keeps_onDisk (Disk.keeps_prepare_directory _ p) u hu.directory)).mono
      fun _ v ⟨⟨hsound, hsame, hfiles, hnet⟩, hdirectory⟩ ↦
        ⟨hnet ▸ hu.net, hsound, hsame.trans hu.working_eq, hdirectory, fun f hf ↦
          hu.named f ((hfiles.mem_filesBelow_iff _ f).mp hf)⟩
  intro u hu
  unfold collect
  rw [ends_bind, ends_get, Next, ends_bind, ends_ofExcept]
  cases hconfined : staging.confined u.disk.working file.fileName with
  | error e => exact hu
  | ok inside =>
    cases inside with
    | none => exact hu
    | some target =>
      rw [hu.working_eq] at hconfined
      obtain ⟨below, hplain, rfl⟩ := Path.confined_eq_some hworking hconfined
      have hnames := Path.confined_names hconfined
      refine ((hprepared _).bind fun _ ↦ hasked.bind fun content v hv ↦ ?_) u hu
      rw [ends_change]
      cases hwritten : v.disk.writeContent
          (.ofPlace (staging.resolve working ++ below)) content with
      | error e => exact hv
      | ok d => exact hv.write hplain hnames hwritten

/-! ### In the place of the earlier media files -/

/-- The places of a temporary directory and of the media files keep apart. -/
theorem apart_staging_media (forms : FormsDirectory) (working : Place) (formId : String) (n : Nat) :
    Place.Apart ((forms.path.child (Disk.temporaryName stagingName n)).resolve working)
      (forms.mediaPlace working formId) := by
  have hname : FormsDirectory.Touches formId (Disk.temporaryName stagingName n) := .staging n
  rw [resolve_child_of_touches hname, FormsDirectory.mediaPlace_eq]
  exact Place.apart_siblings (FormsDirectory.media_ne_staging formId n).symm

/-- What was collected is moved into place. -/
theorem Holding.move
    (h : Holding fair working
      ((forms.path.child (Disk.temporaryName stagingName n)).resolve working) s)
    (hmoved : s.disk.moveDirectory (forms.path.child (Disk.temporaryName stagingName n))
      (forms.mediaPath formId) = .ok d) :
    Holding fair working (forms.mediaPlace working formId) { s with disk := d } := by
  obtain ⟨hnet, hsound, rfl, hdirectory, hnamed⟩ := h
  have hapart := apart_staging_media forms s.disk.working formId n
  have hfiles := hsound.mem_filesBelow_moveDirectory hapart hmoved
  obtain ⟨rfl, hd⟩ := hsound.moveDirectory_eq hapart hmoved
  refine ⟨hnet, hd, rfl, hd.item?_of_mem ?_ hapart.ne_nil.2, fun f hf ↦ hnamed f ((hfiles f).mp hf)⟩
  refine Disk.mem_relocate.mpr (Or.inl ⟨[], (List.append_nil _).symm, ?_⟩)
  rw [List.append_nil, Disk.mem_clear]
  exact ⟨hapart.2, Disk.mem_of_item? hdirectory hapart.ne_nil.1⟩

/-- What is apart from a directory that is cleared is kept. -/
theorem keeps_clearDirectory_holding {p : Path} (hapart : Place.Apart place (p.resolve working)) :
    Keeps (Holding fair working place) (clearDirectory p) := by
  intro u hu
  refine (ends_clearDirectory p).mono ?_
  rintro _ _ (rfl | rfl)
  · exact hu
  · rw [← hu.working_eq] at hapart
    refine ⟨hu.net, hu.sound.clear _, hu.working_eq,
      (Disk.item?_clear_of_not_prefix hapart.2).trans hu.directory, fun f hf ↦ hu.named f ?_⟩
    rwa [← Disk.filesBelow_clear_of_apart hapart]

/-- The media files that have come are in place, under a name that fits. -/
def Housing (forms : FormsDirectory) (fair : N → Prop) (working : Place) (formId : String)
    (s : Site N) : Prop :=
  Holding fair working (forms.mediaPlace working formId) s ∧
    forms.Fits (FormsDirectory.baseName formId ++ "-media")

theorem ifReturns_stage_housing (hsource : source.Answers fair sent) (hworking : working.Plain)
    (n : Nat) (files : List MediaEntry)
    (h : Holding fair working
      ((forms.path.child (Disk.temporaryName stagingName n)).resolve working) s) :
    IfReturns (stage source formId files (forms.path.child (Disk.temporaryName stagingName n))
      (forms.mediaPath formId)) s fun _ t ↦ Housing forms fair working formId t := by
  have hapart := apart_staging_media forms working formId n
  have hcollect : Keeps (Holding fair working
      ((forms.path.child (Disk.temporaryName stagingName n)).resolve working))
      (files.forM (collect source formId
        (forms.path.child (Disk.temporaryName stagingName n)))) :=
    keeps_forM fun file _ ↦ keeps_collect_named hsource hworking _ file
  unfold stage
  refine (hcollect s h).ifReturns.bind fun _ t ht ↦ ?_
  refine (keeps_clearDirectory_holding hapart t ht).ifReturns.bind fun _ u hu ↦ ?_
  refine ifReturns_change.mono ?_
  rintro _ _ ⟨d, hmoved, rfl⟩
  have htarget := (Disk.moveDirectory_eq_ok hmoved).2.1
  exact ⟨hu.move hmoved, FormsDirectory.fits_of_locate
    (FormsDirectory.Touches.media formId).ne_dots htarget⟩

/-- A temporary directory that was made is there, with nothing in it. -/
theorem ifReturns_makeStaging_holding (hfair : fair s.net) (hsound : s.disk.Sound) :
    IfReturns (makeStaging forms) s fun staging t ↦
      ∃ n, staging = forms.path.child (Disk.temporaryName stagingName n) ∧
        Holding fair s.disk.working (staging.resolve s.disk.working) t := by
  unfold IfReturns makeStaging
  rw [ends_bind, ends_ask]
  cases hmade : s.disk.makeTemporary forms.path stagingName with
  | error e => exact fun _ hr ↦ by cases hr
  | ok made =>
    obtain ⟨staging, d⟩ := made
    obtain ⟨n, rfl, hmade⟩ := Disk.makeTemporary_eq_ok hmade
    have hd := hsound.makeDirectory hmade
    obtain ⟨-, -, hmissing, rfl⟩ := Disk.makeDirectory_eq_ok hmade
    have hroot := (apart_staging_media forms s.disk.working "" n).ne_nil.1
    rintro _ ⟨⟩
    refine ⟨n, rfl, hfair, hd, Disk.working_put _ _, Disk.item?_put_self hroot _, fun f hf ↦ ?_⟩
    obtain ⟨-, hmem⟩ := Disk.mem_filesBelow.mp hf
    rcases Disk.mem_put.mp hmem with ⟨-, hfile⟩ | ⟨-, hold⟩
    · cases hfile
    · exact absurd hold (hsound.notMem_below hmissing f.1)

theorem ifReturns_bringMedia_housing (hsource : source.Answers fair sent)
    (hworking : s.disk.working.Plain) (hfair : fair s.net) (hsound : s.disk.Sound)
    (hmanifest : x.manifest.isSome = true) :
    IfReturns (bringMedia source forms x) s fun _ t ↦
      Housing forms fair s.disk.working x.formId t := by
  obtain ⟨manifest, hmanifest⟩ := Option.isSome_iff_exists.mp hmanifest
  unfold bringMedia
  rw [hmanifest]
  refine (ifReturns_makeStaging_holding hfair hsound).bind ?_
  rintro _ t ⟨n, rfl, ht⟩
  refine (ifReturns_attempt
    (ifReturns_stage_housing hsource hworking n manifest.files ht)).bind fun outcome u hu ↦ ?_
  cases outcome with
  | error e =>
    refine ifReturns_bind fun _ _ ↦ ifReturns_ofExcept.bind ?_
    rintro _ _ ⟨hr, -⟩
    cases hr
  | ok _ =>
    obtain ⟨hu, hfits⟩ := hu () rfl
    have hdrop : Keeps (Holding fair s.disk.working (forms.mediaPlace s.disk.working x.formId))
        (dropStaging (forms.path.child (Disk.temporaryName stagingName n))) :=
      (keeps_clearDirectory_holding (apart_staging_media forms _ x.formId n).symm).attempt.bind
        fun _ ↦ keeps_pure
    refine (hdrop u hu).ifReturns.bind fun _ v hv ↦ ifReturns_ofExcept.bind ?_
    rintro _ _ ⟨-, rfl⟩
    exact ifReturns_pure ⟨hv, hfits⟩

/-- The media directory of a form can be looked at, and the files in it are named. -/
structure Looks (forms : FormsDirectory) (formId : String) (d : Disk) : Prop where
  probe : d.probe (forms.mediaPath formId) = .ok (forms.mediaPlace d.working formId, .directory)
  named : d.Named (forms.mediaPlace d.working formId)

/-- The definition is written last, and the way to it is the way to the media directory. -/
theorem Housing.write (h : Housing forms fair working formId s)
    (hwritten : s.disk.writeContent (forms.formPath formId) content = .ok d) :
    Looks forms formId d := by
  obtain ⟨⟨hnet, hsound, rfl, hdirectory, hnamed⟩, hfits⟩ := h
  have hdefinition := FormsDirectory.Touches.definition formId
  obtain ⟨hreached, hnot, rfl⟩ := Disk.writeContent_eq_ok hwritten
  have hnames := (Disk.locate_eq_ok_iff.mp hreached).2.2.1
  have hstands : forms.Stands s.disk := fun n ↦ Disk.directory_of_locate_child hreached n
  have hapart : Place.Apart
      (forms.path.resolve s.disk.working ++ [FormsDirectory.baseName formId ++ "-media"])
      (forms.path.resolve s.disk.working ++ [FormsDirectory.baseName formId ++ ".xml"]) :=
    Place.apart_siblings (FormsDirectory.media_ne_definition formId)
  rw [FormsDirectory.formPath, resolve_child_of_touches hdefinition] at hnot ⊢
  rw [FormsDirectory.mediaPlace_eq] at hdirectory hnamed
  have hstays : forms.Stands (s.disk.put (forms.path.resolve s.disk.working ++
      [FormsDirectory.baseName formId ++ ".xml"]) (.file content)) := fun n ↦ by
    rw [Disk.working_put, Disk.item?_put_of_ne]
    · exact hstands n
    · intro hsame
      rw [hsame] at hnot
      exact hnot (hstands n)
  constructor
  case probe =>
    rw [FormsDirectory.mediaPlace_eq, Disk.probe_eq_ok_iff]
    refine ⟨(hstays.locate_child_iff (fun c hc ↦ hnames c (List.mem_append_left _ hc))
      (FormsDirectory.Touches.media formId).ne_dots).mpr hfits, ?_⟩
    rw [Disk.working_put, Disk.item?_put_of_ne, hdirectory]
    intro hsame
    exact hapart.1 (hsame ▸ List.prefix_refl _)
  case named =>
    rw [FormsDirectory.mediaPlace_eq, Disk.working_put]
    unfold Disk.Named
    rw [Disk.filesBelow_put_of_not_prefix hapart.1]
    exact hnamed

/-- When a download of a form with a manifest has returned, its media directory can be looked at,
whatever the names in the manifest are. -/
theorem ifReturns_bring_looks (hsource : source.Answers fair sent)
    (hworking : s.disk.working.Plain) (hfair : fair s.net) (hsound : s.disk.Sound)
    (hmanifest : x.manifest.isSome = true) :
    IfReturns (bring source forms x) s fun _ t ↦ Looks forms x.formId t.disk := by
  unfold bring
  refine (hsource _ s hfair).ifReturns.bind ?_
  rintro definition t ⟨hfair, hdisk, -, -⟩
  rw [← hdisk] at hworking hsound
  refine (ifReturns_bringMedia_housing hsource hworking hfair hsound hmanifest).bind
    fun media u hu ↦ ifReturns_change.bind ?_
  rintro _ _ ⟨d, hwritten, rfl⟩
  exact ifReturns_pure (hu.write hwritten)

theorem ifReturns_run_looks (hsource : source.Answers fair sent)
    (hworking : s.disk.working.Plain) (hfair : fair s.net) (hsound : s.disk.Sound)
    (hmanifest : x.manifest.isSome = true) :
    IfReturns (run source forms x) s fun _ t ↦ Looks forms x.formId t.disk := by
  unfold run
  refine (ends_prepare_sameFiles forms.path hsound).ifReturns.bind ?_
  rintro _ t ⟨hsound, hsame, -, hnet⟩
  rw [← hsame] at hworking
  rw [← hnet] at hfair
  refine (ifReturns_attempt
    (ifReturns_bring_looks hsource hworking hfair hsound hmanifest)).bind fun outcome u hu ↦ ?_
  cases outcome with
  | error e => exact ifReturns_throw
  | ok brought =>
    dsimp only
    split
    · unfold IfReturns
      rw [ends_bind, ends_note, Next, ends_pure]
      exact fun _ _ ↦ hu brought rfl
    · exact ifReturns_pure (hu brought rfl)

end Download

/-! ### The comparison -/

/-- A comparison that finds no difference has found each listed name among those that the tree
gives. -/
theorem Disk.Named.canonicalName {d : Disk} {place : Place} (h : d.Named place)
    {files : List MediaEntry} (hsame : mediaDiffer files (d.recordsBelow place) = false) :
    ∀ f ∈ files, CanonicalName f.fileName := by
  intro f hf
  obtain ⟨hash, hhash⟩ := FileHashes.exists_get?_ofEntries hf
  rw [(mediaDiffer_eq_false_iff _ _).mp hsame] at hhash
  obtain ⟨⟨below, content⟩, hmem, hname, -⟩ := Disk.exists_of_get?_recordsBelow hhash
  rw [← hname]
  exact (h _ hmem).canonicalName (Disk.mem_filesBelow.mp hmem).1

namespace Shelf

variable {source : Source N} {forms : FormsDirectory} {fair : N → Prop} {sent : Fault → Prop}
  {x : Details} {s t : Site N}

theorem mediaIn_of_probe {d : Disk} {p : Path} {place : Place} (hnull : p.holdsNull = false)
    (h : d.probe p = .ok (place, .directory)) : mediaIn d p = .ok (d.recordsBelow place) := by
  unfold mediaIn Disk.look
  rw [if_neg (by simp [hnull]), h]
  rfl

/-- The shelf finds the media files of a form that has just come. -/
theorem mediaFiles_of_stored {content : Bytes} (hwritten : forms.path.Written)
    (hnull : forms.path.holdsNull = false) (hmanifest : x.manifest.isSome = true)
    (hrow : t.table.row? x.formId = some (rowOf x (Download.broughtBy forms x content)))
    (hlooks : Download.Looks forms x.formId t.disk) :
    mediaFiles x.formId x.descriptor.version t =
      .ok (t.disk.recordsBelow (forms.mediaPlace t.disk.working x.formId)) t := by
  have hmedia : (rowOf x (Download.broughtBy forms x content)).mediaPath =
      some (forms.mediaPath x.formId).text := by
    obtain ⟨manifest, hmanifest⟩ := Option.isSome_iff_exists.mp hmanifest
    unfold rowOf Download.broughtBy
    rw [hmanifest]
    rfl
  have hread : Path.ofText (forms.mediaPath x.formId).text = forms.mediaPath x.formId :=
    FormsDirectory.Owns.media.ofText_text hwritten
  have hversion : (rowOf x (Download.broughtBy forms x content)).version = x.descriptor.version :=
    rfl
  have hmedia_null : (forms.mediaPath x.formId).holdsNull = false :=
    (FormsDirectory.Touches.media x.formId).holdsNull_child hnull
  refine Ends.eq_ok ?_
  unfold mediaFiles
  rw [ends_bind, ends_get, Next, hrow]
  dsimp only
  rw [hmedia]
  dsimp only
  rw [if_pos hversion, Download.ends_ask, hread, mediaIn_of_probe hmedia_null hlooks.probe]
  exact ⟨rfl, rfl⟩

/-- The comparison in full of a form with a manifest that has just come is that of its media
files. -/
theorem isUpdated_of_stored {content : Bytes}
    (hcontent : ContentKey.ofBytes content = ContentKey.stripLabel x.descriptor.contentHash)
    (hmanifest : x.manifest.isSome = true) {files : List MediaRecord}
    (hfiles : mediaFiles x.formId x.descriptor.version t = .ok files t) :
    (device source forms).isUpdated x.descriptor x.manifest
        (rowOf x (Download.broughtBy forms x content)).record t =
      .ok (mediaDiffer x.mediaFiles files) t := by
  have hsame : ContentKey.stripLabel x.descriptor.contentHash =
      ContentKey.stripLabel (rowOf x (Download.broughtBy forms x content)).record.contentHash := by
    change _ = ContentKey.stripLabel (ContentKey.ofBytes content)
    rw [ContentKey.stripLabel_ofBytes, hcontent]
  obtain ⟨manifest, hmanifest⟩ := Option.isSome_iff_exists.mp hmanifest
  unfold Device.isUpdated Details.mediaFiles
  rw [if_neg (not_not_intro hsame), hmanifest]
  exact bind_of_ok hfiles

/-- What a download that returned has brought, whatever the names in the manifest are; and under
canonical names the files are those of the manifest. -/
structure Arrived (forms : FormsDirectory) (x : Details) (content : Bytes) (d : Disk) : Prop where
  content_eq : ContentKey.ofBytes content = ContentKey.stripLabel x.descriptor.contentHash
  noNull : forms.path.holdsNull = false
  looks : Download.Looks forms x.formId d
  carries : (∀ f ∈ x.mediaFiles, CanonicalName f.fileName) →
    d.Carries (forms.mediaPlace d.working x.formId) (FileHashes.ofEntries x.mediaFiles)

theorem ifReturns_run_arrived (hsource : source.Answers fair sent) (hsound : s.disk.Sound)
    (hworking : s.disk.working.Plain) (hfair : fair s.net) (hmanifest : x.manifest.isSome = true)
    (hdefinition : ∀ u, fair u.net → IfReturns (source x.descriptor.downloadUrl) u fun content _ ↦
      ContentKey.ofBytes content = ContentKey.stripLabel x.descriptor.contentHash)
    (hserves : ∀ f ∈ x.mediaFiles, source.Serves fair f) :
    IfReturns (Download.run source forms x) s fun downloaded t ↦
      ∃ content, downloaded = Download.broughtBy forms x content ∧
        Arrived forms x content t.disk := by
  have hcarries : IfReturns (Download.run source forms x) s fun _ t ↦
      (∀ f ∈ x.mediaFiles, CanonicalName f.fileName) →
        t.disk.Carries (forms.mediaPlace t.disk.working x.formId)
          (FileHashes.ofEntries x.mediaFiles) := by
    by_cases hnames : ∀ f ∈ x.mediaFiles, CanonicalName f.fileName
    · have htidy : Download.Tidy fair s.disk.working
          (forms.mediaPlace s.disk.working x.formId) False s := ⟨hsound, rfl, hfair, False.elim⟩
      refine (Download.ends_run_carries hsource x hworking hserves hnames
        htidy).ifReturns.mono fun downloaded t ht _ ↦ ?_
      rw [ht.1.working_eq]
      exact (ht.2 downloaded rfl).2
    · exact ifReturns_of_forall fun _ _ hall ↦ absurd hall hnames
  refine ((Download.ifReturns_run.and (Download.ifReturns_run_looks hsource hworking hfair hsound
    hmanifest)).and hcarries).mono ?_
  rintro _ t ⟨⟨⟨content, ⟨_, d, hprepared, _, u, hsent, rfl⟩, rfl⟩, hlooks⟩, hcarries⟩
  have hcontent := (hdefinition { s with disk := d } hfair).of_ok hsent
  exact ⟨_, rfl, hcontent, (Disk.probe_of_prepare hprepared).1, hlooks, hcarries⟩

/-- Right after a download that returned, the comparison in full of the same form and manifest with
the record that was put finds no difference, if and only if every media file is listed under its
canonical name. -/
theorem recognised_iff (hsource : source.Answers fair sent) (hsound : s.disk.Sound)
    (hworking : s.disk.working.Plain) (hwritten : forms.path.Written) (hfair : fair s.net)
    (hmanifest : x.manifest.isSome = true)
    (hdefinition : ∀ u, fair u.net → IfReturns (source x.descriptor.downloadUrl) u fun content _ ↦
      ContentKey.ofBytes content = ContentKey.stripLabel x.descriptor.contentHash)
    (hserves : ∀ f ∈ x.mediaFiles, source.Serves fair f) :
    IfReturns (download source forms x) s fun _ t ↦
      ∃ record updated, record? x.formId t = .ok (some record) t ∧
        (device source forms).isUpdated x.descriptor x.manifest record t = .ok updated t ∧
        (updated = false ↔ ∀ f ∈ x.mediaFiles, CanonicalName f.fileName) := by
  refine (ends_download_filed (ifReturns_run_arrived hsource hsound hworking hfair hmanifest
    hdefinition hserves)).mono ?_
  rintro r t ⟨outcome, u, harrived, hdisk, -, hfiled, rfl⟩ _ hr
  cases outcome with
  | error e => cases hr
  | ok downloaded =>
    obtain ⟨content, rfl, hcame⟩ := harrived downloaded rfl
    rw [← hdisk] at hcame
    generalize htable : t.table = table at hfiled
    cases hfiled
    have hrow : t.table.row? x.formId = some (rowOf x (Download.broughtBy forms x content)) := by
      rw [htable]
      exact Table.row?_put_self _ _
    have hfiles := mediaFiles_of_stored hwritten hcame.noNull hmanifest hrow hcame.looks
    refine ⟨(rowOf x (Download.broughtBy forms x content)).record, _, ?_,
      isUpdated_of_stored hcame.content_eq hmanifest hfiles, ?_⟩
    · refine Ends.eq_ok ?_
      unfold record?
      rw [ends_bind, ends_get, Next, hrow]
      exact ⟨rfl, rfl⟩
    · exact ⟨fun hsame ↦ hcame.looks.named.canonicalName hsame,
        fun hnames ↦ (hcame.carries hnames).not_mediaDiffer⟩

/-- The published form with media files listed under these names, all with the same content. -/
def naming (names : List String) : Details where
  descriptor := listed "1" (some "m")
  notOnDevice := true
  updated := false
  manifest := some ⟨"m", names.map fun name ↦ ⟨name, ContentKey.ofBytes [119], "w"⟩⟩

/-- The server sends what the form and its manifest report. -/
theorem serves_naming (names : List String) :
    (∀ u : Site Archive, u.net.contents = unstocked.net.contents →
      IfReturns (Archive.source (naming names).descriptor.downloadUrl) u fun content _ ↦
        ContentKey.ofBytes content =
          ContentKey.stripLabel (naming names).descriptor.contentHash) ∧
      ∀ f ∈ (naming names).mediaFiles,
        Archive.source.Serves (fun a ↦ a.contents = unstocked.net.contents) f := by
  have hhash (content : Bytes) : ContentKey.ofBytes content =
      ContentKey.stripLabel (ContentKey.ofBytes content) :=
    (ContentKey.stripLabel_ofBytes content).symm
  have hform : unstocked.net.answerAt "u" = .ok [117] := by decide +kernel
  have hfile : unstocked.net.answerAt "w" = .ok [119] := by decide +kernel
  constructor
  · have hserved : Archive.source.Serves (fun a ↦ a.contents = unstocked.net.contents)
        ⟨"", ContentKey.ofBytes [117], "u"⟩ := Archive.serves_of_answerAt hform (hhash _)
    exact hserved
  · intro f hf
    obtain ⟨name, -, rfl⟩ := List.mem_map.mp hf
    exact Archive.serves_of_answerAt hfile (hhash _)

/-- Names of files in a directory of their own, one of them listed twice. -/
def nested : List String := ["img/logo.png", "icon.png", "img/logo.png"]

/-- Under these names the download returns, and the form is recognised. -/
theorem recognised_iff_nested :
    Returns (download Archive.source besideWork (naming nested)) unstocked fun _ t ↦
      ∃ record, record? "a" t = .ok (some record) t ∧
        (device Archive.source besideWork).isUpdated (naming nested).descriptor
          (naming nested).manifest record t = .ok false t := by
  obtain ⟨_, t, hreturns, -⟩ :
      Returns (download Archive.source besideWork (naming nested)) unstocked fun _ _ ↦ True := by
    decide +kernel
  have hsound := sound_unstocked
  have hworking : unstocked.disk.working.Plain := ⟨by decide, by decide⟩
  have hwritten : besideWork.path.Written := Path.written_ofText "forms"
  have hmanifest : (naming nested).manifest.isSome = true := rfl
  have hnames : ∀ f ∈ (naming nested).mediaFiles, CanonicalName f.fileName := by decide +kernel
  obtain ⟨hdefinition, hserves⟩ := serves_naming nested
  -- nothing is to be run any more, so the site is forgotten
  generalize unstocked = s at hreturns hsound hworking hdefinition hserves ⊢
  obtain ⟨record, updated, hrecord, hcompared, hiff⟩ :=
    (recognised_iff (Archive.answers_contents s.net.contents) hsound hworking hwritten rfl
      hmanifest hdefinition hserves).of_ok hreturns
  obtain rfl := hiff.mpr hnames
  exact ⟨_, t, hreturns, record, hrecord, hcompared⟩

/-- A file that is listed under another name than its canonical one comes and is there, and the
comparison does not recognise it. -/
theorem dotted_name_unrecognised :
    ["./logo.png", "img/../logo.png", ".//logo.png"].Forall fun name ↦
      Returns (download Archive.source besideWork (naming [name])) unstocked fun _ t ↦
        t.disk.filesBelow ["device", "forms", "a-media"] = [(["logo.png"], [119])] ∧
          Returns (do
            match ← record? "a" with
            | some record =>
              (device Archive.source besideWork).isUpdated (naming [name]).descriptor
                (naming [name]).manifest record
            | none => return false) t fun updated _ ↦ updated = true := by
  decide +kernel

end Shelf

end FormCatalog
