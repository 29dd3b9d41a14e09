import FormCatalog.Proofs.Shelf.Confinement

/-!
# Downloads that fail when everything has come

When the definition and all media files have come (`Download.Received`), three steps put the form
into place: the earlier media directory is removed, the temporary directory is moved to its place,
and the definition is written. Nothing ties them together. `Download.settle` is this end of a
download over any file system, which may refuse any step; with the plain one it is the end of
`Download.run` (`Download.ends_run_of_received`).

What a refusal leaves depends on the step (`Download.Settles`): while the earlier media files are
removed, the definition stays and so do the media files that were not taken yet; after that the
earlier media files are gone, and when it is the definition that cannot be written, it stays beside
the new media files, or beside none. So the copy is kept whole only by a refusal to remove anything
(`Download.settlesByStep`). `Download.half_done_copy` shows the other ends.
-/

set_option autoImplicit false
set_option relaxedAutoImplicit false

namespace FormCatalog

open Op

variable {N : Type}

/-! ### File systems that may refuse -/

/-- The operations that put a form into place. -/
structure FileSystem where
  removeTree : Path → Op Disk Unit
  moveDirectory : Path → Path → Op Disk Unit
  writeContent : Path → Bytes → Op Disk Unit

namespace FileSystem

/-- The file system that refuses only what the tree forces it to refuse. -/
def plain : FileSystem where
  removeTree p := Disk.update (·.removeTree p)
  moveDirectory source target := Disk.update (·.moveDirectory source target)
  writeContent p content := Disk.update (·.writeContent p content)

/-- Each operation does as it should or ends in a fault of the file system. By then a removal may
have taken a part of the tree, a move has done nothing, and the file to be written is as it was or
holds a beginning of its content. -/
structure Lawful (fs : FileSystem) : Prop where
  removeTree : ∀ {p : Path} (d : Disk), p.holdsNull = false → Ends (fs.removeTree p) d fun r d' ↦
    match r with
    | .ok _ => d.removeTree p = .ok d'
    | .error e => (∃ f, e = .disk f) ∧ d.DiffersWithin (p.resolve d.working <+: ·) d' ∧
      ∀ q, d'.item? q = d.item? q ∨ d'.item? q = none
  moveDirectory : ∀ (source target : Path) (d : Disk),
    Ends (fs.moveDirectory source target) d fun r d' ↦
      match r with
      | .ok _ => d.moveDirectory source target = .ok d'
      | .error e => (∃ f, e = .disk f) ∧ d' = d
  writeContent : ∀ {p : Path} (content : Bytes) (d : Disk), p.holdsNull = false →
    Ends (fs.writeContent p content) d fun r d' ↦
      match r with
      | .ok _ => d.writeContent p content = .ok d'
      | .error e => (∃ f, e = .disk f) ∧ d.DiffersWithin (· = p.resolve d.working) d' ∧
        (d'.item? (p.resolve d.working) = d.item? (p.resolve d.working) ∨
          ∃ part, part <+: content ∧ d'.item? (p.resolve d.working) = some (.file part))

theorem lawful_plain : plain.Lawful where
  removeTree {p} d hnull := by
    unfold plain
    dsimp only
    rw [Disk.ends_update]
    cases hremoved : d.removeTree p with
    | ok d' => rfl
    | error e => exact ⟨Disk.removeTree_eq_error hnull hremoved, .refl _ d, fun _ ↦ Or.inl rfl⟩
  moveDirectory source target d := by
    unfold plain
    dsimp only
    rw [Disk.ends_update]
    cases hmoved : d.moveDirectory source target with
    | ok d' => rfl
    | error e => exact ⟨Disk.moveDirectory_eq_error hmoved, rfl⟩
  writeContent {p} content d hnull := by
    unfold plain
    dsimp only
    rw [Disk.ends_update]
    cases hwritten : d.writeContent p content with
    | ok d' => rfl
    | error e => exact ⟨Disk.writeContent_eq_error hnull hwritten, .refl _ d, Or.inl rfl⟩

/-- A file system that is full: no file can be written any more. -/
def full : FileSystem :=
  { plain with
    writeContent := fun _ _ ↦ throw (.disk (.other "[Errno 28] No space left on device")) }

theorem lawful_full : full.Lawful where
  removeTree := lawful_plain.removeTree
  moveDirectory := lawful_plain.moveDirectory
  writeContent _ d _ := ⟨⟨_, rfl⟩, .refl _ d, Or.inl rfl⟩

end FileSystem

/-! ### The end of a download -/

namespace Download

variable {source : Source N} {forms : FormsDirectory} {sent : Fault → Prop} {formId name : String}
  {x : Details} {d d₀ : Disk} {s t : Site N} {content : Bytes} {staging : Option Path}
  {fs : FileSystem}

/-- Removes a directory by a file system, if something is there. -/
def clearWith (fs : FileSystem) (p : Path) : Op (Site N) Unit := do
  if ← Site.ask (·.exists? p) then Site.onDisk (fs.removeTree p)

/-- The media files in the temporary directory take the place of the earlier ones; without such
a directory there are none any more. -/
def replaceMedia (fs : FileSystem) (forms : FormsDirectory) (formId : String) :
    Option Path → Op (Site N) Unit
  | none => clearWith fs (forms.mediaPath formId)
  | some staging => do
    let outcome ← Op.attempt do
      clearWith fs (forms.mediaPath formId)
      Site.onDisk (fs.moveDirectory staging (forms.mediaPath formId))
    let _ ← Op.attempt (clearWith fs staging)
    Op.ofExcept outcome

/-- What is left to do when everything has come. -/
def settle (fs : FileSystem) (forms : FormsDirectory) (formId : String) (staging : Option Path)
    (content : Bytes) : Op (Site N) Unit := do
  replaceMedia fs forms formId staging
  Site.onDisk (fs.writeContent (forms.formPath formId) content)

/-- From a site where the directory of forms is there, a download has received the definition and,
if there is a manifest, all media files, in a temporary directory. -/
inductive Received (source : Source N) (forms : FormsDirectory) (x : Details) (s : Site N) :
    Bytes → Option Path → Site N → Prop
  | alone {content : Bytes} {t : Site N} (hmanifest : x.manifest = none)
      (hdefinition : source x.descriptor.downloadUrl s = .ok content t) :
      Received source forms x s content none t
  | media {manifest : Manifest} {content : Bytes} {staging : Path} {t u v : Site N}
      (hmanifest : x.manifest = some manifest)
      (hdefinition : source x.descriptor.downloadUrl s = .ok content t)
      (hstaging : makeStaging forms t = .ok staging u)
      (hcame : manifest.files.forM (collect source x.formId staging) u = .ok ⟨⟩ v) :
      Received source forms x s content (some staging) v

theorem onDisk_update (f : Disk → Except Fault Disk) :
    (Site.onDisk (Disk.update f) : Op (Site N) Unit) = Site.change f := by
  funext s
  cases hf : f s.disk with
  | ok d =>
    rw [change_eq_ok hf]
    refine onDisk_eq_ok (Ends.eq_ok ?_)
    rw [Disk.ends_update, hf]
    exact ⟨rfl, rfl⟩
  | error e =>
    have hchange : Site.change f s = .error e s := by
      refine Ends.eq_error ?_
      rw [ends_change, hf]
      exact ⟨rfl, rfl⟩
    rw [hchange]
    refine (onDisk_eq_error (d := s.disk) (Ends.eq_error ?_)).trans rfl
    rw [Disk.ends_update, hf]
    exact ⟨rfl, rfl⟩

theorem clearWith_plain (p : Path) :
    (clearWith .plain p : Op (Site N) Unit) = clearDirectory p := by
  unfold clearWith clearDirectory FileSystem.plain
  simp only [onDisk_update]

/-- Over the plain file system these are the steps of a download. -/
theorem replaceMedia_plain :
    (replaceMedia .plain forms formId staging : Op (Site N) Unit) =
      (match staging with
      | none => clearDirectory (forms.mediaPath formId)
      | some staging => do
        let outcome ← attempt do
          clearDirectory (forms.mediaPath formId)
          Site.change (·.moveDirectory staging (forms.mediaPath formId))
        dropStaging staging
        Op.ofExcept outcome) := by
  have hmove (origin target : Path) :
      (Site.onDisk (FileSystem.plain.moveDirectory origin target) : Op (Site N) Unit) =
        Site.change (·.moveDirectory origin target) := onDisk_update _
  unfold replaceMedia dropStaging
  cases staging with
  | none => rw [clearWith_plain]
  | some staging => simp [clearWith_plain, hmove]

theorem settle_plain :
    (settle .plain forms formId staging content : Op (Site N) Unit) =
      (do
        replaceMedia .plain forms formId staging
        Site.change (·.writeContent (forms.formPath formId) content)) := by
  have hwrite : (Site.onDisk (FileSystem.plain.writeContent (forms.formPath formId) content) :
      Op (Site N) Unit) = Site.change (·.writeContent (forms.formPath formId) content) :=
    onDisk_update _
  unfold settle
  rw [hwrite]

/-- An attempt goes on where its first program returned. -/
theorem attempt_bind_of_ok {σ α β : Type} {y : Op σ α} {f : α → Op σ β} {a : α} {u v : σ}
    (h : y u = .ok a v) : attempt (y >>= f) u = attempt (f a) v := by
  unfold attempt
  rw [bind_of_ok h]

/-- A sequence does not depend on how its first program came to its end. -/
theorem bind_congr_run {σ α β : Type} {y z : Op σ α} {f : α → Op σ β} {u v : σ} (h : y u = z v) :
    (y >>= f) u = (z >>= f) v := by
  change EStateM.bind y f u = EStateM.bind z f v
  unfold EStateM.bind
  rw [h]

/-- When everything has come, a download goes on with what is left to do. -/
theorem bring_of_received (h : Received source forms x s content staging t) :
    bring source forms x s = (do
      settle .plain forms x.formId staging content
      return (content, x.manifest.map fun _ ↦ forms.mediaPath x.formId)) t := by
  rw [settle_plain, replaceMedia_plain]
  unfold bring bringMedia
  cases h with
  | alone hmanifest hdefinition =>
    rw [bind_of_ok hdefinition, hmanifest]
    simp only [bind_assoc, pure_bind, Option.map_none]
  | @media manifest content staging u v t hmanifest hdefinition hstaging hcame =>
    have hstage :
        attempt (stage source x.formId manifest.files staging (forms.mediaPath x.formId)) v =
          attempt (do
            clearDirectory (forms.mediaPath x.formId)
            Site.change (·.moveDirectory staging (forms.mediaPath x.formId))) t :=
      attempt_bind_of_ok hcame
    rw [bind_of_ok hdefinition, hmanifest]
    simp only [bind_assoc, pure_bind, Option.map_some]
    rw [bind_of_ok hstaging]
    exact bind_congr_run hstage

/-- The end of a download is the end of what is left to do. -/
theorem ends_run_of_received (hprepared : Disk.prepare forms.path s.disk = .ok () d)
    (h : Received source forms x { s with disk := d } content staging t) :
    Ends (settle .plain forms x.formId staging content) t fun r u ↦
      match r with
      | .ok _ => ∃ v, run source forms x s = .ok (broughtBy forms x content) v ∧ v.disk = u.disk
      | .error e => run source forms x s = .error (failure x.formId e) u := by
  have hbring := bring_of_received h
  unfold Ends
  cases hsettle : (settle .plain forms x.formId staging content) t with
  | error e u =>
    rw [bind_eq_error hsettle] at hbring
    refine Ends.eq_error ?_
    unfold run
    rw [ends_bind, ends_iff_of_ok (onDisk_eq_ok hprepared), Next, ends_bind, ends_attempt,
      ends_iff_of_error hbring]
    exact ⟨rfl, rfl⟩
  | ok _ u =>
    rw [bind_of_ok hsettle] at hbring
    have hrun : Ends (run source forms x) s fun r v ↦
        r = .ok (broughtBy forms x content) ∧ v.disk = u.disk := by
      unfold run
      rw [ends_bind, ends_iff_of_ok (onDisk_eq_ok hprepared), Next, ends_bind, ends_attempt,
        ends_iff_of_ok hbring, Next]
      dsimp only
      split
      · exact ⟨rfl, rfl⟩
      · exact ⟨rfl, rfl⟩
    obtain ⟨_, v, hrun, hr, hv⟩ | ⟨_, _, -, hr, -⟩ := hrun.cases
    · cases hr
      exact ⟨v, hrun, hv⟩
    · cases hr

end Download

/-! ### Copies of a form -/

/-- A copy of a form: what is in the place of its definition, and what is at and below the place of
its media files. -/
structure Copy where
  definition : Option Item
  media : Place → Option Item

namespace FormsDirectory

variable {forms : FormsDirectory} {formId name : String} {d d' : Disk} {content : Bytes}

/-- The copy of a form on a disk. -/
def copy (forms : FormsDirectory) (formId : String) (d : Disk) : Copy where
  definition := d.item? (forms.path.resolve d.working ++ [baseName formId ++ ".xml"])
  media below := d.item? (forms.path.resolve d.working ++ [baseName formId ++ "-media"] ++ below)

/-- No media file is in the place of the definition. -/
theorem mediaPlace_ne_definition (base : Place) (formId : String) (below : Place) :
    base ++ [baseName formId ++ "-media"] ++ below ≠ base ++ [baseName formId ++ ".xml"] := by
  intro hsame
  have hinside : base ++ [baseName formId ++ "-media"] <+: base ++ [baseName formId ++ ".xml"] :=
    hsame ▸ List.prefix_append _ below
  exact (Place.apart_siblings (media_ne_definition formId)).1 hinside

/-- What happens below a name that is none of its own leaves the copy of a form. -/
theorem copy_eq_of_differs (hname : ¬ Owns formId name)
    (h : d.DiffersWithin (forms.path.resolve d.working ++ [name] <+: ·) d') :
    forms.copy formId d' = forms.copy formId d := by
  unfold copy
  rw [h.working_eq, Copy.mk.injEq]
  constructor
  · refine h.item?_eq _ fun hbelow ↦ hname ?_
    rw [Place.name_prefix_iff.mp hbelow]
    exact .definition
  · funext below
    refine h.item?_eq _ fun hbelow ↦ hname ?_
    rw [List.append_assoc] at hbelow
    rw [Place.name_prefix_iff.mp hbelow]
    exact .media

theorem copy_clear_media : forms.copy formId
    (d.clear (forms.path.resolve d.working ++ [baseName formId ++ "-media"])) =
      ⟨(forms.copy formId d).definition, fun _ ↦ none⟩ := by
  unfold copy
  rw [Disk.working_clear, Copy.mk.injEq]
  constructor
  · exact Disk.item?_clear_of_not_prefix
      (Place.apart_siblings (media_ne_definition formId)).1
  · funext below
    exact Disk.item?_clear_inside (by simp) (List.prefix_append _ _)

theorem copy_written (h : d.writeContent (forms.formPath formId) content = .ok d') :
    forms.copy formId d' = ⟨some (.file content), (forms.copy formId d).media⟩ := by
  obtain ⟨-, -, rfl⟩ := Disk.writeContent_eq_ok h
  rw [formPath, Download.resolve_child_of_touches (.definition formId)]
  unfold copy
  rw [Disk.working_put, Copy.mk.injEq]
  constructor
  · exact Disk.item?_put_self (by simp) _
  · funext below
    exact Disk.item?_put_of_ne (mediaPlace_ne_definition _ _ below).symm

/-- A directory that is moved to where nothing is keeps what is in it. -/
theorem copy_moved (hsound : d.Sound) (hname : Touches formId name) (hown : ¬ Owns formId name)
    (hfree : d.item? (forms.path.resolve d.working ++ [baseName formId ++ "-media"]) = none)
    (h : d.moveDirectory (forms.path.child name) (forms.mediaPath formId) = .ok d') :
    forms.copy formId d' = ⟨(forms.copy formId d).definition,
      fun below ↦ d.item? (forms.path.resolve d.working ++ [name] ++ below)⟩ := by
  have hne : name ≠ baseName formId ++ "-media" := by
    rintro rfl
    exact hown .media
  have hapart : Place.Apart (forms.path.resolve d.working ++ [name])
      (forms.path.resolve d.working ++ [baseName formId ++ "-media"]) := Place.apart_siblings hne
  have hplace :
      (forms.path.child name).resolve d.working = forms.path.resolve d.working ++ [name] :=
    Download.resolve_child_of_touches hname _
  have hplace' : (forms.mediaPath formId).resolve d.working =
      forms.path.resolve d.working ++ [baseName formId ++ "-media"] :=
    Download.resolve_child_of_touches (.media formId) _
  obtain ⟨rfl, hsound'⟩ := hsound.moveDirectory_eq (by rwa [hplace, hplace']) h
  rw [hplace, hplace', hsound.clear_eq_self hfree] at hsound' ⊢
  unfold copy
  rw [Disk.working_relocate, Copy.mk.injEq]
  constructor
  · refine Disk.item?_relocate_of_not_prefix (fun hbelow ↦ hown ?_)
      (Place.apart_siblings (media_ne_definition formId)).1
    rw [Place.name_prefix_iff.mp hbelow]
    exact .definition
  · funext below
    ext item
    have hmem {e : Disk} (he : e.Sound) {q : Place} (hq : q ≠ []) :
        e.item? q = some item ↔ (q, item) ∈ e.items :=
      ⟨fun hitem ↦ Disk.mem_of_item? hitem hq, fun hitem ↦ he.item?_of_mem hitem hq⟩
    rw [hmem hsound' (by simp), hmem hsound (by simp), Disk.mem_relocate]
    constructor
    · rintro (⟨below', hsame, hitem⟩ | ⟨-, hitem⟩)
      · rwa [List.append_cancel_left hsame]
      · exact absurd hitem (hsound.notMem_below hfree below)
    · exact fun hitem ↦ Or.inl ⟨below, rfl, hitem⟩

end FormsDirectory

/-! ### What a refusal leaves -/

namespace Download

variable {source : Source N} {forms : FormsDirectory} {sent : Fault → Prop} {formId name : String}
  {x : Details} {d : Disk} {s t : Site N} {content : Bytes} {staging : Option Path}
  {fs : FileSystem}

/-- The media files that a form is to have: those in the temporary directory, or none. -/
def newMedia (d : Disk) (staging : Option Path) : Place → Option Item := fun below ↦
  staging.bind fun p ↦ d.item? (p.resolve d.working ++ below)

/-- How putting a form into place ends, and the copy that it leaves: it is done, or the file system
refused one of the three steps. -/
inductive Settles (before : Copy) (new : Place → Option Item) (content : Bytes) :
    Except Fault Unit → Copy → Prop
  | done {after : Copy} (hdefinition : after.definition = some (.file content))
      (hmedia : after.media = new) : Settles before new content (.ok ()) after
  | removing (f : DiskFault) {after : Copy} (hdefinition : after.definition = before.definition)
      (hmedia : ∀ below, after.media below = before.media below ∨ after.media below = none) :
      Settles before new content (.error (.disk f)) after
  | moving (f : DiskFault) {after : Copy} (hdefinition : after.definition = before.definition)
      (hmedia : after.media = fun _ ↦ none) :
      Settles before new content (.error (.disk f)) after
  | writing (f : DiskFault) {after : Copy}
      (hdefinition : after.definition = before.definition ∨
        ∃ part, part <+: content ∧ after.definition = some (.file part))
      (hmedia : after.media = new) : Settles before new content (.error (.disk f)) after

/-- Where the directory of forms can be reached, a directory in it is removed with all that is in
it, or the removal is refused and some of it may be gone. -/
theorem ends_clearWith (hfs : fs.Lawful) (hsound : s.disk.Sound) (hstands : forms.Stands s.disk)
    (hforms : forms.path.holdsNull = false) (hname : FormsDirectory.Touches formId name) :
    Ends (clearWith fs (forms.path.child name)) s fun r t ↦
      match r with
      | .ok _ => t.disk = s.disk.clear (forms.path.resolve s.disk.working ++ [name])
      | .error e => (∃ f, e = .disk f) ∧
        s.disk.DiffersWithin (forms.path.resolve s.disk.working ++ [name] <+: ·) t.disk ∧
        ∀ q, t.disk.item? q = s.disk.item? q ∨ t.disk.item? q = none := by
  have hnull := hname.holdsNull_child hforms
  unfold clearWith
  rw [ends_bind, ends_ask]
  cases hexists : s.disk.exists? (forms.path.child name) with
  | error e => exact ⟨Disk.exists?_eq_error hexists, .refl _ _, fun _ ↦ Or.inl rfl⟩
  | ok found =>
    rw [Next]
    cases found with
    | false =>
      have hmissing := Disk.item?_of_not_exists hname.ne_dots hnull hexists hstands
      exact (hsound.clear_eq_self hmissing).symm
    | true =>
      rw [if_pos rfl]
      unfold Site.onDisk
      rw [ends_within]
      refine (hfs.removeTree s.disk hnull).mono fun r e he ↦ ?_
      rw [← resolve_child_of_touches hname]
      cases r with
      | ok _ => exact Disk.removeTree_eq_ok he
      | error _ => exact he

/-- In any case nothing else changes. -/
theorem ends_clearWith_differs (hfs : fs.Lawful) (hforms : forms.path.holdsNull = false)
    (hname : FormsDirectory.Touches formId name) :
    Ends (clearWith fs (forms.path.child name)) s fun _ t ↦
      s.disk.DiffersWithin (forms.path.resolve s.disk.working ++ [name] <+: ·) t.disk := by
  unfold clearWith
  rw [ends_bind, ends_ask]
  cases s.disk.exists? (forms.path.child name) with
  | error e => exact .refl _ _
  | ok found =>
    rw [Next]
    cases found with
    | false => exact .refl _ _
    | true =>
      rw [if_pos rfl]
      unfold Site.onDisk
      rw [ends_within]
      refine (hfs.removeTree s.disk (hname.holdsNull_child hforms)).mono fun r e he ↦ ?_
      rw [← resolve_child_of_touches hname]
      cases r with
      | ok _ =>
        rw [Disk.removeTree_eq_ok he]
        exact .clear fun below ↦ List.prefix_append _ _
      | error _ => exact he.2.1

/-- The media files of a copy have been replaced, or the file system refused that. -/
def Replaced (before : Copy) (new : Place → Option Item) (content : Bytes) :
    Except Fault Unit → Copy → Prop
  | .ok _, copy => copy = ⟨before.definition, new⟩
  | .error e, copy => Settles before new content (.error e) copy

/-- Removing the earlier media files leaves a copy without any, or some of them. -/
theorem ends_removeMedia (hfs : fs.Lawful) (hsound : t.disk.Sound) (hstands : forms.Stands t.disk)
    (hforms : forms.path.holdsNull = false) (new : Place → Option Item) (content : Bytes) :
    Ends (clearWith fs (forms.mediaPath formId)) t fun r u ↦
      match r with
      | .ok _ => u.disk = t.disk.clear
        (forms.path.resolve t.disk.working ++ [FormsDirectory.baseName formId ++ "-media"])
      | .error e =>
        Settles (forms.copy formId t.disk) new content (.error e) (forms.copy formId u.disk) := by
  refine (ends_clearWith hfs hsound hstands hforms (.media formId)).mono fun r u hu ↦ ?_
  cases r with
  | ok _ => exact hu
  | error e =>
    obtain ⟨⟨f, rfl⟩, hdiffers, hlost⟩ := hu
    refine .removing f ?_ fun below ↦ ?_
    · unfold FormsDirectory.copy
      dsimp only
      rw [hdiffers.working_eq]
      exact hdiffers.item?_eq _
        (Place.apart_siblings (FormsDirectory.media_ne_definition formId)).1
    · unfold FormsDirectory.copy
      dsimp only
      rw [hdiffers.working_eq]
      exact hlost _

/-- The temporary directory is moved to where the earlier media files were. -/
theorem ends_swapMedia (hfs : fs.Lawful) (hsound : t.disk.Sound) (hstands : forms.Stands t.disk)
    (hforms : forms.path.holdsNull = false) (n : Nat) (content : Bytes) :
    Ends (do
        clearWith fs (forms.mediaPath formId)
        Site.onDisk (fs.moveDirectory (forms.path.child (Disk.temporaryName stagingName n))
          (forms.mediaPath formId))) t fun r u ↦
      Replaced (forms.copy formId t.disk)
        (newMedia t.disk (some (forms.path.child (Disk.temporaryName stagingName n)))) content r
        (forms.copy formId u.disk) := by
  have hname : FormsDirectory.Touches formId (Disk.temporaryName stagingName n) := .staging n
  rw [ends_bind]
  refine (ends_removeMedia hfs hsound hstands hforms (newMedia t.disk
    (some (forms.path.child (Disk.temporaryName stagingName n)))) content).mono fun r u hu ↦ ?_
  cases r with
  | error e => exact hu
  | ok _ =>
    rw [Next]
    unfold Site.onDisk
    rw [ends_within]
    refine (hfs.moveDirectory _ _ u.disk).mono fun r d hd ↦ ?_
    have hcleared : forms.copy formId u.disk =
        ⟨(forms.copy formId t.disk).definition, fun _ ↦ none⟩ := by
      rw [hu]
      exact FormsDirectory.copy_clear_media
    cases r with
    | error e =>
      obtain ⟨⟨f, rfl⟩, rfl⟩ := hd
      change Settles _ _ _ _ (forms.copy formId u.disk)
      rw [hcleared]
      exact .moving f rfl rfl
    | ok _ =>
      have hout (below : Place) : ¬ forms.path.resolve t.disk.working ++
            [FormsDirectory.baseName formId ++ "-media"] <+:
          forms.path.resolve t.disk.working ++ [Disk.temporaryName stagingName n] ++ below := by
        rw [List.append_assoc, List.singleton_append, Place.name_prefix_iff]
        exact FormsDirectory.media_ne_staging formId n
      have hmoved := FormsDirectory.copy_moved (hu ▸ hsound.clear _) hname
        (FormsDirectory.not_owns_staging formId n)
        (by rw [hu]; exact Disk.item?_clear_self (by simp)) hd
      change forms.copy formId d = _
      rw [hmoved, hcleared, Copy.mk.injEq]
      refine ⟨rfl, ?_⟩
      funext below
      rw [hu]
      unfold newMedia
      rw [Option.bind_some, resolve_child_of_touches hname]
      exact Disk.item?_clear_of_not_prefix (hout below)

theorem ends_replaceMedia (hfs : fs.Lawful) (hsound : t.disk.Sound)
    (hstands : forms.Stands t.disk) (hforms : forms.path.holdsNull = false)
    (hstaging : ∀ p, staging = some p →
      ∃ n, p = forms.path.child (Disk.temporaryName stagingName n)) (content : Bytes) :
    Ends (replaceMedia fs forms formId staging) t fun r u ↦
      Replaced (forms.copy formId t.disk) (newMedia t.disk staging) content r
        (forms.copy formId u.disk) := by
  cases staging with
  | none =>
    refine (ends_removeMedia hfs hsound hstands hforms (newMedia t.disk none)
      content).mono fun r u hu ↦ ?_
    cases r with
    | error e => exact hu
    | ok _ =>
      change forms.copy formId u.disk = _
      rw [hu]
      exact FormsDirectory.copy_clear_media
  | some p =>
    obtain ⟨n, rfl⟩ := hstaging p rfl
    have hname : FormsDirectory.Touches formId (Disk.temporaryName stagingName n) := .staging n
    unfold replaceMedia
    rw [ends_bind, ends_attempt]
    refine (ends_swapMedia hfs hsound hstands hforms n content).mono fun outcome u hu ↦ ?_
    -- whatever is done to the temporary directory, the copy stays as it is
    rw [Next, ends_bind, ends_attempt]
    refine (ends_clearWith_differs hfs hforms hname).mono fun _ v hv ↦ ?_
    rw [← FormsDirectory.copy_eq_of_differs (FormsDirectory.not_owns_staging formId n) hv] at hu
    rw [Next, ends_ofExcept]
    exact hu

/-- However a lawful file system refuses, the copy that is left is one of those said. -/
theorem ends_settle (hfs : fs.Lawful) (hsound : t.disk.Sound)
    (hstands : forms.Stands t.disk) (hforms : forms.path.holdsNull = false)
    (hstaging : ∀ p, staging = some p →
      ∃ n, p = forms.path.child (Disk.temporaryName stagingName n)) (content : Bytes) :
    Ends (settle fs forms formId staging content) t fun r u ↦
      Settles (forms.copy formId t.disk) (newMedia t.disk staging) content r
        (forms.copy formId u.disk) := by
  have hname := FormsDirectory.Touches.definition formId
  unfold settle
  rw [ends_bind]
  refine (ends_replaceMedia hfs hsound hstands hforms hstaging content).mono fun r u hu ↦ ?_
  cases r with
  | error e => exact hu
  | ok _ =>
    change forms.copy formId u.disk = _ at hu
    rw [Next]
    unfold Site.onDisk
    rw [ends_within]
    refine (hfs.writeContent content u.disk (hname.holdsNull_child hforms)).mono fun r d hd ↦ ?_
    cases r with
    | ok _ =>
      dsimp only
      rw [FormsDirectory.copy_written hd, hu]
      exact .done rfl rfl
    | error e =>
      obtain ⟨⟨f, rfl⟩, hdiffers, hdefinition⟩ := hd
      rw [resolve_child_of_touches hname] at hdiffers hdefinition
      have hbefore := congrArg Copy.definition hu
      have hmedia := congrArg Copy.media hu
      unfold FormsDirectory.copy at hbefore hmedia ⊢
      dsimp only at hbefore hmedia ⊢
      rw [hdiffers.working_eq]
      refine .writing f ?_ ?_
      · dsimp only
        rwa [← hbefore]
      · rw [← hmedia]
        funext below
        exact hdiffers.item?_eq _ (FormsDirectory.mediaPlace_ne_definition _ _ below)

/-! ### From where the download began -/

/-- What a disk becomes until everything has come: it stays, or the media files are beside what it
held, in a temporary directory. -/
inductive AllCome (forms : FormsDirectory) (x : Details) (d : Disk) : Option Path → Disk → Prop
  | alone (hmanifest : x.manifest = none) : AllCome forms x d none d
  | staged (n : Nat) {d' : Disk} (hmanifest : x.manifest.isSome = true)
      (hplace : d.locate (forms.path.child (Disk.temporaryName stagingName n)) =
        .ok (forms.path.resolve d.working ++ [Disk.temporaryName stagingName n]))
      (hstaged : Staged d (forms.path.resolve d.working ++ [Disk.temporaryName stagingName n]) d') :
      AllCome forms x d (some (forms.path.child (Disk.temporaryName stagingName n))) d'

theorem allCome_of_received (hsource : source.Answers (fun _ ↦ True) sent) (hsound : s.disk.Sound)
    (hworking : s.disk.working.Plain) (h : Received source forms x s content staging t) :
    AllCome forms x s.disk staging t.disk := by
  cases h with
  | alone hmanifest hdefinition =>
    rw [(leaves_of_ok hsource hdefinition).1]
    exact .alone hmanifest
  | @media manifest _ staging u v _ hmanifest hdefinition hstaging hcame =>
    rw [← (leaves_of_ok hsource hdefinition).1] at hsound hworking ⊢
    rcases (ends_makeStaging_located hsound).of_ok hstaging with ⟨_, hr, -⟩ |
      ⟨n, d, hr, rfl, -, hplace, hstaged⟩
    · cases hr
    · cases hr
      have hcollect : Keeps (fun w ↦ Staged u.disk
          (forms.path.resolve u.disk.working ++ [Disk.temporaryName stagingName n]) w.disk)
          (manifest.files.forM (collect source x.formId
            (forms.path.child (Disk.temporaryName stagingName n)))) :=
        keeps_forM fun file _ ↦ keeps_collect_staged hsource hworking (.staging n) file
      exact .staged n (by rw [hmanifest]; rfl) hplace ((hcollect _ hstaged).of_ok hcame)

/-- The directory of forms is still reached when something new is in the temporary directory. -/
theorem Staged.stands {d' : Disk} (hstands : forms.Stands d)
    (h : Staged d (forms.path.resolve d.working ++ [name]) d') : forms.Stands d' := by
  have hfree : d.item? (forms.path.resolve d.working ++ [name]) = none := by
    rw [← h.cleared, Disk.working_clear, h.working_eq]
    exact Disk.item?_clear_self (by simp)
  have hsound : d.Sound := h.cleared ▸ h.sound.clear _
  intro n
  have hvisited := hstands n
  have hout : ¬ forms.path.resolve d.working ++ [name] <+:
      (forms.path.upTo n).resolve d.working := by
    rintro ⟨below, hbelow⟩
    rw [← hbelow] at hvisited
    exact hsound.notMem_below hfree below (Disk.mem_of_item? hvisited (by simp))
  rw [h.working_eq, h.item?_eq hout, hvisited]

/-- What is new in the temporary directory does not touch the copy of a form. -/
theorem Staged.copy_eq {d' : Disk} {n : Nat} (h : Staged d
    (forms.path.resolve d.working ++ [Disk.temporaryName stagingName n]) d') :
    forms.copy formId d' = forms.copy formId d :=
  FormsDirectory.copy_eq_of_differs (FormsDirectory.not_owns_staging formId n)
    ⟨h.working_eq, fun _ hq ↦ h.item?_eq hq⟩

namespace AllCome

variable {d' : Disk}

theorem sound (hsound : d.Sound) (h : AllCome forms x d staging d') : d'.Sound := by
  cases h with
  | alone => exact hsound
  | staged n _ _ hstaged => exact hstaged.sound

theorem stands (hstands : forms.Stands d) (h : AllCome forms x d staging d') :
    forms.Stands d' := by
  cases h with
  | alone => exact hstands
  | staged n _ _ hstaged => exact hstaged.stands hstands

theorem copy_eq (h : AllCome forms x d staging d') :
    forms.copy formId d' = forms.copy formId d := by
  cases h with
  | alone => rfl
  | staged n _ _ hstaged => exact hstaged.copy_eq

theorem temporary (h : AllCome forms x d staging d') (p : Path) (hp : staging = some p) :
    ∃ n, p = forms.path.child (Disk.temporaryName stagingName n) := by
  cases h with
  | alone => cases hp
  | staged n => exact ⟨n, (Option.some.inj hp).symm⟩

end AllCome

/-! ### In a directory that is there -/

/-- What is at a name in the directory of forms can be cleared: the name fits, and no file is
there. -/
def Clearable (forms : FormsDirectory) (name : String) (d : Disk) : Prop :=
  forms.Fits name ∧
    ∀ content, d.item? (forms.path.resolve d.working ++ [name]) ≠ some (.file content)

theorem ends_clearDirectory_iff (h : forms.Ready s.disk)
    (htouches : FormsDirectory.Touches formId name) :
    Ends (clearDirectory (forms.path.child name)) s fun r t ↦
      (∃ f, r = .error (.disk f) ∧ t = s ∧ ¬ Clearable forms name s.disk) ∨
      (r = .ok () ∧ Clearable forms name s.disk ∧
        t = { s with disk := s.disk.clear (forms.path.resolve s.disk.working ++ [name]) }) := by
  by_cases hclearable : Clearable forms name s.disk
  · rw [ends_iff_of_ok (clearDirectory_eq h htouches hclearable.1 hclearable.2)]
    exact Or.inr ⟨rfl, hclearable, rfl⟩
  · unfold clearDirectory
    rw [ends_bind, ends_ask]
    cases hexists : s.disk.exists? (forms.path.child name) with
    | error e =>
      obtain ⟨f, rfl⟩ := Disk.exists?_eq_error hexists
      exact Or.inl ⟨f, rfl, rfl, hclearable⟩
    | ok found =>
      have hfits := h.fits_of_exists? htouches hexists
      obtain ⟨content, hfile⟩ : ∃ content,
          s.disk.item? (forms.path.resolve s.disk.working ++ [name]) = some (.file content) := by
        simpa [Clearable, hfits] using hclearable
      rw [h.exists?_eq htouches hfits, hfile] at hexists
      obtain rfl := Except.ok.inj hexists
      rw [Next, Option.isSome_some, if_pos rfl, ends_change, h.removeTree_eq htouches hfits hfile]
      exact Or.inl ⟨_, rfl, rfl, hclearable⟩

/-- The media files are replaced if their directory can be cleared; otherwise nothing is changed on
the disk that the download began with. -/
theorem ends_replaceMedia_of_ready (hready : forms.Ready d)
    (h : AllCome forms x d staging t.disk) :
    Ends (replaceMedia .plain forms x.formId staging) t fun r u ↦
      (∃ f, r = .error (.disk f) ∧ u.disk = d ∧
        ¬ Clearable forms (FormsDirectory.baseName x.formId ++ "-media") d) ∨
      (r = .ok () ∧ Clearable forms (FormsDirectory.baseName x.formId ++ "-media") d ∧
        Housed forms x d u.disk) := by
  have hmedia := FormsDirectory.Touches.media x.formId
  rw [replaceMedia_plain]
  cases h with
  | alone hmanifest =>
    refine (ends_clearDirectory_iff hready hmedia).mono ?_
    rintro _ u (⟨f, rfl, rfl, hnot⟩ | ⟨rfl, hclearable, rfl⟩)
    · exact Or.inl ⟨f, rfl, rfl, hnot⟩
    · exact Or.inr ⟨rfl, hclearable, housed_of_clear hready hmanifest hclearable.1⟩
  | staged n hmanifest hplace hstaged =>
    have hname : FormsDirectory.Touches x.formId (Disk.temporaryName stagingName n) := .staging n
    have hfits := (hready.locate_eq_ok_iff hname.ne_dots).mp hplace
    have hne := (FormsDirectory.media_ne_staging x.formId n).symm
    have hapart : Place.Apart (forms.path.resolve d.working ++ [Disk.temporaryName stagingName n])
        (forms.path.resolve d.working ++ [FormsDirectory.baseName x.formId ++ "-media"]) :=
      Place.apart_siblings hne
    have hsame : Clearable forms (FormsDirectory.baseName x.formId ++ "-media") t.disk ↔
        Clearable forms (FormsDirectory.baseName x.formId ++ "-media") d := by
      unfold Clearable
      rw [hstaged.working_eq, hstaged.item?_eq hapart.1]
    have hready' := hstaged.ready hready
    dsimp only
    rw [ends_bind, ends_attempt, ends_bind]
    refine (ends_clearDirectory_iff hready' hmedia).mono ?_
    rintro _ u (⟨f, rfl, rfl, hnot⟩ | ⟨rfl, hclearable, rfl⟩)
    · rw [Next, Next, ends_bind, ends_iff_of_ok (dropStaging_of_staged hready n hfits hstaged),
        Next, ends_ofExcept]
      exact Or.inl ⟨f, rfl, rfl, fun hclearable ↦ hnot (hsame.mpr hclearable)⟩
    · have hcleared := hready'.clear (FormsDirectory.baseName x.formId ++ "-media")
      rw [hstaged.working_eq] at hcleared
      have hthere : (t.disk.clear (forms.path.resolve d.working ++
          [FormsDirectory.baseName x.formId ++ "-media"])).item?
            (forms.path.resolve d.working ++ [Disk.temporaryName stagingName n]) =
              some .directory := by
        rw [Disk.item?_clear_of_not_prefix hapart.2, hstaged.directory]
      have hmoved := hcleared.moveDirectory_eq hname hmedia hfits hclearable.1
        (by rwa [Disk.working_clear, hstaged.working_eq])
        (by rw [Disk.working_clear, hstaged.working_eq, Disk.item?_clear_self (by simp)])
      rw [Disk.working_clear, hstaged.working_eq] at hmoved
      have hhoused := housed_of_moved hne hready hmanifest hclearable.1 hstaged
      rw [Next, ends_change, FormsDirectory.mediaPath]
      dsimp only
      rw [hstaged.working_eq, hmoved]
      dsimp only [Next]
      rw [ends_bind, ends_iff_of_ok (dropStaging_of_missing hhoused.ready n hfits
        (by rw [hhoused.working_eq]; exact Staged.item?_moved hapart)), Next, ends_ofExcept]
      exact Or.inr ⟨rfl, hsame.mp hclearable, hhoused⟩

/-- Where a directory is in the place of a definition, the definition cannot be written. -/
theorem writeContent_of_directory (hforms : forms.path.holdsNull = false)
    (h : (forms.copy formId d).definition = some .directory) (content : Bytes) :
    ∃ f, d.writeContent (forms.formPath formId) content = .error (.disk f) := by
  have hname := FormsDirectory.Touches.definition formId
  cases hwritten : d.writeContent (forms.formPath formId) content with
  | error e =>
    obtain ⟨f, rfl⟩ := Disk.writeContent_eq_error (hname.holdsNull_child hforms) hwritten
    exact ⟨f, rfl⟩
  | ok d' =>
    have hnot := (Disk.writeContent_eq_ok hwritten).2.1
    rw [FormsDirectory.formPath, resolve_child_of_touches hname] at hnot
    exact absurd h hnot

/-- How a download ends in a directory of forms that is there, when everything has come: it was
refused at the earlier media files and nothing is changed, or at the definition and the media files
are new already, or it is done. -/
inductive Concludes (forms : FormsDirectory) (formId : String) (d : Disk)
    (new : Place → Option Item) (content : Bytes) : Except Fault Unit → Disk → Prop
  | kept (f : DiskFault)
      (hnot : ¬ Clearable forms (FormsDirectory.baseName formId ++ "-media") d) :
      Concludes forms formId d new content (.error (.disk f)) d
  | mixed (f : DiskFault) {d' : Disk}
      (hclearable : Clearable forms (FormsDirectory.baseName formId ++ "-media") d)
      (hdirectory : (forms.copy formId d).definition = some .directory)
      (hcopy : forms.copy formId d' = ⟨some .directory, new⟩) :
      Concludes forms formId d new content (.error (.disk f)) d'
  | done {d' : Disk}
      (hclearable : Clearable forms (FormsDirectory.baseName formId ++ "-media") d)
      (hfree : (forms.copy formId d).definition ≠ some .directory)
      (hcopy : forms.copy formId d' = ⟨some (.file content), new⟩) :
      Concludes forms formId d new content (.ok ()) d'

/-- What is known of a download for which everything has come. Over every lawful file system the
rest of it leaves one of the copies that `Settles` lists. Over the plain one the rest of it is how
the download ends, and in a directory of forms that is there it is known which step is refused. -/
structure SettlesByStep (source : Source N) (forms : FormsDirectory) (x : Details) (s : Site N)
    (d : Disk) (content : Bytes) (staging : Option Path) (t : Site N) : Prop where
  settles : ∀ {fs : FileSystem}, fs.Lawful →
    Ends (settle fs forms x.formId staging content) t fun r u ↦
      Settles (forms.copy x.formId d) (newMedia t.disk staging) content r
        (forms.copy x.formId u.disk)
  lawful : FileSystem.plain.Lawful
  ends : Ends (settle .plain forms x.formId staging content) t fun r u ↦
    match r with
    | .ok _ => ∃ v, run source forms x s = .ok (broughtBy forms x content) v ∧ v.disk = u.disk
    | .error e => run source forms x s = .error (failure x.formId e) u
  concludes : forms.Ready d → Ends (settle .plain forms x.formId staging content) t fun r u ↦
    Concludes forms x.formId d (newMedia t.disk staging) content r u.disk

theorem settlesByStep (hsource : source.Answers (fun _ ↦ True) sent) (hsound : s.disk.Sound)
    (hworking : s.disk.working.Plain) (hprepared : Disk.prepare forms.path s.disk = .ok () d)
    (h : Received source forms x { s with disk := d } content staging t) :
    SettlesByStep source forms x s d content staging t := by
  obtain ⟨hsound', hsame, -⟩ :=
    (Disk.keeps_prepare s.disk forms.path s.disk ⟨hsound, rfl, .refl _⟩).of_ok hprepared
  obtain ⟨hforms, hthere⟩ := Disk.probe_of_prepare hprepared
  have hstands := FormsDirectory.stands_of_probe hthere
  have hcome : AllCome forms x d staging t.disk :=
    allCome_of_received (s := { s with disk := d }) hsource hsound' (by rwa [hsame]) h
  have htsound := hcome.sound hsound'
  have htstands := hcome.stands hstands
  constructor
  case settles =>
    intro fs hfs
    rw [← hcome.copy_eq]
    exact ends_settle hfs htsound htstands hforms hcome.temporary content
  case lawful => exact FileSystem.lawful_plain
  case ends => exact ends_run_of_received hprepared h
  case concludes =>
    intro hready
    have hmedia : Ends (replaceMedia .plain forms x.formId staging) t fun r u ↦
        Replaced (forms.copy x.formId t.disk) (newMedia t.disk staging) content r
          (forms.copy x.formId u.disk) :=
      ends_replaceMedia FileSystem.lawful_plain htsound htstands hforms hcome.temporary content
    rw [hcome.copy_eq] at hmedia
    rw [settle_plain, ends_bind]
    refine (hmedia.and (ends_replaceMedia_of_ready hready hcome)).mono ?_
    rintro _ u ⟨hreplaced, ⟨f, rfl, hu, hnot⟩ | ⟨rfl, hclearable, hhoused⟩⟩
    · rw [Next, hu]
      exact .kept f hnot
    · change forms.copy x.formId u.disk = _ at hreplaced
      rw [Next, ends_change]
      by_cases hdirectory : (forms.copy x.formId d).definition = some .directory
      · rw [hdirectory] at hreplaced
        obtain ⟨f, hf⟩ := writeContent_of_directory hforms (congrArg Copy.definition hreplaced)
          content
        rw [hf]
        exact .mixed f hclearable hdirectory hreplaced
      · have hfree := congrArg Copy.definition hreplaced
        have hwritten := hhoused.ready.writeContent_eq (.definition x.formId)
          hclearable.1.definition (fun hitem ↦ hdirectory (hfree.symm.trans hitem)) content
        rw [FormsDirectory.formPath, hwritten]
        refine .done hclearable hdirectory ?_
        rw [FormsDirectory.copy_written hwritten, hreplaced]

/-! ### Half-done copies -/

/-- The form in an edition with one media file, which the server has. -/
def secondEdition : Details := { Shelf.plainForm "a" "u" with manifest := some ⟨"m", [logo]⟩ }

/-- The device with a directory in the place of the definition. -/
def obstructed : Site Archive :=
  { illustrated with
    disk := ⟨["device"], [(["device"], .directory), (["device", "forms"], .directory),
      (["device", "forms", "a.xml"], .directory), (["device", "forms", "a-media"], .directory),
      (["device", "forms", "a-media", "logo"], .file [108])]⟩ }

/-- The definition cannot be written. By then the earlier media file is replaced, or is gone when
the new edition has none. -/
theorem half_done_copy :
    obstructed.disk.item? ["device", "forms", "a-media", "logo"] = some (.file [108]) ∧
      (Raises (run Archive.source Shelf.besideWork secondEdition) obstructed fun e t ↦
        e = .download "a" "could not write files: [Errno 21] Is a directory: 'forms/a.xml'" ∧
          t.disk.item? ["device", "forms", "a-media", "logo"] = some (.file [119])) ∧
      Raises (run Archive.source Shelf.besideWork (Shelf.plainForm "a" "u")) obstructed fun e t ↦
        e = .download "a" "could not write files: [Errno 21] Is a directory: 'forms/a.xml'" ∧
          t.disk.item? ["device", "forms", "a-media"] = none := by
  decide +kernel

/-- The file system becomes full when everything has come. The new media file is in its place, and
the definition is still the earlier one. -/
theorem settlesByStep_full : FileSystem.full.Lawful ∧ ∃ t,
    SettlesByStep Archive.source Shelf.besideWork secondEdition illustrated illustrated.disk [117]
        (some firstStaging) t ∧
      Raises (settle .full Shelf.besideWork "a" (some firstStaging) [117]) t fun e u ↦
        e = .disk (.other "[Errno 28] No space left on device") ∧
          u.disk.item? ["device", "forms", "a.xml"] = some (.file [97]) ∧
          u.disk.item? ["device", "forms", "a-media", "logo"] = some (.file [119]) := by
  have hsound : illustrated.disk.Sound :=
    Disk.sound_of_items (by decide +kernel) (by decide +kernel)
  have hthere : illustrated.disk.probe Shelf.besideWork.path =
      .ok (["device", "forms"], .directory) := by decide +kernel
  have hprepared : Disk.prepare Shelf.besideWork.path illustrated.disk = .ok () illustrated.disk :=
    Disk.prepare_of_probe (by decide +kernel) hthere
  have hdefinition := eq_ok_after (x := Archive.source "u") (s := illustrated) (a := [117])
    (by decide +kernel)
  have hstaging := eq_ok_after (x := makeStaging Shelf.besideWork)
    (s := (Archive.source "u").after illustrated) (a := firstStaging) (by decide +kernel)
  have hcame := eq_ok_after (x := [logo].forM (collect Archive.source "a" firstStaging))
    (s := (makeStaging Shelf.besideWork).after ((Archive.source "u").after illustrated)) (a := ⟨⟩)
    (by decide +kernel)
  have hreceived : Received Archive.source Shelf.besideWork secondEdition illustrated [117]
      (some firstStaging) _ := .media rfl hdefinition hstaging hcame
  exact ⟨FileSystem.lawful_full, _, settlesByStep Archive.answers_source hsound
    ⟨by decide, by decide⟩ hprepared hreceived, by decide +kernel⟩

end Download

end FormCatalog
