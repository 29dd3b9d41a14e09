import FormCatalog.Proofs.Shelf.Containment
import FormCatalog.Proofs.Shelf.Isolation
import FormCatalog.Proofs.Shelf.Media

/-!
# Media files that have arrived

When a download of a form returns, the files below its media directory are those that its manifest
lists, by name and digest, and there are none when it has no manifest (`Download.ends_run_carries`).
The files are collected in a temporary directory one by one (`Download.ends_collect`), and moved
into place together (`Download.ends_stage`).

However the download ends, the files below the media directory are those of some map, if they were
before (`Download.Tidy`): a download that fails leaves the earlier files, the new ones or none.
-/

set_option autoImplicit false
set_option relaxedAutoImplicit false

namespace FormCatalog

open Op

variable {N : Type}

/-- What the source sends for a media file has the digest that the manifest reports. -/
def Source.Serves (source : Source N) (fair : N → Prop) (file : MediaEntry) : Prop :=
  ∀ s, fair s.net → IfReturns (source file.downloadUrl) s fun content _ ↦
    ContentKey.ofBytes content = ContentKey.stripLabel file.contentHash

namespace FormsDirectory

/-- The place of the media files of a form. -/
def mediaPlace (forms : FormsDirectory) (working : Place) (formId : String) : Place :=
  (forms.mediaPath formId).resolve working

theorem mediaPlace_eq (forms : FormsDirectory) (working : Place) (formId : String) :
    forms.mediaPlace working formId =
      forms.path.resolve working ++ [baseName formId ++ "-media"] :=
  Download.resolve_child_of_touches (.media formId) working

end FormsDirectory

namespace Download

variable {forms : FormsDirectory} {fair : N → Prop} {sent : Fault → Prop} {working place : Place}
  {stored : Prop} {source : Source N} {formId media : String} {s t : Site N}

/-- A sound site while a form is brought; if the form is stored, the files at the place of its media
files are those of some map. -/
structure Tidy (fair : N → Prop) (working place : Place) (stored : Prop) (s : Site N) : Prop where
  sound : s.disk.Sound
  working_eq : s.disk.working = working
  net : fair s.net
  carries : stored → ∃ hashes, s.disk.Carries place hashes

theorem Tidy.of_files (h : Tidy fair working place stored s) (hsound : t.disk.Sound)
    (hworking : t.disk.working = s.disk.working) (hnet : t.net = s.net)
    (hfiles : ∀ f, f ∈ t.disk.filesBelow place ↔ f ∈ s.disk.filesBelow place) :
    Tidy fair working place stored t where
  sound := hsound
  working_eq := hworking.trans h.working_eq
  net := hnet ▸ h.net
  carries hstored := by
    obtain ⟨hashes, hcarries⟩ := h.carries hstored
    exact ⟨hashes, hcarries.of_files hfiles⟩

/-! ### Steps that leave the files alone -/

theorem ends_prepare_sameFiles (p : Path) (h : s.disk.Sound) :
    Ends (Site.onDisk (Disk.prepare p)) s fun _ t ↦ t.disk.Sound ∧
      t.disk.working = s.disk.working ∧ Disk.SameFiles s.disk t.disk ∧ t.net = s.net := by
  unfold Site.onDisk
  rw [ends_within]
  refine (Disk.keeps_prepare s.disk p s.disk ⟨h, rfl, Disk.SameFiles.refl _⟩).mono ?_
  rintro r d ⟨hsound, hworking, hfiles⟩
  exact ⟨hsound, hworking, hfiles, rfl⟩

/-- Clearing a directory takes it away or changes nothing. -/
theorem ends_clearDirectory (p : Path) :
    Ends (clearDirectory p) s fun _ t ↦
      t = s ∨ t = { s with disk := s.disk.clear (p.resolve s.disk.working) } := by
  unfold clearDirectory
  rw [ends_bind, ends_ask]
  cases s.disk.exists? p with
  | error e => exact Or.inl rfl
  | ok found =>
    rw [Next]
    cases found with
    | false => exact Or.inl rfl
    | true =>
      rw [if_pos rfl, ends_change]
      cases hremoved : s.disk.removeTree p with
      | error e => exact Or.inl rfl
      | ok d => exact Or.inr (by rw [Disk.removeTree_eq_ok hremoved])

/-- What is apart from a directory that is cleared keeps its files. -/
theorem ends_clearDirectory_of_apart (place : Place) (p : Path)
    (hapart : Place.Apart place (p.resolve s.disk.working)) (h : s.disk.Sound) :
    Ends (clearDirectory p) s fun _ t ↦ t.disk.Sound ∧ t.disk.working = s.disk.working ∧
      t.net = s.net ∧ t.disk.filesBelow place = s.disk.filesBelow place := by
  refine (ends_clearDirectory p).mono ?_
  rintro _ _ (rfl | rfl)
  · exact ⟨h, rfl, rfl, rfl⟩
  · exact ⟨h.clear _, rfl, rfl, Disk.filesBelow_clear_of_apart hapart⟩

theorem tidy_clearDirectory (p : Path) (h : Tidy fair working place stored s)
    (hplace : p.resolve working = place) :
    Ends (clearDirectory p) s fun _ t ↦ Tidy fair working place stored t := by
  refine (ends_clearDirectory p).mono ?_
  rintro _ _ (rfl | rfl)
  · exact h
  · refine ⟨h.sound.clear _, h.working_eq, h.net, fun _ ↦ ⟨[], ?_⟩⟩
    rw [Disk.carries_nil_iff, h.working_eq, hplace]
    exact Disk.filesBelow_clear_self

/-! ### Collecting -/

/-- The content of one more file is fetched and written where its name leads. -/
theorem ends_deliver (hsource : source.Answers fair sent) {staging : String}
    (hne : media ≠ staging) {done : List MediaEntry} {file : MediaEntry}
    (hserves : source.Serves fair file)
    (hnames : ∀ f ∈ done ++ [file], CanonicalName f.fileName)
    (hplain : Place.Plain
      (forms.path.resolve working ++ [staging] ++ (Path.ofText file.fileName).parts))
    (h : Tidy fair working (forms.path.resolve working ++ [media]) stored s)
    (hdone : s.disk.Collected (forms.path.resolve working ++ [staging]) done) :
    Ends (do
      let content ← source file.downloadUrl
      Site.change (·.writeContent (.ofPlace (forms.path.resolve working ++ [staging] ++
        (Path.ofText file.fileName).parts)) content)) s fun r t ↦
      Tidy fair working (forms.path.resolve working ++ [media]) stored t ∧
        (r = .ok () →
          t.disk.Collected (forms.path.resolve working ++ [staging]) (done ++ [file])) := by
  have hout : ¬ forms.path.resolve working ++ [media] <+:
      forms.path.resolve working ++ [staging] ++ (Path.ofText file.fileName).parts :=
    fun hbegins ↦ (Place.apart_names (Ne.symm hne)).2 hbegins
  rw [ends_bind]
  refine ((hsource file.downloadUrl s h.net).and (hserves s h.net)).mono ?_
  rintro r t ⟨⟨hfair, hdisk, -, -⟩, hcontent⟩
  have ht : Tidy fair working (forms.path.resolve working ++ [media]) stored t :=
    ⟨hdisk ▸ h.sound, hdisk ▸ h.working_eq, hfair, hdisk ▸ h.carries⟩
  cases r with
  | error e => exact ⟨ht, fun hr ↦ by cases hr⟩
  | ok content =>
    rw [Next, ends_change]
    cases hwritten : t.disk.writeContent
        (.ofPlace (forms.path.resolve working ++ [staging] ++
          (Path.ofText file.fileName).parts)) content with
    | error e => exact ⟨ht, fun hr ↦ by cases hr⟩
    | ok d =>
      have hd := ht.sound.writeContent hwritten
      obtain ⟨-, -, rfl⟩ := Disk.writeContent_eq_ok hwritten
      rw [hplain.resolve_ofPlace] at hd ⊢
      refine ⟨ht.of_files hd (Disk.working_put _ _) rfl fun f ↦ ?_, fun _ ↦ ?_⟩
      · rw [Disk.filesBelow_put_of_not_prefix hout]
      · rw [← hdisk] at hdone
        exact hdone.write hnames (hcontent content rfl)

/-- One more file is brought into the temporary directory. -/
theorem ends_collect (hsource : source.Answers fair sent) {staging : String}
    (hstaging : FormsDirectory.Touches formId staging) (hne : media ≠ staging)
    (hworking : working.Plain) {done : List MediaEntry} {file : MediaEntry}
    (hserves : source.Serves fair file)
    (hnames : ∀ f ∈ done ++ [file], CanonicalName f.fileName)
    (h : Tidy fair working (forms.path.resolve working ++ [media]) stored s)
    (hdone : s.disk.Collected (forms.path.resolve working ++ [staging]) done) :
    Ends (collect source formId (forms.path.child staging) file) s fun r t ↦
      Tidy fair working (forms.path.resolve working ++ [media]) stored t ∧
        (r = .ok () →
          t.disk.Collected (forms.path.resolve working ++ [staging]) (done ++ [file])) := by
  have hname : CanonicalName file.fileName := hnames file (by simp)
  unfold collect
  rw [ends_bind, ends_get, Next, ends_bind, ends_ofExcept]
  cases hconfined : (forms.path.child staging).confined s.disk.working file.fileName with
  | error e => exact ⟨h, fun hr ↦ by cases hr⟩
  | ok inside =>
    cases inside with
    | none => exact ⟨h, fun hr ↦ by cases hr⟩
    | some target =>
      rw [h.working_eq] at hconfined
      obtain ⟨below, hplain, hbelow⟩ := Path.confined_eq_some hworking hconfined
      have htarget := hname.confined_eq hconfined
      rw [resolve_child_of_touches hstaging] at htarget hplain hbelow
      rw [hbelow] at htarget
      obtain rfl : below = (Path.ofText file.fileName).parts := by
        have hplaces := congrArg Path.parts htarget
        exact List.append_cancel_left hplaces
      subst hbelow
      rw [Next]
      dsimp only
      rw [ends_bind]
      refine (ends_prepare_sameFiles _ h.sound).mono ?_
      rintro r u ⟨hsound, hsame, hfiles, hnet⟩
      have hu := h.of_files hsound hsame hnet fun f ↦ hfiles.mem_filesBelow_iff _ f
      cases r with
      | error e => exact ⟨hu, fun hr ↦ by cases hr⟩
      | ok _ =>
        exact ends_deliver hsource hne hserves hnames hplain hu
          (hdone.of_files fun f ↦ hfiles.mem_filesBelow_iff _ f)

/-- The files that have been collected are moved into place together. -/
theorem ends_commit {staging : String} (hstaging : FormsDirectory.Touches formId staging)
    (hmedia : FormsDirectory.Touches formId media) (hne : media ≠ staging)
    {files : List MediaEntry} (hnames : ∀ f ∈ files, CanonicalName f.fileName)
    (h : Tidy fair working (forms.path.resolve working ++ [media]) stored s)
    (hcollected : s.disk.Collected (forms.path.resolve working ++ [staging]) files) :
    Ends (do
      clearDirectory (forms.path.child media)
      Site.change (·.moveDirectory (forms.path.child staging) (forms.path.child media))) s
      fun r t ↦ Tidy fair working (forms.path.resolve working ++ [media]) stored t ∧
        (r = .ok () → t.disk.Carries (forms.path.resolve working ++ [media])
          (FileHashes.ofEntries files)) := by
  have hplace : (forms.path.child media).resolve working = forms.path.resolve working ++ [media] :=
    resolve_child_of_touches hmedia working
  have hplace' : (forms.path.child staging).resolve working =
      forms.path.resolve working ++ [staging] := resolve_child_of_touches hstaging working
  have hapart : Place.Apart (forms.path.resolve working ++ [staging])
      (forms.path.resolve working ++ [media]) := Place.apart_siblings hne.symm
  rw [ends_bind]
  refine ((tidy_clearDirectory _ h hplace).and
    (ends_clearDirectory_of_apart (forms.path.resolve working ++ [staging])
      (forms.path.child media) (by rwa [h.working_eq, hplace]) h.sound)).mono ?_
  rintro r t ⟨ht, -, -, -, hfiles⟩
  cases r with
  | error e => exact ⟨ht, fun hr ↦ by cases hr⟩
  | ok _ =>
    rw [Next, ends_change]
    cases hmoved : t.disk.moveDirectory (forms.path.child staging) (forms.path.child media) with
    | error e => exact ⟨ht, fun hr ↦ by cases hr⟩
    | ok d =>
      have hplaces : Place.Apart ((forms.path.child staging).resolve t.disk.working)
          ((forms.path.child media).resolve t.disk.working) := by
        rwa [ht.working_eq, hplace, hplace']
      have hd := (ht.sound.moveDirectory_eq hplaces hmoved).2
      have hsame := (Disk.moveDirectory_eq_ok hmoved).2.2
      have hbelow := ht.sound.mem_filesBelow_moveDirectory hplaces hmoved
      rw [ht.working_eq, hplace, hplace', hfiles] at hbelow
      have hcarries : d.Carries (forms.path.resolve working ++ [media])
          (FileHashes.ofEntries files) :=
        (hcollected.of_files hbelow).carries hnames
      refine ⟨⟨hd, ?_, ht.net, fun _ ↦ ⟨_, hcarries⟩⟩, fun _ ↦ hcarries⟩
      rcases hsame with rfl | rfl <;> exact ht.working_eq

/-- The files are collected one by one and then moved into place together. -/
theorem ends_stage (hsource : source.Answers fair sent) {staging media : String}
    (hstaging : FormsDirectory.Touches formId staging)
    (hmedia : FormsDirectory.Touches formId media) (hne : media ≠ staging)
    (hworking : working.Plain) {files : List MediaEntry}
    (hserves : ∀ f ∈ files, source.Serves fair f)
    (hnames : ∀ f ∈ files, CanonicalName f.fileName)
    (h : Tidy fair working (forms.path.resolve working ++ [media]) stored s)
    (hempty : s.disk.filesBelow (forms.path.resolve working ++ [staging]) = []) :
    Ends (stage source formId files (forms.path.child staging) (forms.path.child media)) s
      fun r t ↦ Tidy fair working (forms.path.resolve working ++ [media]) stored t ∧
        (r = .ok () → t.disk.Carries (forms.path.resolve working ++ [media])
          (FileHashes.ofEntries files)) := by
  unfold stage
  rw [ends_bind]
  -- What was collected so far is below the temporary directory, and nothing else is.
  refine ends_forM (fun done u ↦
    Tidy fair working (forms.path.resolve working ++ [media]) stored u ∧
      u.disk.Collected (forms.path.resolve working ++ [staging]) done)
    ⟨h, Disk.collected_nil hempty⟩ ?_ ?_
  · rintro done file rest u rfl ⟨hu, hdone⟩
    refine (ends_collect hsource hstaging hne hworking (hserves file (by simp))
      (fun f hf ↦ hnames f ?_) hu hdone).mono fun r v hv ↦ ?_
    · rw [List.append_cons]
      exact List.mem_append_left _ hf
    · cases r with
      | error e => exact ⟨hv.1, fun hr ↦ by cases hr⟩
      | ok _ => exact ⟨hv.1, hv.2 rfl⟩
  · rintro u ⟨hu, hcollected⟩
    exact ends_commit hstaging hmedia hne hnames hu hcollected

/-! ### Whole downloads -/

/-- A temporary directory that was made is empty. -/
theorem ends_makeStaging_tidy
    (h : Tidy fair working (forms.path.resolve working ++ [media]) stored s) :
    Ends (makeStaging forms) s fun r t ↦
      Tidy fair working (forms.path.resolve working ++ [media]) stored t ∧
        ∀ staging, r = .ok staging →
          ∃ n, staging = forms.path.child (Disk.temporaryName stagingName n) ∧
            t.disk.filesBelow (forms.path.resolve working ++
              [Disk.temporaryName stagingName n]) = [] := by
  unfold makeStaging
  rw [ends_bind, ends_ask]
  cases hmade : s.disk.makeTemporary forms.path stagingName with
  | error e => exact ⟨h, fun _ hr ↦ by cases hr⟩
  | ok made =>
    obtain ⟨staging, d⟩ := made
    obtain ⟨n, rfl, hmade⟩ := Disk.makeTemporary_eq_ok hmade
    have hname : FormsDirectory.Touches "" (Disk.temporaryName stagingName n) := .staging n
    have hplace : (forms.path.child (Disk.temporaryName stagingName n)).resolve working =
        forms.path.resolve working ++ [Disk.temporaryName stagingName n] :=
      resolve_child_of_touches hname working
    have hd := h.sound.makeDirectory hmade
    obtain ⟨-, -, hmissing, rfl⟩ := Disk.makeDirectory_eq_ok hmade
    have hfiles := (Disk.SameFiles.refl s.disk).put_directory hmissing
    rw [h.working_eq, hplace] at hmissing hfiles hd ⊢
    refine ⟨h.of_files hd (Disk.working_put _ _) rfl fun f ↦ hfiles.mem_filesBelow_iff _ f, ?_⟩
    rintro _ ⟨⟩
    refine ⟨n, rfl, List.eq_nil_iff_forall_not_mem.mpr fun f hf ↦ ?_⟩
    have hbelow := Disk.mem_filesBelow.mp ((hfiles.mem_filesBelow_iff _ f).mp hf)
    exact h.sound.notMem_below hmissing _ hbelow.2

/-- Dropping a temporary directory never fails, and leaves the media files alone. -/
theorem ends_dropStaging_tidy (formId : String) (n : Nat)
    (h : Tidy fair working (forms.mediaPlace working formId) stored s) :
    Ends (dropStaging (forms.path.child (Disk.temporaryName stagingName n))) s fun r t ↦
      r = .ok () ∧ Tidy fair working (forms.mediaPlace working formId) stored t ∧
        t.disk.filesBelow (forms.mediaPlace working formId) =
          s.disk.filesBelow (forms.mediaPlace working formId) := by
  have hname : FormsDirectory.Touches formId (Disk.temporaryName stagingName n) := .staging n
  have hapart : Place.Apart (forms.mediaPlace working formId)
      ((forms.path.child (Disk.temporaryName stagingName n)).resolve s.disk.working) := by
    rw [h.working_eq, resolve_child_of_touches hname, FormsDirectory.mediaPlace_eq]
    exact Place.apart_siblings (FormsDirectory.media_ne_staging formId n)
  unfold dropStaging
  rw [ends_bind, ends_attempt]
  refine (ends_clearDirectory_of_apart _ _ hapart h.sound).mono ?_
  rintro r t ⟨hsound, hsame, hnet, hkept⟩
  exact ⟨rfl, h.of_files hsound hsame hnet fun f ↦ by rw [hkept], hkept⟩

/-- When the media directory was cleared, no files are left in it, at least if the way to the
directory of forms is there. -/
theorem ends_clearMedia (hforms : forms.path.holdsNull = false) (formId : String)
    (h : Tidy fair working (forms.mediaPlace working formId) stored s) :
    Ends (clearDirectory (forms.mediaPath formId)) s fun r t ↦
      Tidy fair working (forms.mediaPlace working formId) stored t ∧
        (r = .ok () → forms.Stands t.disk →
          t.disk.filesBelow (forms.mediaPlace working formId) = []) := by
  have hmedia := FormsDirectory.Touches.media formId
  refine ((tidy_clearDirectory _ h rfl).and (vacated_of_clearDirectory hmedia hforms)).mono ?_
  rintro r t ⟨ht, hvacated⟩
  refine ⟨ht, fun hr hstands ↦ List.eq_nil_iff_forall_not_mem.mpr fun f hf ↦ ?_⟩
  have hmissing := hvacated () hr hstands
  rw [ht.working_eq, ← FormsDirectory.mediaPlace_eq] at hmissing
  exact ht.sound.notMem_below hmissing _ (Disk.mem_filesBelow.mp hf).2

/-- When the media files have come, they are those that the manifest lists, at least if the way to
the directory of forms is there. -/
theorem ends_bringMedia (hsource : source.Answers fair sent)
    (hforms : forms.path.holdsNull = false) (x : Details) (hworking : working.Plain)
    (hserves : ∀ f ∈ x.mediaFiles, source.Serves fair f)
    (hnames : ∀ f ∈ x.mediaFiles, CanonicalName f.fileName)
    (h : Tidy fair working (forms.mediaPlace working x.formId) stored s) :
    Ends (bringMedia source forms x) s fun r t ↦
      Tidy fair working (forms.mediaPlace working x.formId) stored t ∧
        ∀ media, r = .ok media → media = x.manifest.map (fun _ ↦ forms.mediaPath x.formId) ∧
          (forms.Stands t.disk → t.disk.Carries (forms.mediaPlace working x.formId)
            (FileHashes.ofEntries x.mediaFiles)) := by
  have hmedia := FormsDirectory.Touches.media x.formId
  unfold bringMedia
  dsimp only
  cases hmanifest : x.manifest with
  | none =>
    have hfiles : x.mediaFiles = [] := by simp [Details.mediaFiles, hmanifest]
    dsimp only
    rw [ends_bind]
    refine (ends_clearMedia hforms x.formId h).mono ?_
    rintro r t ⟨ht, hcleared⟩
    cases r with
    | error e => exact ⟨ht, fun _ hr ↦ by cases hr⟩
    | ok _ =>
      refine ⟨ht, ?_⟩
      rintro _ ⟨⟩
      refine ⟨rfl, fun hstands ↦ ?_⟩
      rw [hfiles, FileHashes.ofEntries_eq_nil_iff.mpr rfl, Disk.carries_nil_iff]
      exact hcleared rfl hstands
  | some manifest =>
    have hfiles : x.mediaFiles = manifest.files := by simp [Details.mediaFiles, hmanifest]
    have hmediaPlace := FormsDirectory.mediaPlace_eq forms working x.formId
    dsimp only
    rw [ends_bind]
    rw [hmediaPlace] at h
    refine (ends_makeStaging_tidy h).mono ?_
    rintro r t ⟨ht, hstaging⟩
    rw [← hmediaPlace] at ht
    cases r with
    | error e => exact ⟨ht, fun _ hr ↦ by cases hr⟩
    | ok staging =>
      obtain ⟨n, rfl, hempty⟩ := hstaging staging rfl
      have hne := FormsDirectory.media_ne_staging x.formId n
      rw [Next, ends_bind, ends_attempt, ← hfiles]
      rw [hmediaPlace] at ht
      refine (ends_stage hsource (.staging n) hmedia hne hworking hserves hnames ht hempty).mono ?_
      rintro outcome u ⟨hu, hcarries⟩
      rw [← hmediaPlace] at hu hcarries
      rw [Next, ends_bind]
      refine (ends_dropStaging_tidy x.formId n hu).mono ?_
      rintro _ v ⟨rfl, hv, hkept⟩
      rw [Next, ends_bind, ends_ofExcept]
      cases outcome with
      | error e => exact ⟨hv, fun _ hr ↦ by cases hr⟩
      | ok _ =>
        refine ⟨hv, ?_⟩
        rintro _ ⟨⟩
        exact ⟨rfl, fun _ ↦ (hcarries rfl).of_files fun f ↦ by rw [hkept]⟩

/-- When a form has come, so have its media files. -/
theorem ends_bring (hsource : source.Answers fair sent)
    (hforms : forms.path.holdsNull = false) (x : Details) (hworking : working.Plain)
    (hserves : ∀ f ∈ x.mediaFiles, source.Serves fair f)
    (hnames : ∀ f ∈ x.mediaFiles, CanonicalName f.fileName)
    (h : Tidy fair working (forms.mediaPlace working x.formId) stored s) :
    Ends (bring source forms x) s fun r t ↦
      Tidy fair working (forms.mediaPlace working x.formId) stored t ∧
        ∀ brought, r = .ok brought →
          brought.2 = x.manifest.map (fun _ ↦ forms.mediaPath x.formId) ∧
            t.disk.Carries (forms.mediaPlace working x.formId)
              (FileHashes.ofEntries x.mediaFiles) := by
  unfold bring
  rw [ends_bind]
  refine (hsource x.descriptor.downloadUrl s h.net).mono ?_
  rintro r t ⟨hfair, hdisk, -, -⟩
  have ht : Tidy fair working (forms.mediaPlace working x.formId) stored t :=
    ⟨hdisk ▸ h.sound, hdisk ▸ h.working_eq, hfair, hdisk ▸ h.carries⟩
  cases r with
  | error e => exact ⟨ht, fun _ hr ↦ by cases hr⟩
  | ok definition =>
    rw [Next, ends_bind]
    refine (ends_bringMedia hsource hforms x hworking hserves hnames ht).mono ?_
    rintro r u ⟨hu, hmedia⟩
    cases r with
    | error e => exact ⟨hu, fun _ hr ↦ by cases hr⟩
    | ok media =>
      obtain ⟨hpath, hcarries⟩ := hmedia media rfl
      rw [Next, ends_bind, ends_change]
      cases hwritten : u.disk.writeContent (forms.formPath x.formId) definition with
      | error e => exact ⟨hu, fun _ hr ↦ by cases hr⟩
      | ok d =>
        have hd := hu.sound.writeContent hwritten
        obtain ⟨hreached, -, rfl⟩ := Disk.writeContent_eq_ok hwritten
        have hfiles : (u.disk.put ((forms.formPath x.formId).resolve u.disk.working)
            (.file definition)).filesBelow (forms.mediaPlace working x.formId) =
              u.disk.filesBelow (forms.mediaPlace working x.formId) := by
          refine Disk.filesBelow_put_of_not_prefix ?_ _
          rw [FormsDirectory.formPath, resolve_child_of_touches (.definition x.formId),
            hu.working_eq, FormsDirectory.mediaPlace_eq]
          exact (Place.apart_siblings (FormsDirectory.media_ne_definition x.formId)).1
        refine ⟨hu.of_files hd (Disk.working_put _ _) rfl fun f ↦ by rw [hfiles], ?_⟩
        rintro _ ⟨⟩
        have hstands : forms.Stands u.disk := fun n ↦ Disk.directory_of_locate_child hreached n
        exact ⟨hpath, (hcarries hstands).of_files fun f ↦ by rw [hfiles]⟩

/-- When a download returns, the files below the media directory are those that the manifest lists,
and however it ends they are those of some map, if the form was stored before. -/
theorem ends_run_carries (hsource : source.Answers fair sent) (x : Details)
    (hworking : working.Plain) (hserves : ∀ f ∈ x.mediaFiles, source.Serves fair f)
    (hnames : ∀ f ∈ x.mediaFiles, CanonicalName f.fileName)
    (h : Tidy fair working (forms.mediaPlace working x.formId) stored s) :
    Ends (run source forms x) s fun r t ↦
      Tidy fair working (forms.mediaPlace working x.formId) stored t ∧
        ∀ downloaded, r = .ok downloaded →
          downloaded.mediaPath = x.manifest.map (fun _ ↦ forms.mediaPath x.formId) ∧
            t.disk.Carries (forms.mediaPlace working x.formId)
              (FileHashes.ofEntries x.mediaFiles) := by
  have hprepared := ends_prepare_sameFiles forms.path h.sound
  unfold run
  rw [ends_bind]
  cases hprepare : Disk.prepare forms.path s.disk with
  | error e d =>
    obtain ⟨hsound, hsame, hfiles, hnet⟩ := hprepared.of_error (onDisk_eq_error hprepare)
    rw [ends_iff_of_error (onDisk_eq_error hprepare)]
    exact ⟨h.of_files hsound hsame hnet fun f ↦ hfiles.mem_filesBelow_iff _ f,
      fun _ hr ↦ by cases hr⟩
  | ok _ d =>
    obtain ⟨hsound, hsame, hfiles, hnet⟩ := hprepared.of_ok (onDisk_eq_ok hprepare)
    have hstart := h.of_files hsound hsame hnet fun f ↦ hfiles.mem_filesBelow_iff _ f
    rw [ends_iff_of_ok (onDisk_eq_ok hprepare), Next, ends_bind, ends_attempt]
    refine (ends_bring hsource (Disk.probe_of_prepare hprepare).1 x hworking hserves hnames
      hstart).mono ?_
    rintro r t ⟨ht, hbrought⟩
    cases r with
    | error e => exact ⟨ht, fun _ hr ↦ by cases hr⟩
    | ok brought =>
      have hreport := hbrought brought rfl
      rw [Next]
      dsimp only
      split
      · rw [ends_bind, ends_note, Next, ends_pure]
        refine ⟨⟨ht.sound, ht.working_eq, ht.net, ht.carries⟩, ?_⟩
        rintro _ ⟨⟩
        exact hreport
      · refine ⟨ht, ?_⟩
        rintro _ ⟨⟩
        exact hreport

end Download

end FormCatalog
