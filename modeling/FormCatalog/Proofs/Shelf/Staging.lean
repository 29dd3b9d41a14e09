import FormCatalog.Proofs.Shelf.Chronicle
import FormCatalog.Proofs.Shelf.Directory

/-!
# What a download leaves on the disk

In a directory that is there, a download either changes nothing on the disk at all, or it brings the
whole form: the definition, and the media directory or, without a manifest, none
(`Download.ends_run_of_ready`). The media files are collected under a temporary name, and until they
are moved into place everything new is below that name (`Download.Staged`), so taking the temporary
directory away restores the disk as it was. Once all files have come nothing is left that could go
wrong: the name of the media directory has been accepted, its place is empty, and the name of the
definition is shorter.
-/

set_option autoImplicit false
set_option relaxedAutoImplicit false

namespace FormCatalog

open Op

variable {N : Type}

/-! ### Properties of the disk -/

namespace Site

variable {inv : Disk → Prop}

theorem keeps_onDisk {α : Type} {x : Op Disk α} (h : Keeps inv x) :
    Keeps (fun s : Site N ↦ inv s.disk) (onDisk x) := by
  intro s hs
  unfold onDisk
  rw [ends_within]
  exact h s.disk hs

theorem keeps_change {f : Disk → Except Fault Disk}
    (h : ∀ d d', inv d → f d = .ok d' → inv d') :
    Keeps (fun s : Site N ↦ inv s.disk) (change f) := by
  intro s hs
  rw [Download.ends_change]
  cases hf : f s.disk with
  | error e => exact hs
  | ok d => exact h s.disk d hs hf

end Site

theorem Source.Answers.keeps {source : Source N} {sent : Fault → Prop} {inv : Disk → Prop}
    (h : source.Answers (fun _ ↦ True) sent) (url : String) :
    Keeps (fun s : Site N ↦ inv s.disk) (source url) :=
  fun s hs ↦ (h url s trivial).mono fun _ t ht ↦ by
    change inv t.disk
    rw [ht.2.1]
    exact hs

namespace Download

variable {forms : FormsDirectory} {source : Source N} {sent : Fault → Prop} {d₀ d d' : Disk}
  {place : Place} {formId : String} {s t : Site N} {x : Details} {content : Bytes}

/-! ### Under a temporary name -/

/-- A directory is at a place, and everything that a disk does not have in common with an earlier
one is below it. -/
structure Staged (d₀ : Disk) (place : Place) (d : Disk) : Prop where
  sound : d.Sound
  directory : d.item? place = some .directory
  cleared : d.clear place = d₀

namespace Staged

theorem working_eq (h : Staged d₀ place d) : d.working = d₀.working := by
  rw [← h.cleared, Disk.working_clear]

theorem item?_eq (h : Staged d₀ place d) {q : Place} (hout : ¬ place <+: q) :
    d.item? q = d₀.item? q := by
  rw [← h.cleared, Disk.item?_clear_of_not_prefix hout]

/-- The path that led to the place still does, since nothing was at the place before. -/
theorem probe {p : Path} (h : Staged d₀ place d) (hroot : place ≠ [])
    (hplace : d₀.locate p = .ok place) : d.probe p = .ok (place, .directory) := by
  obtain ⟨rfl, hshort, hnames, hdirs⟩ := Disk.locate_eq_ok_iff.mp hplace
  have hsound₀ : d₀.Sound := h.cleared ▸ h.sound.clear _
  have hmissing : d₀.item? (p.resolve d₀.working) = none := by
    rw [← h.cleared, Disk.working_clear, h.working_eq, Disk.item?_clear_self hroot]
  rw [Disk.probe_eq_ok_iff, Disk.locate_eq_ok_iff, h.working_eq]
  refine ⟨⟨rfl, hshort, hnames, fun n hn ↦ ?_⟩, h.directory⟩
  have hthere := hdirs n hn
  rw [h.item?_eq fun hinside ↦ ?_, hthere]
  obtain ⟨below, hbelow⟩ := hinside
  rw [← hbelow] at hthere
  exact hsound₀.notMem_below hmissing below (Disk.mem_of_item? hthere (by simp [hroot]))

theorem ready {name : String} (h : Staged d₀ (forms.path.resolve d₀.working ++ [name]) d)
    (hready : forms.Ready d₀) : forms.Ready d :=
  hready.of_item? h.sound h.working_eq fun _ hout ↦ h.item?_eq (hout name)

/-- A directory that was made where nothing was. -/
theorem of_makeDirectory {p : Path} (hsound : d.Sound) (hmade : d.makeDirectory p = .ok d') :
    Staged d (p.resolve d.working) d' := by
  have hsound' := hsound.makeDirectory hmade
  obtain ⟨-, -, hmissing, rfl⟩ := Disk.makeDirectory_eq_ok hmade
  have hroot : p.resolve d.working ≠ [] := by
    intro hroot
    rw [hroot] at hmissing
    cases hmissing
  refine ⟨hsound', Disk.item?_put_self hroot _, ?_⟩
  rw [Disk.clear_put_of_prefix (List.prefix_refl _), hsound.clear_eq_self hmissing]

theorem put (h : Staged d₀ place d) {below : Place} {item : Item} (hbelow : below ≠ [])
    (hsound : (d.put (place ++ below) item).Sound) :
    Staged d₀ place (d.put (place ++ below) item) where
  sound := hsound
  directory := by
    rw [Disk.item?_put_of_ne (by simpa using hbelow), h.directory]
  cleared := by
    rw [Disk.clear_put_of_prefix (List.prefix_append _ _), h.cleared]

/-- Directories on the way to a place below are made below. -/
theorem keeps_prepare {below : Place} (hplain : (place ++ below).Plain) :
    Keeps (Staged d₀ place) (Disk.prepare (Path.ofPlace (place ++ below)).parent) := by
  suffices hguards : Guards (Staged d₀ place) (fun _ ↦ True)
      (Disk.prepare (Path.ofPlace (place ++ below)).parent) from hguards.keeps
  refine Disk.guards_prepareWithin_of_make (fun n ↦ ?_) (fun _ ↦ trivial) _
  refine Disk.guards_update (fun d d' hd hmade ↦ ?_) fun _ _ _ _ ↦ trivial
  have hsound := hd.sound.makeDirectory hmade
  have habove := Path.resolve_parent_upTo_prefix hplain.noReturn n d.working
  obtain ⟨-, -, hmissing, rfl⟩ := Disk.makeDirectory_eq_ok hmade
  generalize ((Path.ofPlace (place ++ below)).parent.upTo n).resolve d.working = visited
    at hmissing hsound habove
  rcases List.prefix_or_prefix_of_prefix habove (List.prefix_append place below) with
    ⟨rest, rfl⟩ | ⟨inside, rfl⟩
  · -- what is above the directory is there already
    exfalso
    have hthere : d.item? visited = some .directory := by
      by_cases hrest : rest = []
      · have hdirectory := hd.directory
        rwa [hrest, List.append_nil] at hdirectory
      · exact hd.sound.directory_above (Disk.mem_of_item? hd.directory (by simp [hrest])) hrest
    rw [hthere] at hmissing
    cases hmissing
  · refine hd.put ?_ hsound
    rintro rfl
    rw [List.append_nil, hd.directory] at hmissing
    cases hmissing

theorem write {below : Place} (h : Staged d₀ place d) (hplain : (place ++ below).Plain)
    (hwritten : d.writeContent (.ofPlace (place ++ below)) content = .ok d') :
    Staged d₀ place d' := by
  have hsound := h.sound.writeContent hwritten
  obtain ⟨-, hnot, rfl⟩ := Disk.writeContent_eq_ok hwritten
  rw [hplain.resolve_ofPlace] at hnot hsound ⊢
  refine h.put ?_ hsound
  rintro rfl
  rw [List.append_nil] at hnot
  exact hnot h.directory

/-! What is below the place is moved to a place apart from it, in the stead of what is there. -/

variable {target : Place}

theorem mem_moved (h : Staged d₀ place d) {q : Place} {item : Item} (hout : ¬ target <+: q) :
    (q, item) ∈ ((d.clear target).relocate place target).items ↔ (q, item) ∈ d₀.items := by
  rw [← h.cleared, Disk.mem_relocate, Disk.mem_clear, Disk.mem_clear]
  constructor
  · rintro (⟨below, rfl, -⟩ | ⟨hplace, -, hmem⟩)
    · exact absurd (List.prefix_append _ _) hout
    · exact ⟨hplace, hmem⟩
  · rintro ⟨hplace, hmem⟩
    exact Or.inr ⟨hplace, hout, hmem⟩

theorem directory_moved (h : Staged d₀ place d) (hapart : Place.Apart place target) :
    (target, .directory) ∈ ((d.clear target).relocate place target).items := by
  refine Disk.mem_relocate.mpr (Or.inl ⟨[], (List.append_nil _).symm, ?_⟩)
  rw [List.append_nil, Disk.mem_clear]
  exact ⟨hapart.2, Disk.mem_of_item? h.directory hapart.ne_nil.1⟩

theorem item?_moved (hapart : Place.Apart place target) :
    ((d.clear target).relocate place target).item? place = none := by
  cases hitem : ((d.clear target).relocate place target).item? place with
  | none => rfl
  | some item =>
    rcases Disk.mem_relocate.mp (Disk.mem_of_item? hitem hapart.ne_nil.1) with
      ⟨below, rfl, -⟩ | ⟨hout, -⟩
    · exact absurd (List.prefix_append _ _) hapart.2
    · exact absurd (List.prefix_refl _) hout

end Staged

/-- Bringing a media file changes things below the temporary name only. -/
theorem keeps_collect_staged (hsource : source.Answers (fun _ ↦ True) sent)
    (hworking : d₀.working.Plain) {name : String} (hname : FormsDirectory.Touches formId name)
    (file : MediaEntry) :
    Keeps (fun s ↦ Staged d₀ (forms.path.resolve d₀.working ++ [name]) s.disk)
      (collect source formId (forms.path.child name) file) := by
  intro s hs
  unfold collect
  rw [ends_bind, ends_get, Next, ends_bind, ends_ofExcept]
  cases hconfined : (forms.path.child name).confined s.disk.working file.fileName with
  | error e => exact hs
  | ok inside =>
    cases inside with
    | none => exact hs
    | some target =>
      rw [hs.working_eq] at hconfined
      obtain ⟨below, hplain, rfl⟩ := Path.confined_eq_some hworking hconfined
      rw [resolve_child_of_touches hname] at hplain ⊢
      exact ((Site.keeps_onDisk (Staged.keeps_prepare hplain)).bind fun _ ↦
        (hsource.keeps _).bind fun _ ↦ Site.keeps_change fun _ _ hd ↦ hd.write hplain) s hs

/-- The temporary directory is made at a place that its path leads to, or nothing is done. -/
theorem ends_makeStaging_located (hsound : s.disk.Sound) :
    Ends (makeStaging forms) s fun r t ↦
      (∃ e, r = .error e ∧ t = s) ∨
        ∃ n d, r = .ok (forms.path.child (Disk.temporaryName stagingName n)) ∧
          t = { s with disk := d } ∧
          (forms.path.child (Disk.temporaryName stagingName n)).holdsNull = false ∧
          s.disk.locate (forms.path.child (Disk.temporaryName stagingName n)) =
            .ok (forms.path.resolve s.disk.working ++ [Disk.temporaryName stagingName n]) ∧
          Staged s.disk (forms.path.resolve s.disk.working ++
            [Disk.temporaryName stagingName n]) d := by
  unfold makeStaging
  rw [ends_bind, ends_ask]
  cases hmade : s.disk.makeTemporary forms.path stagingName with
  | error e => exact Or.inl ⟨e, rfl, rfl⟩
  | ok made =>
    obtain ⟨staging, d⟩ := made
    obtain ⟨n, rfl, hmade⟩ := Disk.makeTemporary_eq_ok hmade
    have hname : FormsDirectory.Touches "" (Disk.temporaryName stagingName n) := .staging n
    obtain ⟨hnull, hplace, -, -⟩ := Disk.makeDirectory_eq_ok hmade
    have hstaged := Staged.of_makeDirectory hsound hmade
    rw [resolve_child_of_touches hname] at hplace hstaged
    exact Or.inr ⟨n, d, rfl, rfl, hnull, hplace, hstaged⟩

/-- In a directory that is there, the name of the temporary directory fits. -/
theorem ends_makeStaging_staged (h : forms.Ready s.disk) :
    Ends (makeStaging forms) s fun r t ↦
      (∃ e, r = .error e ∧ t = s) ∨
        ∃ n, r = .ok (forms.path.child (Disk.temporaryName stagingName n)) ∧
          forms.Fits (Disk.temporaryName stagingName n) ∧
          Staged s.disk (forms.path.resolve s.disk.working ++
            [Disk.temporaryName stagingName n]) t.disk := by
  refine (ends_makeStaging_located h.sound).mono ?_
  rintro _ _ (⟨e, rfl, rfl⟩ | ⟨n, d, rfl, rfl, -, hplace, hstaged⟩)
  · exact Or.inl ⟨e, rfl, rfl⟩
  · have hname : FormsDirectory.Touches "" (Disk.temporaryName stagingName n) := .staging n
    exact Or.inr ⟨n, rfl, (h.locate_eq_ok_iff hname.ne_dots).mp hplace, hstaged⟩

theorem dropStaging_eq {staging : Path} (h : clearDirectory staging s = .ok () t) :
    dropStaging staging s = .ok () t := by
  have hattempt : attempt (clearDirectory staging) s = .ok (.ok ()) t := by
    unfold attempt
    rw [h]
  exact bind_of_ok hattempt

/-- While everything new is below the place that a path led to, dropping what is there restores the
disk. -/
theorem dropStaging_of_located {staging : Path} (h : Staged d₀ place s.disk) (hroot : place ≠ [])
    (hnull : staging.holdsNull = false) (hplace : d₀.locate staging = .ok place) :
    dropStaging staging s = .ok () { s with disk := d₀ } := by
  have hprobe := h.probe hroot hplace
  have hexists : s.disk.exists? staging = .ok true := by
    unfold Disk.exists? Disk.look
    rw [if_neg (by simp [hnull]), hprobe]
    rfl
  have hremoved : s.disk.removeTree staging = .ok d₀ := by
    unfold Disk.removeTree
    rw [if_neg (by simp [hnull]), hprobe]
    exact congrArg Except.ok h.cleared
  refine dropStaging_eq (Ends.eq_ok ?_)
  unfold clearDirectory
  rw [ends_bind, ends_ask, hexists, Next, if_pos rfl, ends_change, hremoved]
  exact ⟨rfl, rfl⟩

/-- While everything new is below the temporary directory, dropping it restores the disk. -/
theorem dropStaging_of_staged (hready : forms.Ready d₀) (n : Nat)
    (hfits : forms.Fits (Disk.temporaryName stagingName n))
    (h : Staged d₀ (forms.path.resolve d₀.working ++ [Disk.temporaryName stagingName n]) s.disk) :
    dropStaging (forms.path.child (Disk.temporaryName stagingName n)) s =
      .ok () { s with disk := d₀ } := by
  have hname : FormsDirectory.Touches "" (Disk.temporaryName stagingName n) := .staging n
  exact dropStaging_of_located h (by simp) (hname.holdsNull_child hready.noNull)
    (hready.locate hname hfits)

/-- Where no temporary directory is left, nothing is dropped. -/
theorem dropStaging_of_missing (hready : forms.Ready s.disk) (n : Nat)
    (hfits : forms.Fits (Disk.temporaryName stagingName n))
    (h : s.disk.item? (forms.path.resolve s.disk.working ++ [Disk.temporaryName stagingName n]) =
      none) :
    dropStaging (forms.path.child (Disk.temporaryName stagingName n)) s = .ok () s := by
  have hname : FormsDirectory.Touches "" (Disk.temporaryName stagingName n) := .staging n
  have hcleared := clearDirectory_eq (s := s) hready hname hfits fun content ↦ by
    rw [h]
    simp
  rw [hready.sound.clear_eq_self h] at hcleared
  exact dropStaging_eq hcleared

/-! ### In the place of the earlier media files -/

/-- The media directory of a form is as its manifest says, there or not, and everything else is as
on an earlier disk. -/
structure Housed (forms : FormsDirectory) (x : Details) (d₀ d : Disk) : Prop where
  ready : forms.Ready d
  working_eq : d.working = d₀.working
  fits : forms.Fits (FormsDirectory.baseName x.formId ++ "-media")
  directory : x.manifest.isSome = true → (forms.path.resolve d₀.working ++
    [FormsDirectory.baseName x.formId ++ "-media"], .directory) ∈ d.items
  nothing : x.manifest = none → ∀ below item, (forms.path.resolve d₀.working ++
    [FormsDirectory.baseName x.formId ++ "-media"] ++ below, item) ∉ d.items
  rest : ∀ place item,
    ¬ forms.path.resolve d₀.working ++ [FormsDirectory.baseName x.formId ++ "-media"] <+: place →
      ((place, item) ∈ d.items ↔ (place, item) ∈ d₀.items)

theorem housed_of_clear (h : forms.Ready d₀) (hmanifest : x.manifest = none)
    (hfits : forms.Fits (FormsDirectory.baseName x.formId ++ "-media")) :
    Housed forms x d₀ (d₀.clear
      (forms.path.resolve d₀.working ++ [FormsDirectory.baseName x.formId ++ "-media"])) where
  ready := h.clear _
  working_eq := rfl
  fits := hfits
  directory hsome := by
    rw [hmanifest] at hsome
    cases hsome
  nothing _ below item hmem := (Disk.mem_clear.mp hmem).1 (List.prefix_append _ _)
  rest place item hout := by
    rw [Disk.mem_clear]
    exact and_iff_right hout

theorem housed_of_moved {staging : String}
    (hne : staging ≠ FormsDirectory.baseName x.formId ++ "-media") (h : forms.Ready d₀)
    (hmanifest : x.manifest.isSome = true)
    (hfits : forms.Fits (FormsDirectory.baseName x.formId ++ "-media"))
    (hstaged : Staged d₀ (forms.path.resolve d₀.working ++ [staging]) d) :
    Housed forms x d₀ ((d.clear
      (forms.path.resolve d₀.working ++ [FormsDirectory.baseName x.formId ++ "-media"])).relocate
        (forms.path.resolve d₀.working ++ [staging])
        (forms.path.resolve d₀.working ++ [FormsDirectory.baseName x.formId ++ "-media"])) where
  ready := by
    have hcleared := (hstaged.ready h).clear (FormsDirectory.baseName x.formId ++ "-media")
    have hmoved := hcleared.relocate hne (Disk.item?_clear_self (by simp))
    rwa [Disk.working_clear, hstaged.working_eq] at hmoved
  working_eq := hstaged.working_eq
  fits := hfits
  directory _ := hstaged.directory_moved (Place.apart_siblings hne)
  nothing hnone := by
    rw [hnone] at hmanifest
    cases hmanifest
  rest _ _ hout := hstaged.mem_moved hout

/-- The files are collected, and either everything new is below the temporary name still, or the
directory has been moved into place. -/
theorem ends_stage_staged (hsource : source.Answers (fun _ ↦ True) sent) (hready : forms.Ready d₀)
    (hworking : d₀.working.Plain) {staging media : String}
    (hstaging : FormsDirectory.Touches formId staging)
    (hmedia : FormsDirectory.Touches formId media) (hne : staging ≠ media)
    (hfits : forms.Fits staging) (files : List MediaEntry)
    (h : Staged d₀ (forms.path.resolve d₀.working ++ [staging]) s.disk) :
    Ends (stage source formId files (forms.path.child staging) (forms.path.child media)) s
      fun r t ↦
        (∃ e, r = .error e ∧ Staged d₀ (forms.path.resolve d₀.working ++ [staging]) t.disk) ∨
        (r = .ok () ∧ forms.Fits media ∧
          ∃ d, Staged d₀ (forms.path.resolve d₀.working ++ [staging]) d ∧
            t.disk = (d.clear (forms.path.resolve d₀.working ++ [media])).relocate
              (forms.path.resolve d₀.working ++ [staging])
              (forms.path.resolve d₀.working ++ [media])) := by
  unfold stage
  rw [ends_bind]
  have hcollect : Keeps (fun s ↦ Staged d₀ (forms.path.resolve d₀.working ++ [staging]) s.disk)
      (files.forM (collect source formId (forms.path.child staging))) :=
    keeps_forM fun file _ ↦ keeps_collect_staged hsource hworking hstaging file
  refine (hcollect s h).mono fun r t ht ↦ ?_
  cases r with
  | error e => exact Or.inl ⟨e, rfl, ht⟩
  | ok _ =>
    rw [Next, ends_bind]
    refine (ends_clearDirectory_of_ready (ht.ready hready) hmedia).mono ?_
    rintro _ u (⟨e, rfl, rfl, -⟩ | ⟨rfl, hfits', rfl⟩)
    · exact Or.inl ⟨e, rfl, ht⟩
    · have hcleared := (ht.ready hready).clear media
      have hout : ¬ forms.path.resolve d₀.working ++ [media] <+:
          forms.path.resolve d₀.working ++ [staging] :=
        (Place.apart_siblings hne).2
      rw [ht.working_eq] at hcleared
      have hthere : (t.disk.clear (forms.path.resolve d₀.working ++ [media])).item?
          (forms.path.resolve d₀.working ++ [staging]) = some .directory := by
        rw [Disk.item?_clear_of_not_prefix hout, ht.directory]
      have hmoved := hcleared.moveDirectory_eq hstaging hmedia hfits hfits'
        (by rwa [Disk.working_clear, ht.working_eq])
        (by rw [Disk.working_clear, ht.working_eq, Disk.item?_clear_self (by simp)])
      rw [Disk.working_clear, ht.working_eq] at hmoved
      rw [Next, ends_change]
      dsimp only
      rw [ht.working_eq, hmoved]
      exact Or.inr ⟨rfl, hfits', t.disk, ht, rfl⟩

/-- The media files of a form are brought, or nothing is changed on the disk. -/
theorem ends_bringMedia_of_ready (hsource : source.Answers (fun _ ↦ True) sent)
    (h : forms.Ready s.disk) (hworking : s.disk.working.Plain) (x : Details) :
    Ends (bringMedia source forms x) s fun r t ↦
      (∃ e, r = .error e ∧ t.disk = s.disk) ∨
        ∃ media, r = .ok media ∧ Housed forms x s.disk t.disk := by
  have hmedia := FormsDirectory.Touches.media x.formId
  unfold bringMedia
  dsimp only
  cases hmanifest : x.manifest with
  | none =>
    dsimp only
    rw [ends_bind]
    refine (ends_clearDirectory_of_ready h hmedia).mono ?_
    rintro _ t (⟨e, rfl, rfl, -⟩ | ⟨rfl, hfits, rfl⟩)
    · exact Or.inl ⟨e, rfl, rfl⟩
    · exact Or.inr ⟨none, rfl, housed_of_clear h hmanifest hfits⟩
  | some manifest =>
    dsimp only
    rw [ends_bind]
    refine (ends_makeStaging_staged h).mono ?_
    rintro _ t (⟨e, rfl, rfl⟩ | ⟨n, rfl, hfits, hstaged⟩)
    · exact Or.inl ⟨e, rfl, rfl⟩
    · have hne := (FormsDirectory.media_ne_staging x.formId n).symm
      rw [Next, ends_bind, ends_attempt]
      refine (ends_stage_staged hsource h hworking (.staging n) hmedia hne hfits manifest.files
        hstaged).mono ?_
      rintro _ u (⟨e, rfl, hu⟩ | ⟨rfl, hfits', d, hd, hu⟩)
      · rw [Next, ends_bind, ends_iff_of_ok (dropStaging_of_staged h n hfits hu)]
        exact Or.inl ⟨e, rfl, rfl⟩
      · have hhoused : Housed forms x s.disk u.disk := by
          rw [hu]
          exact housed_of_moved hne h (by rw [hmanifest]; rfl) hfits' hd
        have hmissing : u.disk.item?
            (forms.path.resolve u.disk.working ++ [Disk.temporaryName stagingName n]) = none := by
          rw [hhoused.working_eq, hu]
          exact Staged.item?_moved (Place.apart_siblings hne)
        rw [Next, ends_bind,
          ends_iff_of_ok (dropStaging_of_missing hhoused.ready n hfits hmissing)]
        exact Or.inr ⟨_, rfl, hhoused⟩

/-! ### The whole form -/

/-- A form has been brought, with this definition: its two places are as said, and everything else
is as on an earlier disk. -/
structure Brought (forms : FormsDirectory) (x : Details) (content : Bytes) (d₀ d : Disk) :
    Prop where
  ready : forms.Ready d
  working_eq : d.working = d₀.working
  fits : forms.Fits (FormsDirectory.baseName x.formId ++ "-media")
  definition : (forms.path.resolve d₀.working ++ [FormsDirectory.baseName x.formId ++ ".xml"],
    .file content) ∈ d.items
  directory : x.manifest.isSome = true → (forms.path.resolve d₀.working ++
    [FormsDirectory.baseName x.formId ++ "-media"], .directory) ∈ d.items
  nothing : x.manifest = none → ∀ below item, (forms.path.resolve d₀.working ++
    [FormsDirectory.baseName x.formId ++ "-media"] ++ below, item) ∉ d.items
  rest : ∀ place item,
    place ≠ forms.path.resolve d₀.working ++ [FormsDirectory.baseName x.formId ++ ".xml"] →
    ¬ forms.path.resolve d₀.working ++ [FormsDirectory.baseName x.formId ++ "-media"] <+: place →
      ((place, item) ∈ d.items ↔ (place, item) ∈ d₀.items)

/-- The definition is put beside the media files. -/
theorem Housed.brought (h : Housed forms x d₀ d)
    (hfree : d.item? (forms.path.resolve d₀.working ++
      [FormsDirectory.baseName x.formId ++ ".xml"]) ≠ some .directory) (content : Bytes) :
    Brought forms x content d₀ (d.put
      (forms.path.resolve d₀.working ++ [FormsDirectory.baseName x.formId ++ ".xml"])
      (.file content)) := by
  have hapart : Place.Apart
      (forms.path.resolve d₀.working ++ [FormsDirectory.baseName x.formId ++ "-media"])
      (forms.path.resolve d₀.working ++ [FormsDirectory.baseName x.formId ++ ".xml"]) :=
    Place.apart_siblings (FormsDirectory.media_ne_definition x.formId)
  have hne (below : Place) :
      forms.path.resolve d₀.working ++ [FormsDirectory.baseName x.formId ++ "-media"] ++ below ≠
        forms.path.resolve d₀.working ++ [FormsDirectory.baseName x.formId ++ ".xml"] := by
    intro hsame
    exact hapart.1 (hsame ▸ List.prefix_append _ _)
  constructor
  case ready =>
    rw [← h.working_eq]
    refine h.ready.put fun hdirectory ↦ absurd ?_ hfree
    rwa [← h.working_eq]
  case working_eq => rw [Disk.working_put, h.working_eq]
  case fits => exact h.fits
  case definition => exact Disk.mem_put.mpr (Or.inl ⟨rfl, rfl⟩)
  case directory =>
    intro hsome
    refine Disk.mem_put.mpr (Or.inr ⟨?_, h.directory hsome⟩)
    have hplace := hne []
    rwa [List.append_nil] at hplace
  case nothing =>
    intro hnone below item hmem
    rcases Disk.mem_put.mp hmem with ⟨hsame, -⟩ | ⟨-, hmem⟩
    · exact hne below hsame
    · exact h.nothing hnone below item hmem
  case rest =>
    intro place item hplace hout
    rw [Disk.mem_put, ← h.rest place item hout]
    constructor
    · rintro (⟨hsame, -⟩ | ⟨-, hmem⟩)
      · exact absurd hsame hplace
      · exact hmem
    · exact fun hmem ↦ Or.inr ⟨hplace, hmem⟩

/-- What is under the names of other forms is as it was. -/
theorem Brought.mem_iff (h : Brought forms x content d₀ d) {name : String} {below : Place}
    {item : Item} (hname : ¬ FormsDirectory.Owns x.formId name) :
    (forms.path.resolve d₀.working ++ name :: below, item) ∈ d.items ↔
      (forms.path.resolve d₀.working ++ name :: below, item) ∈ d₀.items := by
  refine h.rest _ _ (fun hsame ↦ hname ?_) fun hbegins ↦ hname ?_
  · obtain ⟨rfl, -⟩ := List.cons.inj (List.append_cancel_left hsame)
    exact .definition
  · obtain rfl := Place.name_prefix_iff.mp hbegins
    exact .media

/-- A form is brought, or nothing is changed on the disk. -/
theorem ends_bring_of_ready (hsource : source.Answers (fun _ ↦ True) sent)
    (h : forms.Ready s.disk) (hworking : s.disk.working.Plain) (x : Details)
    (hfree : s.disk.item? (forms.path.resolve s.disk.working ++
      [FormsDirectory.baseName x.formId ++ ".xml"]) ≠ some .directory) :
    Ends (bring source forms x) s fun r t ↦
      (∃ e, r = .error e ∧ t.disk = s.disk) ∨
        ∃ content media, r = .ok (content, media) ∧ Brought forms x content s.disk t.disk := by
  have hdefinition := FormsDirectory.Touches.definition x.formId
  unfold bring
  rw [ends_bind]
  have hasked : Ends (source x.descriptor.downloadUrl) s fun _ t ↦ t.disk = s.disk :=
    (hsource x.descriptor.downloadUrl s trivial).mono fun _ _ ht ↦ ht.2.1
  refine hasked.mono fun r t ht ↦ ?_
  cases r with
  | error e => exact Or.inl ⟨e, rfl, ht⟩
  | ok content =>
    rw [← ht] at h hworking hfree ⊢
    rw [Next, ends_bind]
    refine (ends_bringMedia_of_ready hsource h hworking x).mono ?_
    rintro _ u (⟨e, rfl, hu⟩ | ⟨media, rfl, hhoused⟩)
    · exact Or.inl ⟨e, rfl, hu⟩
    · have hnot : u.disk.item? (forms.path.resolve t.disk.working ++
          [FormsDirectory.baseName x.formId ++ ".xml"]) ≠ some .directory := by
        intro hdirectory
        have hout : ¬ forms.path.resolve t.disk.working ++
              [FormsDirectory.baseName x.formId ++ "-media"] <+:
            forms.path.resolve t.disk.working ++ [FormsDirectory.baseName x.formId ++ ".xml"] :=
          (Place.apart_siblings (FormsDirectory.media_ne_definition x.formId)).1
        have hmem := (hhoused.rest _ _ hout).mp (Disk.mem_of_item? hdirectory (by simp))
        exact hfree (h.sound.item?_of_mem hmem (by simp))
      have hwritten := hhoused.ready.writeContent_eq hdefinition hhoused.fits.definition
        (by rwa [hhoused.working_eq]) content
      rw [hhoused.working_eq] at hwritten
      rw [Next, ends_bind, ends_change, FormsDirectory.formPath, hwritten]
      exact Or.inr ⟨content, media, rfl, hhoused.brought hnot content⟩

/-- A download brings the form, or changes nothing on the disk. -/
theorem ends_run_of_ready (hsource : source.Answers (fun _ ↦ True) sent)
    (h : forms.Ready s.disk) (hworking : s.disk.working.Plain) (x : Details)
    (hfree : s.disk.item? (forms.path.resolve s.disk.working ++
      [FormsDirectory.baseName x.formId ++ ".xml"]) ≠ some .directory) :
    Ends (run source forms x) s fun r t ↦
      (∃ e, r = .error e ∧ t.disk = s.disk) ∨
        ∃ content, r = .ok (broughtBy forms x content) ∧
          Brought forms x content s.disk t.disk := by
  have hprepared : Site.onDisk (Disk.prepare forms.path) s = .ok () s :=
    onDisk_eq_ok (Disk.prepare_of_probe h.noNull h.there)
  unfold run
  rw [ends_bind, ends_iff_of_ok hprepared, Next, ends_bind, ends_attempt]
  refine ((ends_bring_of_ready hsource h hworking x hfree).and ifReturns_bring).mono ?_
  rintro _ t ⟨⟨e, rfl, ht⟩ | ⟨content, media, rfl, hbrought⟩, hmedia⟩
  · exact Or.inl ⟨_, rfl, ht⟩
  · obtain ⟨-, rfl⟩ := hmedia _ rfl
    rw [Next]
    dsimp only
    split
    · exact Or.inr ⟨content, rfl, hbrought⟩
    · exact Or.inr ⟨content, rfl, hbrought⟩

end Download

end FormCatalog
