import FormCatalog.Proofs.Disk.Prepare
import FormCatalog.Proofs.Shelf.Names
import FormCatalog.Shelf.Basic
import Mathlib.Logic.Relation

/-!
# What bringing and removing a form changes

A download and a removal change the disk step by step, and `FormsDirectory.Change` says what one
step can be: a directory that was missing on the way to the directory of forms is made, or something
happens under a name that the form has to do with. However a download ends, its steps are of this
kind, the table is as it was, and the faults it may end in are those of the source, those of the
file system, the download fault of this very form, and, for a media file with a null character in
its name, the one fault that says so (`guards_bring`, `guards_remove`). What holds of every step
holds of whole downloads by induction on the steps.
-/

set_option autoImplicit false
set_option relaxedAutoImplicit false

namespace FormCatalog

open Op Relation

variable {N : Type}

/-- A source that has no hand in the disk and in the table, keeps a condition on the network, and
ends in no faults but those said. -/
def Source.Answers (source : Source N) (fair : N → Prop) (sent : Fault → Prop) : Prop :=
  ∀ url s, fair s.net → Ends (source url) s fun r t ↦
    fair t.net ∧ t.disk = s.disk ∧ t.table = s.table ∧ ∀ e, r = .error e → sent e

namespace FormsDirectory

/-- The places on the way to the directory of forms: those that its path visits and those above the
directory. -/
def OnTheWay (forms : FormsDirectory) (working place : Place) : Prop :=
  place <+: forms.path.resolve working ∨ ∃ n, place = (forms.path.upTo n).resolve working

/-- One step in which bringing or removing a form changes the disk. -/
inductive Change (forms : FormsDirectory) (working : Place) (formId : String) : Disk → Disk → Prop
  | directory {d : Disk} {place : Place} (hway : forms.OnTheWay working place)
      (hmissing : d.item? place = none) :
      Change forms working formId d (d.put place .directory)
  | put {d : Disk} {name : String} (hname : Touches formId name) (below : Place) (item : Item) :
      Change forms working formId d (d.put (forms.path.resolve working ++ [name] ++ below) item)
  | clear {d : Disk} {name : String} (hname : Touches formId name) :
      Change forms working formId d (d.clear (forms.path.resolve working ++ [name]))
  | relocate {d : Disk} {source target : String} (hsource : Touches formId source)
      (htarget : Touches formId target) :
      Change forms working formId d (d.relocate (forms.path.resolve working ++ [source])
        (forms.path.resolve working ++ [target]))

/-- Any number of such steps. -/
abbrev Changes (forms : FormsDirectory) (working : Place) (formId : String) : Disk → Disk → Prop :=
  ReflTransGen (forms.Change working formId)

variable {forms : FormsDirectory} {working : Place} {formId : String} {d d' : Disk}

theorem Change.put_name {name : String} (hname : Touches formId name) (item : Item) :
    forms.Change working formId d (d.put (forms.path.resolve working ++ [name]) item) := by
  have hput : forms.Change working formId d
      (d.put (forms.path.resolve working ++ [name] ++ []) item) := .put hname [] item
  rwa [List.append_nil] at hput

theorem Change.working_eq (h : forms.Change working formId d d') : d'.working = d.working := by
  cases h <;> simp

theorem Changes.working_eq (h : forms.Changes working formId d d') : d'.working = d.working := by
  induction h with
  | refl => rfl
  | tail _ hstep ih => rw [hstep.working_eq, ih]

end FormsDirectory

namespace Download

/-- A site that bringing or removing a form has got to from another one: the disk has changed as it
may, the table is as it was, and the network keeps its condition. -/
structure Underway (forms : FormsDirectory) (fair : N → Prop) (formId : String) (s t : Site N) :
    Prop where
  disk : forms.Changes s.disk.working formId s.disk t.disk
  table : t.table = s.table
  net : fair t.net

/-- The faults that bringing a form may end in: those that the source sends, those of the file
system, a failed download of this form, and the fault of a media file whose name holds the character
that no path may hold. -/
inductive Blames (sent : Fault → Prop) (formId : String) (files : List MediaEntry) : Fault → Prop
  | sent {e : Fault} (h : sent e) : Blames sent formId files e
  | disk (f : DiskFault) : Blames sent formId files (.disk f)
  | failed (message : String) : Blames sent formId files (.download formId message)
  | null {file : MediaEntry} (hfile : file ∈ files)
      (hnull : (Path.ofText file.fileName).holdsNull = true) :
      Blames sent formId files (.invalid "embedded null byte")

variable {forms : FormsDirectory} {fair : N → Prop} {formId : String} {s t : Site N}
  {sent blame : Fault → Prop} {files : List MediaEntry}

theorem Underway.refl (h : fair s.net) : Underway forms fair formId s s :=
  ⟨ReflTransGen.refl, rfl, h⟩

theorem Underway.trans {u : Site N} (h : Underway forms fair formId s t)
    (h' : Underway forms fair formId t u) : Underway forms fair formId s u := by
  refine ⟨h.disk.trans ?_, h'.table.trans h.table, h'.net⟩
  rw [← h.disk.working_eq]
  exact h'.disk

theorem Underway.working_eq (h : Underway forms fair formId s t) :
    t.disk.working = s.disk.working :=
  h.disk.working_eq

/-! ### Programs of the disk -/

theorem guards_onDisk {x : Op Disk Unit}
    (h : Guards (forms.Changes s.disk.working formId s.disk) blame x) :
    Guards (Underway forms fair formId s) blame (Site.onDisk x) := by
  intro t ht
  unfold Site.onDisk
  rw [ends_within]
  refine (h t.disk ht.disk).mono fun r d hd ↦ ?_
  exact ⟨⟨hd.1, ht.table, ht.net⟩, hd.2⟩

theorem onDisk_eq_ok {α : Type} {x : Op Disk α} {a : α} {d : Disk} (h : x s.disk = .ok a d) :
    Site.onDisk x s = .ok a { s with disk := d } := by
  unfold Site.onDisk Op.within
  rw [h]

theorem onDisk_eq_error {α : Type} {x : Op Disk α} {e : Fault} {d : Disk}
    (h : x s.disk = .error e d) : Site.onDisk x s = .error e { s with disk := d } := by
  unfold Site.onDisk Op.within
  rw [h]

theorem ends_ask {α : Type} {question : Disk → Except Fault α}
    {post : Except Fault α → Site N → Prop} :
    Ends (Site.ask question) s post ↔ post (question s.disk) s := by
  unfold Site.ask
  rw [ends_bind, ends_get, Next, ends_ofExcept]

theorem guards_ask {α : Type} {question : Disk → Except Fault α} {inv : Site N → Prop}
    (herror : ∀ d e, question d = .error e → blame e) :
    Guards inv blame (Site.ask question : Op (Site N) α) := by
  intro t ht
  rw [ends_ask]
  exact ⟨ht, fun e he ↦ herror _ e he⟩

theorem ends_change {f : Disk → Except Fault Disk} {post : Except Fault Unit → Site N → Prop} :
    Ends (Site.change f) s post ↔
      match f s.disk with
      | .ok d => post (.ok ()) { s with disk := d }
      | .error e => post (.error e) s := by
  unfold Site.change
  rw [ends_bind, ends_ask]
  cases f s.disk <;> rfl

theorem change_eq_ok {f : Disk → Except Fault Disk} {d : Disk} (h : f s.disk = .ok d) :
    Site.change f s = .ok () { s with disk := d } := by
  refine Ends.eq_ok ?_
  rw [ends_change, h]
  exact ⟨rfl, rfl⟩

theorem ifReturns_ask {α : Type} {question : Disk → Except Fault α} :
    IfReturns (Site.ask question) s fun a t ↦ question s.disk = .ok a ∧ t = s :=
  ends_ask.mpr fun _ hr ↦ ⟨hr, rfl⟩

theorem ifReturns_change {f : Disk → Except Fault Disk} :
    IfReturns (Site.change f) s fun _ t ↦ ∃ d, f s.disk = .ok d ∧ t = { s with disk := d } := by
  unfold IfReturns
  rw [ends_change]
  cases hf : f s.disk with
  | error e => exact fun _ hr ↦ by cases hr
  | ok d => exact fun _ _ ↦ ⟨d, rfl, rfl⟩

theorem guards_change {f : Disk → Except Fault Disk}
    (hok : ∀ d d', d.working = s.disk.working → f d = .ok d' →
      forms.Changes s.disk.working formId d d')
    (herror : ∀ d e, f d = .error e → blame e) :
    Guards (Underway forms fair formId s) blame (Site.change f) := by
  intro t ht
  rw [ends_change]
  cases hf : f t.disk with
  | ok d =>
    have hsteps := ht.disk.trans (hok t.disk d ht.working_eq hf)
    exact ⟨⟨hsteps, ht.table, ht.net⟩, fun _ he ↦ by cases he⟩
  | error e => exact ⟨ht, fun _ he ↦ by cases he; exact herror t.disk e hf⟩

theorem guards_source {source : Source N} (h : source.Answers fair sent) (url : String) :
    Guards (Underway forms fair formId s) sent (source url) := by
  intro t ht
  refine (h url t ht.net).mono fun r u hu ↦ ?_
  obtain ⟨hfair, hdisk, htable, hfault⟩ := hu
  exact ⟨⟨hdisk ▸ ht.disk, htable.trans ht.table, hfair⟩, hfault⟩

/-! ### The parts of a download -/

theorem resolve_child_of_touches {name : String} (h : FormsDirectory.Touches formId name)
    (working : Place) :
    (forms.path.child name).resolve working = forms.path.resolve working ++ [name] :=
  Path.resolve_child working forms.path h.ne_dots

/-- Making the directory of forms puts directories on the way. -/
theorem guards_prepare_forms {blame : Fault → Prop}
    (hblame : ∀ (d : Disk) n e, d.makeDirectory (forms.path.upTo n) = .error e → blame e)
    (hdisk : ∀ f, blame (.disk f)) :
    Guards (Underway forms fair formId s) blame (Site.onDisk (Disk.prepare forms.path)) := by
  refine guards_onDisk (Disk.guards_prepare (fun d hd ↦ hd.working_eq) ?_ hblame hdisk)
  intro d n hd hmissing
  exact hd.tail (.directory (Or.inr ⟨n, rfl⟩) hmissing)

/-- What is above or at a place below a name is on the way to the directory of the name, or below
the name itself. -/
theorem prefix_append_cases {base below place : Place} {name : String}
    (h : place <+: base ++ [name] ++ below) :
    place <+: base ∨ ∃ below', place = base ++ [name] ++ below' := by
  rcases List.prefix_or_prefix_of_prefix h (List.prefix_append _ _) with habove | ⟨rest, hrest⟩
  · rcases List.prefix_concat_iff.mp habove with hname | hbase
    · exact Or.inr ⟨[], by rw [hname, List.append_nil]⟩
    · exact Or.inl hbase
  · exact Or.inr ⟨rest, hrest.symm⟩

/-- Making the directories above a place that is at or below a touched name. -/
theorem guards_prepare_below {name : String} (hname : FormsDirectory.Touches formId name)
    {below place : Place} (hplain : place.Plain)
    (hplace : place = forms.path.resolve s.disk.working ++ [name] ++ below) :
    Guards (Underway forms fair formId s) (fun e ↦ ∃ f, e = .disk f)
      (Site.onDisk (Disk.prepare (Path.ofPlace place).parent)) := by
  have hnull (n : Nat) : ((Path.ofPlace place).parent.upTo n).holdsNull = false := by
    have hall := Path.holdsNull_eq_false_iff.mp hplain.noNull
    rw [Path.holdsNull_eq_false_iff]
    intro c hc
    exact hall c ((List.dropLast_sublist _).subset (List.mem_of_mem_take hc))
  have hcases {q : Place} (hq : q <+: place) := prefix_append_cases (hplace ▸ hq)
  refine guards_onDisk (Disk.guards_prepare (fun d hd ↦ hd.working_eq) ?_ ?_ fun f ↦ ⟨f, rfl⟩)
  · intro d n hd hmissing
    have habove := Path.resolve_parent_upTo_prefix hplain.noReturn n s.disk.working
    rcases hcases habove with hway | ⟨below', hbelow⟩
    · exact hd.tail (.directory (Or.inl hway) hmissing)
    · rw [hbelow]
      exact hd.tail (.put hname below' .directory)
  · intro d n e he
    exact Disk.makeDirectory_eq_error (hnull n) he

/-- Clearing a touched directory takes it away or leaves it. -/
theorem guards_clearDirectory {name : String} (hname : FormsDirectory.Touches formId name)
    (hdisk : ∀ f, blame (.disk f))
    (hremoved : ∀ (d : Disk) e, d.removeTree (forms.path.child name) = .error e → blame e) :
    Guards (Underway forms fair formId s) blame (clearDirectory (forms.path.child name)) := by
  unfold clearDirectory
  refine Guards.bind (guards_ask fun d e he ↦ ?_) fun found ↦ ?_
  · obtain ⟨f, rfl⟩ := Disk.exists?_eq_error he
    exact hdisk f
  · split
    · refine guards_change (fun d d' hd hcleared ↦ ?_) hremoved
      rw [Disk.removeTree_eq_ok hcleared, resolve_child_of_touches hname, hd]
      exact .single (.clear hname)
    · exact guards_pure

theorem guards_clearDirectory_of_noNull {name : String}
    (hname : FormsDirectory.Touches formId name) (hforms : forms.path.holdsNull = false) :
    Guards (Underway forms fair formId s) (Blames sent formId files)
      (clearDirectory (forms.path.child name)) := by
  refine guards_clearDirectory hname .disk fun d e he ↦ ?_
  obtain ⟨f, rfl⟩ := Disk.removeTree_eq_error (hname.holdsNull_child hforms) he
  exact .disk f

/-- Dropping the temporary directory ends in no fault at all. -/
theorem guards_dropStaging {name : String} (hname : FormsDirectory.Touches formId name) :
    Guards (Underway forms fair formId s) blame (dropStaging (forms.path.child name)) := by
  have hclear : Guards (Underway forms fair formId s) (fun _ ↦ True)
      (clearDirectory (forms.path.child name)) :=
    guards_clearDirectory hname (fun _ ↦ trivial) fun _ _ _ ↦ trivial
  exact hclear.attempt_bind (fun _ ↦ guards_pure) fun _ _ ↦ guards_pure

/-- Bringing one media file. -/
theorem guards_collect {source : Source N} (hsource : source.Answers fair sent)
    (hworking : s.disk.working.Plain) (hforms : forms.path.holdsNull = false) {name : String}
    (hname : FormsDirectory.Touches formId name) {file : MediaEntry} (hfile : file ∈ files) :
    Guards (Underway forms fair formId s) (Blames sent formId files)
      (collect source formId (forms.path.child name) file) := by
  have hnull : (forms.path.child name).holdsNull = false := hname.holdsNull_child hforms
  intro t ht
  unfold collect
  rw [ends_bind, ends_get, Next, ends_bind, ends_ofExcept]
  cases hconfined : (forms.path.child name).confined t.disk.working file.fileName with
  | error e =>
    obtain ⟨hholds, rfl⟩ := Path.confined_eq_error hnull hconfined
    exact ⟨ht, fun _ he ↦ by cases he; exact .null hfile hholds⟩
  | ok inside =>
    cases inside with
    | none => exact ⟨ht, fun _ he ↦ by cases he; exact .failed _⟩
    | some target =>
      rw [ht.working_eq] at hconfined
      obtain ⟨below, hplain, rfl⟩ := Path.confined_eq_some hworking hconfined
      rw [resolve_child_of_touches hname] at hplain ⊢
      have hbring : Guards (Underway forms fair formId s) (Blames sent formId files) (do
          Site.onDisk (Disk.prepare (Path.ofPlace
            (forms.path.resolve s.disk.working ++ [name] ++ below)).parent)
          let content ← source file.downloadUrl
          Site.change (·.writeContent (Path.ofPlace
            (forms.path.resolve s.disk.working ++ [name] ++ below)) content)) := by
        refine ((guards_prepare_below hname hplain rfl).mono fun e he ↦ ?_).bind fun _ ↦
          ((guards_source hsource _).mono fun e he ↦ .sent he).bind fun content ↦ ?_
        · obtain ⟨f, rfl⟩ := he
          exact .disk f
        · refine guards_change (fun d d' hd hwritten ↦ ?_) fun d e he ↦ ?_
          · rw [(Disk.writeContent_eq_ok hwritten).2.2, hplain.resolve_ofPlace]
            exact .single (.put hname below _)
          · obtain ⟨f, rfl⟩ := Disk.writeContent_eq_error hplain.noNull he
            exact .disk f
      exact hbring t ht

/-- Bringing all media files and putting them in the place of the earlier ones. -/
theorem guards_stage {source : Source N} (hsource : source.Answers fair sent)
    (hworking : s.disk.working.Plain) (hforms : forms.path.holdsNull = false)
    {staging media : String} (hstaging : FormsDirectory.Touches formId staging)
    (hmedia : FormsDirectory.Touches formId media) :
    Guards (Underway forms fair formId s) (Blames sent formId files)
      (stage source formId files (forms.path.child staging) (forms.path.child media)) := by
  unfold stage
  refine (guards_forM fun file hfile ↦
    guards_collect hsource hworking hforms hstaging hfile).bind fun _ ↦
    (guards_clearDirectory_of_noNull hmedia hforms).bind fun _ ↦
    guards_change (fun d d' hd hmoved ↦ ?_) fun d e he ↦ ?_
  · obtain ⟨-, -, hmoved⟩ := Disk.moveDirectory_eq_ok hmoved
    rw [resolve_child_of_touches hstaging, resolve_child_of_touches hmedia, hd] at hmoved
    rcases hmoved with rfl | rfl
    · exact .single (.relocate hstaging hmedia)
    · exact ReflTransGen.tail (.single (.clear hmedia)) (.relocate hstaging hmedia)
  · obtain ⟨f, rfl⟩ := Disk.moveDirectory_eq_error he
    exact .disk f

/-- Making the temporary directory gives a path that is named as temporary directories are. -/
theorem ends_makeStaging (hforms : forms.path.holdsNull = false)
    (ht : Underway forms fair formId s t) :
    Ends (makeStaging forms) t fun r u ↦ Underway forms fair formId s u ∧
      match r with
      | .ok staging => ∃ n, staging = forms.path.child (Disk.temporaryName stagingName n)
      | .error e => ∃ f, e = .disk f := by
  unfold makeStaging
  rw [ends_bind, ends_ask]
  cases hmade : t.disk.makeTemporary forms.path stagingName with
  | error e =>
    have hnames (n : Nat) : FormsDirectory.Touches formId (Disk.temporaryName stagingName n) :=
      .staging n
    exact ⟨ht, Disk.makeTemporary_eq_error (fun n ↦ (hnames n).holdsNull_child hforms) hmade⟩
  | ok made =>
    obtain ⟨staging, d⟩ := made
    obtain ⟨n, rfl, hmade⟩ := Disk.makeTemporary_eq_ok hmade
    have hname : FormsDirectory.Touches formId (Disk.temporaryName stagingName n) := .staging n
    obtain ⟨-, -, -, rfl⟩ := Disk.makeDirectory_eq_ok hmade
    refine ⟨⟨ht.disk.tail ?_, ht.table, ht.net⟩, n, rfl⟩
    dsimp only
    rw [resolve_child_of_touches hname, ht.working_eq]
    exact .put_name hname .directory

theorem guards_bringMedia {source : Source N} (hsource : source.Answers fair sent)
    (hforms : forms.path.holdsNull = false) (x : Details)
    (hworking : s.disk.working.Plain) :
    Guards (Underway forms fair x.formId s) (Blames sent x.formId x.mediaFiles)
      (bringMedia source forms x) := by
  have hmedia := FormsDirectory.Touches.media x.formId
  unfold bringMedia
  dsimp only
  cases hmanifest : x.manifest with
  | none => exact (guards_clearDirectory_of_noNull hmedia hforms).bind fun _ ↦ guards_pure
  | some manifest =>
    have hfiles : x.mediaFiles = manifest.files := by simp [Details.mediaFiles, hmanifest]
    intro t ht
    dsimp only
    rw [ends_bind]
    refine (ends_makeStaging hforms ht).mono fun r u hu ↦ ?_
    obtain ⟨hu, hr⟩ := hu
    cases r with
    | error e =>
      obtain ⟨f, rfl⟩ := hr
      exact ⟨hu, fun _ he ↦ by cases he; exact .disk f⟩
    | ok staging =>
      obtain ⟨n, rfl⟩ := hr
      rw [Next, ← hfiles]
      have hrest (r : Except Fault Unit)
          (hr : ∀ e, r = .error e → Blames sent x.formId x.mediaFiles e) :
          Guards (Underway forms fair x.formId s) (Blames sent x.formId x.mediaFiles) (do
            dropStaging (forms.path.child (Disk.temporaryName stagingName n))
            Op.ofExcept r
            return some (forms.mediaPath x.formId)) :=
        (guards_dropStaging (.staging n)).bind fun _ ↦
          (guards_ofExcept hr).bind fun _ ↦ guards_pure
      refine Guards.attempt_bind (guards_stage hsource hworking hforms (.staging n) hmedia)
        (fun _ ↦ hrest _ fun _ he ↦ by cases he) (fun e he ↦ hrest _ fun _ he' ↦ ?_) u hu
      cases he'
      exact he

/-- Bringing a form, once the directory of forms is there. -/
theorem guards_bring {source : Source N} (hsource : source.Answers fair sent)
    (hforms : forms.path.holdsNull = false) (x : Details) (hworking : s.disk.working.Plain) :
    Guards (Underway forms fair x.formId s) (Blames sent x.formId x.mediaFiles)
      (bring source forms x) := by
  have hname := FormsDirectory.Touches.definition x.formId
  unfold bring
  refine ((guards_source hsource _).mono fun e he ↦ .sent he).bind fun definition ↦
    (guards_bringMedia hsource hforms x hworking).bind fun media ↦
    (guards_change (fun d d' hd hwritten ↦ ?_) fun d e he ↦ ?_).bind fun _ ↦ guards_pure
  · obtain ⟨-, -, rfl⟩ := Disk.writeContent_eq_ok hwritten
    rw [FormsDirectory.formPath, resolve_child_of_touches hname, hd]
    exact .single (.put_name hname _)
  · have hnull : (forms.formPath x.formId).holdsNull = false := hname.holdsNull_child hforms
    obtain ⟨f, rfl⟩ := Disk.writeContent_eq_error hnull he
    exact .disk f

/-! ### Whole downloads and removals -/

/-- A directory of forms that cannot be made ends the download at once, with nothing changed but the
directories made on the way. -/
theorem run_of_prepare_eq_error {source : Source N} {x : Details} {e : Fault} {d : Disk}
    (h : Disk.prepare forms.path s.disk = .error e d) :
    run source forms x s = .error e { s with disk := d } :=
  bind_eq_error (onDisk_eq_error h)

/-- A download goes on as if the directory of forms had been there before. -/
theorem run_of_prepare_eq_ok {source : Source N} {x : Details} {d : Disk}
    (h : Disk.prepare forms.path s.disk = .ok () d) :
    run source forms x s = run source forms x { s with disk := d } := by
  obtain ⟨hforms, hthere⟩ := Disk.probe_of_prepare h
  have hagain : Disk.prepare forms.path ({ s with disk := d } : Site N).disk = .ok () d :=
    Disk.prepare_of_probe hforms hthere
  unfold run
  rw [bind_of_ok (onDisk_eq_ok h), bind_of_ok (onDisk_eq_ok hagain)]

theorem underway_of_prepare (formId : String) (hfair : fair s.net) :
    Ends (Site.onDisk (Disk.prepare forms.path)) s fun _ t ↦ Underway forms fair formId s t :=
  ((guards_prepare_forms (fun _ _ _ _ ↦ trivial) fun _ ↦ trivial) s (.refl hfair)).mono
    fun _ _ ht ↦ ht.1

/-- Once the directory of forms is there, a download ends in the fault of one form. -/
theorem ends_run_of_prepare {source : Source N} (hsource : source.Answers fair sent) (x : Details)
    (hworking : s.disk.working.Plain) (hfair : fair s.net) {d : Disk}
    (h : Disk.prepare forms.path s.disk = .ok () d) :
    Ends (run source forms x) s fun r t ↦ Underway forms fair x.formId { s with disk := d } t ∧
      ∀ e, r = .error e → ∃ e', Blames sent x.formId x.mediaFiles e' ∧ e = failure x.formId e' := by
  have hforms := (Disk.probe_of_prepare h).1
  have hprepared := onDisk_eq_ok h
  have hsame := ((underway_of_prepare x.formId hfair).of_ok hprepared).working_eq
  unfold run
  rw [ends_bind, ends_iff_of_ok hprepared, Next]
  refine Guards.attempt_bind (guards_bring hsource hforms x (by rwa [hsame])) (fun brought ↦ ?_)
    (fun e he ↦ guards_throw ⟨e, he, rfl⟩) _ (.refl hfair)
  dsimp only
  split
  · refine Guards.bind (fun t ht ↦ ?_) fun _ ↦ guards_pure
    exact ⟨⟨ht.disk, ht.table, ht.net⟩, fun _ he ↦ by cases he⟩
  · exact guards_pure

theorem ends_run {source : Source N} (hsource : source.Answers fair sent) (x : Details)
    (hworking : s.disk.working.Plain) (hfair : fair s.net) :
    Ends (run source forms x) s fun _ t ↦ Underway forms fair x.formId s t := by
  cases hprepared : Disk.prepare forms.path s.disk with
  | ok _ d =>
    have hstart := (underway_of_prepare x.formId hfair).of_ok (onDisk_eq_ok hprepared)
    exact (ends_run_of_prepare hsource x hworking hfair hprepared).mono fun _ _ ht ↦
      hstart.trans ht.1
  | error e d =>
    rw [ends_iff_of_error (run_of_prepare_eq_error hprepared)]
    exact (underway_of_prepare x.formId hfair).of_error (onDisk_eq_error hprepared)

theorem keeps_remove (formId : String) :
    Keeps (Underway forms fair formId s) (remove forms formId : Op (Site N) Unit) := by
  have hdefinition := FormsDirectory.Touches.definition formId
  have hentry : Guards (Underway forms fair formId s) (fun _ ↦ True)
      (Site.change (·.removeEntry (forms.formPath formId))) := by
    refine guards_change (fun d d' hd hremoved ↦ ?_) fun _ _ _ ↦ trivial
    rcases Disk.removeEntry_eq_ok hremoved with rfl | rfl
    · exact .refl
    · rw [FormsDirectory.formPath, resolve_child_of_touches hdefinition, hd]
      exact .single (.clear hdefinition)
  exact (hentry.bind fun _ ↦
    guards_clearDirectory (.media formId) (fun _ ↦ trivial) fun _ _ _ ↦ trivial).keeps

end Download

end FormCatalog
