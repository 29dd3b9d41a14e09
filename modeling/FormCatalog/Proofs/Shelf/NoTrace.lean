import FormCatalog.Proofs.Shelf.Staging

/-!
# Downloads that break off early

Nothing takes the place of the earlier copy of a form before all its media files have come. So a
download that breaks off before that, at the definition, at the temporary directory or at any media
file, leaves no trace (`Download.leavesNoTrace`): the disk is the one that making the directory of
forms left, and what comes later in the list of media files is not asked for.
`Download.BreaksOff` says where a download can break off in this way. The argument is that all that
was written so far is below the temporary directory (`Download.Staged`), and that the path which led
to that directory when it was made still leads to it, so that it can be taken away.

Making the directory of forms puts directories at places that its own path visits, where nothing was
(`Disk.Extends`). A path that takes no component back visits no place below the directory.
-/

set_option autoImplicit false
set_option relaxedAutoImplicit false

namespace FormCatalog

open Op

variable {N : Type}

/-! ### Making the directory of forms -/

namespace Disk

variable {d d₀ : Disk} {way way' : Place → Prop} {place : Place}

/-- One disk has all that another one has, and otherwise only directories, at places of a kind where
the other one has nothing. -/
structure Extends (d₀ : Disk) (way : Place → Prop) (d : Disk) : Prop where
  working_eq : d.working = d₀.working
  items_eq : ∃ made : List Place, d.items = d₀.items ++ made.map (·, .directory) ∧
    ∀ q ∈ made, way q ∧ d₀.item? q = none

theorem Extends.refl (d : Disk) (way : Place → Prop) : d.Extends way d :=
  ⟨rfl, [], by simp, by simp⟩

theorem Extends.mono (h : d₀.Extends way d) (himp : ∀ q, way q → way' q) : d₀.Extends way' d := by
  obtain ⟨made, hitems, hmade⟩ := h.items_eq
  exact ⟨h.working_eq, made, hitems, fun q hq ↦ (hmade q hq).imp_left (himp q)⟩

theorem put_of_missing (h : d.item? place = none) (item : Item) :
    d.put place item = { d with items := d.items ++ [(place, item)] } := by
  unfold put
  rw [if_neg]
  intro hthere
  obtain ⟨⟨q, x⟩, hmem, hq⟩ := List.any_eq_true.mp hthere
  obtain rfl : q = place := of_decide_eq_true hq
  exact notMem_of_item?_eq_none h hmem

theorem Extends.put (h : d₀.Extends way d) (hway : way place) (hmissing : d.item? place = none) :
    d₀.Extends way (d.put place .directory) := by
  obtain ⟨made, hitems, hmade⟩ := h.items_eq
  have hmissing₀ : d₀.item? place = none := by
    cases hitem : d₀.item? place with
    | none => rfl
    | some item =>
      have hroot : place ≠ [] := by
        rintro rfl
        cases hmissing
      have hmem : (place, item) ∈ d.items := by
        rw [hitems]
        exact List.mem_append_left _ (mem_of_item? hitem hroot)
      exact absurd hmem (notMem_of_item?_eq_none hmissing)
  rw [put_of_missing hmissing]
  refine ⟨h.working_eq, made ++ [place], by simp [hitems], fun q hq ↦ ?_⟩
  rcases List.mem_append.mp hq with hq | hq
  · exact hmade q hq
  · rw [List.mem_singleton.mp hq]
    exact ⟨hway, hmissing₀⟩

/-- However it ends, making a directory adds directories on its own path only. -/
theorem ends_prepare_extends (p : Path) (d : Disk) :
    Ends (prepare p) d fun _ d' ↦ d.Extends (fun q ↦ ∃ n, q = (p.upTo n).resolve d.working) d' := by
  have hguards : Guards (d.Extends fun q ↦ ∃ n, q = (p.upTo n).resolve d.working)
      (fun _ ↦ True) (prepare p) :=
    guards_prepare (fun _ hd ↦ hd.working_eq) (fun _ n hd hmissing ↦ hd.put ⟨n, rfl⟩ hmissing)
      (fun _ _ _ _ ↦ trivial) fun _ ↦ trivial
  exact hguards.keeps d (Extends.refl d _)

/-- Directories that are put at or above a place change nothing below it. -/
theorem Extends.below_eq (h : d₀.Extends (· <+: place) d) : d.below place = d₀.below place := by
  obtain ⟨made, hitems, hmade⟩ := h.items_eq
  have hnone : (made.map fun q ↦ (q, Item.directory)).filter
      (fun i ↦ place.isPrefixOf i.1 && i.1 ≠ place) = [] := by
    rw [List.filter_eq_nil_iff]
    intro i hi
    obtain ⟨q, hq, rfl⟩ := List.mem_map.mp hi
    rw [Bool.and_eq_true, List.isPrefixOf_iff_prefix, not_and]
    intro hbelow
    simp [(hmade q hq).1.eq_of_length_le hbelow.length_le]
  unfold Disk.below
  rw [hitems, List.filter_append, hnone, List.append_nil]

end Disk

/-! ### The addresses asked for -/

/-- The network keeps the addresses that a source was asked for, the last one first. -/
def Source.Logs (source : Source N) (asked : N → List String) : Prop :=
  ∀ url s, Ends (source url) s fun _ t ↦ asked t.net = url :: asked s.net

namespace Download

variable {source : Source N} {forms : FormsDirectory} {sent : Fault → Prop} {formId : String}
  {s t u : Site N} {x : Details} {e : Fault} {staging : Path} {asked : N → List String}

/-- Bringing a media file asks for the file, or breaks off before. -/
theorem ends_collect_asked (hlogs : source.Logs asked) (file : MediaEntry) (s : Site N) :
    Ends (collect source formId staging file) s fun r t ↦
      asked t.net = file.downloadUrl :: asked s.net ∨
        (∃ e, r = .error e) ∧ asked t.net = asked s.net := by
  unfold collect
  rw [ends_bind, ends_get, Next, ends_bind, ends_ofExcept]
  cases staging.confined s.disk.working file.fileName with
  | error e => exact Or.inr ⟨⟨e, rfl⟩, rfl⟩
  | ok inside =>
    cases inside with
    | none => exact Or.inr ⟨⟨_, rfl⟩, rfl⟩
    | some target =>
      have hwrite (content : Bytes) (v : Site N) :
          Ends (Site.change (·.writeContent target content)) v fun _ w ↦ w.net = v.net := by
        rw [ends_change]
        cases v.disk.writeContent target content <;> rfl
      dsimp only [Next]
      unfold Site.onDisk
      rw [ends_bind, ends_within]
      refine ends_of_forall fun r d ↦ ?_
      cases r with
      | error e => exact Or.inr ⟨⟨e, rfl⟩, rfl⟩
      | ok _ =>
        rw [Next, ends_bind]
        refine (hlogs file.downloadUrl _).mono fun r v hv ↦ ?_
        cases r with
        | error e => exact Or.inl hv
        | ok content =>
          rw [Next]
          refine (hwrite content v).mono fun _ w hw ↦ Or.inl ?_
          rw [hw, hv]

/-- Media files that have come were asked for, in their order. -/
theorem asked_of_collected (hlogs : source.Logs asked) {files : List MediaEntry}
    (h : files.forM (collect source formId staging) s = .ok ⟨⟩ t) :
    asked t.net = (files.map (·.downloadUrl)).reverse ++ asked s.net := by
  have hall : IfReturns (files.forM (collect source formId staging)) s fun _ t ↦
      asked t.net = (files.map (·.downloadUrl)).reverse ++ asked s.net := by
    refine ends_forM (fun done t ↦ asked t.net = (done.map (·.downloadUrl)).reverse ++ asked s.net)
      rfl (fun done file rest u _ hu ↦ ?_) fun t ht _ _ ↦ ht
    refine (ends_collect_asked hlogs file u).mono fun r v hv ↦ ?_
    cases r with
    | error e => exact fun _ hr ↦ by cases hr
    | ok _ =>
      rcases hv with hv | ⟨⟨_, hr⟩, -⟩
      · simp [hv, hu]
      · cases hr
  exact hall.of_ok h

/-! ### Where a download can break off -/

/-- From a site where the directory of forms is there, a download breaks off before anything takes
the place of the earlier copy: at the definition, at the temporary directory, or at a media file,
when the ones before it have come. The fault and the site are those at that point. -/
inductive BreaksOff (source : Source N) (forms : FormsDirectory) (x : Details) (s : Site N) :
    List MediaEntry → Option MediaEntry → Fault → Site N → Prop
  | definition {e : Fault} {t : Site N} (h : source x.descriptor.downloadUrl s = .error e t) :
      BreaksOff source forms x s [] none e t
  | staging {manifest : Manifest} {content : Bytes} {e : Fault} {t u : Site N}
      (hmanifest : x.manifest = some manifest)
      (hdefinition : source x.descriptor.downloadUrl s = .ok content t)
      (h : makeStaging forms t = .error e u) :
      BreaksOff source forms x s [] none e u
  | media {manifest : Manifest} {came later : List MediaEntry} {file : MediaEntry}
      {content : Bytes} {staging : Path} {e : Fault} {t u v w : Site N}
      (hmanifest : x.manifest = some manifest) (hfiles : manifest.files = came ++ file :: later)
      (hdefinition : source x.descriptor.downloadUrl s = .ok content t)
      (hstaging : makeStaging forms t = .ok staging u)
      (hcame : came.forM (collect source x.formId staging) u = .ok ⟨⟩ v)
      (h : collect source x.formId staging file v = .error e w) :
      BreaksOff source forms x s came (some file) e w

/-- What a source gives leaves the disk and the table. -/
theorem leaves_of_ok (hsource : source.Answers (fun _ ↦ True) sent) {url : String}
    {content : Bytes} (h : source url s = .ok content t) :
    t.disk = s.disk ∧ t.table = s.table :=
  have hanswer := (hsource url s trivial).of_ok h
  ⟨hanswer.2.1, hanswer.2.2.1⟩

/-- Once the temporary directory is made, everything new is below it until the media files have
come. -/
theorem staged_of_collected (hsource : source.Answers (fun _ ↦ True) sent)
    (hworking : s.disk.working.Plain) {n : Nat} {came : List MediaEntry} {file : MediaEntry}
    {v w : Site N}
    (h : Staged s.disk (forms.path.resolve s.disk.working ++ [Disk.temporaryName stagingName n])
      u.disk)
    (hcame : came.forM (collect source formId
      (forms.path.child (Disk.temporaryName stagingName n))) u = .ok ⟨⟩ v)
    (hfile : collect source formId (forms.path.child (Disk.temporaryName stagingName n)) file v =
      .error e w) :
    Staged s.disk (forms.path.resolve s.disk.working ++ [Disk.temporaryName stagingName n])
      w.disk := by
  have hcollect (file : MediaEntry) :
      Keeps (fun t ↦ Staged s.disk
          (forms.path.resolve s.disk.working ++ [Disk.temporaryName stagingName n]) t.disk)
        (collect source formId (forms.path.child (Disk.temporaryName stagingName n)) file) :=
    keeps_collect_staged hsource hworking (.staging n) file
  have hv := (keeps_forM (fun file _ ↦ hcollect file) u h).of_ok hcame
  exact (hcollect file v hv).of_error hfile

theorem keeps_collect_table (hsource : source.Answers (fun _ ↦ True) sent) (table : Table)
    (file : MediaEntry) :
    Keeps (fun s ↦ s.table = table) (collect source formId staging file) := by
  have hdisk (f : Disk → Except Fault Disk) :
      Keeps (fun s : Site N ↦ s.table = table) (Site.change f) := by
    intro s hs
    rw [ends_change]
    cases f s.disk <;> exact hs
  have hasked : Keeps (fun s ↦ s.table = table) (source file.downloadUrl) := fun s hs ↦
    (hsource _ s trivial).mono fun _ _ ht ↦ ht.2.2.1.trans hs
  intro s hs
  unfold collect
  rw [ends_bind, ends_get, Next, ends_bind, ends_ofExcept]
  cases staging.confined s.disk.working file.fileName with
  | error e => exact hs
  | ok inside =>
    cases inside with
    | none => exact hs
    | some target =>
      have hprepare : Keeps (fun s : Site N ↦ s.table = table)
          (Site.onDisk (Disk.prepare target.parent)) := fun s hs ↦
        ends_within.mpr (ends_of_forall fun _ _ ↦ hs)
      exact (hprepare.bind fun _ ↦ hasked.bind fun _ ↦ hdisk _) s hs

/-- A download that breaks off early takes away what it has made. -/
theorem bring_of_breaksOff (hsource : source.Answers (fun _ ↦ True) sent) (hsound : s.disk.Sound)
    (hworking : s.disk.working.Plain) {came : List MediaEntry} {failing : Option MediaEntry}
    (h : BreaksOff source forms x s came failing e t) :
    bring source forms x s = .error e { t with disk := s.disk } ∧ t.table = s.table := by
  unfold bring
  cases h with
  | definition h =>
    obtain ⟨-, hdisk, htable, -⟩ := (hsource _ s trivial).of_error h
    rw [← hdisk]
    exact ⟨bind_eq_error h, htable⟩
  | @staging manifest content _ u _ hmanifest hdefinition h =>
    obtain ⟨hdisk, htable⟩ := leaves_of_ok hsource hdefinition
    rw [← hdisk] at hsound
    rcases (ends_makeStaging_located hsound).of_error h with ⟨_, -, rfl⟩ | ⟨_, _, hr, -⟩
    · rw [bind_of_ok hdefinition, ← hdisk]
      refine ⟨bind_eq_error ?_, htable⟩
      unfold bringMedia
      rw [hmanifest]
      exact bind_eq_error h
    · cases hr
  | @media manifest _ later file content staging _ u v w _ hmanifest hfiles hdefinition hstaging
      hcame h =>
    obtain ⟨hdisk, htable⟩ := leaves_of_ok hsource hdefinition
    rw [← hdisk] at hsound hworking ⊢
    rw [← htable]
    rcases (ends_makeStaging_located hsound).of_ok hstaging with ⟨_, hr, -⟩ |
      ⟨n, d, hr, rfl, hnull, hplace, hstaged⟩
    · cases hr
    · cases hr
      have hstaged' := staged_of_collected hsource hworking hstaged hcame h
      have hkeeps (file : MediaEntry) : Keeps (fun s ↦ s.table = u.table)
          (collect source x.formId (forms.path.child (Disk.temporaryName stagingName n)) file) :=
        keeps_collect_table hsource u.table file
      have hcollected : w.table = u.table :=
        (keeps_forM (fun file _ ↦ hkeeps file) { u with disk := d } rfl).of_ok hcame
      have htables := (hkeeps file w hcollected).of_error h
      have hstage : stage source x.formId manifest.files
          (forms.path.child (Disk.temporaryName stagingName n)) (forms.mediaPath x.formId)
          { u with disk := d } = .error e t := by
        unfold stage
        rw [hfiles]
        exact bind_eq_error (forM_eq_error hcame h)
      have hdropped := dropStaging_of_located hstaged' (by simp) hnull hplace
      refine ⟨?_, htables⟩
      rw [bind_of_ok hdefinition]
      refine bind_eq_error (Ends.eq_error ?_)
      unfold bringMedia
      rw [hmanifest]
      dsimp only
      rw [ends_bind, ends_iff_of_ok hstaging, Next, ends_bind, ends_attempt,
        ends_iff_of_error hstage, Next, ends_bind, ends_iff_of_ok hdropped]
      exact ⟨rfl, rfl⟩

/-- What a download that breaks off early leaves. It ends in the fault at that point, and the disk
is the one that making the directory of forms left. So it is as it was before if the directory was
there; otherwise there are new directories at places that the path visits, and nothing has changed
below the directory if the path takes no component back. The table is as it was. The source was
asked for the definition, for the media files that came, and for the one that did not if it came to
that. -/
structure LeavesNoTrace (source : Source N) (forms : FormsDirectory) (x : Details) (s : Site N)
    (d : Disk) (came : List MediaEntry) (failing : Option MediaEntry) (e : Fault) (t : Site N) :
    Prop where
  ends : run source forms x s = .error (failure x.formId e) { t with disk := d }
  there : ∀ {place}, s.disk.probe forms.path = .ok (place, .directory) → d = s.disk
  made : s.disk.Extends (fun q ↦ ∃ n, q = (forms.path.upTo n).resolve s.disk.working) d
  below : ".." ∉ forms.path.parts →
    d.below (forms.path.resolve s.disk.working) = s.disk.below (forms.path.resolve s.disk.working)
  table : t.table = s.table
  requests : ∀ {asked}, source.Logs asked → ∃ last, last <+: failing.toList ∧
    asked t.net = (x.descriptor.downloadUrl :: (came ++ last).map (·.downloadUrl)).reverse ++
      asked s.net

theorem requests_of_breaksOff (hlogs : source.Logs asked) {came : List MediaEntry}
    {failing : Option MediaEntry} (h : BreaksOff source forms x s came failing e t) :
    ∃ last, last <+: failing.toList ∧
      asked t.net = (x.descriptor.downloadUrl :: (came ++ last).map (·.downloadUrl)).reverse ++
        asked s.net := by
  have hmake (u : Site N) : Ends (makeStaging forms) u fun _ v ↦ v.net = u.net := by
    unfold makeStaging
    rw [ends_bind, ends_ask]
    cases u.disk.makeTemporary forms.path stagingName <;> rfl
  cases h with
  | definition h => exact ⟨[], List.nil_prefix, by simp [(hlogs _ s).of_error h]⟩
  | staging hmanifest hdefinition h =>
    refine ⟨[], List.nil_prefix, ?_⟩
    rw [(hmake _).of_error h]
    simp [(hlogs _ s).of_ok hdefinition]
  | @media _ _ later file content staging _ u v w _ hmanifest hfiles hdefinition hstaging hcame h =>
    have hw : asked w.net = (x.descriptor.downloadUrl :: came.map (·.downloadUrl)).reverse ++
        asked s.net := by
      rw [asked_of_collected hlogs hcame, (hmake u).of_ok hstaging, (hlogs _ s).of_ok hdefinition]
      simp
    rcases (ends_collect_asked hlogs file w).of_error h with hasked | ⟨-, hasked⟩
    · exact ⟨[file], List.prefix_refl _, by simp [hasked, hw]⟩
    · exact ⟨[], List.nil_prefix, by simp [hasked, hw]⟩

/-- A download that breaks off before anything takes the place of the earlier copy leaves no
trace. -/
theorem leavesNoTrace (hsource : source.Answers (fun _ ↦ True) sent) (hsound : s.disk.Sound)
    (hworking : s.disk.working.Plain) {d : Disk}
    (hprepared : Disk.prepare forms.path s.disk = .ok () d) {came : List MediaEntry}
    {failing : Option MediaEntry}
    (h : BreaksOff source forms x { s with disk := d } came failing e t) :
    LeavesNoTrace source forms x s d came failing e t := by
  obtain ⟨hsound', hsame, -⟩ :=
    (Disk.keeps_prepare s.disk forms.path s.disk ⟨hsound, rfl, .refl _⟩).of_ok hprepared
  have hmade := (Disk.ends_prepare_extends _ _).of_ok hprepared
  obtain ⟨hbring, htable⟩ := bring_of_breaksOff hsource hsound' (by rwa [hsame]) h
  constructor
  case ends =>
    refine Ends.eq_error ?_
    unfold run
    rw [ends_bind, ends_iff_of_ok (onDisk_eq_ok hprepared), Next, ends_bind, ends_attempt,
      ends_iff_of_error hbring]
    exact ⟨rfl, rfl⟩
  case there =>
    intro place hthere
    have hsame := Disk.prepare_of_probe (Disk.probe_of_prepare hprepared).1 hthere
    rw [hprepared] at hsame
    cases hsame
    rfl
  case made => exact hmade
  case below =>
    intro hreturn
    refine (hmade.mono ?_).below_eq
    rintro _ ⟨n, rfl⟩
    exact Path.resolve_upTo_prefix hreturn n s.disk.working
  case table => exact htable
  case requests =>
    intro asked hlogs
    have hrequests := requests_of_breaksOff hlogs h
    exact hrequests

/-! ### A second copy that does not come -/

/-- A device that holds a form with one media file, and a server that has the form and one of its
media files. -/
def illustrated : Site Archive where
  disk := ⟨["device"], [(["device"], .directory), (["device", "forms"], .directory),
    (["device", "forms", "a.xml"], .file [97]), (["device", "forms", "a-media"], .directory),
    (["device", "forms", "a-media", "logo"], .file [108])]⟩
  table := []
  net := { contents := [("u", .ok [117]), ("w", .ok [119])] }
  journal := []

/-- A media file that the server has. -/
def logo : MediaEntry := ⟨"logo", "h", "w"⟩

/-- A media file that is nowhere to be had. -/
def horn : MediaEntry := ⟨"sounds/horn", "h", "gone"⟩

/-- The form in a new edition, with three media files. -/
def newEdition : Details :=
  { Shelf.plainForm "a" "u" with manifest := some ⟨"m", [logo, horn, ⟨"map", "h", "w"⟩]⟩ }

/-- Where its media files are collected. -/
def firstStaging : Path := Path.ofText "forms/.staging-00000000"

/-- A source in memory keeps such a log. -/
theorem logs_source : Archive.source.Logs fun a ↦ a.requests := fun url s ↦
  (Archive.ends_source url s).mono fun _ _ ht ↦ by rw [ht.2]

/-- The second media file is not found: the earlier copy stays, and the third file is not asked
for. -/
theorem leavesNoTrace_secondFile :
    Archive.source.Logs (fun a ↦ a.requests) ∧
      ∃ t, LeavesNoTrace Archive.source Shelf.besideWork newEdition illustrated illustrated.disk
          [logo] (some horn) (.sync (.transport "GET gone returned 404")) t ∧
        t.net.requests = ["gone", "w", "u"] := by
  have hsound : illustrated.disk.Sound :=
    Disk.sound_of_items (by decide +kernel) (by decide +kernel)
  have hthere : illustrated.disk.probe Shelf.besideWork.path =
      .ok (["device", "forms"], .directory) := by decide +kernel
  have hprepared : Disk.prepare Shelf.besideWork.path illustrated.disk = .ok () illustrated.disk :=
    Disk.prepare_of_probe (by decide +kernel) hthere
  have hdefinition := eq_ok_after (x := Archive.source "u") (s := illustrated) (a := [117])
    (by decide +kernel)
  have hstaging := eq_ok_after (x := makeStaging Shelf.besideWork)
    (s := (Archive.source "u").after illustrated) (a := firstStaging) (by decide +kernel)
  have hcame := eq_ok_after (x := [logo].forM (collect Archive.source "a" firstStaging))
    (s := (makeStaging Shelf.besideWork).after ((Archive.source "u").after illustrated)) (a := ⟨⟩)
    (by decide +kernel)
  have hfile := eq_error_after (x := collect Archive.source "a" firstStaging horn)
    (s := ([logo].forM (collect Archive.source "a" firstStaging)).after
      ((makeStaging Shelf.besideWork).after ((Archive.source "u").after illustrated)))
    (e := .sync (.transport "GET gone returned 404")) (by decide +kernel)
  have hbreaks : BreaksOff Archive.source Shelf.besideWork newEdition illustrated
      [logo] (some horn) (.sync (.transport "GET gone returned 404")) _ :=
    .media rfl rfl hdefinition hstaging hcame hfile
  exact ⟨logs_source, _,
    leavesNoTrace Archive.answers_source hsound ⟨by decide, by decide⟩ hprepared hbreaks,
    by decide +kernel⟩

end Download

end FormCatalog
