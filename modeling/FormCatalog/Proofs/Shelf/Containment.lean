import FormCatalog.Catalog.Payload
import FormCatalog.Proofs.Catalog.Batch
import FormCatalog.Proofs.Shelf.Handling
import FormCatalog.Shelf.Archive

/-!
# One bad form and the batch

A download that goes wrong is meant to end in the fault of its form, which a pass collects, and not
to stop the other downloads. That is so but for two defects. The directory of forms is made before
the faults of the file system are turned into the fault of a form, so a directory that cannot be
made ends the download in a fault of the file system; and a media file whose name holds a null
character ends it in a fault that is neither. `Shelf.batch_contained` says that these two are all:
from any site, a download with a source that gives content or faults of the pass returns, or ends in
the fault of its form, or shows one of the two; and a pass attempts all downloads of its plan and
reports the failed ones in one fault, or breaks off at a form that shows one of the two.
`Shelf.defects_stop_batch` shows a pass with either defect.

All of this is about a tree without symbolic links, and about calls that may be as deep as a path is
long (`Disk`). Where links lead in a circle, or a media file name has so many components that making
their directories exceeds the depth of calls that an interpreter allows, a download can end in a
fault of other kinds.
-/

set_option autoImplicit false
set_option relaxedAutoImplicit false

namespace FormCatalog

open Op Relation

variable {N : Type}

/-- A fault of the pass as a whole. -/
def Fault.IsSync (e : Fault) : Prop := ∃ f, e = .sync f

/-- Some media file of the form has a name with a null character. -/
def Details.NamesNull (x : Details) : Prop :=
  ∃ file ∈ x.mediaFiles, (Path.ofText file.fileName).holdsNull = true

/-- The program returned, or ended in the failed download of this form, or it tripped over a null
character in the name of a media file. -/
inductive Contained {α : Type} (x : Details) : Except Fault α → Prop
  | returned (a : α) : Contained x (.ok a)
  | failed (message : String) : Contained x (.error (.download x.formId message))
  | null (h : x.NamesNull) : Contained x (.error (.invalid "embedded null byte"))

theorem Contained.map {α β : Type} {x : Details} {r : Except Fault α} (h : Contained x r)
    (f : α → β) : Contained x (r.map f) := by
  cases h with
  | returned a => exact .returned (f a)
  | failed message => exact .failed message
  | null h => exact .null h

/-! ### One download -/

namespace Download

variable {source : Source N} {forms : FormsDirectory} {fair : N → Prop} {s : Site N}

/-- The faults of the parts become the fault of the form, but for the one of a null character. -/
theorem contained_failure {α : Type} {x : Details} {e : Fault}
    (h : Blames Fault.IsSync x.formId x.mediaFiles e) :
    Contained x (.error (failure x.formId e) : Except Fault α) := by
  cases h with
  | sent hsync =>
    obtain ⟨f, rfl⟩ := hsync
    exact .failed _
  | disk f => exact .failed _
  | failed message => exact .failed message
  | null hfile hnull => exact .null ⟨_, hfile, hnull⟩

theorem ends_run_contained (hsource : source.Answers fair Fault.IsSync) (x : Details)
    (hworking : s.disk.working.Plain) (hfair : fair s.net) {d : Disk}
    (h : Disk.prepare forms.path s.disk = .ok () d) :
    Ends (run source forms x) s fun r _ ↦ Contained x r := by
  refine (ends_run_of_prepare hsource x hworking hfair h).mono fun r t ht ↦ ?_
  cases r with
  | ok downloaded => exact .returned downloaded
  | error e =>
    obtain ⟨e', hblames, rfl⟩ := ht.2 e rfl
    exact contained_failure hblames

end Download

namespace Shelf

variable {source : Source N} {forms : FormsDirectory} {fair : N → Prop} {s : Site N}

theorem ends_download_contained (hsource : source.Answers fair Fault.IsSync) (x : Details)
    (hworking : s.disk.working.Plain) (hfair : fair s.net) {d : Disk}
    (h : Disk.prepare forms.path s.disk = .ok () d) :
    Ends (download source forms x) s fun r _ ↦ Contained x r := by
  refine (ends_download_of_run (Download.ends_run_contained hsource x hworking hfair h)).mono ?_
  rintro r t ⟨outcome, u, hcontained, hrecords⟩
  rw [hrecords.result]
  exact hcontained.map _

/-- A directory of forms that cannot be made ends the download of the shelf as well. -/
theorem download_of_prepare_eq_error {x : Details} {e : Fault} {d : Disk}
    (h : Disk.prepare forms.path s.disk = .error e d) :
    download source forms x s = .error e { s with disk := d } := by
  have hrun : Download.run source forms x s = .error e { s with disk := d } :=
    Download.run_of_prepare_eq_error h
  refine Ends.eq_error ?_
  unfold download
  rw [ends_bind, ends_attempt, ends_iff_of_error hrun, Next]
  rcases Disk.prepare_eq_error h with ⟨f, rfl⟩ | rfl
  · exact ⟨rfl, rfl⟩
  · exact ⟨rfl, rfl⟩

end Shelf

/-! ### The directory of forms stays -/

namespace FormsDirectory

variable {forms : FormsDirectory} {working : Place} {formId : String} {d d' : Disk}

/-- Every place that the path of the directory of forms visits is a directory. -/
def Stands (forms : FormsDirectory) (d : Disk) : Prop :=
  ∀ n, d.item? ((forms.path.upTo n).resolve d.working) = some .directory

theorem stands_of_probe {place : Place} (h : d.probe forms.path = .ok (place, .directory)) :
    forms.Stands d := by
  obtain ⟨hplace, hitem⟩ := Disk.probe_eq_ok_iff.mp h
  obtain ⟨rfl, -, -, hdirs⟩ := Disk.locate_eq_ok_iff.mp hplace
  intro n
  by_cases hn : n < forms.path.parts.length
  · exact hdirs n hn
  · rw [← Path.upTo_min, Nat.min_eq_right (Nat.le_of_not_lt hn), Path.upTo_length]
    exact hitem

/-- Where the path could be followed once, it can be followed as long as its places stand. -/
theorem Stands.probe {place : Place} (hstands : forms.Stands d') (hworking : d'.working = d.working)
    (h : d.probe forms.path = .ok (place, .directory)) :
    d'.probe forms.path = .ok (place, .directory) := by
  obtain ⟨hplace, -⟩ := Disk.probe_eq_ok_iff.mp h
  obtain ⟨rfl, hshort, hnames, -⟩ := Disk.locate_eq_ok_iff.mp hplace
  rw [Disk.probe_eq_ok_iff, Disk.locate_eq_ok_iff]
  refine ⟨⟨by rw [hworking], hshort, hnames, fun n _ ↦ hstands n⟩, ?_⟩
  have hend := hstands forms.path.parts.length
  rwa [Path.upTo_length, hworking] at hend

/-- No step of a download takes away a place on a path that goes down only. -/
theorem Change.stands (hreturn : ".." ∉ forms.path.parts)
    (h : forms.Change d.working formId d d') (hstands : forms.Stands d) : forms.Stands d' := by
  intro n
  rw [h.working_eq]
  have habove := Path.resolve_upTo_prefix hreturn n d.working
  have hout (name : String) (below : Place) :
      ¬ forms.path.resolve d.working ++ [name] ++ below <+:
        (forms.path.upTo n).resolve d.working := fun hbegins ↦
    Place.not_name_prefix _ name (((List.prefix_append _ below).trans hbegins).trans habove)
  have hout' (name : String) :
      ¬ forms.path.resolve d.working ++ [name] <+: (forms.path.upTo n).resolve d.working := by
    simpa using hout name []
  have hkept := hstands n
  generalize hvisited : (forms.path.upTo n).resolve d.working = visited at hkept hout hout'
  cases h with
  | directory hway hmissing =>
    rw [Disk.item?_put_of_ne, hkept]
    rintro rfl
    rw [hmissing] at hkept
    cases hkept
  | put hname below item =>
    rw [Disk.item?_put_of_ne, hkept]
    rintro rfl
    exact hout _ below (List.prefix_refl _)
  | clear hname => rw [Disk.item?_clear_of_not_prefix (hout' _), hkept]
  | relocate hsource htarget =>
    rw [Disk.item?_relocate_of_not_prefix (hout' _) (hout' _), hkept]

theorem Changes.stands (hreturn : ".." ∉ forms.path.parts)
    (h : forms.Changes d.working formId d d') (hstands : forms.Stands d) : forms.Stands d' := by
  induction h with
  | refl => exact hstands
  | tail hsteps hstep ih =>
    have hsame := Changes.working_eq hsteps
    exact Change.stands hreturn (by rwa [hsame]) ih

end FormsDirectory

namespace Shelf

variable {source : Source N} {forms : FormsDirectory} {fair : N → Prop} {s : Site N}

/-- A directory of forms that could be made before a download can be made after it. -/
theorem ends_download_prepare (hsource : source.Answers fair Fault.IsSync) (x : Details)
    (hworking : s.disk.working.Plain) (hfair : fair s.net) (hreturn : ".." ∉ forms.path.parts)
    {d : Disk} (h : Disk.prepare forms.path s.disk = .ok () d) :
    Ends (download source forms x) s fun _ t ↦
      ∃ d', Disk.prepare forms.path t.disk = .ok () d' := by
  obtain ⟨hnull, hprobe⟩ := Disk.probe_of_prepare h
  refine (ends_download_of_run (Download.ends_run_of_prepare hsource x hworking hfair h)).mono ?_
  rintro r t ⟨outcome, u, ⟨hu, -⟩, hrecords⟩
  have hstands := hu.disk.stands hreturn (FormsDirectory.stands_of_probe hprobe)
  have hthere := hstands.probe hu.working_eq hprobe
  rw [← hrecords.disk] at hthere
  exact ⟨t.disk, Disk.prepare_of_probe hnull hthere⟩

/-! ### A batch on the shelf -/

variable {catalog : Catalog (Site N)} {t : Site N}

/-- The batch broke off at a form, after the ones before it were attempted: the directory of forms
could not be made there, or the form has a media file with a null character in its name. -/
def StopsAt (catalog : Catalog (Site N)) (forms : FormsDirectory) (s : Site N) (xs : List Details)
    (e : Fault) : Prop :=
  ∃ done x rest failed t, xs = done ++ x :: rest ∧ catalog.Attempts s done failed t ∧
    ((∃ d, Disk.prepare forms.path t.disk = .error e d) ∨
      (x.NamesNull ∧ e = .invalid "embedded null byte"))

/-- Attempts leave the working place and the network's condition. -/
theorem attempts_plain (hdevice : catalog.device = device source forms)
    (hsource : source.Answers fair Fault.IsSync) {xs : List Details} {failed : List String}
    (h : catalog.Attempts s xs failed t) (hworking : s.disk.working.Plain) (hfair : fair s.net) :
    t.disk.working.Plain ∧ fair t.net := by
  refine h.keeps (fun t ↦ t.disk.working.Plain ∧ fair t.net) ⟨hworking, hfair⟩
    (fun x u hu ↦ ?_) fun _ _ hu ↦ hu
  rw [hdevice]
  refine (ends_download hsource x hu.1 hu.2).mono fun r v hv ↦ ?_
  exact ⟨by rw [hv.working_eq]; exact hu.1, hv.net⟩

/-- Attempts leave a directory of forms that can be made. -/
theorem attempts_prepare (hdevice : catalog.device = device source forms)
    (hsource : source.Answers fair Fault.IsSync) (hreturn : ".." ∉ forms.path.parts)
    {xs : List Details} {failed : List String} (h : catalog.Attempts s xs failed t)
    (hworking : s.disk.working.Plain) (hfair : fair s.net)
    (hprepare : ∃ d, Disk.prepare forms.path s.disk = .ok () d) :
    ∃ d, Disk.prepare forms.path t.disk = .ok () d := by
  suffices hboth : (t.disk.working.Plain ∧ fair t.net) ∧
      ∃ d, Disk.prepare forms.path t.disk = .ok () d from hboth.2
  refine h.keeps (fun t ↦ (t.disk.working.Plain ∧ fair t.net) ∧
    ∃ d, Disk.prepare forms.path t.disk = .ok () d) ⟨⟨hworking, hfair⟩, hprepare⟩
    (fun x u hu ↦ ?_) fun _ _ hu ↦ hu
  obtain ⟨⟨hworking, hfair⟩, d, hd⟩ := hu
  rw [hdevice]
  refine ((ends_download hsource x hworking hfair).and
    (ends_download_prepare hsource x hworking hfair hreturn hd)).mono fun r v hv ↦ ?_
  exact ⟨⟨by rw [hv.1.working_eq]; exact hworking, hv.1.net⟩, hv.2⟩

/-- A batch on the shelf breaks off for one of the two reasons only. -/
theorem stopsAt_of_breaksOff (hdevice : catalog.device = device source forms)
    (hsource : source.Answers fair Fault.IsSync) {xs : List Details} {e : Fault}
    (h : catalog.BreaksOff s xs e) (hworking : s.disk.working.Plain) (hfair : fair s.net) :
    StopsAt catalog forms s xs e := by
  obtain ⟨done, x, rest, failed, t, u, hxs, hattempts, hx, hnot⟩ := h
  refine ⟨done, x, rest, failed, t, hxs, hattempts, ?_⟩
  obtain ⟨hplain, hnet⟩ := attempts_plain hdevice hsource hattempts hworking hfair
  rw [hdevice] at hx
  change download source forms x t = .error e u at hx
  cases hprepare : Disk.prepare forms.path t.disk with
  | error e' d =>
    have hfailed : download source forms x t = .error e' { t with disk := d } :=
      download_of_prepare_eq_error hprepare
    cases hfailed.symm.trans hx
    exact Or.inl ⟨d, rfl⟩
  | ok _ d =>
    have hcontained :=
      (ends_download_contained hsource x hplain hnet hprepare).of_error hx
    cases hcontained with
    | failed message => exact absurd rfl (hnot _ message)
    | null hnull => exact Or.inr ⟨hnull, rfl⟩

/-- What one bad form does to a batch, with a source that gives content or faults of the pass.

A download, of the files and of the shelf, returns, or ends in the failed download of its form, or
trips over a null character in the name of a media file; but where the directory of forms cannot be
made, it ends in the very fault of making it, before anything is asked of the source.

Hence a pass whose deletions came through attempts every download of the plan, whatever the earlier
ones did, and returns the plan, or ends in the one fault that names the failed forms; or it stops at
a form for one of the two reasons. It does not stop when no media file has such a name and the
directory, whose path takes no component back, can be made when the downloads begin. -/
theorem batch_contained {source : Source N} {forms : FormsDirectory} {fair : N → Prop}
    (hsource : source.Answers fair Fault.IsSync) {catalog : Catalog (Site N)}
    (hdevice : catalog.device = device source forms) :
    (∀ (x : Details) (s : Site N), s.disk.working.Plain → fair s.net →
      match Disk.prepare forms.path s.disk with
      | .ok _ _ =>
        Ends (Download.run source forms x) s (fun r _ ↦ Contained x r) ∧
          Ends (Shelf.download source forms x) s fun r _ ↦ Contained x r
      | .error e d =>
        Download.run source forms x s = .error e { s with disk := d } ∧
          Shelf.download source forms x s = .error e { s with disk := d }) ∧
    ∀ (plan : Plan) (s s' t : Site N), catalog.planWith true s = .ok plan s' →
      plan.toDelete.forM catalog.delete s' = .ok ⟨⟩ t → t.disk.working.Plain → fair t.net →
      Ends catalog.synchronize s fun r _ ↦
        (catalog.Completes t plan r ∨
          ∃ e, r = .error e ∧ StopsAt catalog forms t plan.toDownload e) ∧
        (".." ∉ forms.path.parts → (∃ d, Disk.prepare forms.path t.disk = .ok () d) →
          (∀ x ∈ plan.toDownload, ¬ x.NamesNull) → catalog.Completes t plan r) := by
  constructor
  · intro x s hworking hfair
    cases hprepare : Disk.prepare forms.path s.disk with
    | ok _ d =>
      exact ⟨Download.ends_run_contained hsource x hworking hfair hprepare,
        ends_download_contained hsource x hworking hfair hprepare⟩
    | error e d =>
      exact ⟨Download.run_of_prepare_eq_error hprepare, download_of_prepare_eq_error hprepare⟩
  · intro plan s s' t hplan hdeleted hworking hfair
    refine (Catalog.ends_synchronize_of_deleted hplan hdeleted).mono fun r u hr ↦ ?_
    rcases hr with hall | ⟨e, rfl, hbreaks⟩
    · exact ⟨Or.inl hall, fun _ _ _ ↦ hall⟩
    · have hstops := stopsAt_of_breaksOff hdevice hsource hbreaks hworking hfair
      refine ⟨Or.inr ⟨e, rfl, hstops⟩, fun hreturn hprepare hnames ↦ ?_⟩
      obtain ⟨done, x, rest, failed, v, hxs, hattempts, hcause⟩ := hstops
      exfalso
      rcases hcause with ⟨d, hd⟩ | ⟨hnull, -⟩
      · obtain ⟨d', hd'⟩ :=
          attempts_prepare hdevice hsource hreturn hattempts hworking hfair hprepare
        rw [hd] at hd'
        cases hd'
      · exact hnames x (by simp [hxs]) hnull

end Shelf

/-! ### Batches that go on, and batches that stop -/

/-- The archive gives content or faults of the pass, unless an address is set to another fault. -/
theorem Archive.answers_of_sync : Archive.source.Answers
    (fun a ↦ ∀ answer ∈ a.contents, ∀ e, answer.2 = .error e → e.IsSync) Fault.IsSync := by
  intro url s hfair
  refine (Archive.ends_source url s).mono ?_
  rintro _ _ ⟨rfl, rfl⟩
  refine ⟨hfair, rfl, rfl, fun e he ↦ ?_⟩
  unfold Archive.answerAt at he
  split at he
  · rename_i found answer hfound
    exact hfair _ (List.mem_of_find?_eq_some hfound) e he
  · cases he
    exact ⟨_, rfl⟩

namespace Shelf

/-- A device with nothing on it, and a server with two forms; the first one has no content. -/
def listing : Site Archive where
  disk := ⟨["device"], [(["device"], .directory)]⟩
  table := []
  net :=
    { published := { forms := [plainDescriptor "a" "gone", plainDescriptor "b" "v"] }
      contents := [("v", .ok [118])] }
  journal := []

/-- What is planned for it. -/
def bothNew : Plan where
  toDownload := [plainForm "a" "gone", plainForm "b" "v"]

/-- The device when the plan has come about. -/
def planned : Site Archive := ((Archive.catalog besideWork).planWith true).after listing

/-- The missing content of `a` does not keep the pass from attempting `b`. -/
theorem batch_contained_missing :
    (Archive.catalog besideWork).planWith true listing = .ok bothNew planned ∧
      Ends (Archive.catalog besideWork).synchronize listing fun r _ ↦
        (Archive.catalog besideWork).Completes planned bothNew r := by
  have hplan : (Archive.catalog besideWork).planWith true listing = .ok bothNew planned := rfl
  have hdeleted : bothNew.toDelete.forM (Archive.catalog besideWork).delete planned =
      .ok ⟨⟩ planned := rfl
  have hworking : planned.disk.working.Plain := ⟨by decide +kernel, by decide +kernel⟩
  have hfair : ∀ answer ∈ planned.net.contents, ∀ e, answer.2 = .error e → e.IsSync := by
    have hcontents : planned.net.contents = [("v", .ok [118])] := rfl
    intro answer hanswer e he
    rw [hcontents, List.mem_singleton] at hanswer
    rw [hanswer] at he
    cases he
  have hnames : ∀ x ∈ bothNew.toDownload, ¬ x.NamesNull := by
    rintro x hx ⟨file, hfile, -⟩
    rcases List.mem_cons.mp hx with rfl | hx
    · cases hfile
    · obtain rfl := List.mem_singleton.mp hx
      cases hfile
  have hpass := (batch_contained Archive.answers_of_sync
    (rfl : (Archive.catalog besideWork).device = device Archive.source besideWork)).2 bothNew
    listing planned planned hplan hdeleted hworking hfair
  exact ⟨hplan, hpass.mono fun r _ hr ↦ hr.2 (by decide) ⟨_, rfl⟩ hnames⟩

/-- A manifest as sent, with one media file whose name is a null character. -/
def nullPayload : Bytes := Bytes.ofText
  ("\x7b\"media_files\": [\x7b\"filename\": \"\\u0000\", \"hash\": \"h\", "
    ++ "\"download_url\": \"w\"\x7d]\x7d")

/-- The manifest as read. -/
def nullManifest : Manifest where
  hash := ContentKey.ofBytes nullPayload
  files := [⟨String.singleton (Char.ofNat 0), "h", "w"⟩]

/-- The same device and server, but the first form has that manifest. -/
def nullListing : Site Archive where
  disk := ⟨["device"], [(["device"], .directory)]⟩
  table := []
  net :=
    { published :=
        { forms :=
            [{ plainDescriptor "a" "u" with manifestUrl := some "m" }, plainDescriptor "b" "v"]
          manifests := [("m", nullManifest)] }
      contents := [("u", .ok [117]), ("v", .ok [118]), ("w", .ok [119])] }
  journal := []

/-- The same device and server, but a file is where the directory of forms should be. -/
def blockedListing : Site Archive where
  disk := ⟨["device"], [(["device"], .directory), (["device", "forms"], .file [])]⟩
  table := []
  net :=
    { published := { forms := [plainDescriptor "a" "u", plainDescriptor "b" "v"] }
      contents := [("u", .ok [117]), ("v", .ok [118])] }
  journal := []

/-- Either defect stops a pass at its first form, in a fault that is no fault of the pass. The
manifest with the null character is one that the reader of manifests accepts. -/
theorem defects_stop_batch :
    (Payload.manifest nullPayload).toOption = some nullManifest ∧
    Raises (Archive.catalog besideWork).synchronize nullListing (fun e t ↦
      e = .invalid "embedded null byte" ∧ t.net.requests = ["u"]) ∧
    Raises (Archive.catalog besideWork).synchronize blockedListing (fun e t ↦
      e = .disk (.refused .exists (.path "forms")) ∧ t.net.requests = []) := by
  refine ⟨by decide +kernel, by decide +kernel, by decide +kernel⟩

end Shelf

end FormCatalog
