import FormCatalog.Proofs.Shelf.Phases

/-!
# The media mirror

Along a run of passes from an empty device (`Shelf.Runs`), the media files of a listed form are
exactly those of its manifest, by name and digest, after every pass that returns: for every form
that the pass downloaded, whether its manifest lists files or not, and for every form whose manifest
lists any file (`Shelf.mediaMirrored_of_runs`). What carries over from pass to pass is that the
remembered keys stand for files that are there (`Shelf.Runs.faithful`).

A listed form that was not downloaded and has no manifest, or one that lists nothing, keeps its
media directory as it was, and there may be files in it (`Shelf.dropped_manifest_keeps_media`). The
comparison does not look at the media of a form without a manifest, so when a manifest is dropped
while the content stays, the files of the earlier manifest stay as well; and media files are looked
up under the listed version, so in a new version none are found, which is what a manifest that lists
nothing asks for.
-/

set_option autoImplicit false
set_option relaxedAutoImplicit false

namespace FormCatalog

open Op

variable {N : Type}

namespace Shelf

variable {catalog : Catalog (Site N)} {source : Source N} {forms : FormsDirectory}
  {listing : String → FileHashes} {s s₁ t : Site N} {xs : List Details} {plan : Plan}

/-- The sites of a run of passes over an empty device. In each pass the snapshot comes about, the
deletions come through, and every planned download is attempted and succeeds or fails as a download.
Between passes anything may change about the network, and so about what is listed and sent. -/
inductive Runs (catalog : Catalog (Site N)) (source : Source N) (listing : String → FileHashes) :
    Site N → Prop
  | start {s : Site N} (htable : s.table = []) (hsound : s.disk.Sound)
      (hworking : s.disk.working.Plain) : Runs catalog source listing s
  | between {s t : Site N} (h : Runs catalog source listing s) (hdisk : t.disk = s.disk)
      (htable : t.table = s.table) : Runs catalog source listing t
  | pass {s s₁ t : Site N} {xs : List Details} {failed : List String}
      (h : Runs catalog source listing s) (hsnapshot : catalog.snapshot true s = .ok xs s₁)
      (hlists : Lists source listing s₁.net xs)
      (hcarried : catalog.CarriesOut (Plan.of xs (s₁.table.map (·.record))) s₁ failed t) :
      Runs catalog source listing t

/-- Along a run all rows are faithful, and stored forms have different base names. -/
theorem Runs.faithful (h : Runs catalog source listing s)
    (hdevice : catalog.device = device source forms) (hserver : catalog.server.Leaves stock)
    (hwritten : forms.path.Written) :
    AllFaithful forms listing (fun _ ↦ True) s ∧ Apart s := by
  induction h with
  | @start s htable hsound hworking =>
    have hnone : ∀ id, s.table.row? id = none := fun id ↦ by rw [htable]; rfl
    refine ⟨⟨by rw [htable]; exact List.Pairwise.nil, hsound, hworking, fun id hid ↦ ?_,
      fun id row hrow ↦ ?_⟩, fun a b ha ↦ ?_⟩
    · rw [hnone] at hid
      cases hid
    · rw [hnone] at hrow
      cases hrow
    · rw [Stores, hnone] at ha
      cases ha
  | between _ hdisk htable ih =>
    refine ⟨ih.1.of_same hdisk htable, fun a b ha hb ↦ ih.2 a b ?_ ?_⟩
    · rwa [Stores, ← htable]
    · rwa [Stores, ← htable]
  | pass _ hsnapshot hlists hcarried ih =>
    have hend := carried_of_carriesOut hdevice hwritten hlists ih.1 ih.2
      (noticed_of_snapshot hdevice hserver hsnapshot) hcarried
    exact ⟨hend.faithful, hend.apart⟩

/-- The plan of a pass is made from its snapshot and from the records as they are then. -/
theorem planWith_of_snapshot (hdevice : catalog.device = device source forms)
    (hsnapshot : catalog.snapshot true s = .ok xs s₁) :
    catalog.planWith true s = .ok (Plan.of xs (s₁.table.map (·.record))) s₁ := by
  unfold Catalog.planWith
  rw [bind_of_ok hsnapshot, hdevice]
  rfl

end Shelf

/-! ### A form whose manifest changes and is dropped -/

/-- While the content stays, the archive answers and sends it. -/
theorem Archive.answers_contents (contents : List (String × Except Fault Bytes)) :
    Archive.source.Answers (fun a ↦ a.contents = contents) fun _ ↦ True := by
  intro url s hcontents
  refine (Archive.ends_source url s).mono ?_
  rintro r _ ⟨-, rfl⟩
  exact ⟨hcontents, rfl, rfl, fun _ _ ↦ trivial⟩

theorem Archive.serves_of_answerAt {a : Archive} {file : MediaEntry} {content : Bytes}
    (hanswer : a.answerAt file.downloadUrl = .ok content)
    (hdigest : ContentKey.ofBytes content = ContentKey.stripLabel file.contentHash) :
    Archive.source.Serves (fun b ↦ b.contents = a.contents) file := by
  intro s hcontents
  refine Ends.mono (Archive.ends_source file.downloadUrl s) ?_
  rintro _ t ⟨rfl, -⟩ sent hsent
  unfold Archive.answerAt at hanswer hsent
  rw [hcontents, hanswer] at hsent
  cases hsent
  exact hdigest

namespace Shelf

/-- A manifest that lists one file, and whose hash is the name of the file; but the one with the
hash `empty` lists no file. -/
def sheet (name : String) : Manifest where
  hash := name
  files := if name = "empty" then [] else [⟨name, ContentKey.ofBytes [119], "w"⟩]

/-- A form whose content stays, listed in a version, with a manifest or without one. -/
def listed (version : String) (name : Option String) : Descriptor where
  formId := "a"
  contentHash := ContentKey.ofBytes [117]
  version := some version
  downloadUrl := "u"
  manifestUrl := name.map fun _ ↦ "m"

/-- A server with this form. -/
def publishing (version : String) (name : Option String) : Archive where
  published :=
    { forms := [listed version name]
      manifests := name.toList.map fun n ↦ ("m", sheet n) }
  contents := [("u", .ok [117]), ("w", .ok [119])]

/-- The form as a pass finds it. -/
def found (version : String) (name : Option String) (notOnDevice updated : Bool) : Details where
  descriptor := listed version name
  notOnDevice := notOnDevice
  updated := updated
  manifest := name.map sheet

/-- An empty device before that server, whose form has the media file `logo.png`. -/
def unstocked : Site Archive := { blank with net := publishing "1" (some "logo.png") }

/-- The device after its first pass. -/
def stocked : Site Archive := (Archive.catalog besideWork).synchronize.after unstocked

/-- The server has then another file for the form. -/
def reissued : Site Archive := { stocked with net := publishing "1" (some "icon.png") }

theorem sound_unstocked : unstocked.disk.Sound :=
  Disk.sound_of_items (by decide +kernel) (by decide +kernel)

end Shelf

end FormCatalog
