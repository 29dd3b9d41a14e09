import FormCatalog.Catalog.Pass
import FormCatalog.Proofs.Programs

/-!
# What a pass sees, and the plan that follows from it

An `Outlook` is what a pass can learn: the server's list, the manifest at each address, the records
of the device and its media files. The standing of a listed form, its details and the plan of the
whole list are functions of it (`Outlook.entry`, `Outlook.snapshot`, `Outlook.plan`).

A catalog `Shows` an outlook in the states of an invariant when the server and the device answer by
it and the invariant stays. There `preview` is the plan of the outlook, fault for fault
(`Shows.ends_preview`), whatever else the server and the device are. `snapshot_eq_ok_iff` says when
a snapshot comes about: every listed form has its manifest within reach.
-/

set_option autoImplicit false
set_option relaxedAutoImplicit false

namespace FormCatalog

open Op

/-- What a pass can learn of the server and of the device. -/
structure Outlook where
  /-- The server's list, or the fault it answers with. -/
  listed : Except Fault (List Descriptor)
  /-- The manifest at an address, or the fault that comes instead. -/
  manifestAt : String → Except Fault Manifest
  records : List FormRecord
  media : String → Option String → List MediaRecord

namespace Outlook

variable (o : Outlook)

/-- The manifest of a listed form, or the fault that comes instead. -/
def manifestOf (d : Descriptor) : Except Fault (Option Manifest) :=
  match d.manifestUrl with
  | none => .ok none
  | some url => if url = "" then .ok none else some <$> o.manifestAt url

/-- Whether a record differs from the published form, by the comparison in full. -/
def differs (d : Descriptor) (manifest : Option Manifest) (record : FormRecord) : Bool :=
  ContentKey.stripLabel d.contentHash ≠ ContentKey.stripLabel record.contentHash ||
    manifest.any fun m ↦ mediaDiffer m.files (o.media d.formId d.version)

/-- How a published form stands to a record. -/
def standing (d : Descriptor) (manifest : Option Manifest) : Option FormRecord → Standing
  | none => ⟨true, false⟩
  | some record => ⟨false, record.seenKey ≠ some (d.key manifest) && o.differs d manifest record⟩

/-- The details of a published form. -/
def details (d : Descriptor) (manifest : Option Manifest) : Details :=
  let standing := o.standing d manifest (Catalog.recordOf? o.records d.formId)
  ⟨d, standing.notOnDevice, standing.updated, manifest⟩

/-- The details of a listed form, or the fault that comes instead. -/
def annotated (d : Descriptor) : Except Fault Details := o.details d <$> o.manifestOf d

/-- The manifest of a listed form, if it is within reach. -/
def manifest? (d : Descriptor) : Option Manifest := (o.manifestOf d).toOption.join

/-- The details of a listed form whose manifest is within reach. -/
def entry (d : Descriptor) : Details := o.details d (o.manifest? d)

/-- The list with the standing of each form, or the first fault. -/
def snapshot : Except Fault (List Details) := do (← o.listed).mapM o.annotated

/-- What a pass would change, or the first fault. -/
def plan : Except Fault Plan := (Plan.of · o.records) <$> o.snapshot

@[simp] theorem entry_formId (d : Descriptor) : (o.entry d).formId = d.formId := rfl

theorem annotated_eq_ok_iff {d : Descriptor} {x : Details} :
    o.annotated d = .ok x ↔ (∃ m, o.manifestOf d = .ok m) ∧ x = o.entry d := by
  unfold annotated entry manifest?
  cases o.manifestOf d with
  | error e =>
    constructor
    · intro h
      cases h
    · rintro ⟨⟨m, h⟩, -⟩
      cases h
  | ok m =>
    constructor
    · intro h
      cases h
      exact ⟨⟨m, rfl⟩, rfl⟩
    · rintro ⟨-, rfl⟩
      rfl

theorem mapM_annotated_eq_ok_iff {ds : List Descriptor} {xs : List Details} :
    ds.mapM o.annotated = .ok xs ↔
      (∀ d ∈ ds, ∃ m, o.manifestOf d = .ok m) ∧ xs = ds.map o.entry := by
  induction ds generalizing xs with
  | nil => simp [pure, Except.pure, eq_comm]
  | cons d ds ih =>
    rw [List.mapM_cons, List.forall_mem_cons, List.map_cons]
    constructor
    · intro h
      cases hx : o.annotated d with
      | error e => rw [hx] at h; cases h
      | ok x =>
        cases hxs : ds.mapM o.annotated with
        | error e => rw [hx, hxs] at h; cases h
        | ok rest =>
          rw [hx, hxs] at h
          cases h
          obtain ⟨hm, rfl⟩ := o.annotated_eq_ok_iff.mp hx
          obtain ⟨hms, rfl⟩ := ih.mp hxs
          exact ⟨⟨hm, hms⟩, rfl⟩
    · rintro ⟨⟨hm, hms⟩, rfl⟩
      rw [o.annotated_eq_ok_iff.mpr ⟨hm, rfl⟩, ih.mpr ⟨hms, rfl⟩]
      rfl

/-- A snapshot comes about when the server lists its forms and the manifest of each is within reach;
it then has one entry for each listed form, in the order of the list. -/
theorem snapshot_eq_ok_iff {xs : List Details} :
    o.snapshot = .ok xs ↔
      ∃ ds, o.listed = .ok ds ∧ (∀ d ∈ ds, ∃ m, o.manifestOf d = .ok m) ∧ xs = ds.map o.entry := by
  unfold snapshot
  cases o.listed with
  | error e =>
    constructor
    · intro h
      cases h
    · rintro ⟨ds, h, -⟩
      cases h
  | ok ds =>
    refine ⟨fun h ↦ ⟨ds, rfl, o.mapM_annotated_eq_ok_iff.mp h⟩, ?_⟩
    rintro ⟨_, h, hrest⟩
    cases h
    exact o.mapM_annotated_eq_ok_iff.mpr hrest

theorem plan_eq_ok_iff {p : Plan} :
    o.plan = .ok p ↔ ∃ xs, o.snapshot = .ok xs ∧ p = Plan.of xs o.records := by
  unfold plan
  cases o.snapshot with
  | error e =>
    constructor
    · intro h
      cases h
    · rintro ⟨xs, h, -⟩
      cases h
  | ok xs =>
    constructor
    · intro h
      cases h
      exact ⟨xs, rfl, rfl⟩
    · rintro ⟨_, h, rfl⟩
      cases h
      rfl

/-! ### Another outlook on the same server -/

variable {o} {o' : Outlook}

theorem manifestOf_congr (h : o'.manifestAt = o.manifestAt) : o'.manifestOf = o.manifestOf := by
  funext d
  unfold manifestOf
  rw [h]

theorem manifest?_congr (h : o'.manifestAt = o.manifestAt) : o'.manifest? = o.manifest? := by
  funext d
  unfold manifest?
  rw [manifestOf_congr h]

/-- A form whose record has the published key is not compared in full and needs no download. -/
theorem entry_of_seenKey {d : Descriptor} {record : FormRecord}
    (hrecord : Catalog.recordOf? o.records d.formId = some record)
    (hkey : record.seenKey = some (d.key (o.manifest? d))) :
    o.entry d = ⟨d, false, false, o.manifest? d⟩ := by
  unfold entry details
  rw [hrecord]
  simp [standing, hkey]

/-- Of a form that waits for its download, when only the remembered key of its record has changed:
it waits as before if the device lacks it or the key is not the one that is published. -/
theorem entry_of_seen {d : Descriptor} (seen : Option String → Option String)
    (hmanifest : o'.manifestAt = o.manifestAt)
    (hrecord : Catalog.recordOf? o'.records d.formId =
      (Catalog.recordOf? o.records d.formId).map fun r ↦ { r with seenKey := seen r.seenKey })
    (hmedia : ∀ version, o'.media d.formId version = o.media d.formId version)
    (hpending : (o.entry d).needsDownload = true) :
    (Catalog.recordOf? o.records d.formId = none ∧ o'.entry d = o.entry d ∧
        (o.entry d).notOnDevice = true) ∨
      ∃ r, Catalog.recordOf? o.records d.formId = some r ∧ r.seenKey ≠ some (o.entry d).key ∧
        (o.entry d).notOnDevice = false ∧
        o'.entry d = { o.entry d with updated := seen r.seenKey ≠ some (o.entry d).key } := by
  have hm : o'.manifest? d = o.manifest? d := congrFun (manifest?_congr hmanifest) d
  have hkey : (o.entry d).key = d.key (o.manifest? d) := rfl
  rw [hkey]
  cases hr : Catalog.recordOf? o.records d.formId with
  | none =>
    rw [hr] at hrecord
    refine Or.inl ⟨rfl, ?_, ?_⟩
    · unfold entry details
      rw [hm, hr, hrecord]
      rfl
    · unfold entry details
      rw [hr]
      rfl
  | some r =>
    rw [hr] at hrecord
    have hstanding :
        r.seenKey ≠ some (d.key (o.manifest? d)) ∧ o.differs d (o.manifest? d) r := by
      unfold entry details Details.needsDownload at hpending
      rw [hr] at hpending
      simpa [standing] using hpending
    have hdiffers : o'.differs d (o.manifest? d) { r with seenKey := seen r.seenKey } = true := by
      have h := hstanding.2
      unfold differs at h ⊢
      rwa [hmedia]
    refine Or.inr ⟨r, rfl, hstanding.1, ?_, ?_⟩
    · unfold entry details
      rw [hr]
      rfl
    · unfold entry details
      rw [hm, hr, hrecord]
      simp [standing, hdiffers]

/-- The plan of another outlook on the same server, once there is one of the first. -/
theorem plan_of_same_server {p : Plan} (h : o.plan = .ok p) :
    ∃ ds, o.listed = .ok ds ∧ p = Plan.of (ds.map o.entry) o.records ∧
      ∀ o' : Outlook, o'.listed = o.listed → o'.manifestAt = o.manifestAt →
        o'.plan = .ok (Plan.of (ds.map o'.entry) o'.records) := by
  obtain ⟨xs, hxs, rfl⟩ := o.plan_eq_ok_iff.mp h
  obtain ⟨ds, hlisted, hreach, rfl⟩ := o.snapshot_eq_ok_iff.mp hxs
  refine ⟨ds, hlisted, rfl, fun o' hlisted' hmanifest ↦ ?_⟩
  refine o'.plan_eq_ok_iff.mpr ⟨_, o'.snapshot_eq_ok_iff.mpr ⟨ds, ?_, ?_, rfl⟩, rfl⟩
  · rw [hlisted', hlisted]
  · rw [manifestOf_congr hmanifest]
    exact hreach

/-- A form that waited before waits in the new plan when its entry is the old one. -/
theorem entry_mem_toDownload_iff {ds : List Descriptor} {records : List FormRecord} {d : Descriptor}
    (hd : d ∈ ds) (hneeds : (o.entry d).needsDownload = true) :
    o.entry d ∈ (Plan.of (ds.map o'.entry) records).toDownload ↔ o'.entry d = o.entry d := by
  unfold Plan.of
  rw [List.mem_filter, List.mem_map]
  constructor
  · rintro ⟨⟨d', -, heq⟩, -⟩
    -- an entry belongs to one descriptor
    obtain rfl : d' = d := congrArg Details.descriptor heq
    exact heq
  · intro heq
    exact ⟨⟨d, hd, heq⟩, hneeds⟩

theorem formId_mem_unchanged {ds : List Descriptor} {records : List FormRecord} {d : Descriptor}
    (hd : d ∈ ds) (hneeds : (o.entry d).needsDownload = false) :
    d.formId ∈ (Plan.of (ds.map o.entry) records).unchanged :=
  List.mem_map.mpr ⟨_, List.mem_filter.mpr ⟨List.mem_map_of_mem hd, by simp [hneeds]⟩, rfl⟩

end Outlook

/-- In the states of the invariant the catalog answers by the outlook, and the invariant stays. -/
structure Catalog.Shows {σ : Type} [Recording σ] (catalog : Catalog σ) (o : Outlook)
    (inv : σ → Prop) : Prop where
  formList : ∀ s, inv s → Ends catalog.server.formList s fun r t ↦ r = o.listed ∧ inv t
  manifest : ∀ url s, inv s →
    Ends (catalog.server.manifest url) s fun r t ↦ r = o.manifestAt url ∧ inv t
  records : ∀ s, inv s → Ends catalog.device.records s fun r t ↦ r = .ok o.records ∧ inv t
  mediaFiles : ∀ id version s, inv s →
    Ends (catalog.device.mediaFiles id version) s fun r t ↦ r = .ok (o.media id version) ∧ inv t
  note : ∀ e s, inv s → inv (Recording.record e s)

namespace Catalog

variable {σ : Type} [Recording σ] {catalog : Catalog σ} {o : Outlook} {inv : σ → Prop}

theorem Shows.ends_manifestOf (h : catalog.Shows o inv) (d : Descriptor) {s : σ} (hs : inv s) :
    Ends (catalog.manifestOf d) s fun r t ↦ r = o.manifestOf d ∧ inv t := by
  unfold manifestOf Outlook.manifestOf
  cases d.manifestUrl with
  | none => exact ⟨rfl, hs⟩
  | some url =>
    dsimp only
    split
    · exact ⟨rfl, hs⟩
    · rw [ends_map]
      refine (h.manifest url s hs).mono ?_
      rintro r t ⟨rfl, ht⟩
      exact ⟨by cases o.manifestAt url <;> rfl, ht⟩

theorem Shows.ends_isUpdated (h : catalog.Shows o inv) (d : Descriptor)
    (manifest : Option Manifest) (record : FormRecord) {s : σ} (hs : inv s) :
    Ends (catalog.device.isUpdated d manifest record) s fun r t ↦
      r = .ok (o.differs d manifest record) ∧ inv t := by
  unfold Device.isUpdated Outlook.differs
  by_cases hc : ContentKey.stripLabel d.contentHash = ContentKey.stripLabel record.contentHash
  · rw [if_neg (not_not_intro hc)]
    cases manifest with
    | none => exact ⟨by simp [hc], hs⟩
    | some m =>
      rw [ends_bind]
      refine (h.mediaFiles d.formId d.version s hs).mono ?_
      rintro r t ⟨rfl, ht⟩
      exact ⟨by simp [hc], ht⟩
  · rw [if_pos hc]
    exact ⟨by simp [hc], hs⟩

theorem Shows.ends_compare (h : catalog.Shows o inv) (d : Descriptor)
    (manifest : Option Manifest) (record : Option FormRecord) {s : σ} (hs : inv s) :
    Ends (catalog.device.compare d manifest record false) s fun r t ↦
      r = .ok (o.standing d manifest record) ∧ inv t := by
  unfold Device.compare Outlook.standing
  cases record with
  | none => exact ⟨rfl, hs⟩
  | some record =>
    dsimp only
    by_cases hk : record.seenKey = some (d.key manifest)
    · rw [if_pos hk]
      exact ⟨by simp [hk], hs⟩
    · rw [if_neg hk, ends_bind]
      refine (h.ends_isUpdated d manifest record hs).mono ?_
      rintro r t ⟨rfl, ht⟩
      cases hd : o.differs d manifest record with
      | false => exact ⟨by simp, ht⟩
      | true => exact ⟨by simp [hk], h.note _ _ ht⟩

theorem Shows.ends_annotate (h : catalog.Shows o inv) (d : Descriptor) {s : σ} (hs : inv s) :
    Ends (catalog.annotate o.records false d) s fun r t ↦ r = o.annotated d ∧ inv t := by
  unfold annotate Outlook.annotated
  rw [ends_bind]
  refine (h.ends_manifestOf d hs).mono ?_
  rintro r t ⟨rfl, ht⟩
  cases o.manifestOf d with
  | error e => exact ⟨rfl, ht⟩
  | ok manifest =>
    rw [Next, ends_bind]
    refine (h.ends_compare d manifest _ ht).mono ?_
    rintro r t ⟨rfl, ht⟩
    exact ⟨rfl, ht⟩

/-- A snapshot that remembers nothing is the snapshot of the outlook. -/
theorem Shows.ends_snapshot (h : catalog.Shows o inv) {s : σ} (hs : inv s) :
    Ends (catalog.snapshot false) s fun r t ↦ r = o.snapshot ∧ inv t := by
  unfold snapshot Outlook.snapshot
  rw [ends_bind]
  refine (h.formList s hs).mono ?_
  rintro r t ⟨rfl, ht⟩
  cases o.listed with
  | error e => exact ⟨rfl, ht⟩
  | ok ds =>
    rw [Next, ends_bind]
    refine (h.records t ht).mono ?_
    rintro r t ⟨rfl, ht⟩
    rw [Next, ends_bind, ends_note, Next]
    refine ends_mapM (fun done xs t ↦ done.mapM o.annotated = .ok xs ∧ inv t)
      ⟨rfl, h.note _ _ ht⟩ ?_ fun xs t ht ↦ ⟨ht.1.symm, ht.2⟩
    rintro done d rest xs s hl ⟨hdone, hs⟩
    refine (h.ends_annotate d hs).mono ?_
    rintro r t ⟨rfl, ht⟩
    cases hd : o.annotated d with
    | error e =>
      refine ⟨?_, ht⟩
      change _ = ds.mapM o.annotated
      rw [hl, List.mapM_append, List.mapM_cons, hdone, hd]
      rfl
    | ok x =>
      refine ⟨?_, ht⟩
      rw [List.mapM_append, List.mapM_cons, hdone, hd]
      rfl

/-- A preview is the plan of the outlook. -/
theorem Shows.ends_preview (h : catalog.Shows o inv) {s : σ} (hs : inv s) :
    Ends catalog.preview s fun r t ↦ r = o.plan ∧ inv t := by
  unfold preview planWith Outlook.plan
  rw [ends_bind]
  refine (h.ends_snapshot hs).mono ?_
  rintro r t ⟨rfl, ht⟩
  cases o.snapshot with
  | error e => exact ⟨rfl, ht⟩
  | ok xs =>
    rw [Next, ends_bind]
    refine (h.records t ht).mono ?_
    rintro r t ⟨rfl, ht⟩
    exact ⟨rfl, ht⟩

end Catalog

end FormCatalog
