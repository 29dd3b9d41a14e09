import FormCatalog.Proofs.Catalog.FileHashes
import FormCatalog.Proofs.Catalog.Mirror
import Mathlib.Data.Set.Finite.List

/-!
# The shortcut and the comparison in full

A form whose remembered key is the published one is not compared in full. Where a device in memory
comes from nothing by passes whose list and manifests come about, the comparison in full would find
the same (`shortcut_agrees`), provided that the form is listed in the version in which it was listed
when the key was stored. The proviso is needed: a key does not cover the version, but the media
files are kept by version, so for a form that comes in a new version with the same content and the
same manifest the shortcut finds nothing to do where the comparison in full finds the media missing
(`shortcut_misses_version`).

`Origins` follows the entries that the remembered keys were stored for, and `Kept.Sourced` is what
holds of the record and the media of a form along a run.
-/

set_option autoImplicit false
set_option relaxedAutoImplicit false

namespace FormCatalog

open Op

/-- Whether the device has the form with the published key. -/
def Outlook.takesShortcut (o : Outlook) (d : Descriptor) : Bool :=
  (Catalog.recordOf? o.records d.formId).any (·.seenKey = some (d.key (o.manifest? d)))

theorem Outlook.takesShortcut_iff {o : Outlook} {d : Descriptor} :
    o.takesShortcut d = true ↔ ∃ record, Catalog.recordOf? o.records d.formId = some record ∧
      record.seenKey = some (d.key (o.manifest? d)) := by
  unfold takesShortcut
  cases Catalog.recordOf? o.records d.formId with
  | none => simp
  | some record => simp

theorem Outlook.needsDownload_of_takesShortcut {o : Outlook} {d : Descriptor}
    (h : o.takesShortcut d = true) : (o.entry d).needsDownload = false := by
  obtain ⟨record, hrecord, hseen⟩ := takesShortcut_iff.mp h
  rw [entry_of_seenKey hrecord hseen]
  rfl

/-- A form that needs no download has a record, and unless it takes the shortcut it is the same on
comparison. -/
theorem Outlook.differs_eq_false_of_unneeded {o : Outlook} {d : Descriptor}
    (hneeds : (o.entry d).needsDownload = false) :
    ∃ record, Catalog.recordOf? o.records d.formId = some record ∧
      (o.takesShortcut d = false → o.differs d (o.manifest? d) record = false) := by
  unfold entry details Details.needsDownload at hneeds
  cases hrecord : Catalog.recordOf? o.records d.formId with
  | none =>
    rw [hrecord] at hneeds
    cases hneeds
  | some record =>
    refine ⟨record, rfl, fun hlong ↦ ?_⟩
    have hkey : record.seenKey ≠ some (d.key (o.manifest? d)) := fun hseen ↦ by
      rw [takesShortcut_iff.mpr ⟨record, hrecord, hseen⟩] at hlong
      cases hlong
    rw [hrecord] at hneeds
    simpa [standing, hkey] using hneeds

namespace Memory

/-- The entries of the lists for which the remembered keys were stored, by form. -/
abbrev Origins := String → Option Descriptor

/-- A pass stores a key for every listed form that does not take the shortcut. -/
def Origins.next (origins : Origins) (o : Outlook) (listed : List Descriptor) : Origins := fun id ↦
  match listed.find? (·.formId = id) with
  | some d => if o.takesShortcut d then origins id else some d
  | none => origins id

/-- No id is listed twice, no hash has more than one label, and a manifest has a hash that tells its
files, as `listing` says. -/
structure Published.Regular (listing : String → List MediaEntry) (p : Published) : Prop where
  nodup : (p.forms.map (·.formId)).Nodup
  labels : ∀ d ∈ p.forms, ContentKey.LabelledOnce d.contentHash
  manifests : ∀ m ∈ p.manifests.map (·.2), m.hash ≠ "" ∧ m.files = listing m.hash ∧
    ∀ f ∈ m.files, ContentKey.LabelledOnce f.contentHash

/-- What is kept of a form whose key was stored for an entry: the record has the content of the
entry, and the media kept for the version of the entry are those of its manifest. -/
def Kept.Sourced (listing : String → List MediaEntry) (origin : Option Descriptor) (k : Kept) :
    Prop :=
  ∀ record ∈ k.record, ∀ key ∈ record.seenKey, ∃ d manifest,
    origin = some d ∧ key = d.key manifest ∧ record.Agrees d ∧
      ∀ m ∈ manifest, m.hash ≠ "" ∧ m.files = listing m.hash ∧
        mediaDiffer m.files (k.media d.version) = false

variable {listing : String → List MediaEntry}

/-- The media files that a download leaves do not differ from the published ones. -/
theorem mediaDiffer_mediaOf {x : Details} {m : Manifest} (hm : x.manifest = some m)
    (hlabels : ∀ f ∈ m.files, ContentKey.LabelledOnce f.contentHash) :
    mediaDiffer m.files (Holdings.mediaOf x) = false := by
  have hsame : FileHashes.ofRecords (Holdings.mediaOf x) = FileHashes.ofEntries m.files := by
    have hfiles : x.mediaFiles = m.files := by
      unfold Details.mediaFiles
      rw [hm]
    unfold FileHashes.ofRecords FileHashes.ofEntries Holdings.mediaOf
    rw [hfiles, List.map_map]
    congr 1
    refine List.map_congr_left fun f hf ↦ ?_
    rw [Function.comp_apply, ContentKey.stripLabel_stripLabel (hlabels f hf)]
  rw [mediaDiffer_eq_false_iff, hsame]
  exact fun _ ↦ rfl

/-- Settling a listed form keeps its key sourced. -/
theorem Kept.Sourced.settle {o : Outlook} {d : Descriptor} {k : Kept} {origin : Option Descriptor}
    {failing : Prop} [Decidable failing] (h : k.Sourced listing origin)
    (hrecord : k.record = Catalog.recordOf? o.records d.formId)
    (hmedia : k.media = o.media d.formId) (hlabel : ContentKey.LabelledOnce d.contentHash)
    (hmanifest : ∀ m ∈ o.manifest? d, m.hash ≠ "" ∧ m.files = listing m.hash ∧
      ∀ f ∈ m.files, ContentKey.LabelledOnce f.contentHash) :
    (k.settle (o.entry d) failing).Sourced listing
      (if o.takesShortcut d then origin else some d) := by
  have hkey : (o.entry d).key = d.key (o.manifest? d) := rfl
  unfold Kept.settle
  by_cases hneeds : (o.entry d).needsDownload = true
  · rw [if_pos hneeds]
    by_cases hfailing : failing
    · rw [if_pos hfailing]
      intro record hmem key hseen
      obtain ⟨old, -, rfl⟩ := Option.map_eq_some_iff.mp hmem
      cases hseen
    · rw [if_neg hfailing]
      have hlong : o.takesShortcut d = false := by
        by_contra hshortcut
        rw [Bool.not_eq_false] at hshortcut
        rw [Outlook.needsDownload_of_takesShortcut hshortcut] at hneeds
        cases hneeds
      rw [hlong]
      rintro record ⟨⟩ key ⟨⟩
      refine ⟨d, o.manifest? d, rfl, hkey, agrees_recordOf hlabel, fun m hm ↦ ?_⟩
      obtain ⟨hhash, hfiles, hlabels⟩ := hmanifest m hm
      refine ⟨hhash, hfiles, ?_⟩
      have hreceived : (k.received (o.entry d)).media d.version = Holdings.mediaOf (o.entry d) :=
        if_pos rfl
      rw [hreceived]
      exact mediaDiffer_mediaOf hm hlabels
  · rw [if_neg hneeds]
    obtain ⟨record, hfound, hsame⟩ :=
      Outlook.differs_eq_false_of_unneeded (Bool.eq_false_iff.mpr hneeds)
    cases hshortcut : o.takesShortcut d with
    | true =>
      -- The key that is remembered was there already.
      obtain ⟨record', hfound', hseen⟩ := Outlook.takesShortcut_iff.mp hshortcut
      have hself : k.withSeen (some (o.entry d).key) = k := Kept.withSeen_self fun r hr ↦ by
        rw [hrecord, hfound'] at hr
        cases hr
        exact hseen
      rw [hself]
      exact h
    | false =>
      have hdiffers := hsame hshortcut
      unfold Outlook.differs at hdiffers
      obtain ⟨hcontent, hmediaSame⟩ := Bool.or_eq_false_iff.mp hdiffers
      intro settled hmem key hseen
      obtain ⟨old, hold, rfl⟩ := Option.map_eq_some_iff.mp hmem
      rw [hrecord, hfound] at hold
      cases hold
      cases hseen
      refine ⟨d, o.manifest? d, rfl, hkey, ?_, fun m hm ↦ ?_⟩
      · have hstripped : ContentKey.stripLabel d.contentHash =
            ContentKey.stripLabel record.contentHash := by simpa using hcontent
        exact congrArg ContentKey.ofText hstripped.symm
      · obtain ⟨hhash, hfiles, -⟩ := hmanifest m hm
        rw [Option.mem_def.mp hm] at hmediaSame
        refine ⟨hhash, hfiles, ?_⟩
        change mediaDiffer m.files (k.media d.version) = false
        rw [hmedia]
        exact hmediaSame

/-! ### Runs of passes -/

namespace Published

variable {p : Published}

theorem mem_of_manifestAt? {url : String} {m : Manifest} (h : p.manifestAt? url = some m) :
    m ∈ p.manifests.map (·.2) := by
  have hfold : ∀ (l : List (String × Manifest)) (found : Option Manifest),
      (∀ m ∈ found, m ∈ p.manifests.map (·.2)) → (∀ e ∈ l, e ∈ p.manifests) →
      ∀ m ∈ l.foldl (fun found e ↦ if e.1 = url then some e.2 else found) found,
        m ∈ p.manifests.map (·.2) := by
    intro l
    induction l with
    | nil => exact fun _ hfound _ ↦ hfound
    | cons e rest ih =>
      intro found hfound hl
      refine ih _ ?_ fun e' he' ↦ hl e' (List.mem_cons_of_mem _ he')
      dsimp only
      split
      · rintro _ ⟨⟩
        exact List.mem_map_of_mem (hl e List.mem_cons_self)
      · exact hfound
  exact hfold p.manifests none (fun _ hm ↦ by cases hm) (fun _ he ↦ he) m h

theorem mem_of_manifestAnswer {url : String} {m : Manifest} (h : p.manifestAnswer url = .ok m) :
    m ∈ p.manifests.map (·.2) := by
  unfold manifestAnswer at h
  cases hfault : p.manifestFault with
  | some fault =>
    rw [hfault] at h
    cases h
  | none =>
    rw [hfault] at h
    cases hm : p.manifestAt? url with
    | none =>
      rw [hm] at h
      cases h
    | some m' =>
      rw [hm] at h
      cases h
      exact mem_of_manifestAt? hm

end Published

namespace Rehearsal

/-- A device in memory that comes from nothing by passes whose list and manifests came about, with
the entries that its keys were stored for. Before each pass the server may publish another regular
catalog, and other downloads may fail. -/
inductive Runs (listing : String → List MediaEntry) : Origins → Rehearsal → Prop
  | start (r : Rehearsal) (hrecords : r.holdings.records = []) (hmedia : r.holdings.media = []) :
      Runs listing (fun _ ↦ none) r
  | publish {origins : Origins} {r : Rehearsal} (h : Runs listing origins r) (p : Published)
      (failing : List String) :
      Runs listing origins
        { r with published := p, holdings := { r.holdings with failing := failing } }
  | pass {origins : Origins} {r r₁ : Rehearsal} {plan : Plan} (h : Runs listing origins r)
      (hregular : r.published.Regular listing) (hplan : catalog.planWith true r = .ok plan r₁) :
      Runs listing (origins.next r.outlook r.published.forms) (catalog.synchronize.after r)

variable {listing : String → List MediaEntry} {origins : Origins} {r r₁ : Rehearsal} {plan : Plan}

theorem manifest?_regular (hregular : r.published.Regular listing) (d : Descriptor) :
    ∀ m ∈ r.outlook.manifest? d, m.hash ≠ "" ∧ m.files = listing m.hash ∧
      ∀ f ∈ m.files, ContentKey.LabelledOnce f.contentHash := by
  intro m hm
  unfold Outlook.manifest? Outlook.manifestOf at hm
  cases hurl : d.manifestUrl with
  | none => simp [hurl, Except.toOption] at hm
  | some url =>
    rw [hurl] at hm
    by_cases hempty : url = ""
    · simp [hempty, Except.toOption] at hm
    · dsimp only at hm
      rw [if_neg hempty] at hm
      cases hanswer : r.outlook.manifestAt url with
      | error e => simp [hanswer, Except.toOption] at hm
      | ok m' =>
        have hsame : m' = m := by simpa [hanswer, Except.toOption] using hm
        subst hsame
        exact hregular.manifests m' (Published.mem_of_manifestAnswer hanswer)

/-- What a run keeps of every form: a pass settles each listed form, and leaves no record of any
other. -/
theorem Runs.sourced (h : Runs listing origins r) :
    r.holdings.Keyed ∧ ∀ id, (r.holdings.kept id).Sourced listing (origins id) := by
  induction h with
  | start r hrecords hmedia =>
    refine ⟨by rw [Holdings.Keyed, hrecords]; exact List.nodup_nil, fun id record hrecord ↦ ?_⟩
    have hnone : (r.holdings.kept id).record = none := by
      unfold Holdings.kept
      rw [hrecords]
      rfl
    rw [hnone] at hrecord
    cases hrecord
  | publish _ p failing ih => exact ih
  | @pass origins r r₁ plan _ hregular hplan ih =>
    obtain ⟨hkeyed, hsourced⟩ := ih
    have hfetched := fetched_of_planWith hplan
    obtain ⟨_, -, hholdings, -⟩ := (ends_synchronize hplan).after
    rw [hholdings]
    refine ⟨hfetched.keyed_carry hkeyed, fun id ↦ ?_⟩
    unfold Origins.next
    cases hfind : r.published.forms.find? (·.formId = id) with
    | some d =>
      have hd := List.mem_of_find?_eq_some hfind
      obtain rfl : d.formId = id := by simpa using List.find?_some hfind
      rw [hfetched.kept_of_listed hkeyed hregular.nodup hd]
      exact (hsourced d.formId).settle rfl rfl (hregular.labels d hd)
        (manifest?_regular hregular d)
    | none =>
      have hid : id ∉ r.published.forms.map (·.formId) := by
        intro hmem
        obtain ⟨d, hd, hid⟩ := List.mem_map.mp hmem
        exact List.find?_eq_none.mp hfind d hd (by simpa using hid)
      intro record hrecord
      rw [hfetched.kept_of_unlisted hkeyed hid] at hrecord
      cases hrecord

/-- Along a run, when the key that is remembered for a listed form is the published one, the form is
not compared in full; and comparing it in full would find it unchanged, if its content hash and the
recorded one are not two texts with one digest, and if a form with a manifest is listed in the
version in which it was listed when the key was stored. -/
theorem shortcut_agrees (h : Runs listing origins r) (hregular : r.published.Regular listing)
    {d : Descriptor} {manifest : Option Manifest}
    {record : FormRecord} (hmanifest : r.outlook.manifestOf d = .ok manifest)
    (hrecord : Catalog.recordOf? r.holdings.records d.formId = some record)
    (hseen : record.seenKey = some (d.key manifest))
    (hversion : manifest.isSome → ∀ origin ∈ origins d.formId, origin.version = d.version)
    (hdigest : record.Agrees d →
      ContentKey.stripLabel record.contentHash = ContentKey.stripLabel d.contentHash)
    (t : Rehearsal) (hmedia : t.holdings.media = r.holdings.media) (remembering : Bool) :
    catalog.device.compare d manifest (some record) remembering t = .ok ⟨false, false⟩ t ∧
      Ends (catalog.device.isUpdated d manifest record) t fun res _ ↦ res = .ok false := by
  obtain ⟨origin, manifest', horigin, hkey, hagrees, hmediaSame⟩ :=
    (h.sourced.2 d.formId) record hrecord _ hseen
  have hpublished : r.outlook.manifest? d = manifest := by
    unfold Outlook.manifest?
    rw [hmanifest]
    rfl
  have hregular' := manifest?_regular hregular d
  rw [hpublished] at hregular'
  obtain ⟨hcontent, hhash⟩ := (Descriptor.key_eq_iff (fun m hm ↦ (hregular' m hm).1)
    fun m hm ↦ (hmediaSame m hm).1).mp hkey
  constructor
  · exact congrFun (Device.compare_of_seenKey_eq hseen) t
  · have hsame : ∀ m ∈ manifest,
        mediaDiffer m.files (t.outlook.media d.formId d.version) = false := by
      rintro m rfl
      obtain ⟨m', rfl, hm'⟩ := Option.map_eq_some_iff.mp hhash.symm
      obtain ⟨-, hfiles', hdiffer⟩ := hmediaSame m' rfl
      obtain ⟨-, hfiles, -⟩ := hregular' m rfl
      have hlisted : m'.files = m.files := by rw [hfiles, hfiles', hm']
      have hkept : t.outlook.media d.formId d.version =
          (r.holdings.kept d.formId).media origin.version := by
        rw [hversion rfl origin horigin]
        change Holdings.mediaAt _ _ = Holdings.mediaAt _ _
        unfold Holdings.mediaAt
        rw [hmedia]
      rw [hkept, ← hlisted, hdiffer]
    have hstripped := hdigest (hagrees.trans hcontent.symm)
    have hsees : Sees t.outlook t := ⟨rfl, rfl, rfl⟩
    refine (ends_isUpdated hsees d manifest record).mono ?_
    rintro res u ⟨rfl, -⟩
    unfold Outlook.differs
    cases manifest with
    | none => simp [hstripped]
    | some m => simp [hstripped, hsame m rfl]

/-- A form that is listed in some version. -/
def issued (version : String) : Descriptor :=
  { formId := "a", contentHash := "md5:c", version := some version, manifestUrl := some "m.json" }

/-- Its manifest, the same in every version. -/
def issuedManifest : Manifest := ⟨"m", [⟨"logo.png", "md5:l", "logo"⟩]⟩

/-- A server that lists the form in a version. -/
def issue (version : String) : Published where
  forms := [issued version]
  manifests := [("m.json", issuedManifest)]

/-- The files that a manifest hash stands for. -/
def issueFiles (hash : String) : List MediaEntry := if hash = "m" then issuedManifest.files else []

/-- A device after a pass over that server, which then publishes the form in a version. -/
def reissued (version : String) : Rehearsal :=
  { catalog.synchronize.after { published := issue "1" } with
    published := issue version
    holdings :=
      { (catalog.synchronize.after { published := issue "1" }).holdings with failing := [] } }

theorem runs_reissued (version : String) :
    Runs issueFiles
      (Origins.next (fun _ ↦ none) (outlook { published := issue "1" }) (issue "1").forms)
      (reissued version) := by
  have hregular : (issue "1").Regular issueFiles :=
    ⟨by decide, by decide, by decide⟩
  obtain ⟨plan, r₁, hplan, -⟩ : Returns (catalog.planWith true) { published := issue "1" }
      fun _ _ ↦ True := by decide +kernel
  exact .publish (.pass (.start _ rfl rfl) hregular hplan) (issue version) []

/-- The record that the pass leaves. -/
def issuedRecord : FormRecord :=
  ⟨"a", "c", some "1", "", some ((issued "1").key (some issuedManifest))⟩

theorem recordOf?_reissued (version : String) :
    Catalog.recordOf? (reissued version).holdings.records "a" = some issuedRecord := by
  have hrecords : (reissued version).holdings.records =
      (catalog.synchronize.after { published := issue "1" }).holdings.records := rfl
  rw [hrecords]
  decide +kernel

theorem shortcut_agrees_reissued :
    ((issue "1").Regular issueFiles ∧
      (reissued "1").outlook.manifestOf (issued "1") = .ok (some issuedManifest)) ∧
      catalog.device.compare (issued "1") (some issuedManifest) (some issuedRecord) true
          (reissued "1") = .ok ⟨false, false⟩ (reissued "1") ∧
        Ends (catalog.device.isUpdated (issued "1") (some issuedManifest) issuedRecord)
          (reissued "1") fun res _ ↦ res = .ok false := by
  have hregular : (issue "1").Regular issueFiles := ⟨by decide, by decide, by decide⟩
  have hmanifest : (reissued "1").outlook.manifestOf (issued "1") = .ok (some issuedManifest) := rfl
  refine ⟨⟨hregular, hmanifest⟩, ?_⟩
  refine shortcut_agrees (runs_reissued "1") hregular hmanifest (recordOf?_reissued "1") rfl
    (fun _ origin horigin ↦ ?_) (fun _ ↦ by decide) (reissued "1") rfl true
  have horigins : Origins.next (fun _ ↦ none) (outlook { published := issue "1" })
      (issue "1").forms (issued "1").formId = some (issued "1") := rfl
  rw [horigins] at horigin
  cases horigin
  rfl

/-! ### What the provisos are needed for -/

/-- A server with one form without a manifest. -/
def written (content : String) : Published where
  forms := [{ formId := "a", contentHash := content }]

/-- A device after a pass over a server with one content of a form, which then publishes another. -/
def rewritten (first second : String) : Rehearsal :=
  { catalog.synchronize.after { published := written first } with
    published := written second
    holdings :=
      { (catalog.synchronize.after { published := written first }).holdings with failing := [] } }

/-- Two hashes without a label have the same digest. -/
theorem exists_digest_collision :
    ∃ a b : String, ContentKey.label.isPrefixOf a.toList = false ∧
      ContentKey.label.isPrefixOf b.toList = false ∧ a ≠ b ∧
        ContentKey.ofText a = ContentKey.ofText b := by
  have hfinite : Finite UInt8 := Finite.of_injective UInt8.toFin fun a b h ↦ UInt8.toFin_inj.mp h
  let text (n : ℕ) : String := String.ofList (List.replicate n 'x')
  have hplain (n : ℕ) : ContentKey.label.isPrefixOf (text n).toList = false := by
    unfold ContentKey.label
    cases n <;> simp [text, List.replicate_succ, List.isPrefixOf]
  -- There are more texts than digests.
  obtain ⟨m, -, n, -, hne, heq⟩ := Set.infinite_univ.exists_ne_map_eq_of_mapsTo
    (f := fun n ↦ Digest.Md5.digest (Bytes.ofText (text n))) (t := {l : Bytes | l.length = 16})
    (fun n _ ↦ Digest.Md5.length_digest _) (List.finite_length_eq UInt8 16)
  refine ⟨text m, text n, hplain m, hplain n, fun htext ↦ hne ?_, congrArg Bytes.hex heq⟩
  have hlength := congrArg (fun s ↦ s.toList.length) htext
  simpa [text] using hlength

theorem regular_written {content : String} (h : ContentKey.LabelledOnce content) :
    (written content).Regular listing where
  nodup := List.nodup_singleton _
  labels d hd := by
    obtain rfl := List.mem_singleton.mp hd
    exact h
  manifests m hm := by cases hm

/-- A form that comes in a new version takes the shortcut although the comparison in full finds its
media missing; and so does a form whose content changes to another text with the same digest. -/
theorem shortcut_misses_version :
    (∃ origins, Runs issueFiles origins (reissued "2") ∧ (issue "2").Regular issueFiles ∧
      issued "2" ∈ (reissued "2").published.forms ∧
      (reissued "2").outlook.manifestOf (issued "2") = .ok (some issuedManifest) ∧
      Catalog.recordOf? (reissued "2").holdings.records "a" = some issuedRecord ∧
      issuedRecord.seenKey = some ((issued "2").key (some issuedManifest)) ∧
      Returns (catalog.device.isUpdated (issued "2") (some issuedManifest) issuedRecord)
        (reissued "2") fun updated _ ↦ updated = true) ∧
    ∃ a b origins d record, Runs issueFiles origins (rewritten a b) ∧
      (written b).Regular issueFiles ∧ d ∈ (rewritten a b).published.forms ∧
      (rewritten a b).outlook.manifestOf d = .ok none ∧
      Catalog.recordOf? (rewritten a b).holdings.records d.formId = some record ∧
      record.seenKey = some (d.key none) ∧
      Returns (catalog.device.isUpdated d none record) (rewritten a b) fun updated _ ↦
        updated = true := by
  refine ⟨⟨_, runs_reissued "2", ⟨by decide, by decide, by decide⟩, List.mem_singleton.mpr rfl,
    rfl, recordOf?_reissued "2", rfl, by decide +kernel⟩, ?_⟩
  obtain ⟨a, b, ha, hb, hne, hdigest⟩ := exists_digest_collision
  have hstripA := ContentKey.stripLabel_of_unlabelled ha
  have hstripB := ContentKey.stripLabel_of_unlabelled hb
  have hkey : ContentKey.ofForm a none = ContentKey.ofForm b none :=
    ContentKey.ofForm_eq_iff.mpr ⟨by rw [hstripA, hstripB, hdigest], rfl⟩
  have hregular : (written a).Regular issueFiles :=
    regular_written (ContentKey.labelledOnce_of_unlabelled ha)
  have hrun : ∃ plan r₁, catalog.planWith true { published := written a } = .ok plan r₁ :=
    ⟨_, _, rfl⟩
  obtain ⟨plan, r₁, hplan⟩ := hrun
  refine ⟨a, b, _, { formId := "a", contentHash := b },
    ⟨"a", ContentKey.stripLabel a, none, "", some (ContentKey.ofForm a none)⟩,
    .publish (.pass (.start _ rfl rfl) hregular hplan) (written b) [],
    regular_written (ContentKey.labelledOnce_of_unlabelled hb), List.mem_singleton.mpr rfl, rfl,
    rfl, congrArg some hkey, true, rewritten a b, ?_, rfl⟩
  unfold Device.isUpdated
  rw [if_pos]
  · rfl
  · rw [hstripA, hstripA, hstripB]
    exact hne.symm

end Rehearsal

end Memory

end FormCatalog
