import FormCatalog.Catalog.Trial
import FormCatalog.Proofs.Catalog.Frame
import FormCatalog.Proofs.Catalog.Records
import FormCatalog.Proofs.Catalog.Rehearsal

/-!
# What a failed pass does to a pending download

A comparison in full remembers the new key of a form long before the form is downloaded. When a pass
breaks off in between, the next comparison finds that key and takes the form to be unchanged. So a
pending download survives a failed pass exactly when the device lacks the form, or when remembering
its key is not the last thing that the pass did with it (`preview_after_failed_pass`). A manifest
that cannot be fetched after the comparison is enough to lose a download
(`failed_pass_loses_download`); a download that the device refuses is not lost, because its key is
forgotten.

`Follows` is what the calls of a pass keep: the server answers as before, and as long as the form
has not arrived its record differs from the old one only in the key, as the deeds say.
-/

set_option autoImplicit false
set_option relaxedAutoImplicit false

namespace FormCatalog

open Op

namespace Memory.Trial

/-! ### Calls -/

theorem ends_onStage {α : Type} {x : Op Rehearsal α} {t : Trial}
    {post : Except Fault α → Trial → Prop} :
    Ends (onStage x) t post ↔
      Ends x t.rehearsal fun r u ↦ post r { t with rehearsal := u } :=
  ends_within

theorem ends_nextFate {t : Trial} {post : Except Fault Fate → Trial → Prop} :
    Ends nextFate t post ↔
      post (.ok (t.fates.headD .carriedOut)) { t with fates := t.fates.tail } := Iff.rfl

/-- Where nothing goes wrong, a call is what it calls. -/
theorem ends_call_of_calm {α : Type} {x : Op Trial α} {t : Trial}
    {post : Except Fault α → Trial → Prop} (ht : t.fates = []) :
    Ends (call x) t post ↔ Ends x t post := by
  obtain ⟨rehearsal, fates, deeds⟩ := t
  cases ht
  exact Iff.rfl

/-- What a call keeps, whatever its fate: what the thing called keeps, if the fates to come do not
matter. -/
theorem keeps_call {α : Type} {x : Op Trial α} {inv : Trial → Prop} (hx : Keeps inv x)
    (hfates : ∀ t fates, inv t → inv { t with fates }) : Keeps inv (call x) := by
  intro t ht
  unfold call
  rw [ends_bind]
  have htail := hfates t t.fates.tail ht
  rw [ends_nextFate, Next]
  cases t.fates.headD .carriedOut with
  | carriedOut => exact hx _ htail
  | fails fault => exact htail
  | failsLate fault => exact (hx.bind fun _ ↦ keeps_throw) _ htail

/-- With nothing going wrong, the catalog of a trial answers by its contents. -/
theorem catalog_shows (o : Outlook) :
    catalog.Shows o fun t ↦ t.fates = [] ∧ t.rehearsal.outlook = o where
  formList t ht := by
    refine (ends_call_of_calm ht.1).mpr (ends_onStage.mpr ?_)
    exact ((Rehearsal.catalog_shows o).formList _ ht.2).mono fun r u h ↦ ⟨h.1, ht.1, h.2⟩
  manifest url t ht := by
    refine (ends_call_of_calm ht.1).mpr (ends_onStage.mpr ?_)
    exact ((Rehearsal.catalog_shows o).manifest url _ ht.2).mono fun r u h ↦ ⟨h.1, ht.1, h.2⟩
  records t ht := by
    refine (ends_call_of_calm ht.1).mpr (ends_onStage.mpr ?_)
    exact ((Rehearsal.catalog_shows o).records _ ht.2).mono fun r u h ↦ ⟨h.1, ht.1, h.2⟩
  mediaFiles id version t ht := by
    refine (ends_call_of_calm ht.1).mpr (ends_onStage.mpr ?_)
    exact ((Rehearsal.catalog_shows o).mediaFiles id version _ ht.2).mono
      fun r u h ↦ ⟨h.1, ht.1, h.2⟩
  note e t ht := ht

/-! ### The record of one form during a pass -/

/-- The key remembered for a form after the deeds, given the one from before. -/
def seenAfter (deeds : List Deed) (formId : String) (before : Option String) : Option String :=
  match deeds.find? (·.formId = formId) with
  | some (.remembered _ key) => some key
  | some (.refused _) => none
  | _ => before

theorem seenAfter_cons_of_ne {deed : Deed} {formId : String} (h : deed.formId ≠ formId)
    (deeds : List Deed) : seenAfter (deed :: deeds) formId = seenAfter deeds formId := by
  funext before
  unfold seenAfter
  rw [List.find?_cons_of_neg (by simpa using h)]

/-- A key that was not there before is there in the end when remembering it came last. -/
theorem seenAfter_eq_some_iff {t : Trial} {formId key : String} {before : Option String}
    (hbefore : before ≠ some key) :
    seenAfter t.deeds formId before = some key ↔
      t.lastDeed? formId = some (.remembered formId key) := by
  unfold seenAfter lastDeed?
  cases h : t.deeds.find? (·.formId = formId) with
  | none => simpa using hbefore
  | some deed =>
    have hid : deed.formId = formId := by simpa using List.find?_some h
    cases deed with
    | remembered id k =>
      obtain rfl : id = formId := hid
      simp
    | refused id => simp
    | deleted id => simpa using hbefore
    | downloaded id => simpa using hbefore

/-- The server answers by the outlook, and until the form arrives its record is the old one but for
the key that the deeds left, and its media files are the old ones. -/
structure Follows (o : Outlook) (formId : String) (t : Trial) : Prop where
  listed : t.rehearsal.outlook.listed = o.listed
  manifestAt : t.rehearsal.outlook.manifestAt = o.manifestAt
  record : .downloaded formId ∉ t.deeds →
    Catalog.recordOf? t.rehearsal.holdings.records formId =
      (Catalog.recordOf? o.records formId).map
        fun r ↦ { r with seenKey := seenAfter t.deeds formId r.seenKey }
  media : .downloaded formId ∉ t.deeds →
    ∀ version, t.rehearsal.outlook.media formId version = o.media formId version

/-- The trial after a deed that left these holdings. -/
def after (t : Trial) (deed : Deed) (h : Holdings) : Trial :=
  { t with rehearsal := t.rehearsal.withHoldings h, deeds := deed :: t.deeds }

namespace Follows

variable {o : Outlook} {formId : String} {t : Trial}

/-- A deed with another form that leaves the record and the media of this one as they were. -/
theorem after_of_ne (h : Follows o formId t) (deed : Deed) (hne : deed.formId ≠ formId)
    {holdings : Holdings}
    (hrecord : Catalog.recordOf? holdings.records formId =
      Catalog.recordOf? t.rehearsal.holdings.records formId)
    (hmedia : ∀ version,
      holdings.mediaAt (formId, version) = t.rehearsal.holdings.mediaAt (formId, version)) :
    Follows o formId (t.after deed holdings) where
  listed := h.listed
  manifestAt := h.manifestAt
  record hnot := by
    have hnot' : .downloaded formId ∉ t.deeds := fun hmem ↦ hnot (List.mem_cons_of_mem _ hmem)
    change Catalog.recordOf? holdings.records formId = Option.map
      (fun r : FormRecord ↦ { r with seenKey := seenAfter (deed :: t.deeds) formId r.seenKey }) _
    rw [hrecord, h.record hnot', seenAfter_cons_of_ne hne]
  media hnot version :=
    (hmedia version).trans (h.media (fun hmem ↦ hnot (List.mem_cons_of_mem _ hmem)) version)

/-- A deed that changes nothing but the key of its form, to what the deed says. -/
theorem after_revise (h : Follows o formId t) (deed : Deed) (key : Option String)
    {holdings : Holdings}
    (hdeed : ∀ before, seenAfter (deed :: t.deeds) deed.formId before = key)
    (hrecords : holdings.records =
      Holdings.revise deed.formId (fun r ↦ { r with seenKey := key }) t.rehearsal.holdings.records)
    (hmedia : holdings.media = t.rehearsal.holdings.media) :
    Follows o formId (t.after deed holdings) where
  listed := h.listed
  manifestAt := h.manifestAt
  record hnot := by
    have hnot' : .downloaded formId ∉ t.deeds := fun hmem ↦ hnot (List.mem_cons_of_mem _ hmem)
    change Catalog.recordOf? holdings.records formId = Option.map
      (fun r : FormRecord ↦ { r with seenKey := seenAfter (deed :: t.deeds) formId r.seenKey }) _
    have hrevise := Holdings.recordOf?_revise
      (f := fun r ↦ { r with seenKey := key }) (fun _ ↦ rfl) deed.formId formId
      t.rehearsal.holdings.records
    rw [hrecords, hrevise, h.record hnot']
    by_cases hid : deed.formId = formId
    · subst hid
      rw [if_pos rfl, Option.map_map]
      simp only [Function.comp_def, hdeed]
    · rw [if_neg hid, seenAfter_cons_of_ne hid]
  media hnot version := by
    have hold := h.media (fun hmem ↦ hnot (List.mem_cons_of_mem _ hmem)) version
    change holdings.mediaAt (formId, version) = _
    unfold Holdings.mediaAt
    rw [hmedia]
    exact hold

theorem remember (h : Follows o formId t) (id key : String) :
    Follows o formId (t.after (.remembered id key) (t.rehearsal.holdings.mark id key)) :=
  h.after_revise _ (some key) (fun _ ↦ by simp [seenAfter, Deed.formId]) rfl rfl

theorem refuse (h : Follows o formId t) (id : String) :
    Follows o formId (t.after (.refused id) (t.rehearsal.holdings.refuse id)) :=
  h.after_revise _ none (fun _ ↦ by simp [seenAfter, Deed.formId]) rfl rfl

theorem delete (h : Follows o formId t) {id : String} (hne : id ≠ formId) :
    Follows o formId (t.after (.deleted id) (t.rehearsal.holdings.drop id)) := by
  refine h.after_of_ne (.deleted id) hne ?_ fun _ ↦ rfl
  have hfilter := Holdings.recordOf?_filter (fun i ↦ decide (i ≠ id)) t.rehearsal.holdings.records
    formId
  rwa [if_pos (by simpa using Ne.symm hne)] at hfilter

theorem receive (h : Follows o formId t) (x : Details) :
    Follows o formId (t.after (.downloaded x.formId) (t.rehearsal.holdings.receive x)) := by
  by_cases hid : x.formId = formId
  · subst hid
    exact ⟨h.listed, h.manifestAt, fun hnot ↦ absurd List.mem_cons_self hnot,
      fun hnot ↦ absurd List.mem_cons_self hnot⟩
  · refine h.after_of_ne (.downloaded x.formId) hid (Holdings.recordOf?_put_of_ne hid _)
      fun version ↦ ?_
    rw [Holdings.mediaAt_receive, if_neg fun heq ↦ hid (Prod.mk.inj heq).1]

theorem withFates (h : Follows o formId t) (fates : List Fate) :
    Follows o formId { t with fates } :=
  ⟨h.listed, h.manifestAt, h.record, h.media⟩

end Follows

/-! ### A whole pass -/

private theorem keeps_server {α : Type} {o : Outlook} {formId : String} {x : Op Rehearsal α}
    (hx : ∀ r, Ends x r fun _ u ↦ u.outlook = r.outlook ∧ u.holdings = r.holdings) :
    Keeps (Follows o formId) (call (onStage x)) := by
  refine keeps_call (fun t ht ↦ ?_) fun t fates ht ↦ ht.withFates fates
  rw [ends_onStage]
  refine (hx t.rehearsal).mono ?_
  rintro _ u ⟨hout, hhold⟩
  exact ⟨hout ▸ ht.listed, hout ▸ ht.manifestAt, hhold ▸ ht.record, hout ▸ ht.media⟩

/-- Taking a snapshot, every call may come to any end and the form is still followed. -/
theorem observes_follows (o : Outlook) (formId : String) : catalog.Observes (Follows o formId) where
  formList := keeps_server fun r ↦ Rehearsal.ends_formList.mpr ⟨rfl, rfl⟩
  manifest url := keeps_server fun r ↦ Rehearsal.ends_manifest.mpr ⟨rfl, rfl⟩
  records := keeps_server fun r ↦ Rehearsal.ends_records.mpr ⟨rfl, rfl⟩
  mediaFiles id version := by
    refine keeps_call (fun t ht ↦ ?_) fun t fates ht ↦ ht.withFates fates
    rw [ends_onStage, Rehearsal.ends_mediaFiles]
    exact ⟨ht.listed, ht.manifestAt, ht.record, ht.media⟩
  remember id key :=
    keeps_call (fun _ ht ↦ ht.remember id key) fun _ fates ht ↦ ht.withFates fates
  note e t ht := ⟨ht.listed, ht.manifestAt, ht.record, ht.media⟩

theorem keeps_delete {o : Outlook} {formId id : String} (hne : id ≠ formId) :
    Keeps (Follows o formId) (catalog.device.delete id) :=
  keeps_call (fun _ ht ↦ ht.delete hne) fun _ fates ht ↦ ht.withFates fates

theorem keeps_download (o : Outlook) (formId : String) (x : Details) :
    Keeps (Follows o formId) (download x) := by
  intro t ht
  unfold download
  rw [ends_bind, ends_attempt, ends_onStage]
  change Ends (Rehearsal.catalog.device.download x) _ _
  rw [Rehearsal.ends_download]
  split
  · exact ht.refuse x.formId
  · exact ht.receive x

theorem keeps_callDownload (o : Outlook) (formId : String) (x : Details) :
    Keeps (Follows o formId) (catalog.device.download x) := by
  intro t ht
  change Ends (callDownload x.formId (download x)) t _
  unfold callDownload
  rw [ends_bind, ends_nextFate, Next]
  have htail := ht.withFates t.fates.tail
  cases t.fates.headD .carriedOut with
  | carriedOut => exact keeps_download o formId x _ htail
  | failsLate fault => exact ((keeps_download o formId x).bind fun _ ↦ keeps_throw) _ htail
  | fails fault =>
    cases fault with
    | download id message => exact htail.refuse x.formId
    | _ => exact htail

/-- However a pass breaks off, the form is followed if it is listed. -/
theorem follows_of_synchronize {o : Outlook} {ds : List Descriptor} (hlisted : o.listed = .ok ds)
    {formId : String} (hmem : formId ∈ ds.map (·.formId)) :
    Keeps (Follows o formId) catalog.synchronize := by
  have hlist : ∀ t, Follows o formId t →
      Ends catalog.server.formList t fun r _ ↦ ∀ ds', r = .ok ds' → ds' = ds := by
    intro t ht
    change Ends (call (onStage Rehearsal.catalog.server.formList)) t _
    unfold call
    rw [ends_bind, ends_nextFate, Next]
    have hanswer : t.rehearsal.outlook.listed = .ok ds := ht.listed.trans hlisted
    cases t.fates.headD .carriedOut with
    | fails fault => exact fun _ h ↦ by cases h
    | carriedOut =>
      rw [ends_onStage, Rehearsal.ends_formList, hanswer]
      rintro _ ⟨⟩
      rfl
    | failsLate fault =>
      rw [ends_bind, ends_onStage, Rehearsal.ends_formList, hanswer]
      exact fun _ h ↦ by cases h
  refine (observes_follows o formId).ends_synchronize hlist (fun id hid ↦ ?_)
    (keeps_callDownload o formId)
  exact keeps_delete fun heq ↦ hid (heq ▸ hmem)

/-- A form that waited for its download and has not arrived waits as before, or it is taken to be
unchanged because remembering its key came last. -/
theorem Follows.entry_of_pending {o : Outlook} {d : Descriptor} {t : Trial}
    (h : Follows o d.formId t) (hnot : .downloaded d.formId ∉ t.deeds)
    (hpending : (o.entry d).needsDownload = true) :
    ((o.entry d).notOnDevice = true ∨
        t.lastDeed? d.formId ≠ some (.remembered d.formId (o.entry d).key)) ∧
        t.rehearsal.outlook.entry d = o.entry d ∨
      ¬((o.entry d).notOnDevice = true ∨
        t.lastDeed? d.formId ≠ some (.remembered d.formId (o.entry d).key)) ∧
        (t.rehearsal.outlook.entry d).needsDownload = false := by
  obtain ⟨-, hentry, hnew⟩ | ⟨r, -, hseen, hnew, hentry⟩ :=
    Outlook.entry_of_seen _ h.manifestAt (h.record hnot) (h.media hnot) hpending
  · exact Or.inl ⟨Or.inl hnew, hentry⟩
  · have hupdated : (o.entry d).updated = true := by
      simpa [Details.needsDownload, hnew] using hpending
    have hlast : seenAfter t.deeds d.formId r.seenKey = some (o.entry d).key ↔ _ :=
      seenAfter_eq_some_iff hseen
    rw [hentry, hnew]
    by_cases hkey : t.lastDeed? d.formId = some (.remembered d.formId (o.entry d).key)
    · refine Or.inr ⟨by simp [hkey], ?_⟩
      simp [Details.needsDownload, hnew, hlast.mpr hkey]
    · refine Or.inl ⟨Or.inr hkey, ?_⟩
      simp only [ne_eq, hlast, hkey, not_false_eq_true, decide_true]
      rw [← hupdated]

/-- Where nothing goes wrong, a preview is the plan of what there is, and changes nothing of it. -/
theorem ends_preview_calm (t : Trial) :
    Ends catalog.preview t.calm fun r u ↦
      r = t.rehearsal.outlook.plan ∧ u.rehearsal.outlook = t.rehearsal.outlook :=
  ((catalog_shows t.rehearsal.outlook).ends_preview (s := t.calm) ⟨rfl, rfl⟩).mono
    fun _ _ h ↦ ⟨h.1, h.2.2⟩

theorem follows_start {o : Outlook} {t : Trial} (ho : t.rehearsal.outlook = o) (formId : String)
    (fates : List Fate) : Follows o formId (t.withFates fates) where
  listed := congrArg Outlook.listed ho
  manifestAt := congrArg Outlook.manifestAt ho
  record _ := by
    rw [← ho]
    exact Option.map_id'.symm
  media _ version := by
    rw [← ho]
    rfl

/-- A preview that lists a form for download, and a pass over the same list that breaks off, for
whatever reason and at whatever call, before the form has arrived: the next preview succeeds, and it
lists the form again exactly if the device lacks it or remembering its key was not the last thing
done with it. A form that is not listed again counts as unchanged. -/
theorem preview_after_failed_pass (t : Trial) (fates : List Fate) {plan : Plan} {t₁ t₂ : Trial}
    {x : Details} {fault : Fault}
    (hplan : catalog.preview t.calm = .ok plan t₁) (hx : x ∈ plan.toDownload)
    (hpass : catalog.synchronize (t₁.withFates fates) = .error fault t₂)
    (hpending : .downloaded x.formId ∉ t₂.deeds) :
    Returns catalog.preview t₂.calm fun plan' _ ↦
      (x ∈ plan'.toDownload ↔
        x.notOnDevice = true ∨ t₂.lastDeed? x.formId ≠ some (.remembered x.formId x.key)) ∧
      (x ∉ plan'.toDownload → x.formId ∈ plan'.unchanged) := by
  obtain ⟨hseen, ho⟩ := (ends_preview_calm t).of_ok hplan
  obtain ⟨ds, hlisted, rfl, hagain⟩ := Outlook.plan_of_same_server hseen.symm
  obtain ⟨hentry, hneeds⟩ := Plan.mem_toDownload_of.mp hx
  obtain ⟨d, hd, rfl⟩ := List.mem_map.mp hentry
  have hend : Follows t.rehearsal.outlook d.formId t₂ :=
    (follows_of_synchronize hlisted (List.mem_map_of_mem hd) _
      (follows_start ho d.formId fates)).of_error hpass
  have hplan' := hagain _ hend.listed hend.manifestAt
  refine Ends.returns ((ends_preview_calm t₂).mono fun r u h ↦ ⟨h.1.trans hplan', ?_⟩)
  rw [Outlook.entry_mem_toDownload_iff hd hneeds]
  obtain ⟨hkept, heq⟩ | ⟨hlost, hno⟩ := hend.entry_of_pending hpending hneeds
  · exact ⟨iff_of_true heq hkept, fun hne ↦ absurd heq hne⟩
  · have hne : t₂.rehearsal.outlook.entry d ≠ t.rehearsal.outlook.entry d := by
      intro heq
      rw [heq, hneeds] at hno
      cases hno
    exact ⟨iff_of_false hne hlost, fun _ ↦ Outlook.formId_mem_unchanged hd hno⟩

/-- A server with a form in a new state and another form with a manifest, and a device with the old
state of the first. -/
def renewal : Trial where
  rehearsal :=
    { published :=
        { forms :=
            [ { formId := "a", contentHash := "md5:new", version := some "server", title := "a",
                downloadUrl := "http://example.com/a" },
              { formId := "b", contentHash := "md5:b", version := some "server", title := "b",
                downloadUrl := "http://example.com/b",
                manifestUrl := some "http://example.com/b-manifest" } ]
          manifests := [("http://example.com/b-manifest", ⟨"m", []⟩)] }
      holdings :=
        { records := [{ formId := "a", contentHash := "old", version := some "server" }] } }

/-- The list, the records and the first comparison come about; the manifest of the second form does
not. -/
def outage : List Fate :=
  [.carriedOut, .carriedOut, .carriedOut, .fails (.sync (.transport "timed out"))]

/-- Everything comes about but the first download. -/
def refusal : List Fate :=
  [.carriedOut, .carriedOut, .carriedOut, .carriedOut, .carriedOut,
    .fails (.download "a" "refused")]

theorem preview_after_refusal :
    Returns catalog.preview renewal.calm fun plan t₁ ↦
      ∃ x ∈ plan.toDownload, Raises catalog.synchronize (t₁.withFates refusal) fun _ t₂ ↦
        .downloaded x.formId ∉ t₂.deeds ∧
        Returns catalog.preview t₂.calm fun plan' _ ↦
          (x ∈ plan'.toDownload ↔
            x.notOnDevice = true ∨ t₂.lastDeed? x.formId ≠ some (.remembered x.formId x.key)) ∧
          (x ∉ plan'.toDownload → x.formId ∈ plan'.unchanged) := by
  obtain ⟨plan, t₁, hplan, x, hx, fault, t₂, hpass, hpending⟩ :
      Returns catalog.preview renewal.calm fun plan t₁ ↦
        ∃ x ∈ plan.toDownload, Raises catalog.synchronize (t₁.withFates refusal) fun _ t₂ ↦
          .downloaded x.formId ∉ t₂.deeds := by
    decide +kernel
  exact ⟨plan, t₁, hplan, x, hx, fault, t₂, hpass, hpending,
    preview_after_failed_pass renewal refusal hplan hx hpass hpending⟩

/-- A manifest that cannot be fetched loses the download of a form that was listed before it: the
form was to be downloaded, has not arrived, and is not listed again. -/
theorem failed_pass_loses_download :
    Returns catalog.preview renewal.calm fun plan t₁ ↦
      ∃ x ∈ plan.toDownload, Raises catalog.synchronize (t₁.withFates outage) fun _ t₂ ↦
        .downloaded x.formId ∉ t₂.deeds ∧
        Returns catalog.preview t₂.calm fun plan' _ ↦
          x.formId ∉ plan'.toDownload.map (·.formId) := by
  decide +kernel

end Memory.Trial

end FormCatalog
