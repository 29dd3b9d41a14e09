import FormCatalog.Proofs.Catalog.Records
import FormCatalog.Proofs.Catalog.Rehearsal

/-!
# The effect of a pass on a device in memory

The holdings after a pass are a fold over the server's list (what comparing each form leaves),
followed by folds over the plan (`Holdings.drop` for every deletion, `Holdings.attempt` for every
download). `ends_snapshot` gives the first part together with the snapshot itself, `ends_carryOut`
the second part together with the forms that failed, and `ends_synchronize` the whole pass. Here the
server's counters are the only thing left open.
-/

set_option autoImplicit false
set_option relaxedAutoImplicit false

namespace FormCatalog

open Op

namespace Outlook

/-- Whether a comparison goes beyond the remembered key. -/
def comparesInFull (o : Outlook) (d : Descriptor) : Bool :=
  (Catalog.recordOf? o.records d.formId).any fun r ↦ r.seenKey ≠ some (d.key (o.manifest? d))

/-- Whether a comparison asks for the media files of the form. -/
def asksForMedia (o : Outlook) (d : Descriptor) : Bool :=
  (o.manifest? d).isSome &&
    (Catalog.recordOf? o.records d.formId).any fun r ↦ r.seenKey ≠ some (d.key (o.manifest? d)) &&
      ContentKey.stripLabel d.contentHash = ContentKey.stripLabel r.contentHash

variable {o : Outlook} {d : Descriptor}

theorem comparesInFull_of_asksForMedia (h : o.asksForMedia d = true) :
    o.comparesInFull d = true := by
  unfold asksForMedia at h
  unfold comparesInFull
  cases hrecord : Catalog.recordOf? o.records d.formId with
  | none => simp [hrecord] at h
  | some record =>
    rw [hrecord, Bool.and_eq_true, Option.any_some, Bool.and_eq_true] at h
    exact h.2.1

/-- Nothing is remembered or asked for of a form whose record has the published key. -/
theorem comparesInFull_of_seenKey {record : FormRecord}
    (hrecord : Catalog.recordOf? o.records d.formId = some record)
    (hkey : record.seenKey = some (d.key (o.manifest? d))) : o.comparesInFull d = false := by
  simp [comparesInFull, hrecord, hkey]

end Outlook

namespace Memory

namespace Holdings

/-- The holdings after a form was compared. -/
def notice (o : Outlook) (remembering : Bool) (h : Holdings) (d : Descriptor) : Holdings :=
  let h := { h with mediaCalls := h.mediaCalls + (o.asksForMedia d).toNat }
  if remembering && o.comparesInFull d then h.mark d.formId (d.key (o.manifest? d)) else h

/-- The holdings after one attempt at a download. -/
def attempt (h : Holdings) (x : Details) : Holdings :=
  if x.formId ∈ h.failing then h.refuse x.formId else h.receive x

/-- The holdings after the deletions and the downloads of a plan. -/
def carry (h : Holdings) (plan : Plan) : Holdings :=
  plan.toDownload.foldl attempt (plan.toDelete.foldl (fun h r ↦ h.drop r.formId) h)

/-- The forms of a plan whose download fails. -/
def failures (h : Holdings) (plan : Plan) : List String :=
  (plan.toDownload.map (·.formId)).filter (· ∈ h.failing)

/-- A form that is not compared in full leaves nothing behind. -/
theorem notice_of_not_comparesInFull {o : Outlook} {d : Descriptor}
    (hfull : o.comparesInFull d = false) (remembering : Bool) (h : Holdings) :
    h.notice o remembering d = h := by
  have hasks : o.asksForMedia d = false := by
    by_contra hne
    rw [Bool.not_eq_false] at hne
    rw [Outlook.comparesInFull_of_asksForMedia hne] at hfull
    cases hfull
  unfold notice
  rw [hfull, hasks, Bool.and_false]
  rfl

@[simp] theorem media_notice (o : Outlook) (remembering : Bool) (h : Holdings) (d : Descriptor) :
    (h.notice o remembering d).media = h.media := by
  unfold notice
  split <;> rfl

@[simp] theorem failing_notice (o : Outlook) (remembering : Bool) (h : Holdings) (d : Descriptor) :
    (h.notice o remembering d).failing = h.failing := by
  unfold notice
  split <;> rfl

@[simp] theorem failing_attempt (h : Holdings) (x : Details) :
    (h.attempt x).failing = h.failing := by
  unfold attempt
  split <;> rfl

theorem failing_foldl {β : Type} {f : Holdings → β → Holdings}
    (hf : ∀ h b, (f h b).failing = h.failing) (l : List β) (h : Holdings) :
    (l.foldl f h).failing = h.failing := by
  refine List.foldlRecOn (motive := fun g ↦ g.failing = h.failing) l f rfl fun g hg b _ ↦ ?_
  rw [hf, hg]

/-- The ids that comparing a list remembers keys for, the last one first. -/
theorem remembered_foldl_notice (o : Outlook) (ds : List Descriptor) (h : Holdings) :
    (ds.foldl (notice o true) h).remembered =
      ((ds.filter o.comparesInFull).map (·.formId)).reverse ++ h.remembered := by
  induction ds generalizing h with
  | nil => rfl
  | cons d rest ih =>
    rw [List.foldl_cons, ih, List.filter_cons]
    unfold notice
    cases o.comparesInFull d with
    | false => rfl
    | true => simp [mark]

/-- How often comparing a list asks for media files. -/
theorem mediaCalls_foldl_notice (o : Outlook) (remembering : Bool) (ds : List Descriptor)
    (h : Holdings) :
    (ds.foldl (notice o remembering) h).mediaCalls = h.mediaCalls + ds.countP o.asksForMedia := by
  induction ds generalizing h with
  | nil => rfl
  | cons d rest ih =>
    have hstep : (h.notice o remembering d).mediaCalls =
        h.mediaCalls + (o.asksForMedia d).toNat := by
      unfold notice
      split <;> rfl
    rw [List.foldl_cons, ih, hstep, List.countP_cons]
    cases o.asksForMedia d with
    | false => simp
    | true => simp [Nat.add_assoc, Nat.add_comm]

/-- Carrying a plan out remembers nothing and asks for no media files. -/
theorem asked_carry (h : Holdings) (plan : Plan) :
    (h.carry plan).remembered = h.remembered ∧ (h.carry plan).mediaCalls = h.mediaCalls := by
  unfold carry
  refine List.foldlRecOn (motive := fun g : Holdings ↦ g.remembered = h.remembered ∧
    g.mediaCalls = h.mediaCalls) _ _ ?_ fun g hg x _ ↦ ?_
  · refine List.foldlRecOn (motive := fun g : Holdings ↦ g.remembered = h.remembered ∧
      g.mediaCalls = h.mediaCalls) _ _ ⟨rfl, rfl⟩ fun g hg _ _ ↦ hg
  · unfold attempt
    split <;> exact hg

end Holdings

namespace Rehearsal

/-- The server answers by the outlook, and so does the device when asked for media files. -/
structure Sees (o : Outlook) (r : Rehearsal) : Prop where
  listed : r.outlook.listed = o.listed
  manifestAt : r.outlook.manifestAt = o.manifestAt
  media : r.outlook.media = o.media

variable {o : Outlook} {r : Rehearsal}

theorem Sees.of_media (h : Sees o r) {u : Rehearsal} (hpublished : u.published = r.published)
    (hmedia : u.holdings.media = r.holdings.media) : Sees o u where
  listed := by
    rw [← h.listed]
    exact congrArg Published.listAnswer hpublished
  manifestAt := by
    rw [← h.manifestAt]
    exact congrArg Published.manifestAnswer hpublished
  media := by
    rw [← h.media]
    funext formId version
    change Holdings.mediaAt _ _ = Holdings.mediaAt _ _
    unfold Holdings.mediaAt
    rw [hmedia]

/-- Fetching a manifest leaves the device alone. -/
theorem ends_manifestOf (h : Sees o r) (d : Descriptor) :
    Ends (catalog.manifestOf d) r fun res u ↦
      res = o.manifestOf d ∧ Sees o u ∧ u.holdings = r.holdings := by
  unfold Catalog.manifestOf Outlook.manifestOf
  cases d.manifestUrl with
  | none => exact ⟨rfl, h, rfl⟩
  | some url =>
    dsimp only
    split
    · exact ⟨rfl, h, rfl⟩
    · rw [ends_map, ends_manifest, h.manifestAt]
      exact ⟨rfl, ⟨h.listed, h.manifestAt, h.media⟩, rfl⟩

/-- The comparison in full, and what it asks of the device. -/
theorem ends_isUpdated (h : Sees o r) (d : Descriptor) (manifest : Option Manifest)
    (record : FormRecord) :
    Ends (catalog.device.isUpdated d manifest record) r fun res u ↦
      res = .ok (o.differs d manifest record) ∧
        u.published = r.published ∧ u.holdings =
          { r.holdings with
            mediaCalls := r.holdings.mediaCalls + (manifest.isSome &&
              ContentKey.stripLabel d.contentHash =
                ContentKey.stripLabel record.contentHash : Bool).toNat } := by
  unfold Device.isUpdated Outlook.differs
  by_cases hc : ContentKey.stripLabel d.contentHash = ContentKey.stripLabel record.contentHash
  · rw [if_neg (not_not_intro hc)]
    cases manifest with
    | none => exact ⟨by simp [hc], rfl, rfl⟩
    | some m =>
      rw [ends_bind, ends_mediaFiles, Next, h.media]
      exact ⟨by simp [hc], rfl, by simp [hc, withHoldings]⟩
  · rw [if_pos hc]
    exact ⟨by simp [hc], rfl, by simp [hc]⟩

/-- Comparing a listed form with its record gives its standing, and leaves behind what `notice`
says. -/
theorem ends_compare (h : Sees o r) (remembering : Bool) (d : Descriptor) :
    Ends (catalog.device.compare d (o.manifest? d) (Catalog.recordOf? o.records d.formId)
        remembering) r fun res u ↦
      res = .ok (o.standing d (o.manifest? d) (Catalog.recordOf? o.records d.formId)) ∧
        u.published = r.published ∧ u.holdings = r.holdings.notice o remembering d := by
  unfold Device.compare
  cases hrecord : Catalog.recordOf? o.records d.formId with
  | none =>
    refine ⟨rfl, rfl, ?_⟩
    simp [Holdings.notice, Outlook.asksForMedia, Outlook.comparesInFull, hrecord]
  | some record =>
    have hid : record.formId = d.formId := (Catalog.mem_of_recordOf? hrecord).2
    dsimp only
    by_cases hkey : record.seenKey = some (d.key (o.manifest? d))
    · rw [if_pos hkey]
      refine ⟨by simp [Outlook.standing, hkey], rfl, ?_⟩
      simp [Holdings.notice, Outlook.asksForMedia, Outlook.comparesInFull, hrecord, hkey]
    · have hfull : o.comparesInFull d = true := by
        simp [Outlook.comparesInFull, hrecord, hkey]
      have hasks : o.asksForMedia d = ((o.manifest? d).isSome &&
          ContentKey.stripLabel d.contentHash = ContentKey.stripLabel record.contentHash) := by
        simp [Outlook.asksForMedia, hrecord, hkey]
      rw [if_neg hkey, ends_bind]
      refine (ends_isUpdated h d (o.manifest? d) record).mono ?_
      rintro res u ⟨rfl, hpublished, hholdings⟩
      have hstanding : o.standing d (o.manifest? d) (some record) =
          ⟨false, o.differs d (o.manifest? d) record⟩ := by
        simp [Outlook.standing, hkey]
      have hnotice : r.holdings.notice o remembering d =
          if remembering then u.holdings.mark record.formId (d.key (o.manifest? d))
          else u.holdings := by
        unfold Holdings.notice
        rw [hfull, hasks, hholdings, hid, Bool.and_true]
      rw [Next, hstanding, hnotice]
      cases remembering with
      | false => cases o.differs d (o.manifest? d) record <;> exact ⟨rfl, hpublished, rfl⟩
      | true => cases o.differs d (o.manifest? d) record <;> exact ⟨rfl, hpublished, rfl⟩

/-- Annotating a listed form gives its entry, and leaves behind what comparing it does. -/
theorem ends_annotate (h : Sees o r) (remembering : Bool) (d : Descriptor) :
    Ends (catalog.annotate o.records remembering d) r fun res u ↦
      res = o.annotated d ∧ Sees o u ∧
        ∀ x, res = .ok x → u.holdings = r.holdings.notice o remembering d := by
  unfold Catalog.annotate
  rw [ends_bind]
  refine (ends_manifestOf h d).mono ?_
  rintro res u ⟨rfl, hu, hholdings⟩
  unfold Outlook.annotated
  cases hm : o.manifestOf d with
  | error e => exact ⟨rfl, hu, fun _ hx ↦ by cases hx⟩
  | ok manifest =>
    have hmanifest : o.manifest? d = manifest := by
      unfold Outlook.manifest?
      rw [hm]
      rfl
    subst hmanifest
    rw [Next, ends_bind]
    refine (ends_compare hu remembering d).mono ?_
    rintro res v ⟨rfl, hpublished, hnotice⟩
    refine ⟨rfl, hu.of_media hpublished (by rw [hnotice, Holdings.media_notice]), fun x hx ↦ ?_⟩
    rw [hnotice, hholdings]

/-- A snapshot is the snapshot of the outlook, and leaves behind what comparing each listed form
does. -/
theorem ends_snapshot (r : Rehearsal) (remembering : Bool) :
    Ends (catalog.snapshot remembering) r fun res u ↦
      res = r.outlook.snapshot ∧ Sees r.outlook u ∧
        ∀ ds xs, r.outlook.listed = .ok ds → res = .ok xs →
          u.holdings = ds.foldl (Holdings.notice r.outlook remembering) r.holdings := by
  unfold Catalog.snapshot Outlook.snapshot
  rw [ends_bind, ends_formList]
  cases r.outlook.listed with
  | error e => exact ⟨rfl, ⟨rfl, rfl, rfl⟩, fun _ _ h ↦ by cases h⟩
  | ok ds =>
    rw [Next, ends_bind, ends_records, Next, ends_bind, ends_note, Next]
    refine ends_mapM (fun done xs u ↦ done.mapM r.outlook.annotated = .ok xs ∧ Sees r.outlook u ∧
      u.holdings = done.foldl (Holdings.notice r.outlook remembering) r.holdings)
      ⟨rfl, ⟨rfl, rfl, rfl⟩, rfl⟩ ?_ ?_
    · rintro done d rest xs s hl ⟨hdone, hs, hholdings⟩
      refine (ends_annotate hs remembering d).mono ?_
      rintro res u ⟨rfl, hu, hnotice⟩
      cases hd : r.outlook.annotated d with
      | error e =>
        refine ⟨?_, hu, fun _ _ _ h ↦ by cases h⟩
        change _ = ds.mapM r.outlook.annotated
        rw [hl, List.mapM_append, List.mapM_cons, hdone, hd]
        rfl
      | ok x =>
        refine ⟨?_, hu, ?_⟩
        · rw [List.mapM_append, List.mapM_cons, hdone, hd]
          rfl
        · rw [hnotice x hd, hholdings, List.foldl_append]
          rfl
    · rintro xs u ⟨hxs, hu, hholdings⟩
      refine ⟨hxs.symm, hu, fun ds' _ hds _ ↦ ?_⟩
      cases hds
      exact hholdings

/-- Planning gives the snapshot of the outlook, set against the records that comparing left. -/
theorem ends_planWith (r : Rehearsal) (remembering : Bool) :
    Ends (catalog.planWith remembering) r fun res u ↦
      res = (Plan.of · u.holdings.records) <$> r.outlook.snapshot ∧ Sees r.outlook u ∧
        ∀ ds plan, r.outlook.listed = .ok ds → res = .ok plan →
          u.holdings = ds.foldl (Holdings.notice r.outlook remembering) r.holdings := by
  unfold Catalog.planWith
  rw [ends_bind]
  refine (ends_snapshot r remembering).mono ?_
  rintro res u ⟨rfl, hu, hholdings⟩
  cases hxs : r.outlook.snapshot with
  | error e => exact ⟨rfl, hu, fun _ _ _ h ↦ by cases h⟩
  | ok xs =>
    rw [Next, ends_bind, ends_records, Next]
    exact ⟨rfl, hu, fun ds _ hds _ ↦ hholdings ds xs hds hxs⟩

/-- One attempt at a download, and whether the form is counted as failed. -/
theorem ends_tryDownload (r : Rehearsal) (x : Details) :
    Ends (catalog.tryDownload x) r fun res u ↦
      res = .ok (if x.formId ∈ r.holdings.failing then some x.formId else none) ∧
        u.published = r.published ∧ u.holdings = r.holdings.attempt x := by
  unfold Catalog.tryDownload Holdings.attempt
  rw [ends_bind, ends_attempt, ends_download]
  by_cases hfail : x.formId ∈ r.holdings.failing
  · simp only [if_pos hfail]
    exact ⟨rfl, rfl, rfl⟩
  · simp only [if_neg hfail]
    exact ⟨rfl, rfl, rfl⟩

/-- The deletions of a plan. -/
theorem ends_deletes (r : Rehearsal) (records : List FormRecord) :
    Ends (records.forM catalog.delete) r fun res u ↦
      res = .ok () ∧ u.published = r.published ∧
        u.holdings = records.foldl (fun h record ↦ h.drop record.formId) r.holdings := by
  refine ends_forM (fun done u ↦ u.published = r.published ∧
    u.holdings = done.foldl (fun h record ↦ h.drop record.formId) r.holdings) ⟨rfl, rfl⟩ ?_
    fun u hu ↦ ⟨rfl, hu⟩
  rintro done record rest s - ⟨hpublished, hholdings⟩
  unfold Catalog.delete
  rw [ends_bind, ends_note, Next, ends_delete]
  refine ⟨hpublished, ?_⟩
  rw [List.foldl_append, ← hholdings]
  rfl

/-- The downloads of a plan, and the forms that are counted as failed. -/
theorem ends_downloads (r : Rehearsal) (xs : List Details) :
    Ends (xs.mapM catalog.tryDownload) r fun res u ↦
      u.published = r.published ∧ u.holdings = xs.foldl Holdings.attempt r.holdings ∧
        ∃ results, res = .ok results ∧
          results.filterMap id = (xs.map (·.formId)).filter (· ∈ r.holdings.failing) := by
  refine ends_mapM (fun done results u ↦ u.published = r.published ∧
    u.holdings = done.foldl Holdings.attempt r.holdings ∧
    results.filterMap id = (done.map (·.formId)).filter (· ∈ r.holdings.failing))
    ⟨rfl, rfl, rfl⟩ ?_ fun results u hu ↦ ⟨hu.1, hu.2.1, results, rfl, hu.2.2⟩
  rintro done x rest results s - ⟨hpublished, hholdings, hresults⟩
  have hfailing : s.holdings.failing = r.holdings.failing := by
    rw [hholdings, Holdings.failing_foldl Holdings.failing_attempt]
  refine (ends_tryDownload s x).mono ?_
  rintro res u ⟨rfl, hpub, hattempt⟩
  refine ⟨hpub.trans hpublished, ?_, ?_⟩
  · rw [hattempt, hholdings, List.foldl_append]
    rfl
  · rw [List.filterMap_append, hresults, List.map_append, List.filter_append, hfailing]
    by_cases hfail : x.formId ∈ r.holdings.failing
    · simp [hfail]
    · simp [hfail]

/-- Carrying a plan out changes the holdings as `carry` says, and ends in a fault if a download
failed. -/
theorem ends_carryOut (r : Rehearsal) (plan : Plan) :
    Ends (catalog.carryOut plan) r fun res u ↦
      u.published = r.published ∧ u.holdings = r.holdings.carry plan ∧
        res = if r.holdings.failures plan = [] then .ok ()
          else .error (.sync (.incomplete "" (r.holdings.failures plan))) := by
  unfold Catalog.carryOut
  rw [ends_bind]
  refine (ends_deletes r plan.toDelete).mono ?_
  rintro _ s ⟨rfl, hpublished, hdropped⟩
  rw [Next, ends_bind]
  refine (ends_downloads s plan.toDownload).mono ?_
  rintro _ u ⟨hpub, hholdings, results, rfl, hresults⟩
  have hfailing : s.holdings.failing = r.holdings.failing := by
    rw [hdropped, Holdings.failing_foldl]
    exact fun _ _ ↦ rfl
  have hfailed : results.filterMap id = r.holdings.failures plan := by
    rw [hresults, hfailing]
    rfl
  have hcarry : u.holdings = r.holdings.carry plan := by
    rw [hholdings, hdropped]
    rfl
  rw [Next]
  dsimp only
  rw [hfailed]
  by_cases hnone : r.holdings.failures plan = []
  · simp only [hnone]
    exact ⟨hpub.trans hpublished, hcarry, rfl⟩
  · simp only [if_pos hnone, if_neg hnone]
    exact ⟨hpub.trans hpublished, hcarry, rfl⟩

/-- A pass whose plan came about carries it out. -/
theorem ends_synchronize {r r₁ : Rehearsal} {plan : Plan}
    (hplan : catalog.planWith true r = .ok plan r₁) :
    Ends catalog.synchronize r fun res u ↦
      u.published = r₁.published ∧ u.holdings = r₁.holdings.carry plan ∧
        res = if r₁.holdings.failures plan = [] then .ok plan
          else .error (.sync (.incomplete "" (r₁.holdings.failures plan))) := by
  unfold Catalog.synchronize
  rw [ends_bind, ends_iff_of_ok hplan, Next, ends_bind]
  refine (ends_carryOut r₁ plan).mono ?_
  rintro res u ⟨hpublished, hholdings, rfl⟩
  split
  · exact ⟨hpublished, hholdings, rfl⟩
  · exact ⟨hpublished, hholdings, rfl⟩

/-- A pass whose plan is empty returns it and leaves the device as comparing left it. -/
theorem returns_synchronize_of_isEmpty {r r₁ : Rehearsal} {plan : Plan}
    (hplan : catalog.planWith true r = .ok plan r₁) (hempty : plan.isEmpty = true) :
    Returns catalog.synchronize r fun again u ↦ again = plan ∧ u.holdings = r₁.holdings := by
  unfold Plan.isEmpty at hempty
  rw [Bool.and_eq_true, List.isEmpty_iff, List.isEmpty_iff] at hempty
  refine Ends.returns (a := plan) ((ends_synchronize hplan).mono ?_)
  rintro res u ⟨-, hholdings, hres⟩
  have hfailures : r₁.holdings.failures plan = [] := by
    unfold Holdings.failures
    rw [hempty.1]
    rfl
  have hcarry : r₁.holdings.carry plan = r₁.holdings := by
    unfold Holdings.carry
    rw [hempty.1, hempty.2]
    rfl
  rw [if_pos hfailures] at hres
  exact ⟨hres, rfl, by rw [hholdings, hcarry]⟩

/-! ### A pass whose list and manifests came about -/

/-- The plan of a pass came about: all that is known of it and of the state it was made in. -/
structure Fetched (r r₁ : Rehearsal) (plan : Plan) : Prop where
  listed : r.outlook.listed = .ok r.published.forms
  reached : ∀ d ∈ r.published.forms, ∃ m, r.outlook.manifestOf d = .ok m
  plan_eq : plan = Plan.of (r.published.forms.map r.outlook.entry) r₁.holdings.records
  sees : Sees r.outlook r₁
  holdings : r₁.holdings = r.published.forms.foldl (Holdings.notice r.outlook true) r.holdings

theorem fetched_of_planWith {r r₁ : Rehearsal} {plan : Plan}
    (h : catalog.planWith true r = .ok plan r₁) : Fetched r r₁ plan := by
  obtain ⟨hres, hsees, hholdings⟩ := (ends_planWith r true).of_ok h
  cases hxs : r.outlook.snapshot with
  | error e =>
    rw [hxs] at hres
    cases hres
  | ok xs =>
    rw [hxs] at hres
    cases hres
    obtain ⟨ds, hds, hreach, rfl⟩ := r.outlook.snapshot_eq_ok_iff.mp hxs
    have hforms : ds = r.published.forms := Published.forms_of_listAnswer hds
    subst hforms
    exact ⟨hds, hreach, rfl, hsees, hholdings _ _ hds rfl⟩

theorem planWith_of_snapshot {r r₁ : Rehearsal} {remembering : Bool} {xs : List Details}
    (h : catalog.snapshot remembering r = .ok xs r₁) :
    catalog.planWith remembering r = .ok (Plan.of xs r₁.holdings.records) r₁ := by
  unfold Catalog.planWith
  change EStateM.bind (catalog.snapshot remembering) _ r = _
  unfold EStateM.bind
  rw [h]
  rfl

namespace Fetched

variable {r r₁ : Rehearsal} {plan : Plan}

theorem failing_eq (h : Fetched r r₁ plan) : r₁.holdings.failing = r.holdings.failing := by
  rw [h.holdings]
  exact Holdings.failing_foldl (Holdings.failing_notice r.outlook true) _ _

/-- The downloads of the plan: the listed forms that need one, in the order of the list. -/
theorem toDownload_eq (h : Fetched r r₁ plan) :
    plan.toDownload =
      (r.published.forms.map r.outlook.entry).filter (·.needsDownload) := by
  rw [h.plan_eq]
  rfl

theorem mem_toDownload_iff (h : Fetched r r₁ plan) {d : Descriptor} (hd : d ∈ r.published.forms) :
    r.outlook.entry d ∈ plan.toDownload ↔ (r.outlook.entry d).needsDownload = true := by
  rw [h.toDownload_eq, List.mem_filter]
  exact and_iff_right (List.mem_map_of_mem hd)

/-! ### The same server, asked again -/

variable {u : Rehearsal}

theorem listed_again (h : Fetched r r₁ plan) (hu : u.published = r₁.published) :
    u.outlook.listed = .ok r.published.forms := by
  rw [← h.listed, ← h.sees.listed]
  exact congrArg Published.listAnswer hu

theorem forms_again (h : Fetched r r₁ plan) (hu : u.published = r₁.published) :
    u.published.forms = r.published.forms :=
  (Published.forms_of_listAnswer (h.listed_again hu)).symm

theorem manifestAt_again (h : Fetched r r₁ plan) (hu : u.published = r₁.published) :
    u.outlook.manifestAt = r.outlook.manifestAt := by
  rw [← h.sees.manifestAt]
  exact congrArg Published.manifestAnswer hu

theorem snapshot_again (h : Fetched r r₁ plan) (hu : u.published = r₁.published) :
    u.outlook.snapshot = .ok (r.published.forms.map u.outlook.entry) := by
  refine u.outlook.snapshot_eq_ok_iff.mpr ⟨_, h.listed_again hu, ?_, rfl⟩
  rw [Outlook.manifestOf_congr (h.manifestAt_again hu)]
  exact h.reached

/-- Where one plan came about, the next one comes about. -/
theorem planWith_again (h : Fetched r r₁ plan) (hu : u.published = r₁.published) :
    ∃ again v, catalog.planWith true u = .ok again v := by
  obtain ⟨again, v, hv, -⟩ | ⟨e, v, -, hres, -⟩ := (ends_planWith u true).cases
  · exact ⟨again, v, hv⟩
  · rw [h.snapshot_again hu] at hres
    cases hres

end Fetched

end Rehearsal

end Memory

end FormCatalog
