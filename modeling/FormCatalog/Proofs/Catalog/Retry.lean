import FormCatalog.Proofs.Catalog.Aftermath

/-!
# The next pass retries what failed

After a pass whose list and manifests came about, the next one finds every listed form in one of two
states (`Fetched.entry_again`). A form whose download failed stands as it stood before: it is still
new, or it has lost its remembered key and still differs. Every other listed form has a record with
the published key, so it is neither compared in full nor downloaded. `retries_synchronize` draws the
consequences: the next plan is the old one cut down to the failures, and a pass after one without
failures changes nothing at all.
-/

set_option autoImplicit false
set_option relaxedAutoImplicit false

namespace FormCatalog

open Op Memory

/-- What an outlook says is kept of a form. -/
def Outlook.kept (o : Outlook) (formId : String) : Kept :=
  ⟨Catalog.recordOf? o.records formId, o.media formId⟩

namespace Outlook

variable {o o' : Outlook} {d : Descriptor} {failing : Prop} [Decidable failing]

/-- After a pass a form whose download was due and failed stands as before. -/
theorem entry_of_failed (hmanifest : o'.manifestAt = o.manifestAt)
    (hkept : o'.kept d.formId = (o.kept d.formId).settle (o.entry d) failing)
    (hneeds : (o.entry d).needsDownload = true) (hfailing : failing) :
    o'.entry d = o.entry d := by
  unfold Kept.settle at hkept
  rw [if_pos hneeds, if_pos hfailing] at hkept
  have hrecord := congrArg Kept.record hkept
  have hmedia := congrFun (congrArg Kept.media hkept)
  obtain ⟨-, hentry, -⟩ | ⟨r, -, -, hnew, hentry⟩ :=
    entry_of_seen (fun _ ↦ none) hmanifest hrecord hmedia hneeds
  · exact hentry
  · have hupdated : (o.entry d).updated = true := by
      simpa [Details.needsDownload, hnew] using hneeds
    rw [hentry]
    simp only [ne_eq, reduceCtorEq, not_false_eq_true, decide_true]
    rw [← hupdated]

/-- After a pass any other listed form has a record with the published key. -/
theorem seenKey_of_settled (hmanifest : o'.manifestAt = o.manifestAt)
    (hkept : o'.kept d.formId = (o.kept d.formId).settle (o.entry d) failing)
    (hdone : ¬((o.entry d).needsDownload = true ∧ failing)) :
    ∃ record, Catalog.recordOf? o'.records d.formId = some record ∧
      record.seenKey = some (d.key (o'.manifest? d)) := by
  have hkey : (o.entry d).key = d.key (o'.manifest? d) := by
    rw [manifest?_congr hmanifest]
    rfl
  have hrecord : Catalog.recordOf? o'.records d.formId = _ := congrArg Kept.record hkept
  rw [hrecord, ← hkey]
  unfold Kept.settle
  by_cases hneeds : (o.entry d).needsDownload = true
  · rw [if_pos hneeds, if_neg fun hfailing ↦ hdone ⟨hneeds, hfailing⟩]
    exact ⟨_, rfl, rfl⟩
  · rw [if_neg hneeds]
    cases hold : Catalog.recordOf? o.records d.formId with
    | none =>
      refine absurd ?_ hneeds
      unfold entry details
      rw [hold]
      rfl
    | some record =>
      refine ⟨{ record with seenKey := some (o.entry d).key }, ?_, rfl⟩
      change Option.map _ (Catalog.recordOf? o.records d.formId) = _
      rw [hold]
      rfl

end Outlook

namespace Memory.Rehearsal

/-- A pass over a list without repeated ids was made from `r` by way of the plan, and left `u`. -/
structure Passed (r r₁ : Rehearsal) (plan : Plan) (u : Rehearsal) : Prop where
  fetched : Fetched r r₁ plan
  keyed : r.holdings.Keyed
  nodup : (r.published.forms.map (·.formId)).Nodup
  published : u.published = r₁.published
  holdings : u.holdings = r₁.holdings.carry plan

namespace Passed

variable {r r₁ u : Rehearsal} {plan : Plan} {d : Descriptor}

theorem listed (h : Passed r r₁ plan u) : u.outlook.listed = .ok r.published.forms :=
  h.fetched.listed_again h.published

theorem manifestAt (h : Passed r r₁ plan u) : u.outlook.manifestAt = r.outlook.manifestAt :=
  h.fetched.manifestAt_again h.published

theorem kept (h : Passed r r₁ plan u) (hd : d ∈ r.published.forms) :
    u.outlook.kept d.formId =
      (r.outlook.kept d.formId).settle (r.outlook.entry d) (d.formId ∈ r.holdings.failing) := by
  have hkept := h.fetched.kept_of_listed h.keyed h.nodup hd
  rw [← h.holdings] at hkept
  exact hkept

/-- A form whose download failed stands as it stood before the pass. -/
theorem entry_of_failed (h : Passed r r₁ plan u) (hd : d ∈ r.published.forms)
    (hfailed : d.formId ∈ r₁.holdings.failures plan) : u.outlook.entry d = r.outlook.entry d := by
  obtain ⟨hneeds, hfailing⟩ := (h.fetched.mem_failures_iff h.nodup hd).mp hfailed
  exact Outlook.entry_of_failed h.manifestAt (h.kept hd) hneeds hfailing

/-- Any other listed form is on the device with the published key. -/
theorem seenKey (h : Passed r r₁ plan u) (hd : d ∈ r.published.forms)
    (hdone : d.formId ∉ r₁.holdings.failures plan) :
    ∃ record, Catalog.recordOf? u.outlook.records d.formId = some record ∧
      record.seenKey = some (d.key (u.outlook.manifest? d)) := by
  rw [h.fetched.mem_failures_iff h.nodup hd] at hdone
  exact Outlook.seenKey_of_settled h.manifestAt (h.kept hd) hdone

theorem needsDownload_iff (h : Passed r r₁ plan u) (hd : d ∈ r.published.forms) :
    (u.outlook.entry d).needsDownload = true ↔ d.formId ∈ r₁.holdings.failures plan := by
  by_cases hfailed : d.formId ∈ r₁.holdings.failures plan
  · rw [h.entry_of_failed hd hfailed]
    exact iff_of_true ((h.fetched.mem_failures_iff h.nodup hd).mp hfailed).1 hfailed
  · obtain ⟨record, hrecord, hkey⟩ := h.seenKey hd hfailed
    rw [Outlook.entry_of_seenKey hrecord hkey]
    exact iff_of_false Bool.false_ne_true hfailed

/-- A form that did not fail is not compared in full. -/
theorem comparesInFull_eq_false (h : Passed r r₁ plan u) (hd : d ∈ r.published.forms)
    (hdone : d.formId ∉ r₁.holdings.failures plan) : u.outlook.comparesInFull d = false := by
  obtain ⟨record, hrecord, hkey⟩ := h.seenKey hd hdone
  exact Outlook.comparesInFull_of_seenKey hrecord hkey

/-! ### The next plan -/

theorem toDownload_again (h : Passed r r₁ plan u) :
    (r.published.forms.map u.outlook.entry).filter (·.needsDownload) =
      plan.toDownload.filter (·.formId ∈ r₁.holdings.failures plan) := by
  rw [h.fetched.toDownload_eq, List.filter_filter, List.filter_map, List.filter_map]
  have hfilter : r.published.forms.filter ((·.needsDownload) ∘ u.outlook.entry) =
      r.published.forms.filter ((fun x ↦ decide (x.formId ∈ r₁.holdings.failures plan) &&
        x.needsDownload) ∘ r.outlook.entry) := by
    refine List.filter_congr fun d hd ↦ ?_
    rw [Bool.eq_iff_iff, Function.comp_apply, h.needsDownload_iff hd, Function.comp_apply,
      Bool.and_eq_true, decide_eq_true_eq]
    exact ⟨fun hf ↦ ⟨hf, ((h.fetched.mem_failures_iff h.nodup hd).mp hf).1⟩, And.left⟩
  rw [hfilter]
  refine List.map_congr_left fun d hmem ↦ ?_
  obtain ⟨hd, hfailed⟩ := List.mem_filter.mp hmem
  rw [Function.comp_apply, Bool.and_eq_true, decide_eq_true_eq] at hfailed
  exact h.entry_of_failed hd hfailed.1

theorem unchanged_again (h : Passed r r₁ plan u) :
    ((r.published.forms.map u.outlook.entry).filter (!·.needsDownload)).map (·.formId) =
      (r.published.forms.map (·.formId)).filter (· ∉ r₁.holdings.failures plan) := by
  rw [List.filter_map, List.filter_map, List.map_map]
  have hfilter : r.published.forms.filter ((!·.needsDownload) ∘ u.outlook.entry) =
      r.published.forms.filter
        ((fun id ↦ decide (id ∉ r₁.holdings.failures plan)) ∘ Descriptor.formId) := by
    refine List.filter_congr fun d hd ↦ ?_
    rw [Bool.eq_iff_iff, Function.comp_apply, Function.comp_apply, decide_eq_true_eq,
      Bool.not_eq_true', ← Bool.not_eq_true, h.needsDownload_iff hd]
  rw [hfilter]
  rfl

/-- The failures of a plan are the forms of its downloads that failed. -/
theorem map_formId_failures (g : Holdings) (plan : Plan) :
    (plan.toDownload.filter (·.formId ∈ g.failures plan)).map (·.formId) = g.failures plan := by
  have hfilter : plan.toDownload.filter (fun x ↦ decide (x.formId ∈ g.failures plan)) =
      plan.toDownload.filter ((fun id ↦ decide (id ∈ g.failing)) ∘ Details.formId) := by
    refine List.filter_congr fun x hx ↦ ?_
    unfold Holdings.failures
    rw [Bool.eq_iff_iff, decide_eq_true_eq, List.mem_filter, Function.comp_apply]
    exact and_iff_right (List.mem_map_of_mem hx)
  rw [hfilter, Holdings.failures, List.filter_map]

theorem snapshot_again (h : Passed r r₁ plan u) :
    u.outlook.snapshot = .ok (r.published.forms.map u.outlook.entry) :=
  h.fetched.snapshot_again h.published

/-- The next plan: the downloads that failed, and nothing else. -/
theorem planOf_again (h : Passed r r₁ plan u) :
    Plan.of (r.published.forms.map u.outlook.entry) u.holdings.records =
      { toDownload := plan.toDownload.filter (·.formId ∈ r₁.holdings.failures plan)
        toDelete := []
        unchanged :=
          (r.published.forms.map (·.formId)).filter (· ∉ r₁.holdings.failures plan) } := by
  have hdelete : u.holdings.records.filter (fun record ↦
      !((r.published.forms.map u.outlook.entry).map (·.formId)).contains record.formId) = [] := by
    refine List.filter_eq_nil_iff.mpr fun record hmem ↦ ?_
    rw [h.holdings] at hmem
    obtain ⟨d, hd, hid, -⟩ := h.fetched.exists_of_mem_carry h.keyed hmem
    rw [List.map_map, ← hid]
    simpa using ⟨d, hd, rfl⟩
  unfold Plan.of
  rw [h.toDownload_again, h.unchanged_again, hdelete]

/-- Comparing a form that did not fail leaves the device alone, whenever the next pass gets to
it. -/
theorem ends_annotate_quiet (h : Passed r r₁ plan u) (hd : d ∈ r.published.forms)
    (hdone : d.formId ∉ r₁.holdings.failures plan) {s : Rehearsal} (hs : Sees u.outlook s) :
    Ends (catalog.annotate u.holdings.records true d) s fun _ v ↦ v.holdings = s.holdings := by
  refine (ends_annotate hs true d).mono ?_
  rintro res v ⟨hres, -, hholdings⟩
  have hreach : ∃ m, u.outlook.manifestOf d = .ok m := by
    rw [Outlook.manifestOf_congr h.manifestAt]
    exact h.fetched.reached d hd
  rw [hholdings _ (hres.trans (u.outlook.annotated_eq_ok_iff.mpr ⟨hreach, rfl⟩)),
    Holdings.notice_of_not_comparesInFull (h.comparesInFull_eq_false hd hdone)]

/-- The next pass plans from the same list. -/
theorem returns_planWith (h : Passed r r₁ plan u) :
    Returns (catalog.planWith true) u fun again v ↦
      again = Plan.of (r.published.forms.map u.outlook.entry) v.holdings.records ∧
        v.holdings = r.published.forms.foldl (Holdings.notice u.outlook true) u.holdings := by
  obtain ⟨again, v, hv⟩ := h.fetched.planWith_again h.published
  have hagain := fetched_of_planWith hv
  have hforms := h.fetched.forms_again h.published
  refine ⟨again, v, hv, ?_, ?_⟩
  · rw [hagain.plan_eq, hforms]
  · rw [hagain.holdings, hforms]

/-- The next pass remembers keys only for forms that failed, and asks for media files at most once
for each of them. -/
theorem ends_synchronize_again (h : Passed r r₁ plan u) :
    Ends catalog.synchronize u fun _ v ↦ ∃ written asked,
      v.holdings.remembered = written ++ u.holdings.remembered ∧
        (∀ id ∈ written, id ∈ r₁.holdings.failures plan) ∧
        v.holdings.mediaCalls = u.holdings.mediaCalls + asked ∧
        asked ≤ (r₁.holdings.failures plan).length := by
  obtain ⟨again, v, hv, -, hholdings⟩ := h.returns_planWith
  have hfailed : ∀ d ∈ r.published.forms, u.outlook.comparesInFull d = true →
      d.formId ∈ r₁.holdings.failures plan := by
    intro d hd hfull
    by_contra hdone
    rw [h.comparesInFull_eq_false hd hdone] at hfull
    cases hfull
  refine (ends_synchronize hv).mono ?_
  rintro res w ⟨-, hw, -⟩
  obtain ⟨hremembered, hmedia⟩ := v.holdings.asked_carry again
  refine ⟨((r.published.forms.filter u.outlook.comparesInFull).map (·.formId)).reverse,
    r.published.forms.countP u.outlook.asksForMedia, ?_, ?_, ?_, ?_⟩
  · rw [hw, hremembered, hholdings, Holdings.remembered_foldl_notice]
  · intro id hid
    obtain ⟨d, hmem, rfl⟩ := List.mem_map.mp (List.mem_reverse.mp hid)
    obtain ⟨hd, hfull⟩ := List.mem_filter.mp hmem
    exact hfailed d hd hfull
  · rw [hw, hmedia, hholdings, Holdings.mediaCalls_foldl_notice]
  · rw [List.countP_eq_length_filter, ← List.length_map (f := Descriptor.formId)]
    refine List.Nodup.length_le_of_subset ((List.filter_sublist.map _).nodup h.nodup) ?_
    intro id hid
    obtain ⟨d, hmem, rfl⟩ := List.mem_map.mp hid
    obtain ⟨hd, hasks⟩ := List.mem_filter.mp hmem
    exact hfailed d hd (Outlook.comparesInFull_of_asksForMedia hasks)

/-- A pass after one without failures plans nothing and changes nothing of the device. -/
theorem returns_synchronize_again (h : Passed r r₁ plan u)
    (hnone : r₁.holdings.failures plan = []) :
    Returns catalog.synchronize u fun again v ↦
      again.isEmpty = true ∧ v.holdings = u.holdings := by
  obtain ⟨again, v, hv, hagain, hholdings⟩ := h.returns_planWith
  have hquiet : v.holdings = u.holdings := by
    rw [hholdings]
    refine List.foldlRecOn (motive := fun g ↦ g = u.holdings) _ _ rfl fun g hg d hd ↦ ?_
    rw [Holdings.notice_of_not_comparesInFull, hg]
    exact h.comparesInFull_eq_false hd (by rw [hnone]; exact List.not_mem_nil)
  have hempty : again.isEmpty = true := by
    rw [hagain, hquiet, h.planOf_again, hnone]
    simp [Plan.isEmpty]
  obtain ⟨_, w, hw, rfl, hholdings'⟩ := returns_synchronize_of_isEmpty hv hempty
  exact ⟨_, w, hw, hempty, by rw [hholdings', hquiet]⟩

end Passed

/-- What comes after a pass that planned from a list and failed for some forms. -/
structure Retries (listed : List Descriptor) (plan : Plan) (failed : List String) (u : Rehearsal) :
    Prop where
  /-- The next plan has the failed downloads as they were, and leaves the other forms alone. -/
  preview : Returns catalog.preview u fun again _ ↦
    again.toDelete = [] ∧
      again.toDownload = plan.toDownload.filter (·.formId ∈ failed) ∧
      again.toDownload.map (·.formId) = failed ∧
      again.unchanged = (listed.map (·.formId)).filter (· ∉ failed)
  /-- Comparing any other form remembers nothing and asks for no media files. -/
  quiet : ∀ d ∈ listed, d.formId ∉ failed → ∀ s, Sees u.outlook s →
    Ends (catalog.annotate u.holdings.records true d) s fun _ v ↦ v.holdings = s.holdings
  /-- In the whole next pass keys are remembered for failed forms only, and media files are asked
  for at most as often as there are failed forms. -/
  writes : Ends catalog.synchronize u fun _ v ↦ ∃ written asked,
    v.holdings.remembered = written ++ u.holdings.remembered ∧
      (∀ id ∈ written, id ∈ failed) ∧
      v.holdings.mediaCalls = u.holdings.mediaCalls + asked ∧ asked ≤ failed.length
  /-- After a pass without failures the next one does nothing at all. -/
  settled : failed = [] → Returns catalog.synchronize u fun again v ↦
    again.isEmpty = true ∧ v.holdings = u.holdings

/-- A pass over a list without repeated ids, whose list and manifests come about, returns its plan
or ends in the fault that names the forms that failed, and the next pass retries exactly these. -/
theorem retries_synchronize (r : Rehearsal) {plan : Plan} {r₁ : Rehearsal}
    (hkeyed : r.holdings.Keyed) (hnodup : (r.published.forms.map (·.formId)).Nodup)
    (hfetch : catalog.planWith true r = .ok plan r₁) :
    ∃ failed, Ends catalog.synchronize r fun res u ↦
      res = (if failed = [] then .ok plan else .error (.sync (.incomplete "" failed))) ∧
        Retries r.published.forms plan failed u := by
  have hfetched := fetched_of_planWith hfetch
  refine ⟨r₁.holdings.failures plan, (ends_synchronize hfetch).mono ?_⟩
  rintro res u ⟨hpublished, hholdings, hres⟩
  have h : Passed r r₁ plan u := ⟨hfetched, hkeyed, hnodup, hpublished, hholdings⟩
  refine ⟨hres, ?_, fun d hd hdone s hs ↦ h.ends_annotate_quiet hd hdone hs,
    h.ends_synchronize_again, h.returns_synchronize_again⟩
  have hplan : u.outlook.plan = .ok (Plan.of (r.published.forms.map u.outlook.entry)
      u.holdings.records) :=
    u.outlook.plan_eq_ok_iff.mpr ⟨_, h.snapshot_again, rfl⟩
  rw [h.planOf_again] at hplan
  refine Ends.returns (((catalog_shows u.outlook).ends_preview rfl).mono fun res v hpreview ↦
    ⟨hpreview.1.trans hplan, ?_⟩)
  exact ⟨rfl, rfl, Passed.map_formId_failures _ _, rfl⟩

/-- A new form and a changed one, neither of which can be downloaded, a changed one that can, a form
that stays, and one that is no longer listed. -/
def flaky : Rehearsal where
  published :=
    { forms :=
        [ { formId := "fresh", contentHash := "md5:f" },
          { formId := "changed", contentHash := "md5:c" },
          { formId := "renewed", contentHash := "md5:r" },
          { formId := "same", contentHash := "md5:s" } ] }
  holdings :=
    { records :=
        [ { formId := "gone", contentHash := "g" },
          { formId := "same", contentHash := "s" },
          { formId := "changed", contentHash := "old" },
          { formId := "renewed", contentHash := "old" } ]
      failing := ["fresh", "changed"] }

theorem retries_synchronize_flaky :
    (flaky.holdings.Keyed ∧ (flaky.published.forms.map (·.formId)).Nodup) ∧
      Returns (catalog.planWith true) flaky fun plan _ ↦
        ∃ failed, Ends catalog.synchronize flaky fun res u ↦
          res = (if failed = [] then .ok plan else .error (.sync (.incomplete "" failed))) ∧
            Retries flaky.published.forms plan failed u := by
  obtain ⟨plan, r₁, hfetch, -⟩ : Returns (catalog.planWith true) flaky fun _ _ ↦ True := by
    decide +kernel
  have hids : flaky.holdings.Keyed ∧ (flaky.published.forms.map (·.formId)).Nodup := by
    decide +kernel
  exact ⟨hids, plan, r₁, hfetch, retries_synchronize flaky hids.1 hids.2 hfetch⟩

end Memory.Rehearsal

end FormCatalog
