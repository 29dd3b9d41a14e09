import FormCatalog.Proofs.Catalog.Aftermath

/-!
# The account of a pass

What a pass asks of a device in memory, and what it leaves there, can be written down from the
snapshot and from what was there before (`accounts_synchronize`). The changes asked for are the
deletion of every record that is not listed, in the order of the records, and then one attempt at
every entry that needs a download, in the order of the list. A failed attempt keeps none of the
later ones back; it only makes the pass end in the fault that names all failures.

Here a list may have an id more than once, so the loops of a pass may come to a form several times.
`Separately.foldl_eq` says what such a loop does to a form: the steps that are about it, one after
the other. An id that was downloaded has the record of its last attempt, and what is left of every
other form that was not deleted is what was there, apart from the remembered key.
-/

set_option autoImplicit false
set_option relaxedAutoImplicit false

namespace FormCatalog.Memory

open Op

/-- A loop does to what is seen under a name what its steps of that name do, in their order. -/
theorem Separately.foldl_eq {σ β γ : Type} {look : σ → String → γ} {f : σ → β → σ}
    {name : β → String} {change : β → γ → γ} {inv : σ → Prop}
    (h : Separately look f name change inv) (l : List β) {s : σ} (hs : inv s) (id : String) :
    look (l.foldl f s) id =
      (l.filter (name · = id)).foldl (fun seen b ↦ change b seen) (look s id) := by
  induction l generalizing s with
  | nil => rfl
  | cons b rest ih =>
    have hrest := ih (h.keeps s b hs)
    rw [List.foldl_cons, hrest]
    by_cases hb : name b = id
    · have hself : look (f s b) id = change b (look s id) := by
        rw [← hb]
        exact h.self s b hs
      rw [hself, List.filter_cons_of_pos (by simp [hb]), List.foldl_cons]
    · have hother : look (f s b) id = look s id := h.other s b id hs (Ne.symm hb)
      rw [hother, List.filter_cons_of_neg (by simp [hb])]

@[simp] theorem Kept.isSome_record_withSeen (k : Kept) (key : Option String) :
    (k.withSeen key).record.isSome = k.record.isSome := by
  simp [withSeen]

namespace Holdings

/-- The records of the forms that are not listed. -/
def gone (h : Holdings) (listed : List Descriptor) : List FormRecord :=
  h.records.filter (·.formId ∉ listed.map (·.formId))

/-- What an attempt at a download is recorded as. -/
def attempted (h : Holdings) (x : Details) : Change :=
  if x.formId ∈ h.failing then .downloadFailed x.formId else .download x.formId

/-- What a pass over a list did to a device, where `due` are the entries that need a download. -/
structure Account (h : Holdings) (listed : List Descriptor) (due : List Details)
    (u : Holdings) : Prop where
  /-- Every deletion, in the order of the records, and then one attempt at every download, in the
  order of the list. The last change comes first. -/
  changes : u.changes =
    ((h.gone listed).map (fun record ↦ Change.delete record.formId)
      ++ due.map h.attempted).reverse ++
      h.changes
  keyed : u.Keyed
  deleted : ∀ record ∈ h.gone listed, (u.kept record.formId).record = none
  /-- An id that can be downloaded has the record of its last attempt. -/
  received : ∀ id x, id ∉ h.failing → (due.filter (·.formId = id)).getLast? = some x →
    (u.kept id).record = some (recordOf x)
  /-- No listed form was deleted. -/
  stays : ∀ d ∈ listed, (h.kept d.formId).record.isSome = true →
    (u.kept d.formId).record.isSome = true
  /-- Any other form is as it was, apart from its remembered key. -/
  others : ∀ id, id ∉ (h.gone listed).map (·.formId) →
    (∀ x ∈ due, x.formId = id → id ∈ h.failing) →
      (u.kept id).withSeen none = (h.kept id).withSeen none

/-! ### Comparing -/

@[simp] theorem changes_notice (o : Outlook) (remembering : Bool) (h : Holdings) (d : Descriptor) :
    (h.notice o remembering d).changes = h.changes := by
  unfold notice
  split <;> rfl

theorem changes_foldl_notice (o : Outlook) (remembering : Bool) (ds : List Descriptor)
    (h : Holdings) : (ds.foldl (notice o remembering) h).changes = h.changes := by
  refine List.foldlRecOn (motive := fun g : Holdings ↦ g.changes = h.changes) ds _ rfl ?_
  intro g hg d _
  rw [changes_notice, hg]

/-- Comparing forms changes nothing but remembered keys. -/
theorem withSeen_kept_foldl_notice (o : Outlook) (ds : List Descriptor) {h : Holdings}
    (hkeyed : h.Keyed) (id : String) :
    ((ds.foldl (notice o true) h).kept id).withSeen none = (h.kept id).withSeen none := by
  rw [(separately_notice o).foldl_eq ds hkeyed id]
  refine List.foldlRecOn (motive := fun k : Kept ↦ k.withSeen none = (h.kept id).withSeen none) _ _
    rfl ?_
  intro k hk d _
  split
  · rw [Kept.withSeen_withSeen, hk]
  · exact hk

/-- Changing the record of one form does not touch the records of the others. -/
theorem filter_revise (keep : String → Bool) {f : FormRecord → FormRecord}
    (hf : ∀ record, (f record).formId = record.formId) {formId : String}
    (hid : keep formId = false) (records : List FormRecord) :
    (revise formId f records).filter (fun record ↦ keep record.formId) =
      records.filter fun record ↦ keep record.formId := by
  induction records with
  | nil => rfl
  | cons record rest ih =>
    unfold revise at ih ⊢
    rw [List.map_cons]
    by_cases hr : record.formId = formId
    · have hdropped : keep record.formId = false := by rw [hr, hid]
      rw [if_pos hr, List.filter_cons_of_neg (by simp [hf, hdropped]),
        List.filter_cons_of_neg (by simp [hdropped]), ih]
    · rw [if_neg hr, List.filter_cons, List.filter_cons, ih]

/-- Comparing the listed forms does not touch the records of the others. -/
theorem gone_foldl_notice (o : Outlook) (listed : List Descriptor) (h : Holdings) :
    (listed.foldl (notice o true) h).gone listed = h.gone listed := by
  refine List.foldlRecOn (motive := fun g : Holdings ↦ g.gone listed = h.gone listed) _ _ rfl ?_
  intro g hg d hd
  rw [← hg]
  unfold gone notice
  split
  · have hlisted : decide (d.formId ∉ listed.map (·.formId)) = false := by
      have hmem : d.formId ∈ listed.map (·.formId) := List.mem_map_of_mem hd
      simp only [hmem, not_true_eq_false, decide_false]
    exact filter_revise (fun id ↦ decide (id ∉ listed.map (·.formId)))
      (f := fun record ↦ { record with seenKey := some (d.key (o.manifest? d)) })
      (fun _ ↦ rfl) hlisted g.records
  · rfl

/-! ### Carrying the plan out -/

theorem changes_foldl_drop (records : List FormRecord) (h : Holdings) :
    (records.foldl (fun h record ↦ h.drop record.formId) h).changes =
      (records.map fun record ↦ .delete record.formId).reverse ++ h.changes := by
  induction records generalizing h with
  | nil => rfl
  | cons record rest ih =>
    rw [List.foldl_cons, ih]
    simp [drop]

theorem changes_attempt (h : Holdings) (x : Details) :
    (h.attempt x).changes = h.attempted x :: h.changes := by
  unfold attempt attempted
  split <;> rfl

theorem changes_foldl_attempt (xs : List Details) (h : Holdings) :
    (xs.foldl attempt h).changes = (xs.map h.attempted).reverse ++ h.changes := by
  induction xs generalizing h with
  | nil => rfl
  | cons x rest ih =>
    have hsame : (h.attempt x).attempted = h.attempted := by
      funext y
      simp [attempted]
    rw [List.foldl_cons, ih, changes_attempt, hsame]
    simp

/-- Attempts at a form whose download fails change nothing but its remembered key. -/
theorem withSeen_kept_foldl_attempt {h : Holdings} (hkeyed : h.Keyed) (xs : List Details)
    {id : String} (hfailing : ∀ x ∈ xs, x.formId = id → id ∈ h.failing) :
    ((xs.foldl attempt h).kept id).withSeen none = (h.kept id).withSeen none := by
  rw [(separately_attempt h.failing).foldl_eq xs ⟨hkeyed, rfl⟩ id]
  refine List.foldlRecOn (motive := fun k : Kept ↦ k.withSeen none = (h.kept id).withSeen none) _ _
    rfl ?_
  intro k hk x hx
  obtain ⟨hmem, hid⟩ := List.mem_filter.mp hx
  have hxid : x.formId = id := of_decide_eq_true hid
  have hfails : x.formId ∈ h.failing := by
    rw [hxid]
    exact hfailing x hmem hxid
  rw [if_pos hfails, Kept.withSeen_withSeen, hk]

/-- The last attempt at a form that can be downloaded leaves its record. -/
theorem record_foldl_attempt {h : Holdings} (hkeyed : h.Keyed) {xs : List Details} {id : String}
    {x : Details} (hfine : id ∉ h.failing) (hlast : (xs.filter (·.formId = id)).getLast? = some x) :
    ((xs.foldl attempt h).kept id).record = some (recordOf x) := by
  obtain ⟨earlier, hsplit⟩ := List.getLast?_eq_some_iff.mp hlast
  have hmem : x ∈ xs.filter (·.formId = id) := by
    rw [hsplit]
    exact List.mem_append_right _ List.mem_cons_self
  have hxid : x.formId = id := of_decide_eq_true (List.mem_filter.mp hmem).2
  rw [(separately_attempt h.failing).foldl_eq xs ⟨hkeyed, rfl⟩ id, hsplit, List.foldl_append,
    List.foldl_cons, List.foldl_nil, if_neg (by rw [hxid]; exact hfine)]
  rfl

/-- An attempt never takes a record away. -/
theorem isSome_record_foldl_attempt {h : Holdings} (hkeyed : h.Keyed) (xs : List Details)
    {id : String} (hthere : (h.kept id).record.isSome = true) :
    ((xs.foldl attempt h).kept id).record.isSome = true := by
  rw [(separately_attempt h.failing).foldl_eq xs ⟨hkeyed, rfl⟩ id]
  refine List.foldlRecOn (motive := fun k : Kept ↦ k.record.isSome = true) _ _ hthere ?_
  intro k hk x _
  split
  · rw [Kept.isSome_record_withSeen, hk]
  · rfl

end Holdings

/-! ### The whole pass -/

namespace Rehearsal.Fetched

variable {r r₁ : Rehearsal} {plan : Plan}

/-- The plan deletes the records that were not listed, as they were before the pass. -/
theorem toDelete_eq (h : Fetched r r₁ plan) :
    plan.toDelete = r.holdings.gone r.published.forms := by
  have hgone : r₁.holdings.gone r.published.forms = r.holdings.gone r.published.forms := by
    rw [h.holdings, Holdings.gone_foldl_notice]
  rw [← hgone, h.plan_eq]
  unfold Plan.of Holdings.gone
  refine List.filter_congr fun record _ ↦ ?_
  have hids : (r.published.forms.map r.outlook.entry).map (·.formId) =
      r.published.forms.map (·.formId) := by
    rw [List.map_map]
    rfl
  rw [hids, List.contains_eq_mem, decide_not]

/-- A form that the plan does not delete comes through comparing and deleting with nothing changed
but its remembered key. -/
theorem withSeen_kept_drops (h : Fetched r r₁ plan) (hkeyed : r.holdings.Keyed) {id : String}
    (hid : id ∉ plan.toDelete.map (·.formId)) :
    (Holdings.kept (plan.toDelete.foldl (fun h r ↦ h.drop r.formId) r₁.holdings) id).withSeen none =
      (r.holdings.kept id).withSeen none := by
  rw [Holdings.separately_drop.foldl_of_not_mem hid (h.keyed hkeyed), h.holdings]
  exact Holdings.withSeen_kept_foldl_notice r.outlook r.published.forms hkeyed id

theorem record_carry_of_mem_toDelete (h : Fetched r r₁ plan) (hkeyed : r.holdings.Keyed)
    {record : FormRecord} (hrecord : record ∈ plan.toDelete) :
    ((r₁.holdings.carry plan).kept record.formId).record = none := by
  have hunlisted : record.formId ∉ r.published.forms.map (·.formId) := by
    rw [h.toDelete_eq] at hrecord
    exact of_decide_eq_true (List.mem_filter.mp hrecord).2
  exact h.kept_of_unlisted hkeyed hunlisted

/-- Carrying a plan out asks for its deletions, and then for its downloads. -/
theorem changes_carry (h : Fetched r r₁ plan) :
    (r₁.holdings.carry plan).changes =
      (plan.toDelete.map (fun record ↦ Change.delete record.formId) ++
        plan.toDownload.map r.holdings.attempted).reverse ++ r.holdings.changes := by
  have hnoticed : r₁.holdings.changes = r.holdings.changes := by
    rw [h.holdings, Holdings.changes_foldl_notice]
  have hattempted : Holdings.attempted
      (plan.toDelete.foldl (fun h r ↦ h.drop r.formId) r₁.holdings) = r.holdings.attempted := by
    funext x
    unfold Holdings.attempted
    rw [Holdings.failing_foldl, h.failing_eq]
    exact fun _ _ ↦ rfl
  unfold Holdings.carry
  rw [Holdings.changes_foldl_attempt, Holdings.changes_foldl_drop, hattempted, hnoticed,
    List.reverse_append, List.append_assoc]

/-- What carrying a plan out does to the device. -/
theorem account (h : Fetched r r₁ plan) (hkeyed : r.holdings.Keyed) :
    r.holdings.Account r.published.forms plan.toDownload (r₁.holdings.carry plan) := by
  obtain ⟨hdropped, hfailing⟩ := h.keyed_drops hkeyed
  constructor
  case changes => rw [h.changes_carry, h.toDelete_eq]
  case keyed => exact h.keyed_carry hkeyed
  case deleted =>
    intro record hrecord
    rw [← h.toDelete_eq] at hrecord
    exact h.record_carry_of_mem_toDelete hkeyed hrecord
  case received =>
    intro id x hfine hlast
    rw [← hfailing] at hfine
    exact Holdings.record_foldl_attempt hdropped hfine hlast
  case stays =>
    intro d hd hthere
    refine Holdings.isSome_record_foldl_attempt hdropped plan.toDownload ?_
    have hsame := h.withSeen_kept_drops hkeyed (h.not_mem_toDelete hd)
    rw [← Kept.isSome_record_withSeen _ none, hsame, Kept.isSome_record_withSeen, hthere]
  case others =>
    intro id hkept hfails
    rw [← h.toDelete_eq] at hkept
    rw [← h.withSeen_kept_drops hkeyed hkept]
    refine Holdings.withSeen_kept_foldl_attempt hdropped plan.toDownload ?_
    rw [hfailing]
    exact hfails

/-- The failures of the pass are the attempts at forms that cannot be downloaded. -/
theorem failures_eq (h : Fetched r r₁ plan) :
    r₁.holdings.failures plan =
      (plan.toDownload.map (·.formId)).filter (· ∈ r.holdings.failing) := by
  unfold Holdings.failures
  rw [h.failing_eq]

end Rehearsal.Fetched

namespace Rehearsal

/-- A pass whose list and manifests come about deletes what is not listed, tries every download that
is due, and does nothing else to a form than to remember or forget its key. It returns its plan, or
ends in the one fault that names the attempts that failed, in their order. -/
theorem accounts_synchronize (r : Rehearsal) {xs : List Details} {r₁ : Rehearsal}
    (hkeyed : r.holdings.Keyed) (hfetch : catalog.snapshot true r = .ok xs r₁) :
    xs.map (·.descriptor) = r.published.forms ∧
      Ends catalog.synchronize r fun res u ↦
        r.holdings.Account r.published.forms (xs.filter (·.needsDownload)) u.holdings ∧
          u.holdings.remembered = r₁.holdings.remembered ∧
          ∃ failed, failed = ((xs.filter (·.needsDownload)).map (·.formId)).filter
              (· ∈ r.holdings.failing) ∧
            res = if failed = [] then
                .ok { toDownload := xs.filter (·.needsDownload)
                      toDelete := r.holdings.gone r.published.forms
                      unchanged := (xs.filter (!·.needsDownload)).map (·.formId) }
              else .error (.sync (.incomplete "" failed)) := by
  have hplan := planWith_of_snapshot hfetch
  have h := fetched_of_planWith hplan
  have hlisted : xs.map (·.descriptor) = r.published.forms := by
    obtain ⟨hres, -, -⟩ := (ends_snapshot r true).of_ok hfetch
    obtain ⟨ds, hds, -, rfl⟩ := r.outlook.snapshot_eq_ok_iff.mp hres.symm
    rw [Published.forms_of_listAnswer hds, List.map_map]
    exact List.map_id _
  refine ⟨hlisted, (ends_synchronize hplan).mono ?_⟩
  rintro res u ⟨-, hholdings, hres⟩
  have hplanned : Plan.of xs r₁.holdings.records =
      { toDownload := xs.filter (·.needsDownload)
        toDelete := r.holdings.gone r.published.forms
        unchanged := (xs.filter (!·.needsDownload)).map (·.formId) } := by
    rw [← h.toDelete_eq]
    rfl
  rw [h.failures_eq, hplanned] at hres
  rw [hholdings]
  exact ⟨h.account hkeyed, (r₁.holdings.asked_carry _).1, _, rfl, hres⟩

/-- A list with an id that comes twice, in two versions, and with a form that cannot be downloaded;
a device that lacks the first, has an old copy of the other, and has a form that is not listed. -/
def stuttering : Rehearsal where
  published :=
    { forms :=
        [ { formId := "twice", contentHash := "md5:1", version := some "1" },
          { formId := "broken", contentHash := "md5:b" },
          { formId := "twice", contentHash := "md5:2", version := some "2" },
          { formId := "same", contentHash := "s" } ] }
  holdings :=
    { records :=
        [ { formId := "gone", contentHash := "g" },
          { formId := "broken", contentHash := "old" },
          { formId := "same", contentHash := "md5:s" } ]
      failing := ["broken"] }

theorem accounts_synchronize_stuttering :
    stuttering.holdings.Keyed ∧
      Returns (catalog.snapshot true) stuttering fun xs r₁ ↦
        xs.map (·.descriptor) = stuttering.published.forms ∧
          Ends catalog.synchronize stuttering fun res u ↦
            stuttering.holdings.Account stuttering.published.forms
                (xs.filter (·.needsDownload)) u.holdings ∧
              u.holdings.remembered = r₁.holdings.remembered ∧
              ∃ failed, failed = ((xs.filter (·.needsDownload)).map (·.formId)).filter
                  (· ∈ stuttering.holdings.failing) ∧
                res = if failed = [] then
                    .ok { toDownload := xs.filter (·.needsDownload)
                          toDelete := stuttering.holdings.gone stuttering.published.forms
                          unchanged := (xs.filter (!·.needsDownload)).map (·.formId) }
                  else .error (.sync (.incomplete "" failed)) := by
  obtain ⟨xs, r₁, hfetch, -⟩ : Returns (catalog.snapshot true) stuttering fun _ _ ↦ True := by
    decide +kernel
  have hkeyed : stuttering.holdings.Keyed := by decide +kernel
  exact ⟨hkeyed, xs, r₁, hfetch, accounts_synchronize stuttering hkeyed hfetch⟩

end Rehearsal

end FormCatalog.Memory
