import FormCatalog.Proofs.Catalog.Abort
import FormCatalog.Proofs.Catalog.Account

/-!
# The order of the server's list

A pass goes along the server's list twice: it compares the forms one after the other, remembering
keys on the way, and it downloads those that need it. Neither loop looks at what it did to other
forms. So two passes from one device over one list in two orders end alike
(`Rehearsal.order_irrelevant`): both return, or both end in the fault that names the same forms;
they delete the same forms in the same order, try the same downloads, and leave the same of every
form, its remembered key and its media files included.

This is so when the list and the manifest of every listed form come about. If one does not, either
pass ends in a fault of the server before anything is deleted or downloaded, and the forms are as
they were but for the keys that were remembered before the fault. Which these are depends on the
order (`Rehearsal.order_tells_unreached`).
-/

set_option autoImplicit false
set_option relaxedAutoImplicit false

namespace FormCatalog

open Op

/-- A snapshot ends in the fault of the list or in the fault of a manifest of a listed form. -/
theorem Outlook.snapshot_eq_error {o : Outlook} {e : Fault} (h : o.snapshot = .error e) :
    o.listed = .error e ∨ ∃ ds, o.listed = .ok ds ∧ ∃ d ∈ ds, o.manifestOf d = .error e := by
  have hloop (ds : List Descriptor) (h : ds.mapM o.annotated = .error e) :
      ∃ d ∈ ds, o.manifestOf d = .error e := by
    induction ds with
    | nil => cases h
    | cons d rest ih =>
      rw [List.mapM_cons] at h
      cases hd : o.manifestOf d with
      | error e' =>
        rw [annotated, hd] at h
        cases h
        exact ⟨d, List.mem_cons_self, hd⟩
      | ok m =>
        rw [annotated, hd] at h
        cases hrest : rest.mapM o.annotated with
        | error e' =>
          rw [hrest] at h
          cases h
          obtain ⟨d', hd', hfault⟩ := ih hrest
          exact ⟨d', List.mem_cons_of_mem _ hd', hfault⟩
        | ok xs =>
          rw [hrest] at h
          cases h
  unfold snapshot at h
  cases hlisted : o.listed with
  | error e' =>
    rw [hlisted] at h
    cases h
    exact Or.inl rfl
  | ok ds =>
    rw [hlisted] at h
    exact Or.inr ⟨ds, rfl, hloop ds h⟩

namespace Memory

/-- Entries that were compared change nothing in a record but its key. -/
theorem forget_reseen (read : List FormRecord) (xs : List Details) (record : FormRecord) :
    { Stock.reseen read xs record with seenKey := none } = { record with seenKey := none } := by
  unfold Stock.reseen
  split <;> rfl

namespace Rehearsal

variable {r r₁ r₁' : Rehearsal} {plan plan' : Plan} {forms : List Descriptor}

/-- The same rehearsal, where the server lists other forms, or the same ones in another order. -/
def listing (r : Rehearsal) (forms : List Descriptor) : Rehearsal :=
  { r with published := { r.published with forms := forms } }

/-- The list comes about, and so does the manifest of every listed form. -/
structure Reaches (r : Rehearsal) : Prop where
  listed : r.outlook.listed = .ok r.published.forms
  manifests : ∀ d ∈ r.published.forms, ∃ m, r.outlook.manifestOf d = .ok m

theorem Reaches.listing (h : r.Reaches) (hperm : forms.Perm r.published.forms) :
    (r.listing forms).Reaches where
  listed := by
    have hlisted := h.listed
    change r.published.listAnswer = _ at hlisted
    change Published.listAnswer { r.published with forms := forms } = .ok forms
    unfold Published.listAnswer at hlisted ⊢
    dsimp only
    cases hfault : r.published.listFault with
    | none => rfl
    | some fault =>
      rw [hfault] at hlisted
      cases hlisted
  manifests d hd := h.manifests d (hperm.mem_iff.mp hd)

theorem Reaches.exists_planWith (h : r.Reaches) :
    ∃ plan r₁, catalog.planWith true r = .ok plan r₁ := by
  have hsnapshot : r.outlook.snapshot = .ok (r.published.forms.map r.outlook.entry) :=
    r.outlook.snapshot_eq_ok_iff.mpr ⟨_, h.listed, h.manifests, rfl⟩
  obtain ⟨plan, r₁, hplan, -⟩ | ⟨e, r₁, -, hres, -⟩ := (ends_planWith r true).cases
  · exact ⟨plan, r₁, hplan⟩
  · rw [hsnapshot] at hres
    cases hres

/-- What a pass leaves of a form that is not listed: the media files. -/
theorem Fetched.kept_of_unlisted_eq (h : Fetched r r₁ plan) (hkeyed : r.holdings.Keyed)
    {id : String} (hid : id ∉ r.published.forms.map (·.formId)) :
    (r₁.holdings.carry plan).kept id = { r.holdings.kept id with record := none } := by
  refine Kept.ext (h.kept_of_unlisted hkeyed hid) ?_
  have hnot : id ∉ plan.toDownload.map (·.formId) := by
    intro hmem
    obtain ⟨d, hd, rfl, -⟩ := h.exists_of_mem_toDownload hmem
    exact hid (List.mem_map_of_mem hd)
  have hcompared : r₁.holdings.media = r.holdings.media := by
    rw [h.holdings]
    exact List.foldlRecOn (motive := fun g : Holdings ↦ g.media = r.holdings.media) _ _ rfl
      fun g hg d _ ↦ (Holdings.media_notice _ _ _ _).trans hg
  have hdropped : Holdings.media (plan.toDelete.foldl (fun h r ↦ h.drop r.formId) r₁.holdings) =
      r.holdings.media :=
    List.foldlRecOn (motive := fun g : Holdings ↦ g.media = r.holdings.media) _ _ hcompared
      fun _ hg _ _ ↦ hg
  unfold Holdings.carry
  rw [(Holdings.separately_attempt r.holdings.failing).foldl_of_not_mem hnot
    (h.keyed_drops hkeyed)]
  funext version
  change Holdings.mediaAt _ _ = Holdings.mediaAt _ _
  unfold Holdings.mediaAt
  rw [hdropped]

/-! ### Two passes that end alike -/

/-- Two passes end alike: they return the same plan but for the order of the list, or both end in
the fault that names the same forms. -/
inductive SameEnd : Except Fault Plan → Except Fault Plan → Prop
  | returned {plan plan' : Plan} (hdelete : plan'.toDelete = plan.toDelete)
      (hdownload : plan'.toDownload.Perm plan.toDownload)
      (hunchanged : plan'.unchanged.Perm plan.unchanged) : SameEnd (.ok plan) (.ok plan')
  | failed {ids ids' : List String} (h : ids'.Perm ids) :
      SameEnd (.error (.sync (.incomplete "" ids))) (.error (.sync (.incomplete "" ids')))

/-- Two passes from one device end alike, ask for the same deletions in the same order and then for
the same downloads, and leave the same of every form. -/
structure Alike (h : Holdings) (res res' : Except Fault Plan) (u u' : Holdings) : Prop where
  ending : SameEnd res res'
  changes : ∃ (gone : List FormRecord) (due due' : List Details), due'.Perm due ∧
    u.changes = (gone.map (fun record ↦ Change.delete record.formId) ++
      due.map h.attempted).reverse ++ h.changes ∧
    u'.changes = (gone.map (fun record ↦ Change.delete record.formId) ++
      due'.map h.attempted).reverse ++ h.changes
  kept : ∀ id, u'.kept id = u.kept id

/-- A pass ends in a fault of the list, or of the manifest of a listed form, and changes nothing but
remembered keys. -/
structure Refused (r : Rehearsal) (res : Except Fault Plan) (u : Holdings) : Prop where
  fault : ∃ e, res = .error e ∧ (r.outlook.listed = .error e ∨
    ∃ d ∈ r.published.forms, r.outlook.manifestOf d = .error e)
  changes : u.changes = r.holdings.changes
  kept : ∀ id, (u.kept id).withSeen none = (r.holdings.kept id).withSeen none

/-- The two plans differ in the order of the listed forms only. -/
theorem Fetched.plan_listing (h : Fetched r r₁ plan) (h' : Fetched (r.listing forms) r₁' plan')
    (hperm : forms.Perm r.published.forms) :
    plan'.toDelete = plan.toDelete ∧ plan'.toDownload.Perm plan.toDownload ∧
      plan'.unchanged.Perm plan.unchanged := by
  have hentries : (forms.map r.outlook.entry).Perm (r.published.forms.map r.outlook.entry) :=
    hperm.map _
  refine ⟨?_, ?_, ?_⟩
  · rw [h.toDelete_eq, h'.toDelete_eq]
    refine List.filter_congr fun record _ ↦ ?_
    have hids : record.formId ∈ forms.map (·.formId) ↔
        record.formId ∈ r.published.forms.map (·.formId) := (hperm.map _).mem_iff
    exact decide_eq_decide.mpr (not_congr hids)
  · rw [h.toDownload_eq, h'.toDownload_eq]
    exact hentries.filter _
  · rw [h.plan_eq, h'.plan_eq]
    exact (hentries.filter _).map _

/-- Both passes leave the same of every form. -/
theorem Fetched.kept_listing (h : Fetched r r₁ plan) (h' : Fetched (r.listing forms) r₁' plan')
    (hkeyed : r.holdings.Keyed) (hnodup : (r.published.forms.map (·.formId)).Nodup)
    (hperm : forms.Perm r.published.forms) (id : String) :
    (r₁'.holdings.carry plan').kept id = (r₁.holdings.carry plan).kept id := by
  have hids : (forms.map (·.formId)).Perm (r.published.forms.map (·.formId)) := hperm.map _
  by_cases hlisted : id ∈ r.published.forms.map (·.formId)
  · obtain ⟨d, hd, rfl⟩ := List.mem_map.mp hlisted
    rw [h.kept_of_listed hkeyed hnodup hd,
      h'.kept_of_listed hkeyed (hids.nodup_iff.mpr hnodup) (hperm.mem_iff.mpr hd)]
    rfl
  · rw [h.kept_of_unlisted_eq hkeyed hlisted,
      h'.kept_of_unlisted_eq hkeyed fun hmem ↦ hlisted (hids.mem_iff.mp hmem)]
    rfl

/-- Failed downloads do not depend on the order, and so neither does the end of the pass. -/
theorem Fetched.sameEnd (h : Fetched r r₁ plan) (h' : Fetched (r.listing forms) r₁' plan')
    (hperm : forms.Perm r.published.forms) :
    SameEnd
      (if r₁.holdings.failures plan = [] then .ok plan
        else .error (.sync (.incomplete "" (r₁.holdings.failures plan))))
      (if r₁'.holdings.failures plan' = [] then .ok plan'
        else .error (.sync (.incomplete "" (r₁'.holdings.failures plan')))) := by
  obtain ⟨hdelete, hdownload, hunchanged⟩ := h.plan_listing h' hperm
  have hfailures : (r₁'.holdings.failures plan').Perm (r₁.holdings.failures plan) := by
    rw [h.failures_eq, h'.failures_eq]
    exact (hdownload.map _).filter _
  by_cases hnone : r₁.holdings.failures plan = []
  · rw [hnone, List.perm_nil] at hfailures
    rw [if_pos hnone, if_pos hfailures]
    exact .returned hdelete hdownload hunchanged
  · have hnone' : r₁'.holdings.failures plan' ≠ [] := by
      intro hnil
      rw [hnil] at hfailures
      exact hnone hfailures.nil_eq.symm
    rw [if_neg hnone, if_neg hnone']
    exact .failed hfailures

/-! ### A pass that the server refuses -/

/-- Where the list or a manifest does not come about, a pass ends in the fault of the server. -/
theorem ends_synchronize_refused (h : ¬ r.Reaches) :
    Ends catalog.synchronize r fun res u ↦ Refused r res u.holdings := by
  cases hsnapshot : catalog.snapshot true r with
  | ok xs r₁ =>
    have hfetched := fetched_of_planWith (planWith_of_snapshot hsnapshot)
    exact absurd ⟨hfetched.listed, hfetched.reached⟩ h
  | error e u =>
    have hplan : catalog.planWith true r = .error e u := bind_eq_error hsnapshot
    have hpass : catalog.synchronize r = .error e u := bind_eq_error hplan
    have hfault := Outlook.snapshot_eq_error ((ends_snapshot r true).of_error hsnapshot).1.symm
    rw [ends_iff_of_error hpass]
    obtain ⟨done, failing, haborts⟩ | ⟨_, _, _, hmedia⟩ :=
      Catalog.aborts_of_snapshot_eq server_leaves_stock device_stocks hsnapshot
    · have hstock := haborts.stock_eq server_leaves_stock device_stocks
      rw [Stock.compared_true] at hstock
      have hrecords : u.holdings.records =
          r.holdings.records.map (Stock.reseen r.holdings.records done) :=
        congrArg Stock.records hstock
      have hrest := congrArg Stock.rest hstock
      have hmedia := congrArg Holdings.media hrest
      have hchanges := congrArg Holdings.changes hrest
      refine ⟨⟨e, rfl, ?_⟩, hchanges, fun id ↦ Kept.ext ?_ ?_⟩
      · refine hfault.imp_right ?_
        rintro ⟨ds, hds, hd⟩
        rwa [Published.forms_of_listAnswer hds] at hd
      · change (Catalog.recordOf? u.holdings.records id).map _ = _
        rw [hrecords, Catalog.recordOf?_map (Stock.formId_reseen _ _), Option.map_map]
        exact Option.map_congr fun record _ ↦ forget_reseen _ _ record
      · funext version
        change Holdings.mediaAt u.stock.rest _ = Holdings.mediaAt r.stock.rest _
        unfold Holdings.mediaAt
        rw [hmedia]
    · cases hmedia

/-! ### The order does not matter -/

/-- Two passes from one device over one list without repeated ids, in two orders, end alike when the
list and the manifests come about. Otherwise both end in a fault of the server, with nothing changed
but remembered keys. -/
theorem order_irrelevant (r : Rehearsal) {forms : List Descriptor} (hkeyed : r.holdings.Keyed)
    (hnodup : (r.published.forms.map (·.formId)).Nodup) (hperm : forms.Perm r.published.forms) :
    Ends catalog.synchronize r fun res u ↦
      Ends catalog.synchronize (r.listing forms) fun res' u' ↦
        (r.Reaches → Alike r.holdings res res' u.holdings u'.holdings) ∧
          (¬ r.Reaches → Refused r res u.holdings ∧
            Refused (r.listing forms) res' u'.holdings) := by
  by_cases hreaches : r.Reaches
  · obtain ⟨plan, r₁, hplan⟩ := hreaches.exists_planWith
    obtain ⟨plan', r₁', hplan'⟩ := (hreaches.listing hperm).exists_planWith
    have h := fetched_of_planWith hplan
    have h' := fetched_of_planWith hplan'
    refine (ends_synchronize hplan).mono ?_
    rintro _ u ⟨-, hu, rfl⟩
    refine (ends_synchronize hplan').mono ?_
    rintro _ u' ⟨-, hu', rfl⟩
    refine ⟨fun _ ↦ ?_, fun hnot ↦ absurd hreaches hnot⟩
    rw [hu, hu']
    obtain ⟨hdelete, hdownload, -⟩ := h.plan_listing h' hperm
    exact ⟨h.sameEnd h' hperm,
      ⟨plan.toDelete, plan.toDownload, plan'.toDownload, hdownload, h.changes_carry,
        hdelete ▸ h'.changes_carry⟩,
      h.kept_listing h' hkeyed hnodup hperm⟩
  · have hback : r.published.forms.Perm (r.listing forms).published.forms := hperm.symm
    have hreaches' : ¬ (r.listing forms).Reaches := fun h' ↦ hreaches (h'.listing hback)
    refine (ends_synchronize_refused hreaches).mono fun res u hu ↦ ?_
    refine (ends_synchronize_refused hreaches').mono fun res' u' hu' ↦ ?_
    exact ⟨fun h ↦ absurd h hreaches, fun _ ↦ ⟨hu, hu'⟩⟩

/-- A list with a form that is known by its key, one that has changed, a new one, and one whose
download fails; the device also has a form that is not listed. -/
def scattered : Rehearsal where
  published :=
    { forms :=
        [ { formId := "known", contentHash := "md5:k" },
          { formId := "changed", contentHash := "md5:new", manifestUrl := some "changed.json" },
          { formId := "fresh", contentHash := "f" },
          { formId := "stubborn", contentHash := "md5:s" } ]
      manifests := [("changed.json", ⟨"m", [⟨"logo.png", "md5:l", "logo.png"⟩]⟩)] }
  holdings :=
    { records :=
        [ { formId := "gone", contentHash := "g" },
          { formId := "changed", contentHash := "old" },
          { formId := "known", contentHash := "k", seenKey := ContentKey.ofForm "k" none } ]
      failing := ["stubborn"] }

/-- The list comes about, and read backwards it has the same effect. -/
theorem order_irrelevant_scattered :
    scattered.Reaches ∧
      Ends catalog.synchronize scattered fun res u ↦
        Ends catalog.synchronize (scattered.listing scattered.published.forms.reverse)
          fun res' u' ↦ Alike scattered.holdings res res' u.holdings u'.holdings := by
  obtain ⟨plan, r₁, hplan, -⟩ : Returns (catalog.planWith true) scattered fun _ _ ↦ True := by
    decide +kernel
  have hfetched := fetched_of_planWith hplan
  have hreaches : scattered.Reaches := ⟨hfetched.listed, hfetched.reached⟩
  have hperm : scattered.published.forms.reverse.Perm scattered.published.forms :=
    List.reverse_perm _
  have hpasses := order_irrelevant scattered (by decide +kernel) (by decide +kernel) hperm
  exact ⟨hreaches, hpasses.mono fun _ _ h ↦ h.mono fun _ _ h' ↦ h'.1 hreaches⟩

/-- A list of two forms, the second of which has no manifest on the server although it should. -/
def halfReached : Rehearsal where
  published :=
    { forms :=
        [ { formId := "a", contentHash := "md5:a" },
          { formId := "b", contentHash := "md5:b", manifestUrl := some "b.json" } ] }
  holdings := { records := [{ formId := "a", contentHash := "a" }] }

/-- Where a manifest is missing, both passes end in the fault of the server, and whether the key of
the other form is remembered depends on the order of the list. -/
theorem order_tells_unreached :
    halfReached.holdings.Keyed ∧ (halfReached.published.forms.map (·.formId)).Nodup ∧
      Raises catalog.synchronize halfReached (fun e u ↦ e = .missingKey "b.json" ∧
        (u.holdings.kept "a").record =
          some { formId := "a", contentHash := "a", seenKey := ContentKey.ofForm "a" none }) ∧
      Raises catalog.synchronize (halfReached.listing halfReached.published.forms.reverse)
        (fun e u ↦ e = .missingKey "b.json" ∧
          (u.holdings.kept "a").record = some { formId := "a", contentHash := "a" }) := by
  refine ⟨by decide +kernel, by decide +kernel, by decide +kernel, by decide +kernel⟩

end Rehearsal

end Memory

end FormCatalog
