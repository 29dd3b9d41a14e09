import FormCatalog.Catalog.Payload
import FormCatalog.Proofs.Catalog.Account
import FormCatalog.Proofs.Catalog.Retry
import FormCatalog.Proofs.Overriding
import Mathlib.Data.List.Induction

/-!
# When one pass is enough

A list may name a form more than once. Every entry is compared with the one record of its form, and
every entry that differs is downloaded, so after a pass the form has the key of a single entry: the
last one that was downloaded or, where none was, the last one that was compared in full
(`Outlook.lastWord`). The next pass leaves the entries with that key alone. It compares the others
in full with the copy that the first pass left (`Outlook.leaves`), and those that differ from it are
in dispute (`Outlook.disputed`).

`settles_iff_undisputed` is the account of two passes: when the first one returns, the next plan
deletes nothing and downloads exactly the entries in dispute. So the catalog has settled exactly if
there are none, and it always has if the entries of one form have one key. `repeated_form_unsettled`
is a list of two entries, in a payload that is let through, that take turns in every pass.
-/

set_option autoImplicit false
set_option relaxedAutoImplicit false

namespace FormCatalog

open Op Memory

/-! ### What a pass without failures leaves -/

namespace Memory.Kept

/-- Whether what is kept of a form differs from the published form, by the comparison in full. -/
def differs (k : Kept) (d : Descriptor) (manifest : Option Manifest) : Bool :=
  k.record.any fun record ↦
    ContentKey.stripLabel d.contentHash ≠ ContentKey.stripLabel record.contentHash ||
      manifest.any fun m ↦ mediaDiffer m.files (k.media d.version)

/-- The comparison in full does not look at the remembered key. -/
@[simp] theorem differs_withSeen (k : Kept) (key : Option String) (d : Descriptor)
    (manifest : Option Manifest) : (k.withSeen key).differs d manifest = k.differs d manifest := by
  unfold differs withSeen
  rw [Option.any_map]

theorem received_congr {k k' : Kept} (h : k.withSeen none = k'.withSeen none) (x : Details) :
    k.received x = k'.received x := by
  rw [← received_withSeen x none k, h, received_withSeen]

/-- Of several keys that are remembered one after the other, the last one stays. -/
theorem foldl_withSeen {β : Type} (marks : β → Bool) (key : β → String) (l : List β) (k : Kept) :
    l.foldl (fun k b ↦ if marks b then k.withSeen (some (key b)) else k) k =
      (l.filter marks).getLast?.elim k fun b ↦ k.withSeen (some (key b)) := by
  induction l using List.reverseRecOn with
  | nil => rfl
  | append_singleton l b ih =>
    rw [List.foldl_append, ih, List.foldl_cons, List.foldl_nil, getLast?_filter_concat]
    by_cases hb : marks b = true
    · rw [if_pos hb, if_pos hb]
      cases (l.filter marks).getLast? with
      | none => rfl
      | some b => exact withSeen_withSeen _ _ _
    · rw [if_neg hb, if_neg hb]

end Memory.Kept

namespace Outlook

/-- The listed entry whose key a pass without failures leaves remembered for a form, if it leaves a
new one: the last entry of the form that needs a download, else the last one that is compared in
full. -/
def lastWord (o : Outlook) (listed : List Descriptor) (formId : String) : Option Descriptor :=
  let own := listed.filter (·.formId = formId)
  (own.filter fun d ↦ (o.entry d).needsDownload).getLast?.or
    (own.filter o.comparesInFull).getLast?

/-- What a pass without failures leaves of a form, apart from the remembered key: the entries of the
form that need a download, received one after the other. -/
def leaves (o : Outlook) (listed : List Descriptor) (formId : String) : Kept :=
  ((listed.filter (·.formId = formId)).filter fun d ↦ (o.entry d).needsDownload).foldl
    (fun k d ↦ k.received (o.entry d)) (o.kept formId)

/-- Whether a pass without failures leaves a listed entry in dispute: another key has the last word
on its form, and the copy that is left differs from it. -/
def disputed (o : Outlook) (listed : List Descriptor) (d : Descriptor) : Bool :=
  (o.lastWord listed d.formId).any (fun w ↦ (o.entry w).key ≠ (o.entry d).key) &&
    (o.leaves listed d.formId).differs d (o.manifest? d)

variable {o : Outlook} {listed : List Descriptor} {d : Descriptor}

theorem mem_of_lastWord {formId : String} {w : Descriptor}
    (h : o.lastWord listed formId = some w) : w ∈ listed ∧ w.formId = formId := by
  suffices hown : w ∈ listed.filter (·.formId = formId) by
    obtain ⟨hmem, hid⟩ := List.mem_filter.mp hown
    exact ⟨hmem, of_decide_eq_true hid⟩
  unfold lastWord at h
  rcases Option.or_eq_some_iff.mp h with h | ⟨-, h⟩
  · exact List.mem_of_mem_filter (List.mem_of_getLast? h)
  · exact List.mem_of_mem_filter (List.mem_of_getLast? h)

/-- Entries of one form with one key are not in dispute. -/
theorem disputed_of_same_key
    (h : ∀ w ∈ listed, w.formId = d.formId → (o.entry w).key = (o.entry d).key) :
    o.disputed listed d = false := by
  unfold disputed
  cases hw : o.lastWord listed d.formId with
  | none => rfl
  | some w =>
    obtain ⟨hmem, hid⟩ := mem_of_lastWord hw
    simp [h w hmem hid]

/-- A form with a record needs a download if its key is not the remembered one and the device's copy
differs. -/
theorem needsDownload_of_record {record : FormRecord}
    (hrecord : (o.kept d.formId).record = some record) :
    (o.entry d).needsDownload =
      (decide (record.seenKey ≠ some (o.entry d).key) &&
        (o.kept d.formId).differs d (o.manifest? d)) := by
  have hfound : Catalog.recordOf? o.records d.formId = some record := hrecord
  unfold Kept.differs entry details Details.needsDownload
  rw [hrecord, hfound]
  rfl

/-- A form without a record needs a download. -/
theorem exists_record_of_unneeded (h : (o.entry d).needsDownload = false) :
    ∃ record, (o.kept d.formId).record = some record := by
  cases hrecord : (o.kept d.formId).record with
  | some record => exact ⟨record, rfl⟩
  | none =>
    have hfound : Catalog.recordOf? o.records d.formId = none := hrecord
    unfold entry details Details.needsDownload at h
    rw [hfound] at h
    cases h

end Outlook

namespace Memory.Rehearsal

/-- A pass that was made from `r` by way of the plan returned, and left `u`. -/
structure Returned (r r₁ : Rehearsal) (plan : Plan) (u : Rehearsal) : Prop where
  fetched : Fetched r r₁ plan
  keyed : r.holdings.Keyed
  published : u.published = r₁.published
  holdings : u.holdings = r₁.holdings.carry plan
  complete : r₁.holdings.failures plan = []

theorem returned_of_synchronize {r u : Rehearsal} {plan : Plan} (hkeyed : r.holdings.Keyed)
    (hpass : catalog.synchronize r = .ok plan u) : ∃ r₁, Returned r r₁ plan u := by
  obtain ⟨planned, r₁, hplan, -⟩ := bind_eq_ok hpass
  obtain ⟨hpublished, hholdings, hres⟩ := (ends_synchronize hplan).of_ok hpass
  by_cases hcomplete : r₁.holdings.failures planned = []
  · rw [if_pos hcomplete] at hres
    cases hres
    exact ⟨r₁, fetched_of_planWith hplan, hkeyed, hpublished, hholdings, hcomplete⟩
  · rw [if_neg hcomplete] at hres
    cases hres

namespace Returned

variable {r r₁ u : Rehearsal} {plan : Plan} {d : Descriptor}

/-- The downloads of a form, in their order. -/
theorem filter_toDownload (h : Returned r r₁ plan u) (formId : String) :
    plan.toDownload.filter (·.formId = formId) =
      ((r.published.forms.filter (·.formId = formId)).filter fun d ↦
        (r.outlook.entry d).needsDownload).map r.outlook.entry := by
  rw [h.fetched.toDownload_eq, List.filter_map, List.filter_map, List.filter_filter,
    List.filter_filter]
  congr 1
  refine List.filter_congr fun d _ ↦ ?_
  exact Bool.and_comm _ _

theorem fine (h : Returned r r₁ plan u) {x : Details} (hx : x ∈ plan.toDownload) :
    x.formId ∉ r.holdings.failing := by
  intro hfailing
  have hcomplete := h.complete
  rw [h.fetched.failures_eq, List.filter_eq_nil_iff] at hcomplete
  exact hcomplete _ (List.mem_map_of_mem hx) (decide_eq_true hfailing)

/-- What the pass left of a listed form, apart from the remembered key. -/
theorem withSeen_kept (h : Returned r r₁ plan u) (hd : d ∈ r.published.forms) :
    (u.outlook.kept d.formId).withSeen none =
      (r.outlook.leaves r.published.forms d.formId).withSeen none := by
  obtain ⟨hdropped, hfailing⟩ := h.fetched.keyed_drops h.keyed
  have hbefore := h.fetched.withSeen_kept_drops h.keyed (h.fetched.not_mem_toDelete hd)
  have hstep : ∀ x ∈ plan.toDownload.filter (·.formId = d.formId), ∀ k : Kept,
      (if x.formId ∈ r.holdings.failing then k.withSeen none else k.received x) =
        k.received x := by
    intro x hx k
    rw [if_neg (h.fine (List.mem_of_mem_filter hx))]
  have hkept : u.outlook.kept d.formId =
      (plan.toDownload.filter (·.formId = d.formId)).foldl (fun k x ↦ k.received x)
        (Holdings.kept (plan.toDelete.foldl (fun h r ↦ h.drop r.formId) r₁.holdings)
          d.formId) := by
    change u.holdings.kept d.formId = _
    rw [h.holdings, Holdings.carry,
      (Holdings.separately_attempt r.holdings.failing).foldl_eq _ ⟨hdropped, hfailing⟩]
    exact List.foldl_ext _ _ _ fun k x hx ↦ hstep x hx k
  rw [hkept, h.filter_toDownload, List.foldl_map, Outlook.leaves]
  cases (r.published.forms.filter (·.formId = d.formId)).filter fun d ↦
      (r.outlook.entry d).needsDownload with
  | nil => exact hbefore
  | cons first rest =>
    rw [List.foldl_cons, List.foldl_cons, Kept.received_congr hbefore]
    rfl

/-- What comparing left of a form is what was there, with the key of the last entry that was
compared in full. -/
theorem kept_compared (h : Returned r r₁ plan u) (formId : String) :
    r₁.holdings.kept formId =
      ((r.published.forms.filter (·.formId = formId)).filter
        r.outlook.comparesInFull).getLast?.elim (r.outlook.kept formId)
          fun w ↦ (r.outlook.kept formId).withSeen (some (r.outlook.entry w).key) := by
  rw [h.fetched.holdings, (Holdings.separately_notice r.outlook).foldl_eq _ h.keyed]
  exact Kept.foldl_withSeen r.outlook.comparesInFull (fun d ↦ (r.outlook.entry d).key)
    (r.published.forms.filter (·.formId = formId)) (r.outlook.kept formId)

/-- A listed form is on the device afterwards, with the key that had the last word on it or, where
none had, with the key of all its entries. -/
theorem exists_record (h : Returned r r₁ plan u) (hd : d ∈ r.published.forms) :
    ∃ record, (u.outlook.kept d.formId).record = some record ∧
      (record.seenKey = some (r.outlook.entry d).key ↔
        ∀ w, r.outlook.lastWord r.published.forms d.formId = some w →
          (r.outlook.entry w).key = (r.outlook.entry d).key) := by
  obtain ⟨hdropped, hfailing⟩ := h.fetched.keyed_drops h.keyed
  have hkept : u.outlook.kept d.formId = (r₁.holdings.carry plan).kept d.formId := by
    rw [← h.holdings]
    rfl
  have hown : d ∈ r.published.forms.filter (·.formId = d.formId) :=
    List.mem_filter.mpr ⟨hd, decide_eq_true rfl⟩
  rw [hkept, Outlook.lastWord]
  cases hdue : ((r.published.forms.filter (·.formId = d.formId)).filter fun d ↦
      (r.outlook.entry d).needsDownload).getLast? with
  | some w =>
    have hlast : (plan.toDownload.filter (·.formId = d.formId)).getLast? =
        some (r.outlook.entry w) := by
      rw [h.filter_toDownload, List.getLast?_map, hdue]
      rfl
    have hmem := List.mem_filter.mp (List.mem_of_getLast? hlast)
    have hfine : d.formId ∉ r.holdings.failing := by
      rw [← of_decide_eq_true hmem.2]
      exact h.fine hmem.1
    rw [← hfailing] at hfine
    refine ⟨_, Holdings.record_foldl_attempt hdropped hfine hlast, ?_⟩
    simp [Holdings.recordOf]
  | none =>
    -- nothing of the form is downloaded, so what comparing left is what stays
    have hnone : ∀ e ∈ r.published.forms.filter (·.formId = d.formId),
        (r.outlook.entry e).needsDownload ≠ true :=
      List.filter_eq_nil_iff.mp (List.getLast?_eq_none_iff.mp hdue)
    have hnot : d.formId ∉ plan.toDownload.map (·.formId) := by
      intro hmem
      obtain ⟨e, he, hid, hneeds⟩ := h.fetched.exists_of_mem_toDownload hmem
      exact hnone e (List.mem_filter.mpr ⟨he, decide_eq_true hid⟩) hneeds
    obtain ⟨record, hrecord⟩ :=
      Outlook.exists_record_of_unneeded (Bool.eq_false_iff.mpr (hnone d hown))
    rw [Holdings.carry,
      (Holdings.separately_attempt r.holdings.failing).foldl_of_not_mem hnot ⟨hdropped, hfailing⟩,
      Holdings.separately_drop.foldl_of_not_mem (h.fetched.not_mem_toDelete hd)
        (h.fetched.keyed h.keyed), h.kept_compared, Option.none_or]
    cases hfull : ((r.published.forms.filter (·.formId = d.formId)).filter
        r.outlook.comparesInFull).getLast? with
    | some w =>
      refine ⟨{ record with seenKey := some (r.outlook.entry w).key }, ?_, by simp⟩
      simp [Kept.withSeen, hrecord]
    | none =>
      have hshort : r.outlook.comparesInFull d ≠ true :=
        List.filter_eq_nil_iff.mp (List.getLast?_eq_none_iff.mp hfull) d hown
      have hfound : Catalog.recordOf? r.outlook.records d.formId = some record := hrecord
      have hkey : record.seenKey = some (d.key (r.outlook.manifest? d)) := by
        simpa [Outlook.comparesInFull, hfound] using hshort
      refine ⟨record, hrecord, ?_⟩
      rw [hkey]
      simp [Details.key, Outlook.entry, Outlook.details]

/-! ### The next pass -/

theorem manifest?_again (h : Returned r r₁ plan u) (d : Descriptor) :
    u.outlook.manifest? d = r.outlook.manifest? d :=
  congrFun (Outlook.manifest?_congr (h.fetched.manifestAt_again h.published)) d

theorem key_again (h : Returned r r₁ plan u) (d : Descriptor) :
    (u.outlook.entry d).key = (r.outlook.entry d).key :=
  congrArg d.key (h.manifest?_again d)

/-- The next pass downloads a listed entry if it is in dispute. -/
theorem needsDownload_again (h : Returned r r₁ plan u) (hd : d ∈ r.published.forms) :
    (u.outlook.entry d).needsDownload = r.outlook.disputed r.published.forms d := by
  obtain ⟨record, hrecord, hkey⟩ := h.exists_record hd
  have hdiffers : (u.outlook.kept d.formId).differs d (r.outlook.manifest? d) =
      (r.outlook.leaves r.published.forms d.formId).differs d (r.outlook.manifest? d) := by
    rw [← Kept.differs_withSeen _ none, h.withSeen_kept hd, Kept.differs_withSeen]
  rw [Outlook.needsDownload_of_record hrecord, h.key_again, h.manifest?_again, hdiffers,
    Outlook.disputed]
  congr 1
  rw [Bool.eq_iff_iff, decide_eq_true_eq, Ne, hkey, Option.any_eq_true]
  simp

/-- The next plan deletes nothing and downloads the entries in dispute. -/
theorem planWith_again (h : Returned r r₁ plan u) :
    ∃ again v, catalog.planWith true u = .ok again v ∧ again.toDelete = [] ∧
      again.toDownload = (r.published.forms.filter
        (r.outlook.disputed r.published.forms)).map u.outlook.entry ∧
      v.holdings = r.published.forms.foldl (Holdings.notice u.outlook true) u.holdings := by
  obtain ⟨again, v, hv⟩ := h.fetched.planWith_again h.published
  have hagain := fetched_of_planWith hv
  have hforms := h.fetched.forms_again h.published
  refine ⟨again, v, hv, ?_, ?_, by rw [hagain.holdings, hforms]⟩
  · rw [hagain.toDelete_eq, hforms, Holdings.gone, List.filter_eq_nil_iff]
    intro record hrecord
    rw [h.holdings] at hrecord
    obtain ⟨d, hd, hid, -⟩ := h.fetched.exists_of_mem_carry h.keyed hrecord
    rw [← hid]
    simpa using ⟨d, hd, rfl⟩
  · rw [hagain.toDownload_eq, hforms, List.filter_map]
    congr 1
    exact List.filter_congr fun d hd ↦ h.needsDownload_again hd

/-- Where the entries of one form have one key, the next pass compares nothing in full. -/
theorem comparesInFull_again (h : Returned r r₁ plan u) (hd : d ∈ r.published.forms)
    (hsame : ∀ w ∈ r.published.forms, w.formId = d.formId →
      (r.outlook.entry w).key = (r.outlook.entry d).key) :
    u.outlook.comparesInFull d = false := by
  obtain ⟨record, hrecord, hkey⟩ := h.exists_record hd
  refine Outlook.comparesInFull_of_seenKey hrecord ?_
  rw [h.manifest?_again]
  refine hkey.mpr fun w hw ↦ ?_
  obtain ⟨hmem, hid⟩ := Outlook.mem_of_lastWord hw
  exact hsame w hmem hid

end Returned

/-- After a pass that returned, the next plan deletes nothing and downloads exactly the entries in
dispute, so the next pass returns an empty plan exactly if there are none. Where the entries of one
form have one key there are none, and the next pass leaves the device alone. -/
theorem settles_iff_undisputed (r : Rehearsal) {plan : Plan} {u : Rehearsal}
    (hkeyed : r.holdings.Keyed) (hpass : catalog.synchronize r = .ok plan u) :
    (Returns (catalog.planWith true) u fun again _ ↦
      again.toDelete = [] ∧ again.toDownload = (r.published.forms.filter
        (r.outlook.disputed r.published.forms)).map u.outlook.entry) ∧
    ((Returns catalog.synchronize u fun again _ ↦ again.isEmpty = true) ↔
      ∀ d ∈ r.published.forms, r.outlook.disputed r.published.forms d = false) ∧
    ((∀ d ∈ r.published.forms, ∀ w ∈ r.published.forms, w.formId = d.formId →
        (r.outlook.entry w).key = (r.outlook.entry d).key) →
      Returns catalog.synchronize u fun again v ↦
        again.isEmpty = true ∧ v.holdings = u.holdings) := by
  obtain ⟨r₁, h⟩ := returned_of_synchronize hkeyed hpass
  obtain ⟨again, v, hv, hdelete, hdownload, hnoticed⟩ := h.planWith_again
  have hempty : again.isEmpty = true ↔
      ∀ d ∈ r.published.forms, r.outlook.disputed r.published.forms d = false := by
    unfold Plan.isEmpty
    rw [hdelete, hdownload]
    simp
  refine ⟨⟨again, v, hv, hdelete, hdownload⟩, ⟨?_, fun hquiet ↦ ?_⟩, fun hsame ↦ ?_⟩
  · rintro ⟨returned, w, hw, hreturned⟩
    obtain ⟨-, -, hres⟩ := (ends_synchronize hv).of_ok hw
    split at hres
    · cases hres
      exact hempty.mp hreturned
    · cases hres
  · obtain ⟨_, w, hw, rfl, -⟩ := returns_synchronize_of_isEmpty hv (hempty.mpr hquiet)
    exact ⟨_, w, hw, hempty.mpr hquiet⟩
  · have hnone := hempty.mpr fun d hd ↦ Outlook.disputed_of_same_key (hsame d hd)
    have hquiet : v.holdings = u.holdings := by
      rw [hnoticed]
      refine List.foldlRecOn (motive := fun g ↦ g = u.holdings) _ _ rfl fun g hg d hd ↦ ?_
      rw [Holdings.notice_of_not_comparesInFull (h.comparesInFull_again hd (hsame d hd)), hg]
    obtain ⟨_, w, hw, rfl, hholdings⟩ := returns_synchronize_of_isEmpty hv hnone
    exact ⟨_, w, hw, hnone, hholdings.trans hquiet⟩

/-- A payload that lists a form twice, with two hashes. -/
def repeatedPayload : Bytes := Bytes.ofText <|
  "\x7b\"forms\": [" ++
    "\x7b\"form_id\": \"a\", \"hash\": \"md5:x\", \"download_url\": \"u\"\x7d, " ++
    "\x7b\"form_id\": \"a\", \"hash\": \"md5:y\", \"download_url\": \"u\"\x7d]\x7d"

/-- An empty device, and a server that lists a form twice, with two hashes. -/
def repeated : Rehearsal where
  published :=
    { forms :=
        [ { formId := "a", contentHash := "md5:x", downloadUrl := "u" },
          { formId := "a", contentHash := "md5:y", downloadUrl := "u" } ] }

theorem settles_iff_undisputed_repeated :
    repeated.holdings.Keyed ∧
      Returns catalog.synchronize repeated fun _ u ↦
        (Returns (catalog.planWith true) u fun again _ ↦
          again.toDelete = [] ∧ again.toDownload = (repeated.published.forms.filter
            (repeated.outlook.disputed repeated.published.forms)).map u.outlook.entry) ∧
        ((Returns catalog.synchronize u fun again _ ↦ again.isEmpty = true) ↔
          ∀ d ∈ repeated.published.forms,
            repeated.outlook.disputed repeated.published.forms d = false) ∧
        ((∀ d ∈ repeated.published.forms, ∀ w ∈ repeated.published.forms, w.formId = d.formId →
            (repeated.outlook.entry w).key = (repeated.outlook.entry d).key) →
          Returns catalog.synchronize u fun again v ↦
            again.isEmpty = true ∧ v.holdings = u.holdings) := by
  obtain ⟨plan, u, hpass, -⟩ : Returns catalog.synchronize repeated fun _ _ ↦ True := by
    decide +kernel
  have hkeyed : repeated.holdings.Keyed := by decide +kernel
  exact ⟨hkeyed, plan, u, hpass, settles_iff_undisputed repeated hkeyed hpass⟩

/-- The list is let through and the first pass returns, but the second one brings the entry that the
first one replaced, and the third one brings the other again. -/
theorem repeated_form_unsettled :
    Payload.formList repeatedPayload = .ok repeated.published.forms ∧
      repeated.holdings.Keyed ∧
      Returns catalog.synchronize repeated fun _ u ↦
        Returns catalog.synchronize u fun second v ↦
          second.toDownload.map (·.descriptor.contentHash) = ["md5:x"] ∧
            second.isEmpty = false ∧
            Returns catalog.synchronize v fun third _ ↦
              third.toDownload.map (·.descriptor.contentHash) = ["md5:y"] := by
  decide +kernel

end Memory.Rehearsal

end FormCatalog
