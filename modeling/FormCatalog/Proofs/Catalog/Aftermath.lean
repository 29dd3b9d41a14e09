import FormCatalog.Proofs.Catalog.Effects
import FormCatalog.Proofs.Catalog.Frame

/-!
# What a pass leaves of each form

A pass is three loops (comparing, deleting, downloading), and each of their steps touches only what
the device keeps of one form. Where no form comes twice, the loops therefore act on each form by
itself (`Separately.foldl`), and what the device keeps of a form after a pass depends only on what
it kept of that form before (`kept_of_listed`, `kept_of_unlisted`). The five fates of a form are the
branches of `Kept.settle`: a form that is downloaded has the new key, a form whose download failed
has none, and a form that stays has the key that is published.
-/

set_option autoImplicit false
set_option relaxedAutoImplicit false

namespace FormCatalog.Memory

open Op

/-! ### Loops over separate things -/

/-- Each step of a loop changes what is seen under one name only, as `change` says. -/
structure Separately {σ β γ : Type} (look : σ → String → γ) (f : σ → β → σ) (name : β → String)
    (change : β → γ → γ) (inv : σ → Prop) : Prop where
  keeps : ∀ s b, inv s → inv (f s b)
  self : ∀ s b, inv s → look (f s b) (name b) = change b (look s (name b))
  other : ∀ s b id, inv s → id ≠ name b → look (f s b) id = look s id

namespace Separately

variable {σ β γ : Type} {look : σ → String → γ} {f : σ → β → σ} {name : β → String}
  {change : β → γ → γ} {inv : σ → Prop}

theorem foldl_keeps (h : Separately look f name change inv) {s : σ} (hs : inv s) (l : List β) :
    inv (l.foldl f s) :=
  List.foldlRecOn l f hs fun t ht b _ ↦ h.keeps t b ht

theorem foldl_of_not_mem (h : Separately look f name change inv) {l : List β} {id : String}
    (hid : id ∉ l.map name) {s : σ} (hs : inv s) : look (l.foldl f s) id = look s id := by
  induction l generalizing s with
  | nil => rfl
  | cons b rest ih =>
    rw [List.map_cons, List.mem_cons, not_or] at hid
    rw [List.foldl_cons, ih hid.2 (h.keeps s b hs), h.other s b id hs hid.1]

theorem foldl_of_mem (h : Separately look f name change inv) {l : List β}
    (hnodup : (l.map name).Nodup) {b : β} (hb : b ∈ l) {s : σ} (hs : inv s) :
    look (l.foldl f s) (name b) = change b (look s (name b)) := by
  induction l generalizing s with
  | nil => cases hb
  | cons a rest ih =>
    rw [List.map_cons, List.nodup_cons] at hnodup
    rw [List.foldl_cons]
    rcases List.mem_cons.mp hb with rfl | hrest
    · rw [h.foldl_of_not_mem hnodup.1 (h.keeps s b hs), h.self s b hs]
    · have hne : name b ≠ name a := fun heq ↦ hnodup.1 (heq ▸ List.mem_map_of_mem hrest)
      rw [ih hnodup.2 hrest (h.keeps s a hs), h.other s a (name b) hs hne]

end Separately

/-! ### What is kept of a form -/

/-- What the device keeps of one form: its record, and its media files in each version. -/
@[ext]
structure Kept where
  record : Option FormRecord
  media : Option String → List MediaRecord

namespace Kept

/-- With another remembered key. -/
def withSeen (key : Option String) (k : Kept) : Kept :=
  { k with record := k.record.map fun r ↦ { r with seenKey := key } }

/-- After a successful download. -/
def received (x : Details) (k : Kept) : Kept where
  record := some (Holdings.recordOf x)
  media version := if x.descriptor.version = version then Holdings.mediaOf x else k.media version

/-- After a pass over a list with the form: `x` is what the snapshot says of it, and the download
fails if `failing` holds. -/
def settle (x : Details) (failing : Prop) [Decidable failing] (k : Kept) : Kept :=
  if x.needsDownload then
    if failing then k.withSeen none else k.received x
  else k.withSeen (some x.key)

@[simp] theorem withSeen_withSeen (key key' : Option String) (k : Kept) :
    (k.withSeen key).withSeen key' = k.withSeen key' := by
  unfold withSeen
  rw [Option.map_map]
  rfl

@[simp] theorem received_withSeen (x : Details) (key : Option String) (k : Kept) :
    (k.withSeen key).received x = k.received x := rfl

/-- Remembering the key that is there already changes nothing. -/
theorem withSeen_self {k : Kept} {key : Option String}
    (h : ∀ r, k.record = some r → r.seenKey = key) : k.withSeen key = k := by
  obtain ⟨record, media⟩ := k
  cases record with
  | none => rfl
  | some r =>
    obtain rfl := h r rfl
    rfl

end Kept

namespace Holdings

/-- What the holdings have of a form. -/
def kept (h : Holdings) (formId : String) : Kept :=
  ⟨Catalog.recordOf? h.records formId, fun version ↦ h.mediaAt (formId, version)⟩

theorem kept_drop (h : Holdings) (formId id : String) :
    (h.drop formId).kept id =
      if id = formId then { h.kept id with record := none } else h.kept id := by
  have hrecord := recordOf?_filter (fun i ↦ decide (i ≠ formId)) h.records id
  by_cases hid : id = formId
  · rw [if_neg (by simp [hid])] at hrecord
    rw [if_pos hid]
    exact Kept.ext hrecord rfl
  · rw [if_pos (by simp [hid])] at hrecord
    rw [if_neg hid]
    exact Kept.ext hrecord rfl

private theorem kept_revise (h h' : Holdings) (formId id : String) (key : Option String)
    (hrecords : h'.records = revise formId (fun r ↦ { r with seenKey := key }) h.records)
    (hmedia : h'.media = h.media) :
    h'.kept id = if id = formId then (h.kept id).withSeen key else h.kept id := by
  have hrevise := recordOf?_revise (f := fun r ↦ { r with seenKey := key }) (fun _ ↦ rfl) formId id
    h.records
  have hmediaAt : ∀ version, h'.mediaAt (id, version) = h.mediaAt (id, version) := by
    intro version
    unfold mediaAt
    rw [hmedia]
  rw [← hrecords] at hrevise
  by_cases hid : formId = id
  · rw [if_pos hid] at hrevise
    rw [if_pos hid.symm]
    exact Kept.ext hrevise (funext hmediaAt)
  · rw [if_neg hid] at hrevise
    rw [if_neg (Ne.symm hid)]
    exact Kept.ext hrevise (funext hmediaAt)

theorem kept_mark (h : Holdings) (formId key id : String) :
    (h.mark formId key).kept id =
      if id = formId then (h.kept id).withSeen (some key) else h.kept id :=
  kept_revise h _ formId id (some key) rfl rfl

theorem kept_refuse (h : Holdings) (formId id : String) :
    (h.refuse formId).kept id =
      if id = formId then (h.kept id).withSeen none else h.kept id :=
  kept_revise h _ formId id none rfl rfl

theorem kept_receive {h : Holdings} (hkeyed : h.Keyed) (x : Details) (id : String) :
    (h.receive x).kept id = if id = x.formId then (h.kept id).received x else h.kept id := by
  by_cases hid : id = x.formId
  · subst hid
    have hrecord : Catalog.recordOf? (put (recordOf x) h.records) x.formId = some (recordOf x) :=
      recordOf?_put_self hkeyed
    rw [if_pos rfl]
    refine Kept.ext hrecord (funext fun version ↦ ?_)
    change (h.receive x).mediaAt _ = _
    rw [mediaAt_receive]
    by_cases hv : x.descriptor.version = version
    · simp [Kept.received, hv]
    · simp [Kept.received, hv, kept]
  · have hne : (recordOf x).formId ≠ id := Ne.symm hid
    rw [if_neg hid]
    refine Kept.ext (recordOf?_put_of_ne hne h.records) (funext fun version ↦ ?_)
    change (h.receive x).mediaAt _ = _
    rw [mediaAt_receive, if_neg fun heq ↦ hid (Prod.mk.inj heq).1.symm]
    rfl

/-- Comparing a listed form leaves it with the published key, if it has a record. -/
theorem kept_notice (o : Outlook) (h : Holdings) (d : Descriptor) (id : String) :
    (h.notice o true d).kept id =
      if id = d.formId ∧ o.comparesInFull d then (h.kept id).withSeen (some (o.entry d).key)
      else h.kept id := by
  unfold notice
  rw [Bool.true_and]
  by_cases hfull : o.comparesInFull d = true
  · simp only [hfull, if_true, and_true]
    exact kept_mark _ _ _ _
  · rw [if_neg hfull, if_neg fun h ↦ hfull h.2]
    rfl

/-! ### The three loops -/

theorem separately_notice (o : Outlook) :
    Separately kept (notice o true) Descriptor.formId
      (fun d k ↦ if o.comparesInFull d then k.withSeen (some (o.entry d).key) else k) Keyed where
  keeps h d hk := by
    unfold notice
    split
    · exact Keyed.mark (h := { h with mediaCalls := _ }) hk _ _
    · exact hk
  self h d _ := by
    rw [kept_notice]
    simp only [true_and]
  other h d id _ hne := by
    rw [kept_notice, if_neg fun h ↦ hne h.1]

theorem separately_drop :
    Separately kept (fun h r ↦ h.drop r.formId) FormRecord.formId
      (fun _ k ↦ { k with record := none }) Keyed where
  keeps h r hk := hk.drop r.formId
  self h r _ := by rw [kept_drop, if_pos rfl]
  other h r id _ hne := by rw [kept_drop, if_neg hne]

theorem separately_attempt (failing : List String) :
    Separately kept attempt Details.formId
      (fun x k ↦ if x.formId ∈ failing then k.withSeen none else k.received x)
      (fun h ↦ h.Keyed ∧ h.failing = failing) where
  keeps h x hk := by
    refine ⟨?_, by rw [failing_attempt, hk.2]⟩
    unfold attempt
    split
    · exact hk.1.refuse x.formId
    · exact hk.1.receive x
  self h x hk := by
    unfold attempt
    rw [hk.2]
    split
    · rw [kept_refuse, if_pos rfl]
    · rw [kept_receive hk.1, if_pos rfl]
  other h x id hk hne := by
    unfold attempt
    split
    · rw [kept_refuse, if_neg hne]
    · rw [kept_receive hk.1, if_neg hne]

end Holdings

/-! ### The three loops together -/

namespace Rehearsal.Fetched

variable {r r₁ : Rehearsal} {plan : Plan}

theorem keyed (h : Fetched r r₁ plan) (hkeyed : r.holdings.Keyed) : r₁.holdings.Keyed := by
  rw [h.holdings]
  exact (Holdings.separately_notice r.outlook).foldl_keeps hkeyed _

theorem keyed_drops (h : Fetched r r₁ plan) (hkeyed : r.holdings.Keyed) :
    Holdings.Keyed (plan.toDelete.foldl (fun h r ↦ h.drop r.formId) r₁.holdings) ∧
      (plan.toDelete.foldl (fun h r ↦ h.drop r.formId) r₁.holdings).failing =
        r.holdings.failing := by
  refine ⟨Holdings.separately_drop.foldl_keeps (h.keyed hkeyed) _, ?_⟩
  rw [Holdings.failing_foldl, h.failing_eq]
  exact fun _ _ ↦ rfl

theorem keyed_carry (h : Fetched r r₁ plan) (hkeyed : r.holdings.Keyed) :
    (r₁.holdings.carry plan).Keyed :=
  ((Holdings.separately_attempt _).foldl_keeps (h.keyed_drops hkeyed) _).1

theorem nodup_toDownload (h : Fetched r r₁ plan)
    (hnodup : (r.published.forms.map (·.formId)).Nodup) :
    (plan.toDownload.map (·.formId)).Nodup := by
  rw [h.toDownload_eq]
  refine (List.filter_sublist.map _).nodup ?_
  rw [List.map_map]
  exact hnodup

theorem exists_of_mem_toDownload (h : Fetched r r₁ plan) {id : String}
    (hid : id ∈ plan.toDownload.map (·.formId)) :
    ∃ d ∈ r.published.forms, d.formId = id ∧ (r.outlook.entry d).needsDownload = true := by
  rw [h.toDownload_eq] at hid
  obtain ⟨x, hx, rfl⟩ := List.mem_map.mp hid
  obtain ⟨hmem, hneeds⟩ := List.mem_filter.mp hx
  obtain ⟨d, hd, rfl⟩ := List.mem_map.mp hmem
  exact ⟨d, hd, rfl, hneeds⟩

theorem nodup_toDelete (h : Fetched r r₁ plan) (hkeyed : r.holdings.Keyed) :
    (plan.toDelete.map (·.formId)).Nodup := by
  rw [h.plan_eq]
  exact (List.filter_sublist.map _).nodup (h.keyed hkeyed)

theorem not_mem_toDelete (h : Fetched r r₁ plan) {d : Descriptor} (hd : d ∈ r.published.forms) :
    d.formId ∉ plan.toDelete.map (·.formId) := by
  rw [h.plan_eq]
  intro hmem
  obtain ⟨record, hrecord, hid⟩ := List.mem_map.mp hmem
  refine Plan.formId_of_mem_toDelete hrecord ?_
  rw [hid, List.map_map]
  exact List.mem_map_of_mem (f := Descriptor.formId) hd

/-- What comparing left of a listed form. -/
theorem kept_compared (h : Fetched r r₁ plan) (hkeyed : r.holdings.Keyed)
    (hnodup : (r.published.forms.map (·.formId)).Nodup) {d : Descriptor}
    (hd : d ∈ r.published.forms) :
    r₁.holdings.kept d.formId =
      (r.holdings.kept d.formId).withSeen (some (r.outlook.entry d).key) := by
  rw [h.holdings, (Holdings.separately_notice r.outlook).foldl_of_mem hnodup hd hkeyed]
  by_cases hfull : r.outlook.comparesInFull d = true
  · rw [if_pos hfull]
  · rw [if_neg hfull]
    refine (Kept.withSeen_self fun record hrecord ↦ ?_).symm
    change Catalog.recordOf? r.outlook.records d.formId = some record at hrecord
    have hkey : record.seenKey = some (d.key (r.outlook.manifest? d)) := by
      simpa [Outlook.comparesInFull, hrecord] using hfull
    exact hkey

/-- What a pass leaves of a listed form. -/
theorem kept_of_listed (h : Fetched r r₁ plan) (hkeyed : r.holdings.Keyed)
    (hnodup : (r.published.forms.map (·.formId)).Nodup) {d : Descriptor}
    (hd : d ∈ r.published.forms) :
    (r₁.holdings.carry plan).kept d.formId =
      (r.holdings.kept d.formId).settle (r.outlook.entry d) (d.formId ∈ r.holdings.failing) := by
  have hdrops := h.keyed_drops hkeyed
  have hattempts := Holdings.separately_attempt r.holdings.failing
  have hkept := Holdings.separately_drop.foldl_of_not_mem (h.not_mem_toDelete hd) (h.keyed hkeyed)
  rw [h.kept_compared hkeyed hnodup hd] at hkept
  unfold Holdings.carry Kept.settle
  by_cases hneeds : (r.outlook.entry d).needsDownload = true
  · have hmem := (h.mem_toDownload_iff hd).mpr hneeds
    have hself := hattempts.foldl_of_mem (h.nodup_toDownload hnodup) hmem hdrops
    rw [if_pos hneeds]
    refine hself.trans ?_
    rw [Outlook.entry_formId, hkept, Kept.withSeen_withSeen, Kept.received_withSeen]
  · have hnot : d.formId ∉ plan.toDownload.map (·.formId) := by
      intro hmem
      obtain ⟨d', hd', hid, hneeds'⟩ := h.exists_of_mem_toDownload hmem
      obtain rfl := List.inj_on_of_nodup_map hnodup hd' hd hid
      exact hneeds hneeds'
    rw [if_neg hneeds, hattempts.foldl_of_not_mem hnot hdrops, hkept]

/-- A pass leaves no record of a form that is not listed. -/
theorem kept_of_unlisted (h : Fetched r r₁ plan) (hkeyed : r.holdings.Keyed) {id : String}
    (hid : id ∉ r.published.forms.map (·.formId)) :
    ((r₁.holdings.carry plan).kept id).record = none := by
  have hnot : id ∉ plan.toDownload.map (·.formId) := by
    intro hmem
    obtain ⟨d, hd, rfl, -⟩ := h.exists_of_mem_toDownload hmem
    exact hid (List.mem_map_of_mem hd)
  unfold Holdings.carry
  rw [(Holdings.separately_attempt r.holdings.failing).foldl_of_not_mem hnot
    (h.keyed_drops hkeyed)]
  have hkeyed₁ := h.keyed hkeyed
  by_cases hdelete : id ∈ plan.toDelete.map (·.formId)
  · obtain ⟨record, hrecord, rfl⟩ := List.mem_map.mp hdelete
    rw [Holdings.separately_drop.foldl_of_mem (h.nodup_toDelete hkeyed) hrecord hkeyed₁]
  · rw [Holdings.separately_drop.foldl_of_not_mem hdelete hkeyed₁]
    refine Catalog.recordOf?_eq_none_iff.mpr fun hmem ↦ hdelete ?_
    obtain ⟨record, hrecord, rfl⟩ := List.mem_map.mp hmem
    refine List.mem_map_of_mem ?_
    rw [h.plan_eq]
    refine List.mem_filter.mpr ⟨hrecord, ?_⟩
    rw [List.map_map]
    simpa using hid

/-- Every record that a pass leaves is the record of a listed form. -/
theorem exists_of_mem_carry (h : Fetched r r₁ plan) (hkeyed : r.holdings.Keyed)
    {record : FormRecord} (hmem : record ∈ (r₁.holdings.carry plan).records) :
    ∃ d ∈ r.published.forms, d.formId = record.formId ∧
      ((r₁.holdings.carry plan).kept d.formId).record = some record := by
  have hrecord : ((r₁.holdings.carry plan).kept record.formId).record = some record :=
    Catalog.recordOf?_of_mem (h.keyed_carry hkeyed) hmem
  by_cases hlisted : record.formId ∈ r.published.forms.map (·.formId)
  · obtain ⟨d, hd, hid⟩ := List.mem_map.mp hlisted
    exact ⟨d, hd, hid, by rw [hid, hrecord]⟩
  · rw [h.kept_of_unlisted hkeyed hlisted] at hrecord
    cases hrecord

/-- The listed forms whose download was due and failed are the failures of the pass. -/
theorem mem_failures_iff (h : Fetched r r₁ plan) {d : Descriptor}
    (hnodup : (r.published.forms.map (·.formId)).Nodup) (hd : d ∈ r.published.forms) :
    d.formId ∈ r₁.holdings.failures plan ↔
      (r.outlook.entry d).needsDownload = true ∧ d.formId ∈ r.holdings.failing := by
  unfold Holdings.failures
  rw [List.mem_filter, h.failing_eq, decide_eq_true_eq]
  refine and_congr_left fun _ ↦ ⟨fun hmem ↦ ?_, fun hneeds ↦ ?_⟩
  · obtain ⟨d', hd', hid, hneeds⟩ := h.exists_of_mem_toDownload hmem
    obtain rfl := List.inj_on_of_nodup_map hnodup hd' hd hid
    exact hneeds
  · exact List.mem_map_of_mem (f := Details.formId) ((h.mem_toDownload_iff hd).mpr hneeds)

end Rehearsal.Fetched

end FormCatalog.Memory
