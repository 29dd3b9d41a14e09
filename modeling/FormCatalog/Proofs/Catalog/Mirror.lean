import FormCatalog.Proofs.Catalog.Aftermath
import FormCatalog.Proofs.Catalog.Keys

/-!
# A pass mirrors the server's list

The remembered key of a record is *truthful* when the digest it begins with is the one of the
record's content. Comparing forms breaks this: it remembers the published key of a form whose
content is still the old one. At the end of a pass it holds again, because the form was downloaded,
or its key was forgotten, or the comparison had found the content to be the same
(`mirrors_synchronize`). Where keys are truthful, a form that is not downloaded has the published
content, whichever way the comparison went, so a pass that returns leaves exactly the listed forms
with the listed content.
-/

set_option autoImplicit false
set_option relaxedAutoImplicit false

namespace FormCatalog

open Op

/-- The key remembered for a form, if any, begins with the digest of the form's content. -/
def FormRecord.Truthful (record : FormRecord) : Prop :=
  ∀ key ∈ record.seenKey,
    ContentKey.digestOf key = ContentKey.ofText (ContentKey.stripLabel record.contentHash)

instance (record : FormRecord) : Decidable record.Truthful :=
  inferInstanceAs (Decidable (∀ key ∈ record.seenKey, _))

/-- A record agrees with a listed form when the stripped content hashes have the same digest. -/
def FormRecord.Agrees (record : FormRecord) (d : Descriptor) : Prop :=
  ContentKey.ofText (ContentKey.stripLabel record.contentHash) =
    ContentKey.ofText (ContentKey.stripLabel d.contentHash)

instance (record : FormRecord) (d : Descriptor) : Decidable (record.Agrees d) :=
  inferInstanceAs (Decidable (_ = _))

namespace Memory

/-- Every remembered key is truthful. -/
def Holdings.Truthful (h : Holdings) : Prop := ∀ record ∈ h.records, record.Truthful

instance (h : Holdings) : Decidable h.Truthful :=
  inferInstanceAs (Decidable (∀ record ∈ h.records, _))

/-- The forms of the device are the listed ones, each with the listed content. -/
def Holdings.Mirrors (h : Holdings) (listed : List Descriptor) : Prop :=
  (h.records.map (·.formId)).Perm (listed.map (·.formId)) ∧
    ∀ d ∈ listed, ∀ record ∈ h.records, record.formId = d.formId → record.Agrees d

instance (h : Holdings) (listed : List Descriptor) : Decidable (h.Mirrors listed) :=
  inferInstanceAs (Decidable (_ ∧ _))

end Memory

/-- A form that needs no download has a record with the listed content, if the key of the record is
truthful. -/
theorem Outlook.agrees_of_unneeded {o : Outlook} {d : Descriptor}
    (htruthful : ∀ record ∈ o.records, record.Truthful)
    (hneeds : (o.entry d).needsDownload = false) :
    ∃ record, Catalog.recordOf? o.records d.formId = some record ∧ record.Agrees d := by
  unfold entry details standing Details.needsDownload at hneeds
  cases hrecord : Catalog.recordOf? o.records d.formId with
  | none =>
    rw [hrecord] at hneeds
    cases hneeds
  | some record =>
    refine ⟨record, rfl, ?_⟩
    rw [hrecord] at hneeds
    by_cases hkey : record.seenKey = some (d.key (o.manifest? d))
    · have hdigest := htruthful record (Catalog.mem_of_recordOf? hrecord).1 _ hkey
      rw [Descriptor.key, ContentKey.digestOf_ofForm] at hdigest
      exact hdigest.symm
    · have hsame : ContentKey.stripLabel d.contentHash =
          ContentKey.stripLabel record.contentHash := by
        simp [hkey, differs] at hneeds
        exact hneeds.1
      unfold FormRecord.Agrees
      rw [hsame]

namespace Memory

/-- The key that a pass leaves with a record of the listed content is truthful. -/
theorem truthful_of_agrees {record : FormRecord} {d : Descriptor} (h : record.Agrees d)
    (manifest : Option Manifest) :
    FormRecord.Truthful { record with seenKey := some (d.key manifest) } := by
  rintro key ⟨⟩
  rw [Descriptor.key, ContentKey.digestOf_ofForm]
  exact h.symm

theorem agrees_recordOf {x : Details} (h : ContentKey.LabelledOnce x.descriptor.contentHash) :
    (Holdings.recordOf x).Agrees x.descriptor := by
  unfold FormRecord.Agrees Holdings.recordOf
  rw [ContentKey.stripLabel_stripLabel h]

/-- What a pass leaves of a listed form is truthful, and it agrees with the list unless the download
of the form was due and failed. -/
theorem Kept.settle_truthful {o : Outlook} {d : Descriptor} {k : Kept} {failing : Prop}
    [Decidable failing] (hlabel : ContentKey.LabelledOnce d.contentHash)
    (htruthful : ∀ record ∈ o.records, record.Truthful)
    (hrecord : k.record = Catalog.recordOf? o.records d.formId) :
    (∀ record ∈ (k.settle (o.entry d) failing).record, record.Truthful) ∧
      (¬((o.entry d).needsDownload = true ∧ failing) →
        ∃ record, (k.settle (o.entry d) failing).record = some record ∧ record.Agrees d) := by
  have hkey : (o.entry d).key = d.key (o.manifest? d) := rfl
  unfold settle
  rw [hkey]
  by_cases hneeds : (o.entry d).needsDownload = true
  · rw [if_pos hneeds]
    by_cases hfailing : failing
    · rw [if_pos hfailing]
      refine ⟨fun record hmem key hseen ↦ ?_, fun hdone ↦ absurd ⟨hneeds, hfailing⟩ hdone⟩
      obtain ⟨old, -, rfl⟩ := Option.map_eq_some_iff.mp hmem
      cases hseen
    · rw [if_neg hfailing]
      have hagrees : (Holdings.recordOf (o.entry d)).Agrees d := agrees_recordOf hlabel
      refine ⟨?_, fun _ ↦ ⟨_, rfl, hagrees⟩⟩
      rintro record ⟨⟩
      exact truthful_of_agrees hagrees (o.manifest? d)
  · rw [if_neg hneeds]
    obtain ⟨record, hold, hagrees⟩ :=
      Outlook.agrees_of_unneeded htruthful (Bool.eq_false_iff.mpr hneeds)
    have hnew : (k.withSeen (some (d.key (o.manifest? d)))).record =
        some { record with seenKey := some (d.key (o.manifest? d)) } := by
      unfold withSeen
      rw [hrecord, hold]
      rfl
    rw [hnew]
    refine ⟨?_, fun _ ↦ ⟨_, rfl, hagrees⟩⟩
    rintro record' ⟨⟩
    exact truthful_of_agrees hagrees (o.manifest? d)

namespace Rehearsal

variable {r r₁ : Rehearsal} {plan : Plan}

/-- What a pass leaves of a listed form: a truthful record, which agrees with the list unless the
form is among the failures. -/
theorem Fetched.kept_truthful (h : Fetched r r₁ plan) (hkeyed : r.holdings.Keyed)
    (htruthful : r.holdings.Truthful) (hnodup : (r.published.forms.map (·.formId)).Nodup)
    {d : Descriptor} (hd : d ∈ r.published.forms)
    (hlabel : ContentKey.LabelledOnce d.contentHash) :
    (∀ record ∈ ((r₁.holdings.carry plan).kept d.formId).record, record.Truthful) ∧
      (d.formId ∉ r₁.holdings.failures plan →
        ∃ record, ((r₁.holdings.carry plan).kept d.formId).record = some record ∧
          record.Agrees d) := by
  rw [h.kept_of_listed hkeyed hnodup hd, h.mem_failures_iff hnodup hd]
  exact Kept.settle_truthful hlabel htruthful rfl

/-- A pass without failures leaves the listed forms. -/
theorem Fetched.mirrors_carry (h : Fetched r r₁ plan) (hkeyed : r.holdings.Keyed)
    (htruthful : r.holdings.Truthful) (hnodup : (r.published.forms.map (·.formId)).Nodup)
    (hlabels : ∀ d ∈ r.published.forms, ContentKey.LabelledOnce d.contentHash)
    (hnone : r₁.holdings.failures plan = []) :
    (r₁.holdings.carry plan).Mirrors r.published.forms := by
  have hkept : ∀ d ∈ r.published.forms,
      ∃ record, ((r₁.holdings.carry plan).kept d.formId).record = some record ∧
        record.Agrees d := by
    intro d hd
    refine (h.kept_truthful hkeyed htruthful hnodup hd (hlabels d hd)).2 ?_
    rw [hnone]
    exact List.not_mem_nil
  refine ⟨(List.perm_ext_iff_of_nodup (h.keyed_carry hkeyed) hnodup).mpr fun id ↦ ⟨?_, ?_⟩, ?_⟩
  · intro hid
    obtain ⟨record, hmem, rfl⟩ := List.mem_map.mp hid
    obtain ⟨d, hd, heq, -⟩ := h.exists_of_mem_carry hkeyed hmem
    exact List.mem_map.mpr ⟨d, hd, heq⟩
  · intro hid
    obtain ⟨d, hd, rfl⟩ := List.mem_map.mp hid
    obtain ⟨record, hrecord, -⟩ := hkept d hd
    obtain ⟨hmem, heq⟩ := Catalog.mem_of_recordOf? hrecord
    exact List.mem_map.mpr ⟨record, hmem, heq⟩
  · intro d hd record hmem heq
    obtain ⟨found, hfound, hagrees⟩ := hkept d hd
    have hrecord : ((r₁.holdings.carry plan).kept record.formId).record = some record :=
      Catalog.recordOf?_of_mem (h.keyed_carry hkeyed) hmem
    rw [heq, hfound] at hrecord
    cases hrecord
    exact hagrees

/-- A pass over a list without repeated ids, whose list and manifests come about, leaves the
remembered keys truthful if they were, however it ends. It ends by returning, and then the device
mirrors the list, or in the fault that names the forms that could not be downloaded. -/
theorem mirrors_synchronize (r : Rehearsal) {xs : List Details} {r₁ : Rehearsal}
    (hkeyed : r.holdings.Keyed) (htruthful : r.holdings.Truthful)
    (hnodup : (r.published.forms.map (·.formId)).Nodup)
    (hlabels : ∀ d ∈ r.published.forms, ContentKey.LabelledOnce d.contentHash)
    (hfetch : catalog.snapshot true r = .ok xs r₁) :
    Ends catalog.synchronize r fun res u ↦
      u.holdings.Keyed ∧ u.holdings.Truthful ∧
        ((∃ plan, res = .ok plan ∧ u.holdings.Mirrors r.published.forms) ∨
          ∃ failed, failed ≠ [] ∧ res = .error (.sync (.incomplete "" failed))) := by
  have hplan := planWith_of_snapshot hfetch
  have h := fetched_of_planWith hplan
  refine (ends_synchronize hplan).mono ?_
  rintro res u ⟨-, hholdings, rfl⟩
  rw [hholdings]
  refine ⟨h.keyed_carry hkeyed, fun record hmem ↦ ?_, ?_⟩
  · obtain ⟨d, hd, -, hrecord⟩ := h.exists_of_mem_carry hkeyed hmem
    exact (h.kept_truthful hkeyed htruthful hnodup hd (hlabels d hd)).1 record hrecord
  · by_cases hnone : r₁.holdings.failures (Plan.of xs r₁.holdings.records) = []
    · rw [if_pos hnone]
      exact Or.inl ⟨_, rfl, h.mirrors_carry hkeyed htruthful hnodup hlabels hnone⟩
    · rw [if_neg hnone]
      exact Or.inr ⟨_, hnone, rfl⟩

/-- A list and a device with a form of every kind: known by its key, the same on comparison,
changed, new, and no longer listed. -/
def mixed : Rehearsal where
  published :=
    { forms :=
        [ { formId := "known", contentHash := "md5:k" },
          { formId := "same", contentHash := "s" },
          { formId := "changed", contentHash := "md5:new", manifestUrl := some "changed.json" },
          { formId := "fresh", contentHash := "f" } ]
      manifests := [("changed.json", ⟨"m", [⟨"logo.png", "md5:l", "logo.png"⟩]⟩)] }
  holdings :=
    { records :=
        [ { formId := "gone", contentHash := "g" },
          { formId := "changed", contentHash := "old" },
          { formId := "same", contentHash := "md5:s" },
          { formId := "known", contentHash := "k", seenKey := ContentKey.ofForm "k" none } ] }

theorem mirrors_synchronize_mixed :
    (mixed.holdings.Keyed ∧ mixed.holdings.Truthful) ∧
      Ends catalog.synchronize mixed fun res u ↦
        u.holdings.Keyed ∧ u.holdings.Truthful ∧
          ((∃ plan, res = .ok plan ∧ u.holdings.Mirrors mixed.published.forms) ∨
            ∃ failed, failed ≠ [] ∧ res = .error (.sync (.incomplete "" failed))) := by
  obtain ⟨xs, r₁, hfetch, -⟩ : Returns (catalog.snapshot true) mixed fun _ _ ↦ True := by
    decide +kernel
  have hdevice : mixed.holdings.Keyed ∧ mixed.holdings.Truthful := by decide +kernel
  exact ⟨hdevice, mirrors_synchronize mixed hdevice.1 hdevice.2 (by decide +kernel)
    (by decide +kernel) hfetch⟩

end Rehearsal

end Memory

end FormCatalog
