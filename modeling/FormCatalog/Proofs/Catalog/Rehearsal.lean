import FormCatalog.Catalog.Memory
import FormCatalog.Proofs.Catalog.Outlook

/-!
# The outlook of a catalog in memory

A server and a device in memory answer by their contents (`Rehearsal.catalog_shows`), so a preview
of them is the plan of their contents, and it leaves the records and the media as they are.
-/

set_option autoImplicit false
set_option relaxedAutoImplicit false

namespace FormCatalog.Memory

open Op

namespace Published

/-- The list that the server answers with, or the fault that is set. -/
def listAnswer (p : Published) : Except Fault (List Descriptor) :=
  match p.listFault with
  | some fault => .error fault
  | none => .ok p.forms

/-- What the server answers when asked for a manifest. -/
def manifestAnswer (p : Published) (url : String) : Except Fault Manifest :=
  match p.manifestFault with
  | some fault => .error fault
  | none =>
    match p.manifestAt? url with
    | some m => .ok m
    | none => .error (.missingKey url)

theorem forms_of_listAnswer {p : Published} {ds : List Descriptor} (h : p.listAnswer = .ok ds) :
    ds = p.forms := by
  unfold listAnswer at h
  cases hfault : p.listFault with
  | none =>
    rw [hfault] at h
    cases h
    rfl
  | some fault =>
    rw [hfault] at h
    cases h

theorem ends_formList {p : Published} {post : Except Fault (List Descriptor) → Published → Prop} :
    Ends formList p post ↔ post p.listAnswer { p with listCalls := p.listCalls + 1 } := by
  unfold formList listAnswer
  rw [ends_bind, ends_modify, Next, ends_bind, ends_get, Next]
  dsimp only
  cases p.listFault with
  | none => exact ends_pure
  | some fault => exact ends_throw

theorem ends_manifest {url : String} {p : Published}
    {post : Except Fault Manifest → Published → Prop} :
    Ends (manifest url) p post ↔
      post (p.manifestAnswer url) { p with manifestCalls := url :: p.manifestCalls } := by
  unfold manifest manifestAnswer
  rw [ends_bind, ends_modify, Next, ends_bind, ends_get, Next]
  dsimp only
  cases p.manifestFault with
  | some fault => exact ends_throw
  | none =>
    change Ends (match p.manifestAt? url with
      | some m => pure m
      | none => throw (.missingKey url)) _ _ ↔ _
    cases p.manifestAt? url with
    | some m => exact ends_pure
    | none => exact ends_throw

end Published

namespace Rehearsal

/-- What a pass can learn of the server and of the device. -/
def outlook (r : Rehearsal) : Outlook where
  listed := r.published.listAnswer
  manifestAt := r.published.manifestAnswer
  records := r.holdings.records
  media formId version := r.holdings.mediaAt (formId, version)

/-- The rehearsal with other holdings. -/
def withHoldings (r : Rehearsal) (h : Holdings) : Rehearsal := { r with holdings := h }

theorem ends_formList {r : Rehearsal} {post : Except Fault (List Descriptor) → Rehearsal → Prop} :
    Ends catalog.server.formList r post ↔
      post r.outlook.listed
        { r with published := { r.published with listCalls := r.published.listCalls + 1 } } := by
  unfold catalog onServer
  rw [ends_within, Published.ends_formList]
  rfl

theorem ends_manifest {url : String} {r : Rehearsal}
    {post : Except Fault Manifest → Rehearsal → Prop} :
    Ends (catalog.server.manifest url) r post ↔
      post (r.outlook.manifestAt url)
        { r with published :=
            { r.published with manifestCalls := url :: r.published.manifestCalls } } := by
  unfold catalog onServer
  rw [ends_within, Published.ends_manifest]
  rfl

theorem ends_records {r : Rehearsal} {post : Except Fault (List FormRecord) → Rehearsal → Prop} :
    Ends catalog.device.records r post ↔ post (.ok r.outlook.records) r := Iff.rfl

theorem ends_mediaFiles {formId : String} {version : Option String} {r : Rehearsal}
    {post : Except Fault (List MediaRecord) → Rehearsal → Prop} :
    Ends (catalog.device.mediaFiles formId version) r post ↔
      post (.ok (r.outlook.media formId version))
        (r.withHoldings { r.holdings with mediaCalls := r.holdings.mediaCalls + 1 }) := Iff.rfl

theorem ends_delete {formId : String} {r : Rehearsal}
    {post : Except Fault Unit → Rehearsal → Prop} :
    Ends (catalog.device.delete formId) r post ↔
      post (.ok ()) (r.withHoldings (r.holdings.drop formId)) := Iff.rfl

theorem ends_download {x : Details} {r : Rehearsal} {post : Except Fault Unit → Rehearsal → Prop} :
    Ends (catalog.device.download x) r post ↔
      if x.formId ∈ r.holdings.failing then
        post (.error (.download x.formId "simulated failure"))
          (r.withHoldings (r.holdings.refuse x.formId))
      else post (.ok ()) (r.withHoldings (r.holdings.receive x)) := by
  unfold catalog onDevice Holdings.download
  rw [ends_within, ends_bind, ends_get, Next]
  by_cases hfail : x.formId ∈ r.holdings.failing
  · rw [if_pos (List.contains_iff_mem.mpr hfail), if_pos hfail]
    rfl
  · rw [if_neg fun h ↦ hfail (List.contains_iff_mem.mp h), if_neg hfail]
    rfl

/-- A catalog in memory answers by its contents. -/
theorem catalog_shows (o : Outlook) : catalog.Shows o (·.outlook = o) where
  formList r hr := by
    rw [ends_formList]
    exact ⟨hr ▸ rfl, hr⟩
  manifest url r hr := by
    rw [ends_manifest]
    exact ⟨hr ▸ rfl, hr⟩
  records r hr := by
    rw [ends_records]
    exact ⟨hr ▸ rfl, hr⟩
  mediaFiles id version r hr := by
    rw [ends_mediaFiles]
    exact ⟨hr ▸ rfl, hr⟩
  note e r hr := hr

end Rehearsal

end FormCatalog.Memory
