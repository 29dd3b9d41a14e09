import FormCatalog.Catalog.Pass
import FormCatalog.Proofs.Programs

/-!
# What a pass keeps

A property of states that every call to the server and to the device keeps is kept by a whole pass,
however the pass ends. `Observes` collects the calls that taking a snapshot makes; carrying a plan
out adds the deletions and downloads of the plan (`keeps_carryOut`). Besides, whatever the server
and the device do, a snapshot has exactly the forms of the server's list
(`ends_snapshot_descriptor`), and so a pass never asks the device to delete a listed form
(`ends_planWith_unlisted`, `ends_synchronize`).
-/

set_option autoImplicit false
set_option relaxedAutoImplicit false

namespace FormCatalog

open Op

/-- Every call that taking a snapshot makes keeps the property. -/
structure Catalog.Observes {σ : Type} [Recording σ] (catalog : Catalog σ) (inv : σ → Prop) :
    Prop where
  formList : Keeps inv catalog.server.formList
  manifest : ∀ url, Keeps inv (catalog.server.manifest url)
  records : Keeps inv catalog.device.records
  mediaFiles : ∀ id version, Keeps inv (catalog.device.mediaFiles id version)
  remember : ∀ id key, Keeps inv (catalog.device.remember id key)
  note : ∀ e s, inv s → inv (Recording.record e s)

theorem Plan.mem_toDownload_of {snapshot : List Details} {records : List FormRecord} {x : Details} :
    x ∈ (Plan.of snapshot records).toDownload ↔ x ∈ snapshot ∧ x.needsDownload = true :=
  List.mem_filter

/-- A plan deletes no form of the snapshot. -/
theorem Plan.formId_of_mem_toDelete {snapshot : List Details} {records : List FormRecord}
    {r : FormRecord} (h : r ∈ (Plan.of snapshot records).toDelete) :
    r.formId ∉ snapshot.map (·.formId) := by
  have hkept := (List.mem_filter.mp h).2
  simpa using hkept

/-- A comparison keeps what reading media files, remembering a key and reporting keep. -/
theorem Device.keeps_compare {σ : Type} [Recording σ] {device : Device σ} {inv : σ → Prop}
    (hmedia : ∀ id version, Keeps inv (device.mediaFiles id version))
    (hremember : ∀ id key, Keeps inv (device.remember id key))
    (hnote : ∀ e s, inv s → inv (Recording.record e s)) (d : Descriptor)
    (manifest : Option Manifest) (record : Option FormRecord) (remembering : Bool) :
    Keeps inv (device.compare d manifest record remembering) := by
  unfold Device.compare
  cases record with
  | none => exact keeps_pure
  | some record =>
    dsimp only
    split
    · exact keeps_pure
    · refine Keeps.bind ?_ fun updated ↦ ?_
      · unfold Device.isUpdated
        split
        · exact keeps_pure
        · cases manifest with
          | none => exact keeps_pure
          | some m => exact (hmedia _ _).bind fun _ ↦ keeps_pure
      · have hreport : Keeps inv (Op.note .debug .comparison
            ("Form " ++ d.formId ++ " has an update on the server") : Op σ Unit) := hnote _
        have hrest : Keeps inv (do
            if updated then
              Op.note .debug .comparison ("Form " ++ d.formId ++ " has an update on the server")
            pure (⟨false, updated⟩ : Standing)) := by
          cases updated with
          | false => exact keeps_pure
          | true => exact hreport.bind fun _ ↦ keeps_pure
        cases remembering with
        | false => exact hrest
        | true => exact (hremember _ _).bind fun _ ↦ hrest

namespace Catalog

variable {σ : Type} [Recording σ] {catalog : Catalog σ} {inv : σ → Prop}

theorem Observes.keeps_note (h : catalog.Observes inv) (level : Level) (component : Component)
    (message : String) : Keeps inv (Op.note level component message : Op σ Unit) :=
  h.note _

theorem Observes.keeps_compare (h : catalog.Observes inv) (d : Descriptor)
    (manifest : Option Manifest) (record : Option FormRecord) (remembering : Bool) :
    Keeps inv (catalog.device.compare d manifest record remembering) :=
  Device.keeps_compare h.mediaFiles h.remember h.note d manifest record remembering

theorem Observes.keeps_annotate (h : catalog.Observes inv) (records : List FormRecord)
    (remembering : Bool) (d : Descriptor) : Keeps inv (catalog.annotate records remembering d) := by
  unfold annotate manifestOf
  refine Keeps.bind ?_ fun manifest ↦ (h.keeps_compare _ _ _ _).bind fun _ ↦ keeps_pure
  cases d.manifestUrl with
  | none => exact keeps_pure
  | some url =>
    dsimp only
    split
    · exact keeps_pure
    · exact (h.manifest url).map

theorem ends_annotate_descriptor (catalog : Catalog σ) (records : List FormRecord)
    (remembering : Bool) (d : Descriptor) (s : σ) :
    Ends (catalog.annotate records remembering d) s fun r _ ↦
      ∀ x, r = .ok x → x.descriptor = d := by
  unfold annotate
  rw [ends_bind]
  cases hm : catalog.manifestOf d s with
  | error e t => simp [Ends, hm, Next]
  | ok manifest t =>
    rw [ends_iff_of_ok hm, Next, ends_bind]
    cases hc : catalog.device.compare d manifest (recordOf? records d.formId) remembering t with
    | error e u => simp [Ends, hc, Next]
    | ok standing u =>
      rw [ends_iff_of_ok hc, Next, ends_pure]
      rintro x ⟨⟩
      rfl

/-- A snapshot has the forms of the server's list, in its order, whatever else is called. -/
theorem ends_snapshot_descriptor (catalog : Catalog σ) {listed : List Descriptor} {s : σ}
    (hlist : Ends catalog.server.formList s fun r _ ↦ ∀ ds, r = .ok ds → ds = listed)
    (remembering : Bool) :
    Ends (catalog.snapshot remembering) s fun r _ ↦
      ∀ xs, r = .ok xs → xs.map (·.descriptor) = listed := by
  unfold snapshot
  rw [ends_bind]
  refine hlist.mono fun r t hds ↦ ?_
  cases r with
  | error e => exact fun _ h ↦ by cases h
  | ok ds =>
    obtain rfl := hds ds rfl
    rw [Next, ends_bind]
    refine ends_of_forall fun r t ↦ ?_
    cases r with
    | error e => exact fun _ h ↦ by cases h
    | ok records =>
      rw [Next, ends_bind, ends_note, Next]
      refine ends_mapM (fun done xs _ ↦ xs.map (·.descriptor) = done) rfl ?_
        fun xs t ht _ hxs ↦ by cases hxs; exact ht
      rintro done d rest xs s - rfl
      refine (ends_annotate_descriptor catalog records remembering d s).mono fun r t hx ↦ ?_
      cases r with
      | error e => exact fun _ h ↦ by cases h
      | ok x => simp [hx x rfl]

/-- A plan deletes no listed form. -/
theorem ends_planWith_unlisted (catalog : Catalog σ) {listed : List Descriptor} {s : σ}
    (hlist : Ends catalog.server.formList s fun r _ ↦ ∀ ds, r = .ok ds → ds = listed)
    (remembering : Bool) :
    Ends (catalog.planWith remembering) s fun r _ ↦
      ∀ p, r = .ok p → ∀ record ∈ p.toDelete, record.formId ∉ listed.map (·.formId) := by
  unfold planWith
  rw [ends_bind]
  refine (ends_snapshot_descriptor catalog hlist remembering).mono fun r t hxs ↦ ?_
  cases r with
  | error e => exact fun _ h ↦ by cases h
  | ok xs =>
    rw [Next, ends_bind]
    refine ends_of_forall fun r t ↦ ?_
    cases r with
    | error e => exact fun _ h ↦ by cases h
    | ok records =>
      intro p hp record hrecord
      cases hp
      rw [← hxs xs rfl, List.map_map]
      exact Plan.formId_of_mem_toDelete hrecord

theorem Observes.keeps_planWith (h : catalog.Observes inv) (remembering : Bool) :
    Keeps inv (catalog.planWith remembering) := by
  have hsnapshot : Keeps inv (catalog.snapshot remembering) :=
    h.formList.bind fun _ ↦ h.records.bind fun _ ↦ (h.keeps_note _ _ _).bind fun _ ↦
      keeps_mapM fun d _ ↦ h.keeps_annotate _ _ d
  exact hsnapshot.bind fun _ ↦ h.records.bind fun _ ↦ keeps_pure

theorem Observes.keeps_carryOut (h : catalog.Observes inv) {plan : Plan}
    (hdelete : ∀ record ∈ plan.toDelete, Keeps inv (catalog.device.delete record.formId))
    (hdownload : ∀ x ∈ plan.toDownload, Keeps inv (catalog.device.download x)) :
    Keeps inv (catalog.carryOut plan) := by
  unfold carryOut
  refine (keeps_forM fun record hrecord ↦ ?_).bind fun _ ↦
    (keeps_mapM fun x hx ↦ ?_).bind fun results ↦ ?_
  · exact (h.keeps_note _ _ _).bind fun _ ↦ hdelete record hrecord
  · unfold tryDownload
    refine (hdownload x hx).attempt.bind fun outcome ↦ ?_
    split
    · exact (h.keeps_note _ _ _).bind fun _ ↦ keeps_pure
    · exact (h.keeps_note _ _ _).bind fun _ ↦ keeps_pure
    · exact keeps_throw
  · dsimp only
    split
    · exact keeps_throw.bind fun _ ↦ h.keeps_note _ _ _
    · exact h.keeps_note _ _ _

/-- A pass keeps what taking a snapshot, every download and the deletion of forms that are not
listed keep. -/
theorem Observes.ends_synchronize_of_list (h : catalog.Observes inv) {listed : List Descriptor}
    {s : σ} (hlist : Ends catalog.server.formList s fun r _ ↦ ∀ ds, r = .ok ds → ds = listed)
    (hdelete : ∀ id ∉ listed.map (·.formId), Keeps inv (catalog.device.delete id))
    (hdownload : ∀ x, Keeps inv (catalog.device.download x)) (hs : inv s) :
    Ends catalog.synchronize s fun _ t ↦ inv t := by
  unfold synchronize
  rw [ends_bind]
  refine ((h.keeps_planWith true s hs).and (ends_planWith_unlisted catalog hlist true)).mono ?_
  rintro r t ⟨ht, hp⟩
  cases r with
  | error e => exact ht
  | ok plan =>
    have hcarry : Keeps inv (catalog.carryOut plan) :=
      h.keeps_carryOut (fun record hr ↦ hdelete _ (hp plan rfl record hr)) fun x _ ↦ hdownload x
    exact (hcarry.bind fun _ ↦ keeps_pure) t ht

theorem Observes.ends_synchronize (h : catalog.Observes inv) {listed : List Descriptor}
    (hlist : ∀ s, inv s → Ends catalog.server.formList s fun r _ ↦ ∀ ds, r = .ok ds → ds = listed)
    (hdelete : ∀ id ∉ listed.map (·.formId), Keeps inv (catalog.device.delete id))
    (hdownload : ∀ x, Keeps inv (catalog.device.download x)) :
    Keeps inv catalog.synchronize :=
  fun s hs ↦ h.ends_synchronize_of_list (hlist s hs) hdelete hdownload hs

end Catalog

end FormCatalog
