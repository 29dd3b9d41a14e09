import FormCatalog.Proofs.Catalog.Batch
import FormCatalog.Proofs.Shelf.Standing

/-!
# Carrying a plan out on the shelf

A pass deletes first and downloads then. `Deleting` and `Downloading` say how far it has got: which
forms are stored, which of them nothing has happened to, and, of the forms whose download was
attempted and did not fail, that their media files have come. Each attempt goes one step further
(`Downloading.ends_download`), and at the end all rows are faithful again, with all their keys
(`Shelf.carried_of_carriesOut`).

Forms that are stored together have different base names (`Shelf.Apart`), so that handling one of
them leaves the others alone. After the deletions all stored forms are listed, and so are all forms
that come.
-/

set_option autoImplicit false
set_option relaxedAutoImplicit false

namespace FormCatalog.Shelf

open Op

variable {N : Type} {source : Source N} {forms : FormsDirectory} {listing : String → FileHashes}
  {settled : String → Prop} {fair : N → Prop} {s t u : Site N} {xs done : List Details}
  {failed gone : List String}

/-- Stored forms with one base name are one form. -/
def Apart (s : Site N) : Prop :=
  ∀ a b, Stores s a → Stores s b → FormsDirectory.baseName a = FormsDirectory.baseName b → a = b

/-! ### Sites with the same disk and table -/

theorem AllFaithful.of_same (h : AllFaithful forms listing settled s) (hdisk : t.disk = s.disk)
    (htable : t.table = s.table) : AllFaithful forms listing settled t where
  ordered := htable ▸ h.ordered
  sound := hdisk ▸ h.sound
  plain := hdisk ▸ h.plain
  apart formId hstored := by
    rw [htable] at hstored
    rw [hdisk]
    exact h.apart formId hstored
  rows formId row hrow := by
    rw [htable] at hrow
    rw [hdisk]
    exact h.rows formId row hrow

theorem Untouched.of_same {formId : String} (h : Untouched forms formId s t)
    (hdisk : u.disk = t.disk) (htable : u.table = t.table) : Untouched forms formId s u := by
  obtain ⟨hworking, hrow, hdefinition, hmedia⟩ := h
  rw [← hdisk] at hworking hdefinition hmedia
  rw [← htable] at hrow
  exact ⟨hworking, hrow, hdefinition, hmedia⟩

theorem Untouched.stores_iff {formId : String} (h : Untouched forms formId s t) :
    Stores t formId ↔ Stores s formId := by
  rw [Stores, Stores, h.row]

theorem Untouched.carries {formId : String} {hashes : FileHashes} (h : Untouched forms formId s t)
    (hcarries : s.disk.Carries (forms.mediaPlace s.disk.working formId) hashes) :
    t.disk.Carries (forms.mediaPlace t.disk.working formId) hashes := by
  rw [h.working]
  exact hcarries.of_files fun f ↦ by rw [h.filesBelow_eq]

/-! ### Deleting -/

/-- How far the deletions of a pass have got that began at a site: the forms that are gone are no
longer stored, and nothing has happened to the other ones. -/
structure Deleting (forms : FormsDirectory) (listing : String → FileHashes)
    (settled : String → Prop) (fair : N → Prop) (s : Site N) (gone : List String) (t : Site N) :
    Prop where
  faithful : AllFaithful forms listing settled t
  net : fair t.net
  stored : ∀ id, Stores t id → Stores s id ∧ id ∉ gone
  untouched : ∀ id, Stores s id → id ∉ gone → Untouched forms id s t

theorem Deleting.ends_delete (h : Deleting forms listing settled fair s gone t) (hapart : Apart s)
    {formId : String} (hstored : Stores s formId) :
    Ends (delete forms formId) t fun _ u ↦
      Deleting forms listing settled fair s (gone ++ [formId]) u := by
  refine (ends_delete_faithful fair formId h.net h.faithful fun other hne hother hbase ↦
    hne (hapart _ _ (h.stored other hother).1 hstored hbase.symm)).mono ?_
  rintro r u ⟨hnet, htable, huntouched, hfaithful⟩
  refine ⟨hfaithful, hnet, fun id hid ↦ ?_, fun id hid hkept ↦ ?_⟩
  · have hne : id ≠ formId := by
      rintro rfl
      rw [Stores, htable, Table.row?_remove_self] at hid
      cases hid
    rw [Stores, htable, Table.row?_remove_of_ne _ hne.symm] at hid
    obtain ⟨hbefore, hkept⟩ := h.stored id hid
    exact ⟨hbefore, by simp [hkept, hne]⟩
  · rw [List.mem_append, List.mem_singleton, not_or] at hkept
    have hthere := h.untouched id hid hkept.1
    exact hthere.trans (huntouched id hkept.2 (hthere.stores_iff.mpr hid))

/-- All deletions of a pass, each announced in the journal. -/
theorem deleting_of_forM {catalog : Catalog (Site N)}
    (hdevice : catalog.device = device source forms) (hapart : Apart s) {records : List FormRecord}
    (hrecords : ∀ r ∈ records, Stores s r.formId) (h : AllFaithful forms listing settled s)
    (hfair : fair s.net) (hdeleted : records.forM catalog.delete s = .ok ⟨⟩ t) :
    Deleting forms listing settled fair s (records.map (·.formId)) t := by
  have hall : Ends (records.forM catalog.delete) s fun r t ↦ r = .ok ⟨⟩ →
      Deleting forms listing settled fair s (records.map (·.formId)) t := by
    refine ends_forM
      (fun gone t ↦ Deleting forms listing settled fair s (gone.map (·.formId)) t)
      ⟨h, hfair, fun id hid ↦ ⟨hid, List.not_mem_nil⟩, fun id _ _ ↦ .refl forms id s⟩ ?_
      fun t ht _ ↦ ht
    rintro gone r rest t rfl ht
    have hstored : Stores s r.formId := hrecords r (by simp)
    have hdelete : catalog.delete r = (do
        Op.note .info .pass ("Deleting form " ++ r.formId ++ " (no longer on server)")
        delete forms r.formId) := by
      unfold Catalog.delete
      rw [hdevice]
      rfl
    rw [hdelete, ends_bind, ends_note, Next]
    have hnoted : Deleting forms listing settled fair s (gone.map (·.formId)) (Recording.record
        ⟨.info, .pass, "Deleting form " ++ r.formId ++ " (no longer on server)"⟩ t) :=
      ⟨ht.faithful.of_same rfl rfl, ht.net, ht.stored,
        fun id hid hkept ↦ (ht.untouched id hid hkept).of_same rfl rfl⟩
    refine (hnoted.ends_delete hapart hstored).mono fun outcome u hu ↦ ?_
    cases outcome with
    | error e => exact fun hr ↦ by cases hr
    | ok _ =>
      rw [List.map_append]
      exact hu
  exact hall.of_ok hdeleted rfl

/-! ### Downloading -/

/-- How far the downloads of a pass have got that began at a site: only listed forms are stored,
nothing has happened to those whose download was not attempted, and where a download was attempted
and did not fail, the media files have come. -/
structure Downloading (forms : FormsDirectory) (listing : String → FileHashes)
    (settled : String → Prop) (fair : N → Prop) (xs : List Details) (s : Site N)
    (done : List Details) (failed : List String) (t : Site N) : Prop where
  faithful : AllFaithful forms listing (fun id ↦ settled id ∨ id ∈ done.map (·.formId)) t
  net : fair t.net
  stored : ∀ id, Stores t id → id ∈ xs.map (·.formId)
  untouched : ∀ id, Stores s id → id ∉ done.map (·.formId) → Untouched forms id s t
  arrived : ∀ x ∈ done, x.formId ∉ failed → Stores t x.formId ∧
    t.disk.Carries (forms.mediaPlace t.disk.working x.formId) (FileHashes.ofEntries x.mediaFiles)

theorem Downloading.of_same (h : Downloading forms listing settled fair xs s done failed t)
    (hdisk : u.disk = t.disk) (htable : u.table = t.table) (hnet : u.net = t.net) :
    Downloading forms listing settled fair xs s done failed u where
  faithful := h.faithful.of_same hdisk htable
  net := hnet ▸ h.net
  stored id hid := h.stored id (by rwa [Stores, htable] at hid)
  untouched id hid hnot := (h.untouched id hid hnot).of_same hdisk htable
  arrived x hx hnot := by
    rw [Stores, hdisk, htable]
    exact h.arrived x hx hnot

/-- One more download is attempted. -/
theorem Downloading.ends_download (h : Downloading forms listing settled fair xs s done failed t)
    {net : N} (hlists : Lists source listing net xs)
    (hsource : source.Answers fair fun _ ↦ True)
    (hserves : ∀ x ∈ xs, ∀ f ∈ x.mediaFiles, source.Serves fair f) {x : Details} (hx : x ∈ xs)
    (hnew : x.formId ∉ done.map (·.formId)) :
    Ends (download source forms x) t fun r u ↦
      (r = .ok () → Downloading forms listing settled fair xs s (done ++ [x]) failed u) ∧
      ∀ formId message, r = .error (.download formId message) →
        Downloading forms listing settled fair xs s (done ++ [x]) (failed ++ [x.formId]) u := by
  have hbases : ∀ other, other ≠ x.formId → Stores t other →
      FormsDirectory.baseName x.formId ≠ FormsDirectory.baseName other := by
    intro other hne hother hbase
    obtain ⟨y, hy, rfl⟩ := List.mem_map.mp (h.stored other hother)
    exact hne (congrArg Details.formId (hlists.eq_of_baseName hx hy hbase)).symm
  refine (ends_download_faithful hsource x (hserves x hx) (hlists.canonical x hx)
    (hlists.manifests x hx) h.faithful h.net hbases).mono ?_
  rintro r u ⟨hnet, huntouched, hstored, hfaithful, harrived⟩
  have hearlier {y : Details} (hy : y ∈ done) : y.formId ≠ x.formId := by
    intro hsame
    exact hnew (hsame ▸ List.mem_map_of_mem hy)
  have hstep {failed' : List String} (hfailed : ∀ e, r = .error e →
        ∃ formId message, e = .download formId message)
      (hmore : ∀ id ∈ failed, id ∈ failed')
      (hself : x.formId ∉ failed' → r = .ok ()) :
      Downloading forms listing settled fair xs s (done ++ [x]) failed' u := by
    refine ⟨?_, hnet, fun id hid ↦ ?_, fun id hid hnot ↦ ?_, fun y hy hnot ↦ ?_⟩
    · refine (hfaithful hfailed).mono fun id hid ↦ ?_
      simpa [or_assoc] using hid
    · rcases hstored id hid with hid | rfl
      · exact h.stored id hid
      · exact List.mem_map_of_mem hx
    · rw [List.map_append, List.mem_append, not_or] at hnot
      have hthere := h.untouched id hid hnot.1
      exact hthere.trans
        (huntouched id (by simpa using hnot.2) (hthere.stores_iff.mpr hid))
    · rcases List.mem_append.mp hy with hy | hy
      · obtain ⟨hthere, hcarries⟩ := h.arrived y hy fun hid ↦ hnot (hmore _ hid)
        have hkept := huntouched y.formId (hearlier hy) hthere
        exact ⟨hkept.stores_iff.mpr hthere, hkept.carries hcarries⟩
      · obtain rfl := List.mem_singleton.mp hy
        exact harrived (hself hnot)
  constructor
  · rintro rfl
    exact hstep (fun e he ↦ by cases he) (fun id hid ↦ hid) fun _ ↦ rfl
  · rintro formId message rfl
    refine hstep (fun e he ↦ ?_) (fun id hid ↦ List.mem_append_left _ hid) fun hnot ↦ ?_
    · cases he
      exact ⟨formId, message, rfl⟩
    · exact absurd (List.mem_append_right _ (List.mem_singleton_self _)) hnot

/-- All downloads of a pass that were attempted. -/
theorem downloading_of_attempts {catalog : Catalog (Site N)}
    (hdevice : catalog.device = device source forms) {net : N}
    (hlists : Lists source listing net xs) (hsource : source.Answers fair fun _ ↦ True)
    (hserves : ∀ x ∈ xs, ∀ f ∈ x.mediaFiles, source.Serves fair f)
    (hattempts : catalog.Attempts s done failed t) (hlisted : ∀ x ∈ done, x ∈ xs)
    (hnodup : (done.map (·.formId)).Nodup)
    (h : Downloading forms listing settled fair xs s [] [] s) :
    Downloading forms listing settled fair xs s done failed t := by
  have hsplit {done : List Details} {x : Details}
      (hnodup : ((done ++ [x]).map (·.formId)).Nodup) :
      (done.map (·.formId)).Nodup ∧ x.formId ∉ done.map (·.formId) := by
    rw [List.map_append, List.nodup_append] at hnodup
    exact ⟨hnodup.1, fun hmem ↦ hnodup.2.2 _ hmem _ (List.mem_singleton_self _) rfl⟩
  induction hattempts with
  | none => exact h
  | succeeded _ hdownload entry ih =>
    obtain ⟨hdone, hnew⟩ := hsplit hnodup
    rw [List.forall_mem_append, List.forall_mem_singleton] at hlisted
    rw [hdevice] at hdownload
    have hnext := (ih hlisted.1 hdone).ends_download hlists hsource hserves hlisted.2 hnew
    exact ((hnext.of_ok hdownload).1 rfl).of_same rfl rfl rfl
  | failed _ hdownload entry ih =>
    obtain ⟨hdone, hnew⟩ := hsplit hnodup
    rw [List.forall_mem_append, List.forall_mem_singleton] at hlisted
    rw [hdevice] at hdownload
    have hnext := (ih hlisted.1 hdone).ends_download hlists hsource hserves hlisted.2 hnew
    exact ((hnext.of_error hdownload).2 _ _ rfl).of_same rfl rfl rfl

/-! ### Carrying a plan out -/

/-- A plan deletes the stored forms that are not listed. -/
theorem mem_toDelete_iff {id : String} :
    id ∈ (Plan.of xs (s.table.map (·.record))).toDelete.map (·.formId) ↔
      Stores s id ∧ id ∉ xs.map (·.formId) := by
  constructor
  · intro h
    obtain ⟨r, hr, rfl⟩ := List.mem_map.mp h
    obtain ⟨hmem, hunlisted⟩ := List.mem_filter.mp hr
    obtain ⟨row, hrow, rfl⟩ := List.mem_map.mp hmem
    exact ⟨Table.isSome_row?_of_mem hrow, by simpa using hunlisted⟩
  · rintro ⟨hstored, hunlisted⟩
    obtain ⟨row, hrow⟩ := Option.isSome_iff_exists.mp hstored
    obtain ⟨hmem, rfl⟩ := Table.mem_of_row? hrow
    refine List.mem_map.mpr ⟨row.record, List.mem_filter.mpr ⟨List.mem_map_of_mem hmem, ?_⟩, rfl⟩
    change (!(xs.map (·.formId)).contains row.formId) = true
    simpa using hunlisted

/-- What is so once the plan of a pass was carried out that had taken its snapshot at a site: all
rows are faithful, stored forms have different base names, the media files of a form have come if it
was to be downloaded and did not fail, and nothing has happened to the other listed forms. -/
structure Carried (forms : FormsDirectory) (listing : String → FileHashes) (xs : List Details)
    (s : Site N) (failed : List String) (t : Site N) : Prop where
  faithful : AllFaithful forms listing (fun _ ↦ True) t
  apart : Apart t
  arrived : ∀ x ∈ xs, x.needsDownload = true → x.formId ∉ failed →
    t.disk.Carries (forms.mediaPlace t.disk.working x.formId) (FileHashes.ofEntries x.mediaFiles)
  kept : ∀ x ∈ xs, x.needsDownload = false → Untouched forms x.formId s t

theorem carried_of_carriesOut {catalog : Catalog (Site N)}
    (hdevice : catalog.device = device source forms) (hwritten : forms.path.Written)
    {s₁ : Site N} (hlists : Lists source listing s₁.net xs)
    (h : AllFaithful forms listing (fun _ ↦ True) s) (hapart : Apart s)
    (hnoticed : Noticed s xs s₁)
    (hcarried : catalog.CarriesOut (Plan.of xs (s₁.table.map (·.record))) s₁ failed t) :
    Carried forms listing xs s₁ failed t := by
  obtain ⟨s₂, hdeleted, hattempts⟩ := hcarried
  obtain ⟨fair, hsource, hfair, hserves⟩ := hlists.serves
  have hfaithful := h.of_snapshot hwritten hlists hnoticed
  have hapart₁ : Apart s₁ := fun a b ha hb ↦
    hapart a b (hnoticed.stores_iff.mp ha) (hnoticed.stores_iff.mp hb)
  have hdeleting := deleting_of_forM hdevice hapart₁
    (fun r hr ↦ (mem_toDelete_iff.mp (List.mem_map_of_mem hr)).1) hfaithful hfair hdeleted
  -- What is stored after the deletions is listed, for the other forms are gone.
  have hlisted : ∀ id, Stores s₂ id → id ∈ xs.map (·.formId) := by
    intro id hid
    obtain ⟨hthere, hkept⟩ := hdeleting.stored id hid
    by_contra hunlisted
    exact hkept (mem_toDelete_iff.mpr ⟨hthere, hunlisted⟩)
  have hdownloading := downloading_of_attempts hdevice hlists hsource hserves hattempts
    (fun x hx ↦ List.mem_of_mem_filter hx)
    (hlists.nodup.sublist (List.filter_sublist.map _))
    ⟨hdeleting.faithful.mono fun _ hsettled ↦ hsettled.resolve_right List.not_mem_nil,
      hdeleting.net, hlisted, fun id _ _ ↦ .refl forms id s₂, fun _ hx ↦ by cases hx⟩
  refine ⟨hdownloading.faithful.mono fun id _ ↦ ?_, fun a b ha hb hbase ↦ ?_,
    fun x hx hneeds hnot ↦ ?_, fun x hx hneeds ↦ ?_⟩
  · by_cases hneeded : ∃ x ∈ xs, x.formId = id ∧ x.needsDownload = true
    · obtain ⟨x, hx, rfl, hneeds⟩ := hneeded
      exact Or.inr (List.mem_map_of_mem (List.mem_filter.mpr ⟨hx, hneeds⟩))
    · refine Or.inl fun x hx hid ↦ Bool.eq_false_iff.mpr fun hneeds ↦ ?_
      exact hneeded ⟨x, hx, hid, hneeds⟩
  · obtain ⟨x, hx, rfl⟩ := List.mem_map.mp (hdownloading.stored a ha)
    obtain ⟨y, hy, rfl⟩ := List.mem_map.mp (hdownloading.stored b hb)
    exact congrArg Details.formId (hlists.eq_of_baseName hx hy hbase)
  · exact (hdownloading.arrived x (List.mem_filter.mpr ⟨hx, hneeds⟩) hnot).2
  · have hthere : Stores s₁ x.formId :=
      hnoticed.stores_iff.mpr (hnoticed.stores h.ordered hx hneeds)
    have hkept := hdeleting.untouched x.formId hthere fun hgone ↦
      (mem_toDelete_iff.mp hgone).2 (List.mem_map_of_mem hx)
    refine hkept.trans (hdownloading.untouched x.formId (hkept.stores_iff.mpr hthere) fun hmem ↦ ?_)
    obtain ⟨y, hy, hid⟩ := List.mem_map.mp hmem
    obtain ⟨hyxs, hneedsy⟩ := List.mem_filter.mp hy
    obtain rfl := hlists.eq_of_baseName hyxs hx (by rw [hid])
    rw [hneeds] at hneedsy
    cases hneedsy

end FormCatalog.Shelf
