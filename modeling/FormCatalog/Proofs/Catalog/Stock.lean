import FormCatalog.Proofs.Catalog.Records
import FormCatalog.Proofs.Catalog.Rehearsal
import FormCatalog.Proofs.Overriding
import Mathlib.Data.List.Induction

/-!
# What comparing forms does to a device

The `Stock` of a device is its records and the rest of what it keeps. Taking a snapshot only reads
the rest, and of the records it only sets remembered keys. `Device.Stocks` says so of the calls to
a device; from it follows what comparing one listed form leaves (`ends_compare`), and what comparing
any number of them leaves (`Stock.foldl_noticed`): a record has the key of the last entry for its id
whose key was not the one that was remembered when the records were read, and it is otherwise as it
was. Ids may come more than once, in the list and among the records.

The comparison goes by the records read at the start and by the rest, so what it finds does not
depend on the keys that are set on the way (`Reading.standing`).
-/

set_option autoImplicit false
set_option relaxedAutoImplicit false

namespace FormCatalog

open Op Memory

/-- What a device keeps: its records, and the rest. -/
structure Stock (ρ : Type) where
  records : List FormRecord
  rest : ρ

namespace Stock

variable {ρ : Type}

/-- The stock with a key remembered for a form. -/
def remember (formId key : String) (k : Stock ρ) : Stock ρ :=
  { k with
    records := Holdings.revise formId (fun r ↦ { r with seenKey := some key }) k.records }

/-- Whether an entry gives the record of a form another key than it had when the records were
read. -/
def rekeys (read : List FormRecord) (formId : String) (x : Details) : Bool :=
  x.formId = formId && (Catalog.recordOf? read formId).any (·.seenKey ≠ some x.key)

/-- The stock after an entry was compared. -/
def noticed (read : List FormRecord) (k : Stock ρ) (x : Details) : Stock ρ :=
  if rekeys read x.formId x then k.remember x.formId x.key else k

variable {read : List FormRecord} {x : Details}

theorem formId_of_rekeys {formId : String} (h : rekeys read formId x = true) :
    x.formId = formId := by
  unfold rekeys at h
  simp only [Bool.and_eq_true, decide_eq_true_eq] at h
  exact h.1

theorem noticed_of_missing (h : Catalog.recordOf? read x.formId = none) (k : Stock ρ) :
    k.noticed read x = k := by
  simp [noticed, rekeys, h]

/-- An entry whose key is remembered already changes nothing. -/
theorem noticed_of_seen {r : FormRecord} (h : Catalog.recordOf? read x.formId = some r)
    (hseen : r.seenKey = some x.key) (k : Stock ρ) : k.noticed read x = k := by
  simp [noticed, rekeys, h, hseen]

theorem noticed_of_unseen {r : FormRecord} (h : Catalog.recordOf? read x.formId = some r)
    (hseen : r.seenKey ≠ some x.key) (k : Stock ρ) :
    k.noticed read x = k.remember x.formId x.key := by
  simp [noticed, rekeys, h, hseen]

/-- A record after some entries were compared: only its key may be another one. -/
def reseen (read : List FormRecord) (xs : List Details) (r : FormRecord) : FormRecord :=
  match (xs.filter (rekeys read r.formId)).getLast? with
  | some x => { r with seenKey := some x.key }
  | none => r

@[simp] theorem formId_reseen (read : List FormRecord) (xs : List Details) (r : FormRecord) :
    (reseen read xs r).formId = r.formId := by
  unfold reseen
  split <;> rfl

/-- A record of a form that no entry is about stays as it is. -/
theorem reseen_of_not_mem {xs : List Details} {r : FormRecord}
    (h : r.formId ∉ xs.map (·.formId)) : reseen read xs r = r := by
  have hnone : xs.filter (rekeys read r.formId) = [] := by
    refine List.filter_eq_nil_iff.mpr fun x hx hrekeys ↦ h ?_
    exact formId_of_rekeys hrekeys ▸ List.mem_map_of_mem hx
  unfold reseen
  rw [hnone]
  rfl

/-- One more entry sets the key of the records of its form, whatever was set before. -/
theorem reseen_concat (read : List FormRecord) (xs : List Details) (x : Details)
    (r : FormRecord) :
    reseen read (xs ++ [x]) r =
      if rekeys read r.formId x then { reseen read xs r with seenKey := some x.key }
      else reseen read xs r := by
  unfold reseen
  rw [getLast?_filter_concat]
  by_cases hx : rekeys read r.formId x = true
  · rw [if_pos hx, if_pos hx]
    cases (xs.filter (rekeys read r.formId)).getLast? <;> rfl
  · rw [if_neg hx, if_neg hx]

/-- Where no id comes twice, the record of a listed form ends up with the key of its entry. -/
theorem seenKey_reseen_of_mem {xs : List Details} (hnodup : (xs.map (·.formId)).Nodup)
    (hx : x ∈ xs) {r : FormRecord} (hr : Catalog.recordOf? read x.formId = some r) :
    (reseen read xs r).seenKey = some x.key := by
  have hid : r.formId = x.formId := (Catalog.mem_of_recordOf? hr).2
  induction xs using List.reverseRecOn with
  | nil => cases hx
  | append_singleton ys y ih =>
    rw [List.map_append, List.nodup_append] at hnodup
    obtain ⟨hys, -, hdisjoint⟩ := hnodup
    rw [reseen_concat]
    rcases List.mem_append.mp hx with hx | hx
    · rw [if_neg, ih hys hx]
      intro hrekeys
      refine hdisjoint _ (List.mem_map_of_mem hx) _ (List.mem_singleton_self y.formId) ?_
      rw [formId_of_rekeys hrekeys, hid]
    · obtain rfl := List.mem_singleton.mp hx
      have hbefore : reseen read ys r = r := reseen_of_not_mem fun hmem ↦ by
        rw [hid] at hmem
        exact hdisjoint _ hmem _ (List.mem_singleton_self _) rfl
      rw [hbefore]
      split
      · rfl
      · rename_i hseen
        simpa [rekeys, hid, hr] using hseen

/-- What comparing some entries one after the other does to the stock. -/
theorem foldl_noticed (read : List FormRecord) (xs : List Details) (k : Stock ρ) :
    xs.foldl (noticed read) k = { k with records := k.records.map (reseen read xs) } := by
  induction xs using List.reverseRecOn with
  | nil =>
    have hid : reseen read [] = id := funext fun r ↦ rfl
    rw [hid, List.map_id]
    rfl
  | append_singleton xs x ih =>
    rw [List.foldl_append, List.foldl_cons, List.foldl_nil, ih]
    unfold noticed
    by_cases hx : rekeys read x.formId x = true
    · rw [if_pos hx]
      unfold remember Holdings.revise
      rw [List.map_map]
      congr 1
      refine List.map_congr_left fun r _ ↦ ?_
      rw [reseen_concat]
      dsimp only [Function.comp]
      rw [formId_reseen]
      by_cases hr : r.formId = x.formId
      · rw [if_pos hr, if_pos (hr ▸ hx)]
      · rw [if_neg hr, if_neg fun h ↦ hr (formId_of_rekeys h).symm]
    · rw [if_neg hx]
      congr 1
      refine List.map_congr_left fun r _ ↦ ?_
      rw [reseen_concat, if_neg fun h ↦ hx (formId_of_rekeys h ▸ h)]

/-- The stock after some entries were compared, when their keys are to be remembered or not. -/
def compared (k : Stock ρ) (remembering : Bool) (read : List FormRecord) (xs : List Details) :
    Stock ρ :=
  if remembering then xs.foldl (noticed read) k else k

@[simp] theorem compared_false (xs : List Details) (k : Stock ρ) :
    k.compared false read xs = k := rfl

@[simp] theorem compared_nil (remembering : Bool) (k : Stock ρ) :
    k.compared remembering read [] = k := by
  cases remembering <;> rfl

theorem compared_concat (remembering : Bool) (xs : List Details) (k : Stock ρ) :
    k.compared remembering read (xs ++ [x]) =
      if remembering then (k.compared remembering read xs).noticed read x
      else k.compared remembering read xs := by
  cases remembering <;> simp [compared]

theorem compared_true (xs : List Details) (k : Stock ρ) :
    k.compared true read xs = { k with records := k.records.map (reseen read xs) } :=
  foldl_noticed read xs k

@[simp] theorem rest_compared (remembering : Bool) (xs : List Details) (k : Stock ρ) :
    (k.compared remembering read xs).rest = k.rest := by
  cases remembering with
  | false => rfl
  | true => rw [compared_true]

/-- Comparing some entries does not change what a plan made from them deletes. -/
theorem planOf_compared (remembering : Bool) (xs : List Details) (k : Stock ρ) :
    Plan.of xs (k.compared remembering read xs).records = Plan.of xs k.records := by
  cases remembering with
  | false => rfl
  | true =>
    have hdelete : ((k.records.map (reseen read xs)).filter fun r ↦
          !(xs.map (·.formId)).contains r.formId) =
        k.records.filter fun r ↦ !(xs.map (·.formId)).contains r.formId := by
      rw [List.filter_map]
      simp only [Function.comp_def, formId_reseen]
      refine (List.map_congr_left fun r hr ↦ reseen_of_not_mem ?_).trans (List.map_id _)
      have hkept := (List.mem_filter.mp hr).2
      simpa using hkept
    rw [compared_true]
    unfold Plan.of
    rw [hdelete]

end Stock

/-! ### What a comparison finds -/

/-- What comparing reads of a device: the records, and the media files of a form in a version or
the fault that reading them ends in. -/
structure Reading where
  records : List FormRecord
  media : String → Option String → Except Fault (List MediaRecord)

namespace Reading

variable (reading : Reading)

/-- Whether a record differs from the published form, by the comparison in full. -/
def differs (d : Descriptor) (manifest : Option Manifest) (record : FormRecord) :
    Except Fault Bool :=
  if ContentKey.stripLabel d.contentHash ≠ ContentKey.stripLabel record.contentHash then .ok true
  else
    match manifest with
    | none => .ok false
    | some m => mediaDiffer m.files <$> reading.media d.formId d.version

/-- How a published form stands on the device. -/
def standing (d : Descriptor) (manifest : Option Manifest) : Except Fault Standing :=
  match Catalog.recordOf? reading.records d.formId with
  | none => .ok ⟨true, false⟩
  | some record =>
    if record.seenKey = some (d.key manifest) then .ok ⟨false, false⟩
    else (⟨false, ·⟩) <$> reading.differs d manifest record

end Reading

/-! ### Calls and what they leave -/

/-- The address that is asked for the manifest of a listed form, if there is one. -/
def Descriptor.manifestAddress? (d : Descriptor) : Option String := d.manifestUrl.filter (· ≠ "")

/-- The calls to a server leave a part of the state alone. -/
structure Server.Leaves {σ τ : Type} (server : Server σ) (part : σ → τ) : Prop where
  formList : ∀ s, Ends server.formList s fun _ t ↦ part t = part s
  manifest : ∀ url s, Ends (server.manifest url) s fun _ t ↦ part t = part s

/-- A device answers from its stock; of the calls of a comparison, only remembering a key changes
the stock. -/
structure Device.Stocks {σ ρ : Type} [Recording σ] (device : Device σ) (stock : σ → Stock ρ)
    (media : ρ → String → Option String → Except Fault (List MediaRecord)) : Prop where
  records : ∀ s, Ends device.records s fun r t ↦ r = .ok (stock s).records ∧ stock t = stock s
  mediaFiles : ∀ id version s, Ends (device.mediaFiles id version) s fun r t ↦
    r = media (stock s).rest id version ∧ stock t = stock s
  remember : ∀ id key s, Ends (device.remember id key) s fun r t ↦
    r = .ok () ∧ stock t = (stock s).remember id key
  note : ∀ e s, stock (Recording.record e s) = stock s

namespace Device.Stocks

variable {σ ρ : Type} [Recording σ] {device : Device σ} {stock : σ → Stock ρ}
  {media : ρ → String → Option String → Except Fault (List MediaRecord)}

/-- The comparison in full finds what `Reading.differs` says; only reading the media files can end
it in a fault. -/
theorem ends_isUpdated (h : device.Stocks stock media) (read : List FormRecord) (d : Descriptor)
    (manifest : Option Manifest) (record : FormRecord) (s : σ) :
    Ends (device.isUpdated d manifest record) s fun r t ↦
      r = Reading.differs ⟨read, media (stock s).rest⟩ d manifest record ∧ stock t = stock s ∧
        ∀ e, r = .error e → device.mediaFiles d.formId d.version s = .error e t := by
  unfold isUpdated Reading.differs
  split
  · exact ⟨rfl, rfl, fun _ he ↦ by cases he⟩
  · cases manifest with
    | none => exact ⟨rfl, rfl, fun _ he ↦ by cases he⟩
    | some m =>
      dsimp only
      rw [ends_bind]
      have hmedia := h.mediaFiles d.formId d.version s
      cases hfiles : device.mediaFiles d.formId d.version s with
      | error e t =>
        obtain ⟨hr, ht⟩ := hmedia.of_error hfiles
        rw [ends_iff_of_error hfiles, ← hr]
        exact ⟨rfl, ht, fun _ he ↦ by cases he; rfl⟩
      | ok files t =>
        obtain ⟨hr, ht⟩ := hmedia.of_ok hfiles
        rw [ends_iff_of_ok hfiles, ← hr]
        exact ⟨rfl, ht, fun _ he ↦ by cases he⟩

private theorem ends_report (h : device.Stocks stock media) (d : Descriptor) (updated : Bool)
    (s : σ) :
    Ends (do
      if updated then
        Op.note .debug .comparison ("Form " ++ d.formId ++ " has an update on the server")
      pure (⟨false, updated⟩ : Standing)) s fun r t ↦
        r = .ok ⟨false, updated⟩ ∧ stock t = stock s := by
  cases updated with
  | false => exact ⟨rfl, rfl⟩
  | true => exact ⟨rfl, h.note _ _⟩

/-- Comparing a listed form finds its standing. When it is to remember, it leaves the stock as
`Stock.noticed` says; otherwise it leaves the stock as it was, and so it does when reading the media
files ends it in a fault. -/
theorem ends_compare (h : device.Stocks stock media) (read : List FormRecord) (remembering : Bool)
    (d : Descriptor) (manifest : Option Manifest) (s : σ) :
    Ends (device.compare d manifest (Catalog.recordOf? read d.formId) remembering) s fun r t ↦
      r = Reading.standing ⟨read, media (stock s).rest⟩ d manifest ∧
        match r with
        | .ok standing =>
          stock t = if remembering then
            (stock s).noticed read ⟨d, standing.notOnDevice, standing.updated, manifest⟩
          else stock s
        | .error e => stock t = stock s ∧
          device.mediaFiles d.formId d.version s = .error e t := by
  unfold compare Reading.standing
  dsimp only
  cases hrecord : Catalog.recordOf? read d.formId with
  | none =>
    refine ⟨rfl, ?_⟩
    have hnoticed : (stock s).noticed read ⟨d, true, false, manifest⟩ = stock s :=
      Stock.noticed_of_missing (x := ⟨d, true, false, manifest⟩) hrecord _
    simp [hnoticed]
  | some record =>
    have hid : record.formId = d.formId := (Catalog.mem_of_recordOf? hrecord).2
    dsimp only
    by_cases hkey : record.seenKey = some (d.key manifest)
    · rw [if_pos hkey, if_pos hkey]
      refine ⟨rfl, ?_⟩
      have hnoticed : (stock s).noticed read ⟨d, false, false, manifest⟩ = stock s :=
        Stock.noticed_of_seen (x := ⟨d, false, false, manifest⟩) hrecord hkey _
      simp [hnoticed]
    · rw [if_neg hkey, if_neg hkey, ends_bind]
      refine (h.ends_isUpdated read d manifest record s).mono ?_
      rintro r t ⟨rfl, ht, hfault⟩
      cases hdiffers : Reading.differs ⟨read, media (stock s).rest⟩ d manifest record with
      | error e => exact ⟨rfl, ht, hfault e hdiffers⟩
      | ok updated =>
        have hnoticed : (stock s).noticed read ⟨d, false, updated, manifest⟩ =
            (stock s).remember d.formId (d.key manifest) :=
          Stock.noticed_of_unseen (x := ⟨d, false, updated, manifest⟩) hrecord hkey _
        rw [Next]
        cases remembering with
        | false =>
          refine (h.ends_report d updated t).mono ?_
          rintro r v ⟨rfl, hv⟩
          exact ⟨rfl, hv.trans ht⟩
        | true =>
          rw [if_pos rfl, ends_bind]
          refine (h.remember record.formId (d.key manifest) t).mono ?_
          rintro r u ⟨rfl, hu⟩
          rw [Next]
          refine (h.ends_report d updated u).mono ?_
          rintro r v ⟨rfl, hv⟩
          refine ⟨rfl, ?_⟩
          dsimp only
          rw [if_pos rfl, hnoticed, hv, hu, ht, hid]

end Device.Stocks

namespace Catalog

variable {σ ρ : Type} [Recording σ] {catalog : Catalog σ} {stock : σ → Stock ρ}
  {media : ρ → String → Option String → Except Fault (List MediaRecord)}

omit [Recording σ] in
theorem manifestOf_of_address {d : Descriptor} {url : String}
    (h : d.manifestAddress? = some url) :
    catalog.manifestOf d = some <$> catalog.server.manifest url := by
  obtain ⟨hurl, hne⟩ := Option.filter_eq_some_iff.mp h
  unfold manifestOf
  rw [hurl]
  exact if_neg (of_decide_eq_true hne)

omit [Recording σ] in
theorem manifestOf_of_no_address {d : Descriptor} (h : d.manifestAddress? = none) :
    catalog.manifestOf d = pure none := by
  unfold Descriptor.manifestAddress? at h
  unfold manifestOf
  cases hurl : d.manifestUrl with
  | none => rfl
  | some url =>
    rw [hurl] at h
    exact if_pos (by simpa using h)

omit [Recording σ] in
/-- Fetching the manifest of a listed form leaves the stock alone; only the server can end it in a
fault. -/
theorem ends_manifestOf_of_leaves (h : catalog.server.Leaves stock) (d : Descriptor) (s : σ) :
    Ends (catalog.manifestOf d) s fun r t ↦ stock t = stock s ∧
      ∀ e, r = .error e →
        ∃ url, d.manifestAddress? = some url ∧ catalog.server.manifest url s = .error e t := by
  cases haddress : d.manifestAddress? with
  | none =>
    rw [manifestOf_of_no_address haddress]
    exact ⟨rfl, fun _ he ↦ by cases he⟩
  | some url =>
    rw [manifestOf_of_address haddress, ends_map]
    cases hm : catalog.server.manifest url s with
    | error e t =>
      rw [ends_iff_of_error hm]
      exact ⟨(h.manifest url s).of_error hm, fun _ he ↦ by cases he; exact ⟨url, rfl, hm⟩⟩
    | ok m t =>
      rw [ends_iff_of_ok hm]
      exact ⟨(h.manifest url s).of_ok hm, fun _ he ↦ by cases he⟩

/-- Making the entry of a listed form leaves the stock as comparing the form does, or, when a fault
ends it, as it was. The fault is the server's, or the one of reading media files. -/
theorem ends_annotate_of_stocks (hserver : catalog.server.Leaves stock)
    (hdevice : catalog.device.Stocks stock media) (read : List FormRecord) (remembering : Bool)
    (d : Descriptor) (s : σ) :
    Ends (catalog.annotate read remembering d) s fun r t ↦
      match r with
      | .ok x => x.descriptor = d ∧
          (stock t = if remembering then (stock s).noticed read x else stock s) ∧
          Reading.standing ⟨read, media (stock s).rest⟩ d x.manifest =
            .ok ⟨x.notOnDevice, x.updated⟩
      | .error e => stock t = stock s ∧
          ((∃ url, d.manifestAddress? = some url ∧ catalog.server.manifest url s = .error e t) ∨
            ∃ id version u, catalog.device.mediaFiles id version u = .error e t) := by
  unfold annotate
  rw [ends_bind]
  refine (ends_manifestOf_of_leaves hserver d s).mono ?_
  rintro r u ⟨hu, hfault⟩
  cases r with
  | error e => exact ⟨hu, Or.inl (hfault e rfl)⟩
  | ok manifest =>
    rw [Next, ends_bind]
    refine (hdevice.ends_compare read remembering d manifest u).mono ?_
    rintro r t ⟨hstanding, ht⟩
    cases r with
    | error e => exact ⟨ht.1.trans hu, Or.inr ⟨_, _, u, ht.2⟩⟩
    | ok standing =>
      rw [hu] at hstanding
      exact ⟨rfl, hu ▸ ht, hstanding.symm⟩

/-- A snapshot leaves the stock as comparing its entries does, and each entry says how its form
stood when the snapshot began. -/
theorem ends_snapshot_of_stocks (hserver : catalog.server.Leaves stock)
    (hdevice : catalog.device.Stocks stock media) (remembering : Bool) (s : σ) :
    Ends (catalog.snapshot remembering) s fun r t ↦ ∀ xs, r = .ok xs →
      stock t = (stock s).compared remembering (stock s).records xs ∧
        ∀ x ∈ xs, Reading.standing ⟨(stock s).records, media (stock s).rest⟩ x.descriptor
          x.manifest = .ok ⟨x.notOnDevice, x.updated⟩ := by
  unfold snapshot
  rw [ends_bind]
  refine (hserver.formList s).mono fun r t ht ↦ ?_
  cases r with
  | error e => exact fun _ hr ↦ by cases hr
  | ok listed =>
    rw [Next, ends_bind]
    refine (hdevice.records t).mono ?_
    rintro r u ⟨rfl, hu⟩
    rw [Next, ends_bind, ends_note, Next, ht]
    refine ends_mapM (fun _ xs v ↦
      stock v = (stock s).compared remembering (stock s).records xs ∧
        ∀ x ∈ xs, Reading.standing ⟨(stock s).records, media (stock s).rest⟩ x.descriptor
          x.manifest = .ok ⟨x.notOnDevice, x.updated⟩) ?_ ?_ ?_
    · exact ⟨by rw [hdevice.note, hu, ht, Stock.compared_nil], fun _ hx ↦ by cases hx⟩
    · rintro done d rest xs v - ⟨hv, hxs⟩
      refine (ends_annotate_of_stocks hserver hdevice (stock s).records remembering d v).mono ?_
      intro r w hw
      cases r with
      | error e => exact fun _ hr ↦ by cases hr
      | ok x =>
        obtain ⟨rfl, hw, hstanding⟩ := hw
        rw [hv, Stock.rest_compared] at hstanding
        refine ⟨by rw [hw, hv, Stock.compared_concat], fun y hy ↦ ?_⟩
        rcases List.mem_append.mp hy with hy | hy
        · exact hxs y hy
        · rw [List.mem_singleton.mp hy]
          exact hstanding
    · rintro xs v hv _ ⟨⟩
      exact hv

end Catalog

/-! ### A device in memory -/

namespace Memory.Rehearsal

/-- The stock of a device in memory. What it counts of the calls of a comparison is left out. -/
def stock (r : Rehearsal) : Stock Holdings :=
  ⟨r.holdings.records, { r.holdings with records := [], remembered := [], mediaCalls := 0 }⟩

theorem device_stocks :
    catalog.device.Stocks stock fun rest id version ↦ .ok (rest.mediaAt (id, version)) where
  records _ := ⟨rfl, rfl⟩
  mediaFiles _ _ _ := ⟨rfl, rfl⟩
  remember _ _ _ := ⟨rfl, rfl⟩
  note _ _ := rfl

theorem server_leaves_stock : catalog.server.Leaves stock where
  formList r := by
    rw [ends_formList]
    rfl
  manifest url r := by
    rw [ends_manifest]
    rfl

end Memory.Rehearsal

end FormCatalog
