import FormCatalog.Proofs.Shelf.Isolation
import FormCatalog.Proofs.Shelf.Rows

/-!
# The table of forms is a map

A `Chronicle` tells what calls a shelf has been through since it was started with an empty table:
which forms were stored and with what content, which downloads failed, which forms were deleted and
which keys remembered. Every call adds one event, however it ends. From the events alone
`lastDownload` and `lastKey` say what is known of a form now, and the table holds just that, one row
for each form, in the order of the ids (`Chronicle.registers`). So the records that the shelf gives
are those of a map from ids, and a call about one id leaves the rows of all other ids
(`behavesAsMap_of_chronicle`).
-/

set_option autoImplicit false
set_option relaxedAutoImplicit false

namespace FormCatalog

open Op

variable {N : Type}

/-! ### What a download receives -/

/-- What a download of a form receives as its definition: what the source answers once the directory
of forms is there. -/
def Source.Sends (source : Source N) (forms : FormsDirectory) (x : Details) (s : Site N)
    (content : Bytes) : Prop :=
  Returns (Disk.prepare forms.path) s.disk fun _ d ↦
    Returns (source x.descriptor.downloadUrl) { s with disk := d } fun received _ ↦
      received = content

instance (source : Source N) (forms : FormsDirectory) (x : Details) (s : Site N)
    (content : Bytes) : Decidable (source.Sends forms x s content) :=
  inferInstanceAs (Decidable (Returns _ _ _))

theorem Source.Sends.unique {source : Source N} {forms : FormsDirectory} {x : Details}
    {s : Site N} {content content' : Bytes} (h : source.Sends forms x s content)
    (h' : source.Sends forms x s content') : content = content' := by
  obtain ⟨_, d, hprepared, _, t, hsent, rfl⟩ := h
  obtain ⟨_, d', hprepared', _, t', hsent', rfl⟩ := h'
  cases hprepared.symm.trans hprepared'
  cases hsent.symm.trans hsent'
  rfl

namespace Download

variable {source : Source N} {forms : FormsDirectory} {x : Details} {s : Site N}

/-- What a download gives that has received this definition. -/
def broughtBy (forms : FormsDirectory) (x : Details) (content : Bytes) : Downloaded where
  formPath := forms.formPath x.formId
  mediaPath := x.manifest.map fun _ ↦ forms.mediaPath x.formId
  contentHash := ContentKey.ofBytes content

theorem ifReturns_bringMedia : IfReturns (bringMedia source forms x) s fun media _ ↦
    media = x.manifest.map fun _ ↦ forms.mediaPath x.formId := by
  unfold bringMedia
  cases x.manifest with
  | none => exact ifReturns_bind fun _ _ ↦ ifReturns_pure rfl
  | some manifest =>
    exact ifReturns_bind fun _ _ ↦ ifReturns_bind fun _ _ ↦ ifReturns_bind fun _ _ ↦
      ifReturns_bind fun _ _ ↦ ifReturns_pure rfl

theorem ifReturns_bring : IfReturns (bring source forms x) s fun brought _ ↦
    (∃ t, source x.descriptor.downloadUrl s = .ok brought.1 t) ∧
      brought.2 = x.manifest.map fun _ ↦ forms.mediaPath x.formId := by
  unfold bring
  refine ifReturns_self.bind fun content t hsent ↦ ifReturns_bringMedia.bind fun media _ hmedia ↦ ?_
  exact ifReturns_bind fun _ _ ↦ ifReturns_pure ⟨⟨t, hsent⟩, hmedia⟩

/-- A download that returned has received some content, and gives the digest of that content. -/
theorem ifReturns_run : IfReturns (run source forms x) s fun downloaded _ ↦
    ∃ content, source.Sends forms x s content ∧ downloaded = broughtBy forms x content := by
  cases hprepared : Disk.prepare forms.path s.disk with
  | error e d =>
    unfold IfReturns
    rw [ends_iff_of_error (run_of_prepare_eq_error hprepared)]
    exact fun _ hr ↦ by cases hr
  | ok _ d =>
    unfold IfReturns run
    rw [ends_bind, ends_iff_of_ok (onDisk_eq_ok hprepared)]
    refine (ifReturns_attempt ifReturns_bring).bind fun outcome t hbrought ↦ ?_
    cases outcome with
    | error e => exact ifReturns_throw
    | ok brought =>
      obtain ⟨⟨u, hsent⟩, hmedia⟩ := hbrought brought rfl
      have hbroughtBy : ∃ content, source.Sends forms x s content ∧
          (⟨forms.formPath x.formId, brought.2, ContentKey.ofBytes brought.1⟩ : Downloaded) =
            broughtBy forms x content :=
        ⟨brought.1, ⟨(), d, hprepared, _, u, hsent, rfl⟩, by rw [hmedia]; rfl⟩
      dsimp only
      split
      · exact ifReturns_bind fun _ _ ↦ ifReturns_pure hbroughtBy
      · exact ifReturns_pure hbroughtBy

end Download

namespace Shelf

/-! ### Calls and what they tell -/

/-- A call to the shelf that may change it, and how it ended. -/
inductive Event where
  /-- A download returned and had received this definition. -/
  | stored (x : Details) (content : Bytes)
  /-- A download ended in the fault of a failed download. -/
  | failed (x : Details)
  /-- A download ended in another fault. -/
  | broken (x : Details)
  /-- A form was deleted, however that ended. -/
  | deleted (formId : String)
  | remembered (formId key : String)

/-- The form that an event is about. -/
def Event.formId : Event → String
  | .stored x _ => x.formId
  | .failed x => x.formId
  | .broken x => x.formId
  | .deleted formId => formId
  | .remembered formId _ => formId

/-- What happened to a shelf since it was at a first site, the last event first. Between two calls
the disk and the table stay as they are, while the network and the journal may change, as they do
when the shelf is asked for something. -/
inductive Chronicle (source : Source N) (forms : FormsDirectory) (s₀ : Site N) :
    List Event → Site N → Prop
  | start : Chronicle source forms s₀ [] s₀
  | stored {history : List Event} {s t : Site N} {x : Details} {content : Bytes}
      (h : Chronicle source forms s₀ history s) (hsent : source.Sends forms x s content)
      (hrun : Shelf.download source forms x s = .ok () t) :
      Chronicle source forms s₀ (.stored x content :: history) t
  | failed {history : List Event} {s t : Site N} {x : Details} {formId message : String}
      (h : Chronicle source forms s₀ history s)
      (hrun : Shelf.download source forms x s = .error (.download formId message) t) :
      Chronicle source forms s₀ (.failed x :: history) t
  | broken {history : List Event} {s t : Site N} {x : Details} {e : Fault}
      (h : Chronicle source forms s₀ history s)
      (hrun : Shelf.download source forms x s = .error e t)
      (hother : ∀ formId message, e ≠ .download formId message) :
      Chronicle source forms s₀ (.broken x :: history) t
  | deleted {history : List Event} {s : Site N} (h : Chronicle source forms s₀ history s)
      (formId : String) :
      Chronicle source forms s₀ (.deleted formId :: history) ((Shelf.delete forms formId).after s)
  | remembered {history : List Event} {s : Site N} (h : Chronicle source forms s₀ history s)
      (formId key : String) :
      Chronicle source forms s₀ (.remembered formId key :: history)
        ((Shelf.remember formId key).after s)
  | between {history : List Event} {s t : Site N} (h : Chronicle source forms s₀ history s)
      (hdisk : t.disk = s.disk) (htable : t.table = s.table) :
      Chronicle source forms s₀ history t

/-- The last download of a form that returned, if the form was not deleted since: what was to be
downloaded, and the definition that was received. -/
def lastDownload : List Event → String → Option (Details × Bytes)
  | [], _ => none
  | .stored x content :: earlier, formId =>
    if x.formId = formId then some (x, content) else lastDownload earlier formId
  | .deleted other :: earlier, formId =>
    if other = formId then none else lastDownload earlier formId
  | .failed _ :: earlier, formId => lastDownload earlier formId
  | .broken _ :: earlier, formId => lastDownload earlier formId
  | .remembered _ _ :: earlier, formId => lastDownload earlier formId

/-- The key last remembered for a form: that of a download that returned, one that was set, or none
since a download failed. -/
def lastKey : List Event → String → Option String
  | [], _ => none
  | .stored x _ :: earlier, formId =>
    if x.formId = formId then some x.key else lastKey earlier formId
  | .failed x :: earlier, formId => if x.formId = formId then none else lastKey earlier formId
  | .remembered other key :: earlier, formId =>
    if other = formId then some key else lastKey earlier formId
  | .broken _ :: earlier, formId => lastKey earlier formId
  | .deleted _ :: earlier, formId => lastKey earlier formId

/-- The record of a form after these events. -/
def recordAfter (history : List Event) (formId : String) : Option FormRecord :=
  (lastDownload history formId).map fun (x, content) ↦
    { formId := formId
      contentHash := ContentKey.ofBytes content
      version := x.descriptor.version
      title := x.descriptor.title
      seenKey := lastKey history formId }

/-- The row of a form after these events. -/
def rowAfter (forms : FormsDirectory) (history : List Event) (formId : String) : Option Row :=
  (lastDownload history formId).map fun (x, content) ↦
    { rowOf x (Download.broughtBy forms x content) with seenKey := lastKey history formId }

variable {source : Source N} {forms : FormsDirectory} {s₀ s t : Site N} {history : List Event}
  {x : Details} {content : Bytes} {formId : String}

/-- The last download of a form is one of this form, and an event tells of it. -/
theorem stored_of_lastDownload (h : lastDownload history formId = some (x, content)) :
    x.formId = formId ∧ .stored x content ∈ history := by
  induction history with
  | nil => cases h
  | cons event earlier ih =>
    have hearlier (h : lastDownload earlier formId = some (x, content)) :
        x.formId = formId ∧ .stored x content ∈ event :: earlier :=
      ⟨(ih h).1, List.mem_cons_of_mem _ (ih h).2⟩
    cases event with
    | stored y received =>
      unfold lastDownload at h
      split at h
      · cases h
        exact ⟨by assumption, List.mem_cons_self⟩
      · exact hearlier h
    | deleted other =>
      unfold lastDownload at h
      split at h
      · cases h
      · exact hearlier h
    | failed | broken | remembered => exact hearlier h

theorem map_record_rowAfter (forms : FormsDirectory) (history : List Event) (formId : String) :
    (rowAfter forms history formId).map (·.record) = recordAfter history formId := by
  unfold rowAfter recordAfter
  rw [Option.map_map]
  cases hlast : lastDownload history formId with
  | none => rfl
  | some found =>
    have hid : found.1.formId = formId := (stored_of_lastDownload hlast).1
    simp only [Option.map_some, Function.comp_apply, Row.record, rowOf, Download.broughtBy, hid]

/-! ### Every call is told -/

/-- However a download ends, it goes into the chronicle. -/
theorem Chronicle.exists_download (h : Chronicle source forms s₀ history s) (x : Details) :
    ∃ event, event.formId = x.formId ∧
      Chronicle source forms s₀ (event :: history) ((download source forms x).after s) := by
  cases hrun : download source forms x s with
  | ok _ t =>
    have hafter : (download source forms x).after s = t := by rw [Op.after, hrun]
    rw [hafter]
    have hbrought : IfReturns (Download.run source forms x) s fun downloaded _ ↦
        ∃ content, source.Sends forms x s content ∧
          downloaded = Download.broughtBy forms x content :=
      Download.ifReturns_run
    obtain ⟨outcome, u, houtcome, -, -, -, hr⟩ := (ends_download_filed hbrought).of_ok hrun
    cases outcome with
    | error e => cases hr
    | ok downloaded =>
      obtain ⟨content, hsent, -⟩ := houtcome downloaded rfl
      exact ⟨.stored x content, rfl, h.stored hsent hrun⟩
  | error e t =>
    have hafter : (download source forms x).after s = t := by rw [Op.after, hrun]
    rw [hafter]
    by_cases hfailed : ∃ formId message, e = .download formId message
    · obtain ⟨formId, message, rfl⟩ := hfailed
      exact ⟨.failed x, rfl, h.failed hrun⟩
    · refine ⟨.broken x, rfl, h.broken hrun fun formId message he ↦ ?_⟩
      exact hfailed ⟨formId, message, he⟩

/-! ### The table after a chronicle -/

/-- The table has the rows that the events tell of, in the order of their ids. -/
structure Registers (forms : FormsDirectory) (history : List Event) (t : Table) : Prop where
  ordered : t.Ordered
  rows : ∀ formId, t.row? formId = rowAfter forms history formId

namespace Registers

variable {table : Table}

theorem stored (h : Registers forms history table) (x : Details) (content : Bytes) :
    Registers forms (.stored x content :: history)
      (table.put (rowOf x (Download.broughtBy forms x content))) where
  ordered := h.ordered.put _
  rows formId := by
    unfold rowAfter lastDownload lastKey
    by_cases hid : x.formId = formId
    · subst hid
      rw [if_pos rfl, if_pos rfl]
      exact table.row?_put_self (rowOf x (Download.broughtBy forms x content))
    · rw [if_neg hid, if_neg hid, table.row?_put_of_ne hid, h.rows]
      rfl

/-- Remembering and forgetting a key count for the form alone. -/
theorem remember (h : Registers forms history table) {event : Event} {key : Option String}
    (hlast : ∀ id, lastDownload (event :: history) id = lastDownload history id)
    (hkey : ∀ id, lastKey (event :: history) id =
      if event.formId = id then key else lastKey history id) :
    Registers forms (event :: history) (table.remember event.formId key) where
  ordered := h.ordered.remember _ _
  rows formId := by
    rw [Table.row?_remember, h.rows]
    unfold rowAfter
    rw [hlast, hkey, Option.map_map]
    cases hfound : lastDownload history formId with
    | none => rfl
    | some found =>
      have hid : found.1.formId = formId := (stored_of_lastDownload hfound).1
      simp only [Option.map_some, Function.comp_apply, rowOf, hid]
      by_cases heq : formId = event.formId
      · rw [if_pos heq, if_pos heq.symm]
      · rw [if_neg heq, if_neg (Ne.symm heq)]

theorem deleted (h : Registers forms history table) (formId : String) :
    Registers forms (.deleted formId :: history) (table.remove formId) where
  ordered := h.ordered.remove _
  rows other := by
    unfold rowAfter lastDownload lastKey
    by_cases hid : formId = other
    · subst hid
      rw [if_pos rfl, table.row?_remove_self]
      rfl
    · rw [if_neg hid, table.row?_remove_of_ne hid, h.rows]
      rfl

theorem filed_of_returned {table' : Table} (h : Registers forms history table)
    (hfiled : Filed x table (.ok (Download.broughtBy forms x content)) table') :
    Registers forms (.stored x content :: history) table' := by
  cases hfiled with
  | stored => exact h.stored x content

/-- A form that has no key remembered need not be forgotten. -/
theorem unseen (h : Registers forms history table)
    (hunseen : ∀ row, table.row? x.formId = some row → row.seenKey = none) :
    Registers forms (.failed x :: history) table where
  ordered := h.ordered
  rows formId := by
    rw [h.rows]
    unfold rowAfter
    change _ = (lastDownload history formId).map _
    cases hfound : lastDownload history formId with
    | none => rfl
    | some found =>
      have hkey : lastKey (.failed x :: history) formId = lastKey history formId := by
        rw [lastKey]
        split
        · rename_i hid
          subst hid
          have hrow : table.row? x.formId = rowAfter forms history x.formId := h.rows _
          unfold rowAfter at hrow
          rw [hfound] at hrow
          exact (hunseen _ hrow).symm
        · rfl
      rw [hkey]

theorem filed_of_failed {table' : Table} {id message : String}
    (h : Registers forms history table)
    (hfiled : Filed x table (.error (.download id message)) table') :
    Registers forms (.failed x :: history) table' := by
  cases hfiled with
  | forgotten => exact h.remember (fun _ ↦ rfl) fun _ ↦ rfl
  | unseen _ _ hunseen => exact h.unseen hunseen
  | left hother => exact absurd rfl (hother id message)

/-- A fault that is not the one of a failed download leaves the table. -/
theorem filed_of_broken {table' : Table} {e : Fault} (h : Registers forms history table)
    (hother : ∀ id message, e ≠ .download id message)
    (hfiled : Filed x table (.error e) table') :
    Registers forms (.broken x :: history) table' := by
  cases hfiled with
  | left => exact ⟨h.ordered, h.rows⟩
  | forgotten | unseen => exact absurd rfl (hother _ _)

end Registers

/-- What a download leaves in the table, as said by what it received. -/
theorem ends_download_sent (hsource : source.Answers (fun _ ↦ True) fun _ ↦ True) (x : Details)
    (hworking : s.disk.working.Plain) :
    Ends (download source forms x) s fun r t ↦ t.disk.working.Plain ∧
      ∃ outcome, Filed x s.table outcome t.table ∧ r = outcome.map (fun _ ↦ ()) ∧
        ∀ downloaded, outcome = .ok downloaded → ∃ content, source.Sends forms x s content ∧
          downloaded = Download.broughtBy forms x content := by
  refine (ends_download_filed
    ((Download.ends_run hsource x hworking trivial).and Download.ifReturns_run)).mono ?_
  rintro r t ⟨outcome, u, ⟨hu, hsent⟩, hdisk, -, hfiled, hr⟩
  rw [hu.table] at hfiled
  exact ⟨by rw [hdisk, hu.working_eq]; exact hworking, outcome, hfiled, hr, hsent⟩

/-- After every chronicle the table has the rows that the events tell of. -/
theorem Chronicle.registers (hsource : source.Answers (fun _ ↦ True) fun _ ↦ True)
    (htable : s₀.table = []) (hworking : s₀.disk.working.Plain)
    (h : Chronicle source forms s₀ history s) :
    s.disk.working.Plain ∧ Registers forms history s.table := by
  induction h with
  | start =>
    refine ⟨hworking, ?_, fun formId ↦ ?_⟩
    · rw [htable]
      exact List.Pairwise.nil
    · rw [htable]
      rfl
  | stored _ hsent hrun ih =>
    obtain ⟨hplain, outcome, hfiled, hr, hreceived⟩ :=
      (ends_download_sent hsource _ ih.1).of_ok hrun
    cases outcome with
    | error e => cases hr
    | ok downloaded =>
      obtain ⟨received, hsent', rfl⟩ := hreceived downloaded rfl
      obtain rfl := hsent.unique hsent'
      exact ⟨hplain, ih.2.filed_of_returned hfiled⟩
  | failed _ hrun ih =>
    obtain ⟨hplain, outcome, hfiled, hr, -⟩ := (ends_download_sent hsource _ ih.1).of_error hrun
    cases outcome with
    | ok downloaded => cases hr
    | error e =>
      cases hr
      exact ⟨hplain, ih.2.filed_of_failed hfiled⟩
  | broken _ hrun hother ih =>
    obtain ⟨hplain, outcome, hfiled, hr, -⟩ := (ends_download_sent hsource _ ih.1).of_error hrun
    cases outcome with
    | ok downloaded => cases hr
    | error e =>
      cases hr
      exact ⟨hplain, ih.2.filed_of_broken hother hfiled⟩
  | deleted _ formId ih =>
    obtain ⟨_, hhandles, hremoved⟩ := (ends_delete (fun _ ↦ True) formId trivial).after
    rw [hhandles.working_eq, hremoved]
    exact ⟨ih.1, ih.2.deleted formId⟩
  | remembered _ formId key ih => exact ⟨ih.1, ih.2.remember (fun _ ↦ rfl) fun _ ↦ rfl⟩
  | between _ hdisk htable ih =>
    rw [hdisk, htable]
    exact ih

theorem Registers.mem_map_record {table : Table} (h : Registers forms history table)
    (record : FormRecord) :
    record ∈ table.map (·.record) ↔ recordAfter history record.formId = some record := by
  rw [← map_record_rowAfter forms, ← h.rows, List.mem_map, Option.map_eq_some_iff]
  constructor
  · rintro ⟨row, hrow, rfl⟩
    exact ⟨row, h.ordered.row?_of_mem hrow, rfl⟩
  · rintro ⟨row, hrow, rfl⟩
    exact ⟨row, (Table.mem_of_row? hrow).1, rfl⟩

/-! ### The shelf as a map -/

/-- At a site, the shelf is the map from ids to records that the events tell of. -/
structure BehavesAsMap (source : Source N) (forms : FormsDirectory) (history : List Event)
    (s : Site N) : Prop where
  /-- The records come in the strict order of their ids, and are those that the events tell of. -/
  records : Returns records s fun all t ↦ t = s ∧
    all.Pairwise (fun a b ↦ a.formId < b.formId) ∧
      ∀ record, record ∈ all ↔ recordAfter history record.formId = some record
  /-- For one id the shelf gives the one record of the id. -/
  lookup : ∀ formId, Returns (record? formId) s fun found t ↦ t = s ∧
    found = recordAfter history formId
  /-- A call about one id leaves the rows of all other ids, however it ends. -/
  download : ∀ x : Details, Ends (download source forms x) s fun _ t ↦
    ∀ other, x.formId ≠ other → t.table.row? other = s.table.row? other
  delete : ∀ formId, Ends (delete forms formId) s fun _ t ↦
    ∀ other, formId ≠ other → t.table.row? other = s.table.row? other
  remember : ∀ formId key, Ends (remember formId key) s fun _ t ↦
    ∀ other, formId ≠ other → t.table.row? other = s.table.row? other

/-- The table of forms behaves as a map, whatever calls the shelf has been through: it holds one
record for each form that was downloaded since it was last deleted, with the version, the title and
the digest of the content of that download, and with the key that was remembered last. -/
theorem behavesAsMap_of_chronicle {source : Source N} {forms : FormsDirectory} {s₀ s : Site N}
    {history : List Event} (hsource : source.Answers (fun _ ↦ True) fun _ ↦ True)
    (htable : s₀.table = []) (hworking : s₀.disk.working.Plain)
    (h : Chronicle source forms s₀ history s) : BehavesAsMap source forms history s := by
  obtain ⟨hplain, hregisters⟩ := h.registers hsource htable hworking
  constructor
  case records =>
    refine ⟨s.table.map (·.record), s, rfl, rfl, ?_, hregisters.mem_map_record⟩
    exact List.pairwise_map.mpr hregisters.ordered
  case lookup =>
    intro formId
    refine ⟨(s.table.row? formId).map (·.record), s, rfl, rfl, ?_⟩
    rw [hregisters.rows, map_record_rowAfter]
  case download =>
    intro x
    exact (ends_download hsource x hplain trivial).mono fun _ _ ht ↦ ht.rows
  case delete =>
    intro formId
    exact (ends_delete (fun _ ↦ True) formId trivial).mono fun _ _ ht ↦ ht.1.rows
  case remember =>
    intro formId key other hother
    exact s.table.row?_remember_of_ne hother (some key)

/-! ### A chronicle -/

/-- The forms `b` and `a` come, `a` cannot be had again, a key is remembered for `b`, and a form
that is not there is deleted. -/
def someCalls : List Event :=
  [.deleted "c", .remembered "b" "k", .failed (plainForm "a" "gone"),
    .stored (plainForm "a" "u") [117], .stored (plainForm "b" "v") [118]]

/-- A device on which `b` has come. -/
def withB : Site Archive :=
  (Shelf.download Archive.source besideWork (plainForm "b" "v")).after blank

def withBoth : Site Archive :=
  (Shelf.download Archive.source besideWork (plainForm "a" "u")).after withB

def withoutKey : Site Archive :=
  (Shelf.download Archive.source besideWork (plainForm "a" "gone")).after withBoth

def afterCalls : Site Archive :=
  (Shelf.delete besideWork "c").after ((Shelf.remember "b" "k").after withoutKey)

theorem chronicle_someCalls :
    Chronicle Archive.source besideWork blank someCalls afterCalls := by
  have hb : Chronicle Archive.source besideWork blank [.stored (plainForm "b" "v") [118]] withB :=
    .stored .start (by decide +kernel) (eq_ok_after (by decide +kernel))
  have ha : Chronicle Archive.source besideWork blank
      [.stored (plainForm "a" "u") [117], .stored (plainForm "b" "v") [118]] withBoth :=
    .stored hb (by decide +kernel) (eq_ok_after (by decide +kernel))
  have hgone : Shelf.download Archive.source besideWork (plainForm "a" "gone") withBoth =
      .error (.download "a" "GET gone returned 404") withoutKey :=
    eq_error_after (by decide +kernel)
  exact ((ha.failed hgone).remembered "b" "k").deleted "c"

/-- After these calls there are the records of `a`, without a key, and of `b`, with the key. -/
theorem behavesAsMap_of_chronicle_someCalls :
    BehavesAsMap Archive.source besideWork someCalls afterCalls ∧
      recordAfter someCalls "a" = some ⟨"a", ContentKey.ofBytes [117], none, "", none⟩ ∧
      recordAfter someCalls "b" = some ⟨"b", ContentKey.ofBytes [118], none, "", some "k"⟩ ∧
      recordAfter someCalls "c" = none :=
  ⟨behavesAsMap_of_chronicle Archive.answers_source rfl ⟨by decide, by decide⟩ chronicle_someCalls,
    rfl, rfl, rfl⟩

end Shelf

end FormCatalog
