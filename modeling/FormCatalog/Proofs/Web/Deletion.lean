import FormCatalog.Proofs.Catalog.Abort
import FormCatalog.Proofs.Catalog.FormLists
import FormCatalog.Proofs.Shelf.Rows
import FormCatalog.Proofs.Web.Calls

/-!
# Deletion needs the server's word

A pass over the web deletes a form only if the server answered with a form list that leaves the form
out. `deletesOnlyOmitted` says so for every answer with status 200 and every device. A payload
that is no well-formed form list ends the pass in a fault of transport before the device is called
at all. Otherwise the pass is the same whatever deleting the other forms would do, so it never asks
for that, and on the shelf their rows stay.

The server's word may be short: an object without the member `forms` counts as a list without
entries, and a pass that is answered with one deletes every form (`error_document_deletes`).
-/

set_option autoImplicit false
set_option relaxedAutoImplicit false

namespace FormCatalog

open Op

/-! ### Passes with another way to delete -/

namespace Catalog

variable {σ : Type} [Recording σ] {catalog : Catalog σ}

/-- Only the deletions of the plan count in carrying it out. -/
theorem carryOut_withChanges {plan : Plan} {delete : String → Op σ Unit}
    (h : ∀ record ∈ plan.toDelete, delete record.formId = catalog.device.delete record.formId) :
    (catalog.withChanges delete catalog.device.download).carryOut plan = catalog.carryOut plan := by
  have hdeletes : plan.toDelete.forM (catalog.withChanges delete catalog.device.download).delete =
      plan.toDelete.forM catalog.delete := by
    generalize plan.toDelete = records at h
    induction records with
    | nil => rfl
    | cons record rest ih =>
      have hfirst : (catalog.withChanges delete catalog.device.download).delete record =
          catalog.delete record := by
        change (Op.note _ _ _ >>= fun _ ↦ delete record.formId) = _
        rw [h record List.mem_cons_self]
        rfl
      change (_ >>= fun _ ↦ rest.forM _) = (_ >>= fun _ ↦ rest.forM _)
      rw [hfirst, ih fun record hrecord ↦ h record (List.mem_cons_of_mem _ hrecord)]
  unfold carryOut
  rw [hdeletes]
  rfl

/-- A pass is the same whatever deleting listed forms would do. -/
theorem synchronize_withChanges {listed : List Descriptor} {s : σ} {delete : String → Op σ Unit}
    (hlist : Ends catalog.server.formList s fun r _ ↦ ∀ ds, r = .ok ds → ds = listed)
    (h : ∀ id ∉ listed.map (·.formId), delete id = catalog.device.delete id) :
    (catalog.withChanges delete catalog.device.download).synchronize s =
      catalog.synchronize s := by
  have hplanned := ends_planWith_unlisted catalog hlist true
  have hsame : (catalog.withChanges delete catalog.device.download).planWith true s =
      catalog.planWith true s := rfl
  unfold synchronize
  cases hplan : catalog.planWith true s with
  | error e t =>
    rw [bind_eq_error hplan, bind_eq_error (hsame.trans hplan)]
  | ok plan t =>
    rw [bind_of_ok hplan, bind_of_ok (hsame.trans hplan), carryOut_withChanges]
    exact fun record hrecord ↦ h _ (hplanned.of_ok hplan plan rfl record hrecord)

end Catalog

/-! ### Calls to the server -/

namespace FormServer

variable {N : Type} (server : FormServer N) (holds : Disk → Table → Prop)

/-- A request leaves the disk and the table alone, however it ends. -/
theorem keeps_request (address : String) :
    Keeps (fun s ↦ holds s.disk s.table) (server.request address) := by
  intro s hs
  cases hsend : Client.send server.wire address s.net with
  | ok reply web =>
    have hrequest : server.request address s = .ok reply { s with net := web } := by
      unfold request
      rw [hsend]
    exact (ends_iff_of_ok hrequest).mpr hs
  | error fault web =>
    have hrequest : ∃ e journal,
        server.request address s = .error e { s with net := web, journal := journal } := by
      unfold request
      rw [hsend]
      dsimp only
      split <;> exact ⟨_, _, rfl⟩
    obtain ⟨e, journal, hrequest⟩ := hrequest
    exact (ends_iff_of_error hrequest).mpr hs

theorem keeps_download (address : String) :
    Keeps (fun s ↦ holds s.disk s.table) (server.download address) :=
  fun s hs ↦ ends_download_of_request (server.keeps_request holds address s hs)

theorem keeps_formList : Keeps (fun s ↦ holds s.disk s.table) server.formList :=
  fun s hs ↦ ends_formList_of_request (server.keeps_request holds _ s hs)

theorem keeps_manifest (address : String) :
    Keeps (fun s ↦ holds s.disk s.table) (server.manifest address) :=
  fun s hs ↦ ends_manifest_of_request (server.keeps_request holds address s hs)

/-- The server is a source of content that leaves the device alone. -/
theorem answers_download : Source.Answers server.download (fun _ ↦ True) fun _ ↦ True :=
  fun address s _ ↦ (server.keeps_download (fun d t ↦ d = s.disk ∧ t = s.table) address s
    ⟨rfl, rfl⟩).mono fun _ _ ht ↦ ⟨trivial, ht.1, ht.2, fun _ _ ↦ trivial⟩

variable {server} {s s' : Site (Web N)} {reply : Reply}

/-- The answer to a request leaves the disk and the table alone. -/
theorem eq_of_request {address : String} (hreply : server.request address s = .ok reply s') :
    s'.disk = s.disk ∧ s'.table = s.table :=
  (server.keeps_request (fun d t ↦ d = s.disk ∧ t = s.table) address s ⟨rfl, rfl⟩).of_ok hreply

/-- An answer with status 200 is read as a form list. -/
theorem formList_eq (hreply : server.request server.formListPath s = .ok reply s')
    (hstatus : reply.status = 200) :
    server.formList s = orTransport (Payload.formList reply.body) s' := by
  have hdownload : server.download server.formListPath s = .ok reply.body s' := by
    unfold download
    rw [bind_of_ok hreply, hstatus, if_neg (by decide), Reply.isSuccess, hstatus]
    rfl
  unfold formList
  rw [bind_of_ok hdownload]

theorem formList_eq_ok {ds : List Descriptor}
    (hreply : server.request server.formListPath s = .ok reply s') (hstatus : reply.status = 200)
    (hread : Payload.formList reply.body = .ok ds) : server.formList s = .ok ds s' := by
  rw [formList_eq hreply hstatus, hread]
  rfl

/-- A payload that is refused ends the pass before anything is asked of the device. -/
theorem synchronize_eq_error {refusal : Payload.Refusal}
    (hreply : server.request server.formListPath s = .ok reply s') (hstatus : reply.status = 200)
    (hread : Payload.formList reply.body = .error refusal) (device : Device (Site (Web N))) :
    Catalog.synchronize ⟨server.side, device⟩ s =
      .error (.sync (.transport refusal.message)) s' := by
  have hlist : server.formList s = .error (.sync (.transport refusal.message)) s' := by
    rw [formList_eq hreply hstatus, hread]
    rfl
  exact bind_eq_error (bind_eq_error (bind_eq_error hlist))

end FormServer

/-! ### A whole pass -/

namespace Shelf

variable {N : Type} {server : FormServer N} {forms : FormsDirectory} {formId : String}

/-- The form has a row, and the working place is plain. -/
def Holds (formId : String) (d : Disk) (t : Table) : Prop :=
  d.working.Plain ∧ (t.row? formId).isSome = true

/-- No call of a snapshot takes the row of a form away. -/
theorem observes_holds :
    Catalog.Observes ⟨server.side, device server.download forms⟩
      (fun s ↦ Holds formId s.disk s.table) where
  formList := server.keeps_formList (Holds formId)
  manifest url := server.keeps_manifest (Holds formId) url
  records _ hs := hs
  mediaFiles id version s hs := (ends_mediaFiles id version s).mono fun _ _ ht ↦ ht.2 ▸ hs
  remember id key s hs := by
    refine ⟨hs.1, ?_⟩
    rw [← hs.2]
    exact s.table.isSome_row?_remember id (some key) formId
  note _ _ hs := hs

/-- A download takes no row away. -/
theorem keeps_download_holds (x : Details) :
    Keeps (fun s ↦ Holds formId s.disk s.table)
      ((device server.download forms).download x) := by
  intro s hs
  refine (ends_download_filed
    (Download.ends_run server.answers_download x hs.1 trivial)).mono ?_
  rintro r t ⟨outcome, u, hu, hdisk, -, hfiled, -⟩
  refine ⟨by rw [hdisk, hu.working_eq]; exact hs.1, ?_⟩
  have hrow : (u.table.row? formId).isSome = true := by rw [hu.table, hs.2]
  by_cases hid : x.formId = formId
  · subst hid
    cases outcome with
    | ok downloaded => exact hfiled.isSome_of_ok
    | error e => rw [hfiled.isSome_of_error, hrow]
  · rw [hfiled.row?_of_ne hid, hrow]

/-- Deleting another form leaves the row of a form. -/
theorem keeps_delete_holds {other : String} (hother : other ≠ formId) :
    Keeps (fun s ↦ Holds formId s.disk s.table)
      ((device server.download forms).delete other) := by
  intro s hs
  refine (ends_delete (fun _ ↦ True) other trivial).mono fun r t ht ↦ ?_
  exact ⟨by rw [ht.1.working_eq]; exact hs.1, by rw [ht.1.rows formId hother]; exact hs.2⟩

end Shelf

/-- What the payload of an answer with status 200 decides for a pass that starts in `s`, where `s'`
is the state once the answer has come. -/
structure DeletesOnlyOmitted {N : Type} (server : FormServer N) (payload : Bytes)
    (s s' : Site (Web N)) : Prop where
  /-- Nothing was done to the disk and the table when the answer has come. -/
  untouched : s'.disk = s.disk ∧ s'.table = s.table
  /-- A payload that is no well-formed form list ends the pass right there in a fault of transport,
  whatever the device is. -/
  refused : ¬ Payload.WellFormed payload → ∃ faults, ∀ device,
    Catalog.synchronize ⟨server.side, device⟩ s =
      .error (.sync (.transport (Payload.Refusal.formList faults).message)) s'
  /-- On any device the pass is the same whatever deleting the forms would do that the payload does
  not leave out. -/
  spared : ∀ (device : Device (Site (Web N))) (delete : String → Op (Site (Web N)) Unit),
    (∀ formId, Payload.Omits payload formId → delete formId = device.delete formId) →
      Catalog.synchronize ⟨server.side, { device with delete := delete }⟩ s =
        Catalog.synchronize ⟨server.side, device⟩ s
  /-- On the shelf these forms keep their rows. -/
  stays : ∀ forms formId, s.disk.working.Plain → (s.table.row? formId).isSome = true →
    ¬ Payload.Omits payload formId →
      Ends (Catalog.synchronize ⟨server.side, Shelf.device server.download forms⟩) s
        fun _ u ↦ (u.table.row? formId).isSome = true

/-- Deletion needs the server's word: a pass deletes a form only if the answer is a well-formed form
list that leaves the form out. -/
theorem deletesOnlyOmitted {N : Type} (server : FormServer N) {s s' : Site (Web N)} {reply : Reply}
    (hreply : server.request server.formListPath s = .ok reply s')
    (hstatus : reply.status = 200) : DeletesOnlyOmitted server reply.body s s' := by
  have hkept := FormServer.eq_of_request hreply
  constructor
  case untouched => exact hkept
  case refused =>
    intro hbad
    obtain ⟨faults, hread⟩ := Payload.formList_of_not_wellFormed hbad
    exact ⟨faults, FormServer.synchronize_eq_error hreply hstatus hread⟩
  case spared =>
    intro device delete hdelete
    cases hread : Payload.formList reply.body with
    | error refusal =>
      rw [FormServer.synchronize_eq_error hreply hstatus hread,
        FormServer.synchronize_eq_error hreply hstatus hread]
    | ok ds =>
      have hlist : Ends (Catalog.mk server.side device).server.formList s
          fun r _ ↦ ∀ listed, r = .ok listed → listed = ds := by
        refine (ends_iff_of_ok (FormServer.formList_eq_ok hreply hstatus hread)).mpr ?_
        exact fun _ h ↦ by cases h; rfl
      exact Catalog.synchronize_withChanges hlist
        fun formId hid ↦ hdelete formId ((Payload.omits_iff hread).mpr hid)
  case stays =>
    intro forms formId hworking hrow homits
    cases hread : Payload.formList reply.body with
    | error refusal =>
      rw [ends_iff_of_error (FormServer.synchronize_eq_error hreply hstatus hread _), hkept.2]
      exact hrow
    | ok ds =>
      have hlist : Ends server.formList s fun r _ ↦ ∀ listed, r = .ok listed → listed = ds := by
        refine (ends_iff_of_ok (FormServer.formList_eq_ok hreply hstatus hread)).mpr ?_
        exact fun _ h ↦ by cases h; rfl
      refine (Shelf.observes_holds.ends_synchronize_of_list hlist (fun other hother ↦ ?_)
        Shelf.keeps_download_holds ⟨hworking, hrow⟩).mono fun _ _ ht ↦ ht.2
      refine Shelf.keeps_delete_holds ?_
      rintro rfl
      exact homits ((Payload.omits_iff hread).mpr hother)

/-! ### Two answers -/

namespace FormServer

/-- A server that answers every request with a text. -/
def answering (text : String) : FormServer Unit :=
  ⟨"/formList", fun _ n ↦ (.ok ⟨200, [], Bytes.ofText text⟩, n)⟩

/-- A device with the form `a` on its shelf. -/
def visited : Site (Web Unit) where
  disk := ⟨["device"], [(["device"], .directory)]⟩
  table := [⟨"a", none, "a", "0", "forms/a.xml", none, none⟩]
  net :=
    { client :=
        { base := ⟨"http".toList, [], "localhost".toList, none, ['/'], none, none⟩
          signIn := none }
      net := () }
  journal := []

/-- A form list with the form `b`, and with `a` among its entries or not. -/
def listing (withA : Bool) : String :=
  "\x7b\"forms\": [" ++
    (if withA then
      "\x7b\"form_id\": \"a\", \"hash\": \"md5:0\", \"download_url\": \"/a\"\x7d, " else "") ++
    "\x7b\"form_id\": \"b\", \"hash\": \"md5:0\", \"download_url\": \"/b\"\x7d]\x7d"

/-- The text of an object that says that something went wrong. -/
def errorDocument : String := "\x7b\"error\": \"down\"\x7d"

end FormServer

open FormServer

/-- A list with `a` and `b` does not leave `a` out, and so `a` stays. -/
theorem deletesOnlyOmitted_listing :
    Returns ((answering (listing true)).request (answering (listing true)).formListPath) visited
      fun reply s' ↦ reply.status = 200 ∧ ¬ Payload.Omits reply.body "a" ∧
        DeletesOnlyOmitted (answering (listing true)) reply.body visited s' := by
  obtain ⟨reply, s', hreply, hstatus, hread⟩ :
      Returns ((answering (listing true)).request (answering (listing true)).formListPath) visited
        fun reply _ ↦ reply.status = 200 ∧ Payload.formList reply.body =
          .ok [ { formId := "a", contentHash := "md5:0", downloadUrl := "/a" },
            { formId := "b", contentHash := "md5:0", downloadUrl := "/b" } ] := by
    decide +kernel
  have homits : ¬ Payload.Omits reply.body "a" := by
    rw [Payload.omits_iff hread]
    decide
  exact ⟨reply, s', hreply, hstatus, homits, deletesOnlyOmitted _ hreply hstatus⟩

/-- An object without the member `forms` is answered, and the pass returns and has deleted the form
that was there. -/
theorem error_document_deletes :
    (visited.table.row? "a").isSome = true ∧
      Returns ((answering errorDocument).request (answering errorDocument).formListPath) visited
        (fun reply _ ↦ reply.status = 200 ∧
          ((Json.ofBytes? reply.body).bind (·.get? "forms")).isNone = true) ∧
      Returns (Catalog.synchronize ⟨(answering errorDocument).side,
          Shelf.device (answering errorDocument).download Shelf.besideWork⟩) visited fun plan u ↦
        plan.toDelete.map (·.formId) = ["a"] ∧ u.table = [] := by
  decide +kernel

end FormCatalog
