import FormCatalog.App.Basic
import FormCatalog.Proofs.Shelf.SyncFaults
import FormCatalog.Proofs.Web.Calls
import FormCatalog.Proofs.Web.Classified

/-!
# The two sides of an app

An app brings a server behind the web together with a shelf. The server reads and changes the client
and the network and leaves the shelf alone, and the calls of a comparison leave the client and the
network alone (`App.separate`). So a fetch of an app ends alike whether keys are remembered or not,
and a preview meets the fault of the fetch that the pass would meet (`App.outcome_of_snapshot`).

A pass of an app asks the user to sign in exactly if the server refused the credentials with the
status 401 or 403 while the catalog was fetched: to the request for the list, or to that for the
manifest of a listed form (`App.synchronize_rejected_iff`).
-/

set_option autoImplicit false
set_option relaxedAutoImplicit false

namespace FormCatalog

open Op

variable {N : Type}

/-! ### The server -/

namespace FormServer

theorem side_leaves_stock (server : FormServer N) : server.side.Leaves Shelf.stock := by
  have hrequest (address : String) (s : Site (Web N)) :
      Ends (server.request address) s fun _ t ↦ Shelf.stock t = Shelf.stock s := by
    unfold Ends request
    cases Client.send server.wire address s.net with
    | ok reply web => exact rfl
    | error fault web =>
      dsimp only
      cases fault.isRequestFailure <;> exact rfl
  exact ⟨fun s ↦ ends_formList_of_request (hrequest _ s),
    fun url s ↦ ends_manifest_of_request (hrequest url s)⟩

/-- What a request ends in depends on the client and the network alone. -/
theorem inStep_request (server : FormServer N) (address : String) :
    InStep (fun s t ↦ s.net = t.net) (server.request address) (server.request address) := by
  intro s t hst
  unfold outcome after request
  rw [hst]
  cases Client.send server.wire address t.net with
  | ok reply web => exact ⟨rfl, rfl⟩
  | error fault web =>
    dsimp only
    cases fault.isRequestFailure <;> exact ⟨rfl, rfl⟩

theorem side_reads_net (server : FormServer N) : server.side.Reads (·.net) := by
  have hdownload (address : String) :
      InStep (fun s t ↦ s.net = t.net) (server.download address) (server.download address) := by
    refine (server.inStep_request address).bind fun reply ↦ ?_
    split
    · exact inStep_throw _
    · split
      · exact inStep_pure _
      · exact inStep_throw _
  have hread {α : Type} (r : Except Payload.Refusal α) :
      InStep (fun s t : Site (Web N) ↦ s.net = t.net) (orTransport r) (orTransport r) := by
    cases r with
    | ok a => exact inStep_pure a
    | error refusal => exact inStep_throw _
  exact fun url ↦ (hdownload url).bind fun _ ↦ hread _

end FormServer

/-! ### The app -/

namespace App

variable (app : App N)

theorem separate : app.catalog.Separate (·.net) Shelf.stock
    fun rest ↦ Shelf.mediaAt rest.1 rest.2 where
  leaves := app.server.side_leaves_stock
  reads := app.server.side_reads_net
  stocks := Shelf.device_stocks app.server.download app.forms
  spares :=
    { mediaFiles := fun p id version s hs ↦ by
        refine (Shelf.ends_mediaFiles id version s).mono ?_
        rintro _ _ ⟨-, rfl⟩
        exact hs
      remember := fun _ _ _ _ hs ↦ hs
      note := fun _ _ ↦ rfl }

/-- Where the catalog cannot be fetched, with keys remembered or not, a preview and a pass both end
in the fault of the fetch. -/
theorem outcome_of_snapshot {s : Site (Web N)} {remembering : Bool} {e : Fault}
    (h : (app.catalog.snapshot remembering).outcome s = .error e) :
    app.catalog.preview.outcome s = .error e ∧ app.catalog.synchronize.outcome s = .error e := by
  have hplan (remembering' : Bool) : (app.catalog.planWith remembering').outcome s = .error e := by
    rw [Catalog.outcome_planWith_eq_error_iff app.separate.stocks,
      app.separate.outcome_snapshot remembering remembering', h]
  exact ⟨hplan false, outcome_of_error (bind_eq_error (eq_error_of_outcome (hplan true)))⟩

/-- The server refused the credentials while a pass from here fetched the catalog, in these words:
in its answer to the request for the list or, the entries before it having been made, in that for
the manifest of a listed form. -/
inductive Refused (s : Site (Web N)) : String → Prop
  | list {reply : Reply}
      (hfinal : Client.Final app.wire app.settings.formListPath s.net reply)
      (hrefuses : reply.Refuses) :
      Refused s (FormServer.rejection reply app.settings.formListPath)
  | manifest {done : List Details} {d : Descriptor} {later : List Descriptor}
      {read : List FormRecord} {url : String} {u v : Site (Web N)} {reply : Reply}
      (hopening : app.catalog.opening s = .ok (done.map (·.descriptor) ++ d :: later, read) u)
      (hdone : Catalog.Annotates app.catalog read true u done v)
      (hurl : d.manifestAddress? = some url) (hfinal : Client.Final app.wire url v.net reply)
      (hrefuses : reply.Refuses) :
      Refused s (FormServer.rejection reply url)

/-- A pass asks the user to sign in exactly if the server refused the credentials to its fetch. -/
theorem synchronize_rejected_iff (s : Site (Web N)) (message : String) :
    app.catalog.synchronize.outcome s = .error (.sync (.rejected message)) ↔
      app.Refused s message := by
  have hlist : FormServer.Classified app.wire app.settings.formListPath Payload.formList
      app.server.formList s := .of_ends (FormServer.ends_read Payload.formList)
  have hmanifest (url : String) (v : Site (Web N)) :
      FormServer.Classified app.wire url Payload.manifest (app.server.manifest url) v :=
    .of_ends (FormServer.ends_read Payload.manifest)
  constructor
  · intro h
    rcases Shelf.fetched_or_collected app.server.side_leaves_stock (eq_error_of_outcome h) with
      ⟨_, _, _, habort⟩ | ⟨_, _, _, _, -, -, -, hincomplete⟩
    · cases habort with
      | list h =>
        obtain ⟨reply, hfinal, hrefuses, rfl⟩ := (hlist.rejects message).mp ⟨_, _, h, rfl⟩
        exact .list hfinal hrefuses
      | manifest hopening hdone hurl hfault =>
        obtain ⟨reply, hfinal, hrefuses, rfl⟩ :=
          ((hmanifest _ _).rejects message).mp ⟨_, _, hfault, rfl⟩
        exact .manifest hopening hdone hurl hfinal hrefuses
    · cases hincomplete
  · intro h
    suffices habort : ∃ done failing t, app.catalog.Aborts true s done failing
        (.sync (.rejected message)) t by
      obtain ⟨_, _, _, habort⟩ := habort
      exact outcome_of_error (bind_eq_error habort.planWith_eq)
    cases h with
    | list hfinal hrefuses =>
      obtain ⟨_, _, hfault, rfl⟩ := (hlist.rejects _).mpr ⟨_, hfinal, hrefuses, rfl⟩
      exact ⟨_, _, _, .list hfault⟩
    | manifest hopening hdone hurl hfinal hrefuses =>
      obtain ⟨_, _, hfault, rfl⟩ := ((hmanifest _ _).rejects _).mpr ⟨_, hfinal, hrefuses, rfl⟩
      exact ⟨_, _, _, .manifest hopening hdone hurl hfault⟩

end App

end FormCatalog
