import FormCatalog.Proofs.Catalog.Frame
import FormCatalog.Proofs.Shelf.Stock

/-!
# A fetch that breaks off

A fetch breaks off at the first fault of the server: the list itself fails, or the manifest of a
listed form does after some entries were made (`Catalog.Aborts`). The pass or the preview then ends
in that very fault and in the state in which the server ended, so nothing more is asked for, and
what deleting or downloading would do does not matter. The device still has what it had. A preview
leaves every remembered key as well; a pass has remembered the keys of the entries made before the
fault, as `Stock.reseen` says (`AbortsCleanly`).

This holds for every device whose calls do to its stock what `Device.Stocks` says, whatever the
server does behind it; `abortsCleanly` has both the device in memory and the shelf.
-/

set_option autoImplicit false
set_option relaxedAutoImplicit false

namespace FormCatalog

open Op Memory Number

namespace Catalog

variable {σ ρ : Type} [Recording σ]

/-! ### How a snapshot goes on -/

/-- How a snapshot begins: the server's list, and the records as they are read once and for all. -/
def opening (catalog : Catalog σ) : Op σ (List Descriptor × List FormRecord) := do
  let listed ← catalog.server.formList
  let records ← catalog.device.records
  Op.note .debug .snapshot ("Server lists " ++ textOfNat listed.length
    ++ " form(s), device has " ++ textOfNat (countForms records))
  pure (listed, records)

/-- From a state, these entries were made one after the other, and a state was left. -/
inductive Annotates (catalog : Catalog σ) (read : List FormRecord) (remembering : Bool) (s : σ) :
    List Details → σ → Prop
  | none : Annotates catalog read remembering s [] s
  | next {done : List Details} {t u : σ} {x : Details}
      (h : Annotates catalog read remembering s done t)
      (hx : catalog.annotate read remembering x.descriptor t = .ok x u) :
      Annotates catalog read remembering s (done ++ [x]) u

/-- A fetch from a state broke off at the first fault of the server, which left a state: the fault
of the list itself, or of the manifest of a listed form, the entries before it having been made. -/
inductive Aborts (catalog : Catalog σ) (remembering : Bool) (s : σ) :
    List Details → Option Descriptor → Fault → σ → Prop
  | list {e : Fault} {t : σ} (h : catalog.server.formList s = .error e t) :
      Aborts catalog remembering s [] none e t
  | manifest {done : List Details} {d : Descriptor} {later : List Descriptor}
      {read : List FormRecord} {url : String} {e : Fault} {u v t : σ}
      (hopening : catalog.opening s = .ok (done.map (·.descriptor) ++ d :: later, read) u)
      (hdone : Annotates catalog read remembering u done v)
      (hurl : d.manifestAddress? = some url) (hfault : catalog.server.manifest url v = .error e t) :
      Aborts catalog remembering s done (some d) e t

variable {catalog : Catalog σ} {read : List FormRecord} {remembering : Bool} {s t u : σ}
  {done : List Details} {e : Fault}

theorem snapshot_eq_opening (catalog : Catalog σ) (remembering : Bool) :
    catalog.snapshot remembering =
      catalog.opening >>= fun opened ↦ opened.1.mapM (catalog.annotate opened.2 remembering) := by
  unfold snapshot opening
  simp only [bind_assoc, pure_bind]

/-- The entries that were made are the beginning of what the loop over the list gives. -/
theorem Annotates.mapM_eq (h : Annotates catalog read remembering s done t)
    (rest : List Descriptor) :
    (done.map (·.descriptor) ++ rest).mapM (catalog.annotate read remembering) s =
      ((done ++ ·) <$> rest.mapM (catalog.annotate read remembering)) t := by
  induction h generalizing rest with
  | none => simp
  | @next done t u x _ hx ih =>
    have hcons : (x.descriptor :: rest).mapM (catalog.annotate read remembering) t =
        ((x :: ·) <$> rest.mapM (catalog.annotate read remembering)) u := by
      rw [List.mapM_cons, bind_of_ok hx, map_eq_pure_bind]
    rw [List.map_append, List.append_assoc, List.map_singleton, List.singleton_append, ih,
      map_congr_run hcons, ← comp_map]
    simp only [Function.comp_def, List.append_assoc, List.singleton_append]

/-- A fetch that broke off ends in the fault of the server, where the server ended. -/
theorem Aborts.snapshot_eq {failing : Option Descriptor}
    (h : catalog.Aborts remembering s done failing e t) :
    catalog.snapshot remembering s = .error e t := by
  cases h with
  | list h => exact bind_eq_error h
  | @manifest _ d later read url _ u v _ hopening hdone hurl hfault =>
    have hmanifest : catalog.manifestOf d v = .error e t := by
      rw [manifestOf_of_address hurl]
      exact map_eq_error_iff.mpr hfault
    have hrest : (d :: later).mapM (catalog.annotate read remembering) v = .error e t := by
      rw [List.mapM_cons]
      exact bind_eq_error (bind_eq_error hmanifest)
    rw [snapshot_eq_opening, bind_of_ok hopening, hdone.mapM_eq]
    exact map_eq_error_iff.mpr hrest

theorem Aborts.planWith_eq {failing : Option Descriptor}
    (h : catalog.Aborts remembering s done failing e t) :
    catalog.planWith remembering s = .error e t :=
  bind_eq_error h.snapshot_eq

/-! ### What the device still has -/

section Stocks

variable {stock : σ → Stock ρ}
  {media : ρ → String → Option String → Except Fault (List MediaRecord)}

theorem ends_opening (hserver : catalog.server.Leaves stock)
    (hdevice : catalog.device.Stocks stock media) (s : σ) :
    Ends catalog.opening s fun r t ↦ stock t = stock s ∧
      match r with
      | .ok opened => opened.2 = (stock s).records
      | .error e => catalog.server.formList s = .error e t := by
  unfold opening
  rw [ends_bind]
  cases hlist : catalog.server.formList s with
  | error e t =>
    rw [ends_iff_of_error hlist]
    exact ⟨(hserver.formList s).of_error hlist, rfl⟩
  | ok listed t =>
    have ht : stock t = stock s := (hserver.formList s).of_ok hlist
    rw [ends_iff_of_ok hlist, Next, ends_bind]
    refine (hdevice.records t).mono ?_
    rintro r u ⟨rfl, hu⟩
    rw [Next, ends_bind, ends_note, Next, ends_pure]
    exact ⟨by rw [hdevice.note, hu, ht], by rw [ht]⟩

/-- The entries that were made leave the stock as comparing them does. -/
theorem Annotates.stock_eq (hserver : catalog.server.Leaves stock)
    (hdevice : catalog.device.Stocks stock media)
    (h : Annotates catalog read remembering s done t) :
    stock t = (stock s).compared remembering read done := by
  induction h with
  | none => simp
  | next _ hx ih =>
    obtain ⟨-, hstock, -⟩ :=
      (ends_annotate_of_stocks hserver hdevice read remembering _ _).of_ok hx
    rw [hstock, ih, Stock.compared_concat]

/-- A fetch that broke off leaves the stock as comparing the entries made before the fault does. -/
theorem Aborts.stock_eq (hserver : catalog.server.Leaves stock)
    (hdevice : catalog.device.Stocks stock media) {failing : Option Descriptor}
    (h : catalog.Aborts remembering s done failing e t) :
    stock t = (stock s).compared remembering (stock s).records done := by
  cases h with
  | list h =>
    rw [(hserver.formList s).of_error h]
    simp
  | @manifest _ d later read url _ u v _ hopening hdone hurl hfault =>
    obtain ⟨hu, rfl⟩ := (ends_opening hserver hdevice s).of_ok hopening
    rw [(hserver.manifest url v).of_error hfault, hdone.stock_eq hserver hdevice, hu]

/-- A fetch that ends in a fault broke off at a fault of the server, unless the device could not
read its media files. -/
theorem aborts_of_snapshot_eq (hserver : catalog.server.Leaves stock)
    (hdevice : catalog.device.Stocks stock media)
    (h : catalog.snapshot remembering s = .error e t) :
    (∃ done failing, catalog.Aborts remembering s done failing e t) ∨
      ∃ id version u, catalog.device.mediaFiles id version u = .error e t := by
  cases hopening : catalog.opening s with
  | error e' t' =>
    have hlist := ((ends_opening hserver hdevice s).of_error hopening).2
    rw [snapshot_eq_opening, bind_eq_error hopening] at h
    cases h
    exact Or.inl ⟨[], none, .list hlist⟩
  | ok opened u =>
    obtain ⟨listed, read⟩ := opened
    rw [snapshot_eq_opening, bind_of_ok hopening] at h
    have hloop : Ends (listed.mapM (catalog.annotate read remembering)) u fun r t ↦
        ∀ e, r = .error e → (∃ done failing, catalog.Aborts remembering s done failing e t) ∨
          ∃ id version u, catalog.device.mediaFiles id version u = .error e t := by
      -- The entries made so far are the part of the list that is done.
      refine ends_mapM (fun done xs t ↦ done = xs.map (·.descriptor) ∧
        Annotates catalog read remembering u xs t) ⟨rfl, .none⟩ ?_ fun _ _ _ _ he ↦ by cases he
      rintro _ d later xs v rfl ⟨rfl, hxs⟩
      have hentry := ends_annotate_of_stocks hserver hdevice read remembering d v
      cases hx : catalog.annotate read remembering d v with
      | ok x w =>
        rw [ends_iff_of_ok hx]
        obtain ⟨hd, -⟩ := hentry.of_ok hx
        rw [← hd] at hx
        exact ⟨by rw [List.map_append, List.map_singleton, hd], hxs.next hx⟩
      | error e w =>
        rw [ends_iff_of_error hx]
        rintro _ ⟨⟩
        obtain ⟨-, ⟨url, hurl, hfault⟩ | hmedia⟩ := hentry.of_error hx
        · exact Or.inl ⟨xs, some d, .manifest hopening hxs hurl hfault⟩
        · exact Or.inr hmedia
    exact hloop.of_error h e rfl

end Stocks

/-! ### What the server was asked for -/

/-- A log of the addresses asked for, the last one first: asking for a manifest adds its address,
and no other call of a snapshot changes the log. -/
structure Logs (catalog : Catalog σ) (asked : σ → List String) : Prop where
  formList : ∀ l, Keeps (asked · = l) catalog.server.formList
  manifest : ∀ url s, Ends (catalog.server.manifest url) s fun _ t ↦ asked t = url :: asked s
  records : ∀ l, Keeps (asked · = l) catalog.device.records
  mediaFiles : ∀ id version l, Keeps (asked · = l) (catalog.device.mediaFiles id version)
  remember : ∀ id key l, Keeps (asked · = l) (catalog.device.remember id key)
  note : ∀ e s, asked (Recording.record e s) = asked s

section Logs

variable {asked : σ → List String}

theorem Logs.keeps_opening (h : catalog.Logs asked) (l : List String) :
    Keeps (asked · = l) catalog.opening :=
  (h.formList l).bind fun _ ↦ (h.records l).bind fun _ ↦
    Keeps.bind (fun s hs ↦ (h.note _ s).trans hs) fun _ ↦ keeps_pure

/-- Making the entry of a listed form asks for its manifest, if it has one. -/
theorem Logs.ends_annotate (h : catalog.Logs asked) (d : Descriptor) (s : σ) :
    Ends (catalog.annotate read remembering d) s fun _ t ↦
      asked t = d.manifestAddress?.toList ++ asked s := by
  have hmanifest : Ends (catalog.manifestOf d) s fun _ t ↦
      asked t = d.manifestAddress?.toList ++ asked s := by
    cases haddress : d.manifestAddress? with
    | none =>
      rw [manifestOf_of_no_address haddress]
      exact rfl
    | some url =>
      rw [manifestOf_of_address haddress, ends_map]
      exact h.manifest url s
  unfold annotate
  rw [ends_bind]
  refine hmanifest.mono fun r u hu ↦ ?_
  cases r with
  | error e => exact hu
  | ok manifest =>
    have hcompare : Keeps (asked · = asked u)
        (catalog.device.compare d manifest (recordOf? read d.formId) remembering) :=
      Device.keeps_compare (fun id version ↦ h.mediaFiles id version _)
        (fun id key ↦ h.remember id key _) (fun e s hs ↦ (h.note e s).trans hs) _ _ _ _
    rw [← hu]
    exact (hcompare.bind fun _ ↦ keeps_pure) u rfl

theorem Annotates.asked_eq (hlogs : catalog.Logs asked)
    (h : Annotates catalog read remembering s done t) :
    asked t = (done.filterMap (·.descriptor.manifestAddress?)).reverse ++ asked s := by
  induction h with
  | none => rfl
  | @next done t u x _ hx ih =>
    rw [(hlogs.ends_annotate x.descriptor t).of_ok hx, ih, List.filterMap_append,
      List.reverse_append, List.append_assoc]
    cases hurl : x.descriptor.manifestAddress? <;> simp [hurl]

/-- A fetch that broke off asked for the manifests up to the one that did not come. -/
theorem Aborts.asked_eq (hlogs : catalog.Logs asked) {failing : Option Descriptor}
    (h : catalog.Aborts remembering s done failing e t) :
    asked t = ((done.map (·.descriptor) ++ failing.toList).filterMap
      (·.manifestAddress?)).reverse ++ asked s := by
  cases h with
  | list h => exact (hlogs.formList _ s rfl).of_error h
  | @manifest _ d later read url _ u v _ hopening hdone hurl hfault =>
    have hu : asked u = asked s := (hlogs.keeps_opening _ s rfl).of_ok hopening
    rw [(hlogs.manifest url v).of_error hfault, hdone.asked_eq hlogs, hu, List.filterMap_append,
      List.filterMap_map, List.reverse_append]
    simp [hurl]

end Logs

/-- A server in memory keeps such a log. -/
theorem logs_rehearsal : Rehearsal.catalog.Logs fun r ↦ r.published.manifestCalls where
  formList _ r hr := by
    rw [Rehearsal.ends_formList]
    exact hr
  manifest url r := by
    rw [Rehearsal.ends_manifest]
  records _ _ hr := hr
  mediaFiles _ _ _ _ hr := hr
  remember _ _ _ _ hr := hr
  note _ _ := rfl

/-- A server behind the network keeps such a log, since the shelf leaves the network alone. -/
theorem logs_archive (forms : FormsDirectory) :
    (Archive.catalog forms).Logs fun s ↦ s.net.published.manifestCalls where
  formList _ s hs := by
    unfold Archive.catalog Archive.behind
    rw [ends_within, ends_within, Published.ends_formList]
    exact hs
  manifest url s := by
    unfold Archive.catalog Archive.behind
    rw [ends_within, ends_within, Published.ends_manifest]
  records _ _ hs := hs
  mediaFiles id version _ s hs := by
    refine (Shelf.ends_mediaFiles id version s).mono ?_
    rintro _ _ ⟨-, rfl⟩
    exact hs
  remember _ _ _ _ hs := hs
  note _ _ := rfl

/-! ### What a fetch that broke off may have touched -/

/-- The catalog with other deletions and downloads. -/
def withChanges (catalog : Catalog σ) (delete : String → Op σ Unit)
    (download : Details → Op σ Unit) : Catalog σ :=
  { catalog with device := { catalog.device with delete := delete, download := download } }

/-- What a fetch that broke off may have touched. -/
structure AbortsCleanly (catalog : Catalog σ) (stock : σ → Stock ρ) : Prop where
  /-- A fetch that ends in a fault broke off at a fault of the server, or the device could not read
  its media files. -/
  aborts : ∀ {remembering s e t}, catalog.snapshot remembering s = .error e t →
    (∃ done failing, catalog.Aborts remembering s done failing e t) ∨
      ∃ id version u, catalog.device.mediaFiles id version u = .error e t
  /-- A preview ends in the server's fault, where the server ended, and has changed nothing. -/
  preview : ∀ {s done failing e t}, catalog.Aborts false s done failing e t →
    catalog.preview s = .error e t ∧ stock t = stock s
  /-- A pass ends in the server's fault, where the server ended, whatever deleting and downloading
  would do. It has remembered the keys of the entries made before the fault, and changed nothing
  else. -/
  synchronize : ∀ {s done failing e t}, catalog.Aborts true s done failing e t →
    (∀ delete download, (catalog.withChanges delete download).synchronize s = .error e t) ∧
      (stock t).rest = (stock s).rest ∧
      (stock t).records = (stock s).records.map (Stock.reseen (stock s).records done)
  /-- No manifest was asked for after the one that did not come. -/
  requests : ∀ {asked}, catalog.Logs asked → ∀ {remembering s done failing e t},
    catalog.Aborts remembering s done failing e t →
      asked t = ((done.map (·.descriptor) ++ failing.toList).filterMap
        (·.manifestAddress?)).reverse ++ asked s

theorem abortsCleanly_of_stocks {stock : σ → Stock ρ}
    {media : ρ → String → Option String → Except Fault (List MediaRecord)}
    (hserver : catalog.server.Leaves stock) (hdevice : catalog.device.Stocks stock media) :
    catalog.AbortsCleanly stock where
  aborts h := aborts_of_snapshot_eq hserver hdevice h
  preview h := ⟨h.planWith_eq, by simpa using h.stock_eq hserver hdevice⟩
  synchronize {s done failing e t} h := by
    have hstock := h.stock_eq hserver hdevice
    rw [Stock.compared_true] at hstock
    refine ⟨fun delete download ↦ ?_, by rw [hstock], by rw [hstock]⟩
    have hplan : (catalog.withChanges delete download).planWith true s = .error e t := h.planWith_eq
    exact bind_eq_error hplan
  requests hlogs _ _ _ _ _ _ h := h.asked_eq hlogs

/-- A fetch that breaks off leaves a device in memory and the shelf as `AbortsCleanly` says,
whatever the server does, as long as it leaves the device alone. -/
theorem abortsCleanly {N : Type} {server : Server Rehearsal} {remote : Server (Site N)}
    (hserver : server.Leaves Rehearsal.stock) (hremote : remote.Leaves Shelf.stock)
    (source : Source N) (forms : FormsDirectory) :
    AbortsCleanly ⟨server, Rehearsal.catalog.device⟩ Rehearsal.stock ∧
      AbortsCleanly ⟨remote, Shelf.device source forms⟩ Shelf.stock :=
  ⟨abortsCleanly_of_stocks hserver Rehearsal.device_stocks,
    abortsCleanly_of_stocks hremote (Shelf.device_stocks source forms)⟩

/-- A listed form whose manifest the server does not have. -/
def unreached : Descriptor :=
  { formId := "c", contentHash := "md5:c", manifestUrl := some "c.json" }

/-- A list with an id that comes twice before that form. -/
def interrupted : Rehearsal where
  published :=
    { forms :=
        [ { formId := "a", contentHash := "md5:1", version := some "1" },
          { formId := "b", contentHash := "md5:b" },
          { formId := "a", contentHash := "md5:2", version := some "2" },
          unreached,
          { formId := "b", contentHash := "md5:b2" } ] }
  holdings :=
    { records :=
        [ { formId := "gone", contentHash := "g" },
          { formId := "a", contentHash := "1" } ] }

/-- The entries that a fetch of that list makes. -/
def interruptedEntries : List Details :=
  [ ⟨{ formId := "a", contentHash := "md5:1", version := some "1" }, false, false, none⟩,
    ⟨{ formId := "b", contentHash := "md5:b" }, true, false, none⟩,
    ⟨{ formId := "a", contentHash := "md5:2", version := some "2" }, false, true, none⟩ ]

theorem abortsCleanly_interrupted :
    (Rehearsal.catalog.server.Leaves Rehearsal.stock ∧
      (Archive.catalog ⟨Path.ofText "forms"⟩).server.Leaves Shelf.stock) ∧
      AbortsCleanly Rehearsal.catalog Rehearsal.stock ∧
      AbortsCleanly (Archive.catalog ⟨Path.ofText "forms"⟩) Shelf.stock ∧
      (Rehearsal.catalog.Logs (fun r ↦ r.published.manifestCalls) ∧
        (Archive.catalog ⟨Path.ofText "forms"⟩).Logs fun s ↦ s.net.published.manifestCalls) ∧
      ∃ t, Aborts Rehearsal.catalog true interrupted interruptedEntries (some unreached)
        (.missingKey "c.json") t ∧ t.published.manifestCalls = ["c.json"] := by
  have hserver : Rehearsal.catalog.server.Leaves Rehearsal.stock := Rehearsal.server_leaves_stock
  have hremote := Shelf.archive_leaves_stock ⟨Path.ofText "forms"⟩
  have hclean := abortsCleanly hserver hremote Archive.source ⟨Path.ofText "forms"⟩
  have hopening : Rehearsal.catalog.opening interrupted =
      .ok (interruptedEntries.map (·.descriptor) ++
        unreached :: [{ formId := "b", contentHash := "md5:b2" }], interrupted.holdings.records)
        (Rehearsal.catalog.opening.after interrupted) := rfl
  have haborts : Aborts Rehearsal.catalog true interrupted interruptedEntries (some unreached)
      (.missingKey "c.json") ((Rehearsal.catalog.snapshot true).after interrupted) :=
    .manifest hopening (.next (.next (.next .none rfl) rfl) rfl) rfl rfl
  exact ⟨⟨hserver, hremote⟩, hclean.1, hclean.2, ⟨logs_rehearsal, logs_archive _⟩, _, haborts,
    hclean.1.requests logs_rehearsal haborts⟩

end Catalog

end FormCatalog
