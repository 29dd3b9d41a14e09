import FormCatalog.Proofs.Catalog.Account
import FormCatalog.Proofs.Catalog.Batch
import FormCatalog.Proofs.Catalog.Frame
import FormCatalog.Proofs.Shelf.Containment
import FormCatalog.Proofs.Shelf.Stock

/-!
# A preview is what the pass does

A preview and a pass take the same snapshot, but the pass remembers keys while it does. Since what a
comparison finds is decided by the records as they were read at the start and by the rest of the
stock (`Reading.annotated`), the keys set on the way change nothing of the snapshot
(`ends_snapshot_of_publishes`), also where an id comes several times; and the records that a plan
deletes are of other forms than those compared (`Stock.planOf_compared`). So while the server
publishes the same catalog, any number of previews and the pass after them compute one and the same
plan (`Foretells`).
-/

set_option autoImplicit false
set_option relaxedAutoImplicit false

namespace FormCatalog

open Op Memory

namespace Reading

variable (reading : Reading) (manifestAt : String → Except Fault Manifest)

/-- The manifest of a listed form, or the fault that comes instead. -/
def manifestOf (d : Descriptor) : Except Fault (Option Manifest) :=
  match d.manifestAddress? with
  | none => .ok none
  | some url => some <$> manifestAt url

/-- The entry of a listed form, or the fault that comes instead. -/
def annotated (d : Descriptor) : Except Fault Details := do
  let manifest ← manifestOf manifestAt d
  let standing ← reading.standing d manifest
  return ⟨d, standing.notOnDevice, standing.updated, manifest⟩

/-- The entries of the list, in its order, or the first fault. -/
def snapshot (listed : Except Fault (List Descriptor)) : Except Fault (List Details) := do
  (← listed).mapM (reading.annotated manifestAt)

/-- What a pass would change, or the first fault. -/
def plan (listed : Except Fault (List Descriptor)) : Except Fault Plan :=
  (Plan.of · reading.records) <$> reading.snapshot manifestAt listed

end Reading

namespace Catalog

variable {σ ρ : Type} [Recording σ]

/-- In the states of an invariant the server publishes one catalog, and the calls of a snapshot keep
the invariant. -/
structure Publishes (catalog : Catalog σ) (listed : Except Fault (List Descriptor))
    (manifestAt : String → Except Fault Manifest) (inv : σ → Prop) : Prop
    extends catalog.Observes inv where
  lists : ∀ s, inv s → Ends catalog.server.formList s fun r _ ↦ r = listed
  answers : ∀ url s, inv s → Ends (catalog.server.manifest url) s fun r _ ↦ r = manifestAt url

section Publishing

variable {catalog : Catalog σ} {stock : σ → Stock ρ}
  {media : ρ → String → Option String → Except Fault (List MediaRecord)}
  {listed : Except Fault (List Descriptor)} {manifestAt : String → Except Fault Manifest}
  {inv : σ → Prop} {s : σ}

theorem Publishes.ends_manifestOf (h : catalog.Publishes listed manifestAt inv) (d : Descriptor)
    (hs : inv s) :
    Ends (catalog.manifestOf d) s fun r t ↦ r = Reading.manifestOf manifestAt d ∧ inv t := by
  unfold Reading.manifestOf
  cases haddress : d.manifestAddress? with
  | none =>
    rw [manifestOf_of_no_address haddress]
    exact ⟨rfl, hs⟩
  | some url =>
    rw [manifestOf_of_address haddress, ends_map]
    refine ((h.manifest url s hs).and (h.answers url s hs)).mono ?_
    rintro r t ⟨ht, rfl⟩
    dsimp only
    exact ⟨by cases manifestAt url <;> rfl, ht⟩

/-- The entry of a listed form is the one that the reading says, whether keys are remembered or
not. -/
theorem Publishes.ends_annotate (h : catalog.Publishes listed manifestAt inv)
    (hserver : catalog.server.Leaves stock) (hdevice : catalog.device.Stocks stock media)
    (read : List FormRecord) (remembering : Bool) (d : Descriptor) (hs : inv s) :
    Ends (catalog.annotate read remembering d) s fun r t ↦
      r = Reading.annotated ⟨read, media (stock s).rest⟩ manifestAt d ∧ inv t := by
  have hkeeps := h.keeps_annotate read remembering d s hs
  suffices hentry : Ends (catalog.annotate read remembering d) s fun r _ ↦
      r = Reading.annotated ⟨read, media (stock s).rest⟩ manifestAt d from hentry.and hkeeps
  unfold annotate Reading.annotated
  rw [ends_bind]
  refine ((h.ends_manifestOf d hs).and (ends_manifestOf_of_leaves hserver d s)).mono ?_
  rintro r t ⟨⟨rfl, ht⟩, hstock, -⟩
  cases Reading.manifestOf manifestAt d with
  | error e => exact rfl
  | ok manifest =>
    rw [Next, ends_bind]
    refine (hdevice.ends_compare read remembering d manifest t).mono ?_
    rintro r u ⟨rfl, -⟩
    rw [hstock]
    dsimp only [bind, Except.bind]
    cases Reading.standing ⟨read, media (stock s).rest⟩ d manifest <;> exact rfl

/-- A snapshot is the one that the reading says, whether keys are remembered or not. It leaves the
stock as comparing its entries does. -/
theorem Publishes.ends_snapshot (h : catalog.Publishes listed manifestAt inv)
    (hserver : catalog.server.Leaves stock) (hdevice : catalog.device.Stocks stock media)
    (remembering : Bool) (hs : inv s) :
    Ends (catalog.snapshot remembering) s fun r t ↦
      r = Reading.snapshot ⟨(stock s).records, media (stock s).rest⟩ manifestAt listed ∧ inv t ∧
        ∃ done, stock t = (stock s).compared remembering (stock s).records done ∧
          ∀ xs, r = .ok xs → xs = done := by
  unfold snapshot Reading.snapshot
  rw [ends_bind]
  refine (((h.formList s hs).and (h.lists s hs)).and (hserver.formList s)).mono ?_
  rintro r t ⟨⟨ht, rfl⟩, hstock⟩
  cases r with
  | error e => exact ⟨rfl, ht, [], by rw [hstock, Stock.compared_nil], fun _ hxs ↦ by cases hxs⟩
  | ok ds =>
    rw [Next, ends_bind]
    refine ((hdevice.records t).and (h.records t ht)).mono ?_
    rintro r u ⟨⟨rfl, hu⟩, hinv⟩
    rw [Next, ends_bind, ends_note, Next, hstock]
    -- The entries made so far are those of the part of the list that is done.
    refine ends_mapM (fun done xs v ↦
      done.mapM (Reading.annotated ⟨(stock s).records, media (stock s).rest⟩ manifestAt) = .ok xs ∧
        inv v ∧ stock v = (stock s).compared remembering (stock s).records xs) ?_ ?_ ?_
    · exact ⟨rfl, h.note _ _ hinv, by rw [hdevice.note, hu, hstock, Stock.compared_nil]⟩
    · rintro done d rest xs v hl ⟨hdone, hv, hcompared⟩
      have hrest : (stock v).rest = (stock s).rest := by rw [hcompared, Stock.rest_compared]
      have hentry := h.ends_annotate hserver hdevice (stock s).records remembering d hv
      rw [hrest] at hentry
      refine (hentry.and (ends_annotate_of_stocks hserver hdevice _ _ d v)).mono ?_
      rintro r w ⟨⟨rfl, hw⟩, hleft⟩
      cases hx : Reading.annotated ⟨(stock s).records, media (stock s).rest⟩ manifestAt d with
      | error e =>
        rw [hx] at hleft
        refine ⟨?_, hw, xs, hleft.1.trans hcompared, fun _ hxs ↦ by cases hxs⟩
        change _ = ds.mapM _
        rw [hl, List.mapM_append, List.mapM_cons, hdone, hx]
        rfl
      | ok x =>
        rw [hx] at hleft
        refine ⟨?_, hw, by rw [hleft.2.1, hcompared, Stock.compared_concat]⟩
        rw [List.mapM_append, List.mapM_cons, hdone, hx]
        rfl
    · rintro xs v ⟨hxs, hv, hcompared⟩
      exact ⟨hxs.symm, hv, xs, hcompared, fun _ h ↦ by cases h; rfl⟩

/-- Planning gives the plan that the reading says, whether keys are remembered or not. -/
theorem Publishes.ends_planWith (h : catalog.Publishes listed manifestAt inv)
    (hserver : catalog.server.Leaves stock) (hdevice : catalog.device.Stocks stock media)
    (remembering : Bool) (hs : inv s) :
    Ends (catalog.planWith remembering) s fun r t ↦
      r = Reading.plan ⟨(stock s).records, media (stock s).rest⟩ manifestAt listed ∧ inv t ∧
        (remembering = false → stock t = stock s) := by
  unfold planWith Reading.plan
  rw [ends_bind]
  refine (h.ends_snapshot hserver hdevice remembering hs).mono ?_
  rintro r t ⟨rfl, ht, done, hstock, hdone⟩
  have hsame : remembering = false → stock t = stock s := by
    rintro rfl
    exact hstock
  cases hxs : Reading.snapshot ⟨(stock s).records, media (stock s).rest⟩ manifestAt listed with
  | error e => exact ⟨rfl, ht, hsame⟩
  | ok xs =>
    obtain rfl := hdone xs hxs
    rw [Next, ends_bind]
    refine ((hdevice.records t).and (h.records t ht)).mono ?_
    rintro r u ⟨⟨rfl, hu⟩, hinv⟩
    rw [Next, ends_pure, hstock, Stock.planOf_compared, hu]
    exact ⟨rfl, hinv, hsame⟩

/-! ### Previews, and the pass after them -/

/-- The pass from a state computes the plan, with keys remembered up to another state, and carries
it out: every deletion and then, when the deletions have come through, one attempt at every
download; it returns the plan if none of them failed. -/
structure Performs (catalog : Catalog σ) (plan : Plan) (s t : σ) : Prop where
  planned : catalog.planWith true s = .ok plan t
  stopped : ∀ e u, plan.toDelete.forM catalog.delete t = .error e u →
    catalog.synchronize s = .error e u
  deleted : ∀ u, plan.toDelete.forM catalog.delete t = .ok ⟨⟩ u →
    Ends catalog.synchronize s fun r _ ↦
      catalog.Completes u plan r ∨ ∃ e, r = .error e ∧ catalog.BreaksOff u plan.toDownload e

theorem performs_of_planWith {plan : Plan} {t : σ} (h : catalog.planWith true s = .ok plan t) :
    catalog.Performs plan s t where
  planned := h
  stopped e u hdelete := by
    unfold synchronize
    rw [bind_of_ok h]
    exact bind_eq_error (bind_eq_error hdelete)
  deleted _ hdelete := ends_synchronize_of_deleted h hdelete

/-- A preview from a state changes nothing of the stock, and what it returns is what any number of
further previews return and what the pass after them performs. -/
def Foretells (catalog : Catalog σ) (stock : σ → Stock ρ) (s : σ) : Prop :=
  Ends catalog.preview s fun r t ↦ stock t = stock s ∧
    ∀ plan, r = .ok plan → ∀ n,
      Returns ((List.replicate n ()).mapM fun _ ↦ catalog.preview) t fun plans u ↦
        plans = List.replicate n plan ∧ stock u = stock s ∧ ∃ v, catalog.Performs plan u v

theorem Publishes.foretells (h : catalog.Publishes listed manifestAt inv)
    (hserver : catalog.server.Leaves stock) (hdevice : catalog.device.Stocks stock media)
    (hs : inv s) : catalog.Foretells stock s := by
  refine (h.ends_planWith hserver hdevice false hs).mono ?_
  rintro r t ⟨rfl, ht, hstock⟩
  refine ⟨hstock rfl, fun plan hplan n ↦ Ends.returns (a := List.replicate n plan) ?_⟩
  refine ends_mapM (fun done plans u ↦ plans = List.replicate done.length plan ∧
    stock u = stock s ∧ inv u) ⟨rfl, hstock rfl, ht⟩ ?_ ?_
  · rintro done _ rest plans u - ⟨rfl, hu, hinv⟩
    refine (h.ends_planWith hserver hdevice false hinv).mono ?_
    rintro r v ⟨rfl, hv, hsame⟩
    rw [hu, hplan]
    refine ⟨?_, (hsame rfl).trans hu, hv⟩
    rw [List.length_append, List.length_singleton, List.replicate_succ']
  · rintro plans u ⟨rfl, hu, hinv⟩
    refine ⟨by rw [List.length_replicate], rfl, hu, ?_⟩
    have hpass := h.ends_planWith hserver hdevice true hinv
    rw [hu, hplan] at hpass
    obtain ⟨_, v, hv, hr, -⟩ | ⟨_, v, -, hr, -⟩ := hpass.cases
    · cases hr
      exact ⟨v, performs_of_planWith hv⟩
    · cases hr

end Publishing

end Catalog

/-! ### The two stores -/

namespace Memory.Rehearsal

theorem publishes (r : Rehearsal) :
    catalog.Publishes r.outlook.listed r.outlook.manifestAt fun t ↦
      t.outlook.listed = r.outlook.listed ∧ t.outlook.manifestAt = r.outlook.manifestAt where
  formList t ht := by
    rw [ends_formList]
    exact ht
  manifest url t ht := by
    rw [ends_manifest]
    exact ht
  records _ ht := ht
  mediaFiles _ _ _ ht := ht
  remember _ _ _ ht := ht
  note _ _ ht := ht
  lists t ht := by
    rw [ends_formList]
    exact ht.1
  answers url t ht := by
    rw [ends_manifest, ht.2]

/-- What a device in memory is asked when a pass performs a plan: the deletions of the plan, and
then its downloads. -/
theorem changes_of_performs {plan : Plan} {r r₁ : Rehearsal} (h : catalog.Performs plan r r₁) :
    Ends catalog.synchronize r fun res u ↦
      u.holdings.changes = (plan.toDelete.map (fun record ↦ Change.delete record.formId) ++
          plan.toDownload.map r.holdings.attempted).reverse ++ r.holdings.changes ∧
        (r.holdings.failures plan = [] → res = .ok plan) := by
  have hfetched := fetched_of_planWith h.planned
  refine (ends_synchronize h.planned).mono ?_
  rintro res u ⟨-, hholdings, rfl⟩
  have hfailures : r₁.holdings.failures plan = r.holdings.failures plan := hfetched.failures_eq
  exact ⟨by rw [hholdings, hfetched.changes_carry], fun hnone ↦ by rw [hfailures, if_pos hnone]⟩

end Memory.Rehearsal

theorem Archive.publishes (forms : FormsDirectory) (p : Published) :
    (Archive.catalog forms).Publishes p.listAnswer p.manifestAnswer fun s ↦
      s.net.published.listAnswer = p.listAnswer ∧
        s.net.published.manifestAnswer = p.manifestAnswer where
  formList s hs := by
    unfold Archive.catalog Archive.behind
    rw [ends_within, ends_within, Published.ends_formList]
    exact hs
  manifest url s hs := by
    unfold Archive.catalog Archive.behind
    rw [ends_within, ends_within, Published.ends_manifest]
    exact hs
  records s hs := by
    change Ends Shelf.records s _
    unfold Shelf.records
    rw [ends_bind, ends_get, Next, ends_pure]
    exact hs
  mediaFiles id version s hs := by
    refine (Shelf.ends_mediaFiles id version s).mono ?_
    rintro _ _ ⟨-, rfl⟩
    exact hs
  remember _ _ _ hs := hs
  note _ _ hs := hs
  lists s hs := by
    unfold Archive.catalog Archive.behind
    rw [ends_within, ends_within, Published.ends_formList]
    exact hs.1
  answers url s hs := by
    unfold Archive.catalog Archive.behind
    rw [ends_within, ends_within, Published.ends_manifest, hs.2]

/-- On a device in memory and on the shelf, whatever they hold and whatever the server publishes, a
preview tells what the pass after it does. A device in memory is then asked for the deletions of the
plan and for its downloads, and for nothing else. -/
theorem foretells_preview (r : Rehearsal) (forms : FormsDirectory) (s : Site Archive) :
    Rehearsal.catalog.Foretells Rehearsal.stock r ∧
      (Archive.catalog forms).Foretells Shelf.stock s ∧
      ∀ plan u v, Rehearsal.catalog.Performs plan u v →
        Ends Rehearsal.catalog.synchronize u fun res w ↦
          w.holdings.changes = (plan.toDelete.map (fun record ↦ Change.delete record.formId) ++
              plan.toDownload.map u.holdings.attempted).reverse ++ u.holdings.changes ∧
            (u.holdings.failures plan = [] → res = .ok plan) :=
  ⟨(Rehearsal.publishes r).foretells Rehearsal.server_leaves_stock Rehearsal.device_stocks
      ⟨rfl, rfl⟩,
    (Archive.publishes forms s.net.published).foretells (Shelf.archive_leaves_stock forms)
      (Shelf.device_stocks Archive.source forms) ⟨rfl, rfl⟩,
    fun _ _ _ h ↦ Rehearsal.changes_of_performs h⟩

theorem foretells_preview_stuttering :
    Rehearsal.catalog.Foretells Rehearsal.stock Rehearsal.stuttering ∧
      (Archive.catalog Shelf.besideWork).Foretells Shelf.stock Shelf.listing ∧
      Returns Rehearsal.catalog.preview Rehearsal.stuttering fun plan _ ↦
        ∃ u v, Rehearsal.catalog.Performs plan u v ∧
          Ends Rehearsal.catalog.synchronize u fun res w ↦
            w.holdings.changes = (plan.toDelete.map (fun record ↦ Change.delete record.formId) ++
                plan.toDownload.map u.holdings.attempted).reverse ++ u.holdings.changes ∧
              (u.holdings.failures plan = [] → res = .ok plan) := by
  obtain ⟨hmemory, hshelf, hchanges⟩ :=
    foretells_preview Rehearsal.stuttering Shelf.besideWork Shelf.listing
  obtain ⟨plan, t, hpreview, -⟩ : Returns Rehearsal.catalog.preview Rehearsal.stuttering
      fun _ _ ↦ True := by decide +kernel
  obtain ⟨-, hagain⟩ := hmemory.of_ok hpreview
  obtain ⟨_, u, -, -, -, v, hperforms⟩ := hagain plan rfl 2
  exact ⟨hmemory, hshelf, plan, t, hpreview, u, v, hperforms, hchanges plan u v hperforms⟩

/-- A download that ends in a fault that is not the fault of a download breaks off the pass that the
preview told of: of the two forms that it lists, the second is never attempted. -/
theorem foretold_pass_breaks_off :
    Returns (Archive.catalog Shelf.besideWork).preview Shelf.nullListing fun plan t ↦
      plan.toDownload.map (·.formId) = ["a", "b"] ∧ plan.toDelete = [] ∧
        Raises (Archive.catalog Shelf.besideWork).synchronize t fun e u ↦
          e = .invalid "embedded null byte" ∧ u.net.requests = ["u"] ∧ u.table = [] := by
  decide +kernel

end FormCatalog
