import FormCatalog.Proofs.Catalog.Abort
import FormCatalog.Proofs.Catalog.Batch
import FormCatalog.Proofs.Catalog.Lockstep
import FormCatalog.Proofs.Shelf.Containment

/-!
# Where the fault of a pass comes from

A pass that failed met one of five things (`Catalog.Fails`): the server ended the fetch, the device
could not read its media files, a form could not be deleted, a download ended in a fault that is not
the fault of a download, or some downloads failed and were collected. Of these the shelf contributes
no fault of synchronisation (`Op.NeverSync`): trouble with its files is a fault of the disk, and a
fault of synchronisation in the source of a download becomes the failed download of the form
(`Shelf.neverSync_download`). So on the shelf a fault of synchronisation is either the server's own,
met while the catalog was fetched, or the one fault that collects the failed downloads
(`Shelf.fetched_or_collected`); in particular credentials that were refused to a download are never
reported as refused credentials.
-/

set_option autoImplicit false
set_option relaxedAutoImplicit false

namespace FormCatalog

open Op

namespace Catalog

variable {σ ρ : Type} [Recording σ]

/-- How a pass from a state came to fail. -/
inductive Fails (catalog : Catalog σ) (s : σ) : Fault → Prop
  | fetch {done : List Details} {failing : Option Descriptor} {e : Fault} {t : σ}
      (h : catalog.Aborts true s done failing e t) : Fails catalog s e
  | mediaFiles {id : String} {version : Option String} {e : Fault} {u t : σ}
      (h : catalog.device.mediaFiles id version u = .error e t) : Fails catalog s e
  | delete {id : String} {e : Fault} {u t : σ} (h : catalog.device.delete id u = .error e t) :
      Fails catalog s e
  | download {x : Details} {e : Fault} {u t : σ} (h : catalog.device.download x u = .error e t)
      (hother : ∀ formId message, e ≠ .download formId message) : Fails catalog s e
  | collected {plan : Plan} {failed : List String} {u t : σ}
      (hplan : catalog.planWith true s = .ok plan u)
      (hcarried : CarriesOut catalog plan u failed t) (hfailed : failed ≠ []) :
      Fails catalog s (.sync (.incomplete "" failed))

variable {catalog : Catalog σ} {stock : σ → Stock ρ}
  {media : ρ → String → Option String → Except Fault (List MediaRecord)} {s t : σ} {e : Fault}

theorem fails_of_planWith (hserver : catalog.server.Leaves stock)
    (hdevice : catalog.device.Stocks stock media) (h : catalog.planWith true s = .error e t) :
    catalog.Fails s e := by
  have hsnapshot : (catalog.snapshot true).outcome s = .error e :=
    (outcome_planWith_eq_error_iff hdevice true).mp (outcome_of_error h)
  rcases aborts_of_snapshot_eq hserver hdevice (eq_error_of_outcome hsnapshot) with
    ⟨_, _, habort⟩ | ⟨_, _, _, hmedia⟩
  · exact .fetch habort
  · exact .mediaFiles hmedia

theorem fails_of_carryOut {plan : Plan} {u : σ} (hplan : catalog.planWith true s = .ok plan u)
    (h : catalog.carryOut plan u = .error e t) : catalog.Fails s e := by
  rcases forM_cases catalog.delete plan.toDelete u with
    ⟨v, hdeleted⟩ | ⟨done, record, later, e', v, w, hl, hdone, hrecord⟩
  · rcases (catalog.ends_carryOut_of_deleted hdeleted).of_error h with
      ⟨failed, hfailed, hattempts, rfl⟩ | ⟨_, _, _, _, _, _, -, -, hx, hother⟩
    · exact .collected hplan ⟨v, hdeleted, hattempts⟩ hfailed
    · exact .download hx hother
  · have hstopped : plan.toDelete.forM catalog.delete u = .error e' w := by
      rw [hl]
      exact forM_eq_error hdone hrecord
    have hcarry : catalog.carryOut plan u = .error e' w := bind_eq_error hstopped
    cases hcarry.symm.trans h
    obtain hnote | ⟨_, v', -, hdelete⟩ := bind_eq_error_cases hrecord
    · cases hnote
    · exact .delete hdelete

/-- Every fault of a pass is accounted for. -/
theorem fails_of_synchronize (hserver : catalog.server.Leaves stock)
    (hdevice : catalog.device.Stocks stock media) (h : catalog.synchronize s = .error e t) :
    catalog.Fails s e := by
  obtain hplan | ⟨plan, u, hplan, h⟩ := bind_eq_error_cases h
  · exact fails_of_planWith hserver hdevice hplan
  · obtain hcarry | ⟨_, _, -, hpure⟩ := bind_eq_error_cases h
    · exact fails_of_carryOut hplan hcarry
    · cases hpure

end Catalog

/-! ### The shelf raises no fault of synchronisation -/

variable {N : Type}

theorem Disk.removeEntry_not_isSync {d : Disk} {p : Path} {e : Fault}
    (h : d.removeEntry p = .error e) : ¬ e.IsSync := by
  rintro ⟨f, rfl⟩
  unfold removeEntry at h
  split at h
  · cases h
  · split at h <;> cases h

theorem Disk.removeTree_not_isSync {d : Disk} {p : Path} {e : Fault}
    (h : d.removeTree p = .error e) : ¬ e.IsSync := by
  rintro ⟨f, rfl⟩
  unfold removeTree at h
  split at h
  · cases h
  · split at h <;> cases h

/-- Whatever a download ended in, as its own fault it is none of synchronisation. -/
theorem Download.failure_not_isSync (formId : String) (e : Fault) :
    ¬ (failure formId e).IsSync := by
  rintro ⟨f, hf⟩
  cases e <;> cases hf

/-- The program ends in no fault of synchronisation. -/
def Op.NeverSync {σ α : Type} (x : Op σ α) : Prop :=
  Guards (fun _ ↦ True) (fun e ↦ ¬ e.IsSync) x

theorem Site.neverSync_change {f : Disk → Except Fault Disk}
    (h : ∀ d e, f d = .error e → ¬ e.IsSync) : NeverSync (Site.change f : Op (Site N) Unit) :=
  (Download.guards_ask h).bind fun _ _ _ ↦ ⟨trivial, fun _ he ↦ by cases he⟩

namespace Shelf

variable {source : Source N} {forms : FormsDirectory}

theorem neverSync_clearDirectory (p : Path) :
    NeverSync (Download.clearDirectory p : Op (Site N) Unit) := by
  unfold Download.clearDirectory
  refine Guards.bind (Download.guards_ask fun d e he ↦ ?_) fun found ↦ ?_
  · obtain ⟨f, rfl⟩ := Disk.exists?_eq_error he
    rintro ⟨_, ⟨⟩⟩
  · split
    · exact Site.neverSync_change fun _ _ he ↦ Disk.removeTree_not_isSync he
    · exact guards_pure

theorem neverSync_delete (formId : String) :
    NeverSync (delete forms formId : Op (Site N) Unit) := by
  have hremove : NeverSync (Download.remove forms formId : Op (Site N) Unit) :=
    Guards.bind (Site.neverSync_change fun _ _ he ↦ Disk.removeEntry_not_isSync he) fun _ ↦
      neverSync_clearDirectory _
  intro s _
  unfold delete
  rw [ends_bind, ends_get, Next]
  split
  · exact ⟨trivial, fun _ he ↦ by cases he⟩
  · exact hremove _ trivial

theorem mediaAt_not_isSync {disk : Disk} {table : Table} {formId : String}
    {version : Option String} {e : Fault} (h : mediaAt disk table formId version = .error e) :
    ¬ e.IsSync := by
  rintro ⟨f, rfl⟩
  unfold mediaAt at h
  split at h
  · split at h
    · split at h
      · rcases Except.bind_eq_error_iff.mp h with hlook | ⟨_, -, hfiles⟩
        · obtain ⟨_, ⟨⟩⟩ := Disk.look_eq_error hlook
        · split at hfiles <;> cases hfiles
      · cases h
    · cases h
  · cases h

theorem neverSync_mediaFiles (formId : String) (version : Option String) :
    NeverSync (mediaFiles formId version : Op (Site N) (List MediaRecord)) := by
  intro s _
  refine (ends_mediaFiles formId version s).mono ?_
  rintro r _ ⟨rfl, rfl⟩
  exact ⟨trivial, fun _ he ↦ mediaAt_not_isSync he⟩

theorem neverSync_prepare (p : Path) :
    NeverSync (Site.onDisk (Disk.prepare p) : Op (Site N) Unit) := by
  intro s _
  unfold Site.onDisk
  rw [ends_within]
  cases hmade : Disk.prepare p s.disk with
  | ok _ d => exact (ends_iff_of_ok hmade).mpr ⟨trivial, fun _ he ↦ by cases he⟩
  | error e d =>
    refine (ends_iff_of_error hmade).mpr ⟨trivial, ?_⟩
    rintro _ ⟨⟩ ⟨f, rfl⟩
    rcases Disk.prepare_eq_error hmade with ⟨_, ⟨⟩⟩ | ⟨⟨⟩⟩

/-- A download of files ends in no fault of synchronisation, whatever its source does. -/
theorem neverSync_run (x : Details) : NeverSync (Download.run source forms x) := by
  have hbring : Guards (fun _ ↦ True) (fun _ ↦ True) (Download.bring source forms x) :=
    fun _ _ ↦ ends_of_forall fun _ _ ↦ ⟨trivial, fun _ _ ↦ trivial⟩
  refine Guards.bind (neverSync_prepare forms.path) fun _ ↦
    hbring.attempt_bind (fun arrived ↦ ?_) fun e _ ↦
      guards_throw (Download.failure_not_isSync x.formId e)
  dsimp only
  split
  · exact Guards.bind (fun _ _ ↦ ⟨trivial, fun _ he ↦ by cases he⟩) fun _ ↦ guards_pure
  · exact guards_pure

/-- Neither does a download of the shelf. -/
theorem neverSync_download (x : Details) : NeverSync (download source forms x) := by
  intro s _
  refine (ends_download_of_run (neverSync_run x s trivial)).mono ?_
  rintro r t ⟨outcome, u, ⟨-, houtcome⟩, hrecords⟩
  refine ⟨trivial, fun e he ↦ ?_⟩
  rw [hrecords.result] at he
  cases outcome with
  | ok downloaded => cases he
  | error fault =>
    cases he
    exact houtcome _ rfl

/-- On the shelf, a pass ends in a fault of synchronisation if the server ended the fetch in it, or
if some downloads of the plan failed and no other fault came between. -/
theorem fetched_or_collected {server : Server (Site N)} (hserver : server.Leaves stock)
    {s t : Site N} {f : SyncFault}
    (h : Catalog.synchronize ⟨server, device source forms⟩ s = .error (.sync f) t) :
    (∃ done failing u,
        Catalog.Aborts ⟨server, device source forms⟩ true s done failing (.sync f) u) ∨
      ∃ plan u v failed, Catalog.planWith ⟨server, device source forms⟩ true s = .ok plan u ∧
        Catalog.CarriesOut ⟨server, device source forms⟩ plan u failed v ∧ failed ≠ [] ∧
        f = .incomplete "" failed := by
  -- The calls of the shelf itself never end so.
  have hnever {α : Type} {x : Op (Site N) α} {u v : Site N} (hx : NeverSync x)
      (hfault : x u = .error (.sync f) v) : False :=
    ((hx u trivial).of_error hfault).2 _ rfl ⟨f, rfl⟩
  cases Catalog.fails_of_synchronize hserver (device_stocks source forms) h with
  | fetch habort => exact Or.inl ⟨_, _, _, habort⟩
  | mediaFiles hmedia => exact (hnever (neverSync_mediaFiles _ _) hmedia).elim
  | delete hdelete => exact (hnever (neverSync_delete _) hdelete).elim
  | download hdownload _ => exact (hnever (neverSync_download _) hdownload).elim
  | collected hplan hcarried hfailed => exact Or.inr ⟨_, _, _, _, hplan, hcarried, hfailed, rfl⟩

end Shelf

end FormCatalog
