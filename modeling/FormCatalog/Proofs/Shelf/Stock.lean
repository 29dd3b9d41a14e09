import FormCatalog.Proofs.Catalog.Stock
import FormCatalog.Shelf.Archive

/-!
# The stock of the shelf

The records of the shelf are its rows; the rest of its stock is the disk and the rows without their
remembered keys. What the shelf answers when it is asked for media files depends on that rest alone
(`mediaAt`), since neither the version of a row nor its media directory is ever changed by
remembering a key.
-/

set_option autoImplicit false
set_option relaxedAutoImplicit false

namespace FormCatalog

open Op Memory

namespace Table

/-- The rows with no key remembered. -/
def withoutKeys (t : Table) : Table := t.map fun row ↦ { row with seenKey := none }

theorem row?_withoutKeys (t : Table) (formId : String) :
    t.withoutKeys.row? formId = (t.row? formId).map fun row ↦ { row with seenKey := none } := by
  unfold withoutKeys row?
  rw [List.find?_map]
  rfl

theorem withoutKeys_remember (t : Table) (formId : String) (key : Option String) :
    (t.remember formId key).withoutKeys = t.withoutKeys := by
  unfold withoutKeys remember
  rw [List.map_map]
  refine List.map_congr_left fun row _ ↦ ?_
  dsimp only [Function.comp]
  split <;> rfl

/-- Remembering a key for a form sets it in the record of the form. -/
theorem map_record_remember (t : Table) (formId key : String) :
    (t.remember formId (some key)).map (·.record) =
      Holdings.revise formId (fun r ↦ { r with seenKey := some key }) (t.map (·.record)) := by
  unfold remember Holdings.revise
  rw [List.map_map, List.map_map]
  refine List.map_congr_left fun row _ ↦ ?_
  dsimp only [Function.comp, Row.record]
  split <;> rfl

end Table

namespace Shelf

variable {N : Type}

/-- The media files kept for a form in a version, or the fault of the disk that comes instead. -/
def mediaAt (disk : Disk) (table : Table) (formId : String) (version : Option String) :
    Except Fault (List MediaRecord) :=
  match table.row? formId with
  | some row =>
    match row.mediaPath with
    | some directory =>
      if row.version = version then mediaIn disk (Path.ofText directory) else .ok []
    | none => .ok []
  | none => .ok []

theorem ends_mediaFiles (formId : String) (version : Option String) (s : Site N) :
    Ends (mediaFiles formId version) s fun r t ↦
      r = mediaAt s.disk s.table formId version ∧ t = s := by
  unfold mediaFiles mediaAt
  rw [ends_bind, ends_get, Next]
  cases s.table.row? formId with
  | none => exact ⟨rfl, rfl⟩
  | some row =>
    dsimp only
    cases row.mediaPath with
    | none => exact ⟨rfl, rfl⟩
    | some directory =>
      dsimp only
      split
      · unfold Site.ask
        rw [ends_bind, ends_get, Next, ends_ofExcept]
        exact ⟨rfl, rfl⟩
      · exact ⟨rfl, rfl⟩

theorem mediaAt_withoutKeys (disk : Disk) (table : Table) :
    mediaAt disk table.withoutKeys = mediaAt disk table := by
  funext formId version
  unfold mediaAt
  rw [Table.row?_withoutKeys]
  cases table.row? formId <;> rfl

/-- The stock of the shelf. -/
def stock (s : Site N) : Stock (Disk × Table) :=
  ⟨s.table.map (·.record), s.disk, s.table.withoutKeys⟩

theorem device_stocks (source : Source N) (forms : FormsDirectory) :
    (device source forms).Stocks stock fun rest ↦ mediaAt rest.1 rest.2 where
  records s := by
    change Ends records s _
    unfold records
    rw [ends_bind, ends_get, Next, ends_pure]
    exact ⟨rfl, rfl⟩
  mediaFiles id version s := by
    refine (ends_mediaFiles id version s).mono ?_
    rintro r t ⟨rfl, rfl⟩
    exact ⟨by rw [stock, mediaAt_withoutKeys], rfl⟩
  remember id key s := by
    change Ends (remember id key) s _
    unfold remember Site.changeTable
    rw [ends_modify]
    refine ⟨rfl, ?_⟩
    unfold stock Stock.remember
    rw [Table.withoutKeys_remember, Table.map_record_remember]
  note _ _ := rfl

/-- The calls to a server that is behind the network leave the shelf alone. -/
theorem archive_leaves_stock (forms : FormsDirectory) :
    (Archive.catalog forms).server.Leaves (stock (N := Archive)) where
  formList s := by
    unfold Archive.catalog Archive.behind
    rw [ends_within, ends_within, Published.ends_formList]
    rfl
  manifest url s := by
    unfold Archive.catalog Archive.behind
    rw [ends_within, ends_within, Published.ends_manifest]
    rfl

end Shelf

end FormCatalog
