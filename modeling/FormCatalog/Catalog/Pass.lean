import FormCatalog.Catalog.Comparison
import FormCatalog.Number.Decimal

/-!
Passes: making the device hold what the server lists.

A pass takes a *snapshot* of the catalog (the server's list, each form compared with the device),
plans, deletes, and then downloads. A fault while the snapshot is taken ends the pass before a form
is deleted. A form that cannot be downloaded does not stop the others; when all have been tried, one
fault names those that failed. `preview` takes the snapshot without remembering anything and stops
at the plan.
-/

set_option autoImplicit false
set_option relaxedAutoImplicit false

namespace FormCatalog

open Number

/-- The server's side of a pass. -/
structure Server (σ : Type) where
  /-- The forms that the server lists, in its order. -/
  formList : Op σ (List Descriptor)
  /-- The manifest at an address. -/
  manifest : String → Op σ Manifest

/-- The two sides that a pass brings together. -/
structure Catalog (σ : Type) where
  server : Server σ
  device : Device σ

namespace Catalog

variable {σ : Type} (catalog : Catalog σ)

/-- The record of a form among the records, the last one if there are several. -/
def recordOf? (records : List FormRecord) (formId : String) : Option FormRecord :=
  records.foldl (fun found r ↦ if r.formId = formId then some r else found) none

/-- How many forms have a record. -/
def countForms (records : List FormRecord) : Nat :=
  (records.map (·.formId)).eraseDups.length

/-- The manifest of a listed form; a form without an address for one has none, and an empty address
counts as none. -/
def manifestOf (published : Descriptor) : Op σ (Option Manifest) :=
  match published.manifestUrl with
  | none => pure none
  | some url => if url = "" then pure none else some <$> catalog.server.manifest url

/-- Finds out how one listed form stands on the device. -/
def annotate [Recording σ] (records : List FormRecord) (remembering : Bool)
    (published : Descriptor) : Op σ Details := do
  let manifest ← catalog.manifestOf published
  let standing ← catalog.device.compare published manifest
    (recordOf? records published.formId) remembering
  pure ⟨published, standing.notOnDevice, standing.updated, manifest⟩

/-- The server's list, in its order, each form with its standing on the device. The first fault of
the list or of a manifest ends it; no part of a list is ever given. -/
def snapshot [Recording σ] (remembering : Bool) : Op σ (List Details) := do
  let listed ← catalog.server.formList
  let records ← catalog.device.records
  Op.note .debug .snapshot ("Server lists " ++ textOfNat listed.length
    ++ " form(s), device has " ++ textOfNat (countForms records))
  listed.mapM (catalog.annotate records remembering)

/-- Takes a snapshot and plans from it and from the records as they then are. -/
def planWith [Recording σ] (remembering : Bool) : Op σ Plan := do
  let snapshot ← catalog.snapshot remembering
  let records ← catalog.device.records
  pure (Plan.of snapshot records)

/-- What a pass would change. Nothing is deleted, downloaded or remembered. -/
def preview [Recording σ] : Op σ Plan := catalog.planWith false

/-- Deletes one form that the server no longer lists. -/
def delete [Recording σ] (record : FormRecord) : Op σ Unit := do
  Op.note .info .pass ("Deleting form " ++ record.formId ++ " (no longer on server)")
  catalog.device.delete record.formId

/-- Tries to download one form: the id of the form if it could not be downloaded. Any other fault
goes on upwards. -/
def tryDownload [Recording σ] (details : Details) : Op σ (Option String) := do
  match ← Op.attempt (catalog.device.download details) with
  | .ok () =>
    Op.note .info .pass ("Downloaded form " ++ details.formId ++ " (" ++ details.reason ++ ")")
    pure none
  | .error (.download formId message) =>
    Op.note .warning .pass ("Failed to download form " ++ details.formId ++ ": "
      ++ (Fault.download formId message).message)
    pure (some details.formId)
  | .error fault => throw fault

/-- Carries a plan out: every deletion, then one attempt at every download. -/
def carryOut [Recording σ] (plan : Plan) : Op σ Unit := do
  plan.toDelete.forM catalog.delete
  let failed ← plan.toDownload.mapM catalog.tryDownload
  let failed := failed.filterMap id
  if failed ≠ [] then throw (.sync (.incomplete "" failed))
  Op.note .info .pass ("Form sync complete: " ++ textOfNat plan.toDownload.length
    ++ " downloaded, " ++ textOfNat plan.toDelete.length ++ " deleted, "
    ++ textOfNat plan.unchanged.length ++ " unchanged")

/-- One pass. -/
def synchronize [Recording σ] : Op σ Plan := do
  let plan ← catalog.planWith true
  catalog.carryOut plan
  pure plan

end Catalog

end FormCatalog
