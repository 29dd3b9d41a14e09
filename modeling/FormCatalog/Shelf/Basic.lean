import FormCatalog.Catalog.Pass
import FormCatalog.Shelf.Download

/-!
The shelf: forms kept as rows of a table and files in a directory.

A download that succeeds puts a row with the digest of what was received; one that fails clears the
remembered key of the form, so that the next comparison is a full one. A form is deleted from the
table first and from the disk then.
-/

set_option autoImplicit false
set_option relaxedAutoImplicit false

namespace FormCatalog.Shelf

variable {N : Type}

/-- The records of all forms, in the order of their ids. -/
def records : Op (Site N) (List FormRecord) := do
  return (← get).table.map (·.record)

/-- The record of a form. -/
def record? (formId : String) : Op (Site N) (Option FormRecord) := do
  return ((← get).table.row? formId).map (·.record)

/-- Deletes a form, if it is there. -/
def delete (forms : FormsDirectory) (formId : String) : Op (Site N) Unit := do
  match (← get).table.row? formId with
  | none => return
  | some _ =>
    Site.changeTable (·.remove formId)
    Download.remove forms formId

/-- Clears the remembered key of a form, if it has one. -/
def forget (formId : String) : Op (Site N) Unit := do
  match (← get).table.row? formId with
  | some row =>
    if row.seenKey.isSome then
      Site.changeTable (·.remember formId none)
      Op.note .debug .shelf ("Cleared cached version hash for " ++ formId
        ++ " after failed download")
  | none => return

/-- The row that a successful download leaves. -/
def rowOf (details : Details) (downloaded : Downloaded) : Row where
  formId := details.formId
  version := details.descriptor.version
  title := details.descriptor.title
  contentHash := downloaded.contentHash
  formPath := downloaded.formPath.text
  mediaPath := downloaded.mediaPath.map (·.text)
  seenKey := some details.key

/-- Downloads a form and records it. -/
def download (source : Source N) (forms : FormsDirectory) (details : Details) :
    Op (Site N) Unit := do
  match ← Op.attempt (Download.run source forms details) with
  | .ok downloaded => Site.changeTable (·.put (rowOf details downloaded))
  | .error (.download formId message) =>
    forget details.formId
    throw (.download formId message)
  | .error fault => throw fault

/-- The media files of a directory, with their digests. -/
def mediaIn (disk : Disk) (directory : Path) : Except Fault (List MediaRecord) := do
  match ← disk.look directory with
  | some (place, .directory) =>
    return (disk.filesBelow place).map fun (name, content) ↦
      ⟨"/".intercalate name, ContentKey.ofFile content⟩
  | _ => return []

/-- The media files kept for a form, if the table has it in this version. -/
def mediaFiles (formId : String) (version : Option String) : Op (Site N) (List MediaRecord) := do
  match (← get).table.row? formId with
  | some row =>
    match row.mediaPath with
    | some directory =>
      if row.version = version then Site.ask fun d ↦ mediaIn d (Path.ofText directory)
      else return []
    | none => return []
  | none => return []

/-- The key remembered for a form. -/
def seenKey? (formId : String) : Op (Site N) (Option String) := do
  return ((← get).table.row? formId).bind (·.seenKey)

/-- Remembers a key for a form, if the table has it. -/
def remember (formId key : String) : Op (Site N) Unit :=
  Site.changeTable (·.remember formId (some key))

/-- The shelf as the device of a catalog. -/
def device (source : Source N) (forms : FormsDirectory) : Device (Site N) where
  records := records
  mediaFiles := mediaFiles
  delete := delete forms
  download := download source forms
  remember := remember

end FormCatalog.Shelf
