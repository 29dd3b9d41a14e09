import FormCatalog.Catalog.Basic
import FormCatalog.Catalog.ContentKey
import FormCatalog.Op

/-!
Comparing a published form with the device's record of it.

Media files are compared as finite maps from names to (stripped) hashes: on either side the last
entry for a name counts. A form is compared in full only when the key of the published form differs
from the key that the device remembers from the last comparison; the new key is then remembered.

`Device` is what a pass needs of the place where forms are kept.
-/

set_option autoImplicit false
set_option relaxedAutoImplicit false

namespace FormCatalog

/-- A finite map from file names to hashes, in the order in which the names first came. -/
abbrev FileHashes := List (String × String)

namespace FileHashes

/-- The hash of a name. -/
def get? (name : String) : FileHashes → Option String
  | [] => none
  | (n, h) :: rest => if n = name then some h else get? name rest

/-- Gives a name a hash, in the place of an earlier one. -/
def insert (name hash : String) : FileHashes → FileHashes
  | [] => [(name, hash)]
  | (n, h) :: rest => if n = name then (n, hash) :: rest else (n, h) :: insert name hash rest

/-- The map that a list of names and hashes describes, later entries replacing earlier ones. -/
def ofList (files : List (String × String)) : FileHashes :=
  files.foldl (fun m f ↦ m.insert f.1 f.2) []

/-- Whether two maps have the same names with the same hashes. -/
def agree (a b : FileHashes) : Bool :=
  a.length == b.length && a.all fun f ↦ b.get? f.1 == some f.2

/-- What a manifest says the files are. -/
def ofEntries (files : List MediaEntry) : FileHashes :=
  ofList (files.map fun f ↦ (f.fileName, ContentKey.stripLabel f.contentHash))

/-- What the device says the files are. -/
def ofRecords (files : List MediaRecord) : FileHashes :=
  ofList (files.map fun f ↦ (f.name, ContentKey.stripLabel f.contentHash))

end FileHashes

/-- Whether the files on the device differ from those of a manifest, by name or by hash. -/
def mediaDiffer (published : List MediaEntry) (onDevice : List MediaRecord) : Bool :=
  !(FileHashes.ofEntries published).agree (FileHashes.ofRecords onDevice)

/-- The key of a published form with its manifest. -/
def Descriptor.key (published : Descriptor) (manifest : Option Manifest) : String :=
  ContentKey.ofForm published.contentHash (manifest.map (·.hash))

/-- The key of the form that the details are of. -/
def Details.key (details : Details) : String := details.descriptor.key details.manifest

/-- The place where forms are kept. -/
structure Device (σ : Type) where
  /-- The records of all forms. -/
  records : Op σ (List FormRecord)
  /-- The media files kept for a form in a version. -/
  mediaFiles : String → Option String → Op σ (List MediaRecord)
  /-- Removes a form. -/
  delete : String → Op σ Unit
  /-- Downloads a form and keeps it, in the place of an earlier copy. -/
  download : Details → Op σ Unit
  /-- Remembers, for a form, the key of the published form. -/
  remember : String → String → Op σ Unit

/-- How a published form stands on the device. -/
structure Standing where
  notOnDevice : Bool
  updated : Bool
  deriving DecidableEq, Repr

namespace Device

variable {σ : Type} (device : Device σ)

/-- The full comparison: other content, or other media where there is a manifest. -/
def isUpdated (published : Descriptor) (manifest : Option Manifest) (record : FormRecord) :
    Op σ Bool :=
  if ContentKey.stripLabel published.contentHash ≠ ContentKey.stripLabel record.contentHash then
    pure true
  else
    match manifest with
    | none => pure false
    | some m => do
      let files ← device.mediaFiles published.formId published.version
      pure (mediaDiffer m.files files)

/-- Compares a published form with the device's record, if there is one. Only a comparison in full
writes, and only when `remembering`: it remembers the key that it compared. -/
def compare [Recording σ] (published : Descriptor) (manifest : Option Manifest)
    (record : Option FormRecord) (remembering : Bool) : Op σ Standing :=
  match record with
  | none => pure ⟨true, false⟩
  | some record => do
    let key := published.key manifest
    if record.seenKey = some key then pure ⟨false, false⟩
    else
      let updated ← device.isUpdated published manifest record
      if remembering then device.remember record.formId key
      if updated then
        Op.note .debug .comparison ("Form " ++ published.formId ++ " has an update on the server")
      pure ⟨false, updated⟩

end Device

end FormCatalog
