import FormCatalog.Catalog.Basic
import FormCatalog.Catalog.ContentKey
import FormCatalog.Disk.Confined
import FormCatalog.Shelf.Site

/-!
Bringing a form and its media files into the directory of forms.

A form with id `x` has its definition in `x.xml` and its media files below `x-media`, where all but
plain letters, digits, `_`, `.` and `-` is written `_`. Media files are first collected in
a temporary directory, which takes the place of the earlier media directory only when every file has
come; the definition is written last. A fault of the network or of the disk on the way becomes a
failed download of the form, and the temporary directory never stays behind.
-/

set_option autoImplicit false
set_option relaxedAutoImplicit false

namespace FormCatalog

/-- Where the parts of a form are kept. -/
structure FormsDirectory where
  path : Path
  deriving DecidableEq, Repr

namespace FormsDirectory

/-- Whether a character is kept in a file name. -/
def isPlain (c : Char) : Bool :=
  ('a' ≤ c && c ≤ 'z') || ('A' ≤ c && c ≤ 'Z') || ('0' ≤ c && c ≤ '9')
    || c = '_' || c = '.' || c = '-'

/-- The file name that stands for a form id. -/
def baseName (formId : String) : String :=
  if formId = "" then "_"
  else String.ofList (formId.toList.map fun c ↦ if isPlain c then c else '_')

/-- Where the definition of a form is. -/
def formPath (forms : FormsDirectory) (formId : String) : Path :=
  forms.path.child (baseName formId ++ ".xml")

/-- Where the media files of a form are. -/
def mediaPath (forms : FormsDirectory) (formId : String) : Path :=
  forms.path.child (baseName formId ++ "-media")

end FormsDirectory

/-- What a download has brought. -/
structure Downloaded where
  formPath : Path
  mediaPath : Option Path
  contentHash : String
  deriving DecidableEq, Repr

namespace Download

variable {N : Type}

/-- The beginning of the names of temporary directories. -/
def stagingName : String := ".staging-"

/-- Removes a directory if something is there. -/
def clearDirectory (p : Path) : Op (Site N) Unit := do
  if ← Site.ask (·.exists? p) then Site.change (·.removeTree p)

/-- Brings one media file into the temporary directory. -/
def collect (source : Source N) (formId : String) (staging : Path) (file : MediaEntry) :
    Op (Site N) Unit := do
  let working := (← get).disk.working
  match ← Op.ofExcept (staging.confined working file.fileName) with
  | none => throw (.download formId ("unsafe media file name: " ++ file.fileName))
  | some target =>
    Site.onDisk (Disk.prepare target.parent)
    let content ← source file.downloadUrl
    Site.change (·.writeContent target content)

/-- Makes the temporary directory. -/
def makeStaging (forms : FormsDirectory) : Op (Site N) Path := do
  let (staging, disk) ← Site.ask (·.makeTemporary forms.path stagingName)
  modify fun s ↦ { s with disk := disk }
  return staging

/-- Removes the temporary directory, if it is still there, whatever else went wrong. -/
def dropStaging (staging : Path) : Op (Site N) Unit := do
  let _ ← Op.attempt (clearDirectory staging)

/-- Collects all media files and puts them in the place of the earlier ones. -/
def stage (source : Source N) (formId : String) (files : List MediaEntry) (staging target : Path) :
    Op (Site N) Unit := do
  files.forM (collect source formId staging)
  clearDirectory target
  Site.change (·.moveDirectory staging target)

/-- Brings the media files of a form; a form without a manifest has none, and loses those it had. -/
def bringMedia (source : Source N) (forms : FormsDirectory) (details : Details) :
    Op (Site N) (Option Path) := do
  let target := forms.mediaPath details.formId
  match details.manifest with
  | none =>
    clearDirectory target
    return none
  | some manifest =>
    let staging ← makeStaging forms
    let outcome ← Op.attempt (stage source details.formId manifest.files staging target)
    dropStaging staging
    Op.ofExcept outcome
    return some target

/-- Brings the definition and the media files of a form. -/
def bring (source : Source N) (forms : FormsDirectory) (details : Details) :
    Op (Site N) (Bytes × Option Path) := do
  let definition ← source details.descriptor.downloadUrl
  let media ← bringMedia source forms details
  Site.change (·.writeContent (forms.formPath details.formId) definition)
  return (definition, media)

/-- The fault that a download ends in when something on the way went wrong: faults of the network
and of the disk become a failed download of the form. -/
def failure (formId : String) : Fault → Fault
  | .sync fault => .download formId fault.message
  | .disk fault => .download formId ("could not write files: " ++ fault.message)
  | fault => fault

/-- Downloads a form into the directory of forms, which is made if it is missing. -/
def run (source : Source N) (forms : FormsDirectory) (details : Details) :
    Op (Site N) Downloaded := do
  Site.onDisk (Disk.prepare forms.path)
  match ← Op.attempt (bring source forms details) with
  | .error fault => throw (failure details.formId fault)
  | .ok (definition, media) =>
    let hash := ContentKey.ofBytes definition
    let reported := ContentKey.stripLabel details.descriptor.contentHash
    if reported ≠ hash then
      Op.note .warning .downloads ("Form " ++ details.formId ++ " hash " ++ hash
        ++ " does not match server-reported " ++ reported)
    return ⟨forms.formPath details.formId, media, hash⟩

/-- Removes the definition and the media files of a form. -/
def remove (forms : FormsDirectory) (formId : String) : Op (Site N) Unit := do
  Site.change (·.removeEntry (forms.formPath formId))
  clearDirectory (forms.mediaPath formId)

end Download

end FormCatalog
