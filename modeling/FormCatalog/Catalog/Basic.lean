/-!
The things a catalog speaks of.

The server lists *descriptors*, one for each published form; a form with media files has a
*manifest* that lists them. The device keeps a *record* of each form, and of each media file. A
descriptor together with what is known of it on the device is a form's *details*, and a *plan* says
what a pass would change.
-/

set_option autoImplicit false
set_option relaxedAutoImplicit false

namespace FormCatalog

/-- A form as the server lists it. -/
structure Descriptor where
  formId : String
  contentHash : String
  version : Option String := none
  title : String := ""
  downloadUrl : String := ""
  /-- Where the list of media files is, for a form that has media. -/
  manifestUrl : Option String := none
  deriving DecidableEq, Repr

/-- A form as the device keeps it. -/
structure FormRecord where
  formId : String
  contentHash : String
  version : Option String := none
  title : String := ""
  /-- The key of the published form that the last comparison saw. -/
  seenKey : Option String := none
  deriving DecidableEq, Repr

/-- A media file as the device keeps it. -/
structure MediaRecord where
  name : String
  contentHash : String
  deriving DecidableEq, Repr

/-- A media file as a manifest lists it. -/
structure MediaEntry where
  fileName : String
  contentHash : String
  downloadUrl : String
  deriving DecidableEq, Repr

/-- The media files of a published form, with a hash of the list as a whole. -/
structure Manifest where
  hash : String
  files : List MediaEntry := []
  deriving DecidableEq, Repr

/-- A published form and how it stands on the device. -/
structure Details where
  descriptor : Descriptor
  notOnDevice : Bool
  updated : Bool
  manifest : Option Manifest := none
  deriving DecidableEq, Repr

namespace Details

/-- The id of the form. -/
def formId (d : Details) : String := d.descriptor.formId

/-- The media files of the form, none if it has no manifest. -/
def mediaFiles (d : Details) : List MediaEntry :=
  match d.manifest with
  | some m => m.files
  | none => []

/-- A form is downloaded when the device lacks it or has it in another state. -/
def needsDownload (d : Details) : Bool := d.notOnDevice || d.updated

/-- How a download is called in reports. -/
def reason (d : Details) : String := if d.notOnDevice then "new" else "updated"

end Details

/-- What a pass would change on the device. -/
structure Plan where
  toDownload : List Details := []
  toDelete : List FormRecord := []
  /-- The ids of the forms that stay as they are. -/
  unchanged : List String := []
  deriving DecidableEq, Repr

namespace Plan

/-- Whether nothing would change. -/
def isEmpty (p : Plan) : Bool := p.toDownload.isEmpty && p.toDelete.isEmpty

/-- The plan that makes the device hold what the server lists: records whose id is not listed go,
listed forms that are new or changed come, and the order of either list is kept. -/
def of (snapshot : List Details) (records : List FormRecord) : Plan where
  toDownload := snapshot.filter (·.needsDownload)
  toDelete := records.filter fun r ↦ !(snapshot.map (·.formId)).contains r.formId
  unchanged := (snapshot.filter (!·.needsDownload)).map (·.formId)

end Plan

end FormCatalog
