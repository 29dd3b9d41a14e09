import FormCatalog.Catalog.Pass

/-!
A catalog held in memory.

`Published` is a server that answers from a list of forms and a table of manifests, or with a fault
that has been set. `Holdings` is a device that keeps records and media in lists, takes the hashes it
is told, and counts what is asked of it. `Rehearsal` puts the two together.
-/

set_option autoImplicit false
set_option relaxedAutoImplicit false

namespace FormCatalog.Memory

/-- A server that answers from memory, and what it has been asked. -/
structure Published where
  forms : List Descriptor := []
  manifests : List (String × Manifest) := []
  /-- What the form list answers instead, if set. -/
  listFault : Option Fault := none
  /-- What every manifest answers instead, if set. -/
  manifestFault : Option Fault := none
  listCalls : Nat := 0
  /-- The addresses asked for, the last one first. -/
  manifestCalls : List String := []

namespace Published

/-- The manifest at an address, the last one given if there are several. -/
def manifestAt? (p : Published) (url : String) : Option Manifest :=
  p.manifests.foldl (fun found m ↦ if m.1 = url then some m.2 else found) none

/-- The form list. -/
def formList : Op Published (List Descriptor) := do
  modify fun p ↦ { p with listCalls := p.listCalls + 1 }
  let p ← get
  match p.listFault with
  | some fault => throw fault
  | none => pure p.forms

/-- A manifest. -/
def manifest (url : String) : Op Published Manifest := do
  modify fun p ↦ { p with manifestCalls := url :: p.manifestCalls }
  let p ← get
  match p.manifestFault with
  | some fault => throw fault
  | none =>
    match p.manifestAt? url with
    | some m => pure m
    | none => throw (.missingKey url)

end Published

/-- A change that was asked of the holdings. -/
inductive Change where
  | delete (formId : String)
  | download (formId : String)
  | downloadFailed (formId : String)
  deriving DecidableEq, Repr

/-- The name of a media list: a form in a version. -/
abbrev MediaKey := String × Option String

/-- A device in memory. -/
structure Holdings where
  /-- The records, in the order in which their ids came. -/
  records : List FormRecord := []
  media : List (MediaKey × List MediaRecord) := []
  /-- The forms whose download fails. -/
  failing : List String := []
  /-- The changes asked for, the last one first. -/
  changes : List Change := []
  /-- The forms for which a key was remembered, the last one first. -/
  remembered : List String := []
  mediaCalls : Nat := 0

namespace Holdings

/-- Puts a record in the place of the one with its id, or at the end. -/
def put (record : FormRecord) : List FormRecord → List FormRecord
  | [] => [record]
  | r :: rest => if r.formId = record.formId then record :: rest else r :: put record rest

/-- Puts a media list in the place of the one with its key, or at the end. -/
def putMedia (key : MediaKey) (files : List MediaRecord) :
    List (MediaKey × List MediaRecord) → List (MediaKey × List MediaRecord)
  | [] => [(key, files)]
  | m :: rest => if m.1 = key then (key, files) :: rest else m :: putMedia key files rest

/-- Records in the order in which their ids came, a later record in the place of an earlier one. -/
def recordsOf (records : List FormRecord) : List FormRecord :=
  records.foldl (fun rs r ↦ put r rs) []

/-- The record with this id. -/
def record? (h : Holdings) (formId : String) : Option FormRecord :=
  h.records.find? (·.formId = formId)

/-- The media files of a form in a version, none if nothing is known. -/
def mediaAt (h : Holdings) (key : MediaKey) : List MediaRecord :=
  ((h.media.find? (·.1 = key)).map (·.2)).getD []

/-- Changes the record with this id, if there is one. -/
def revise (formId : String) (f : FormRecord → FormRecord) (records : List FormRecord) :
    List FormRecord :=
  records.map fun r ↦ if r.formId = formId then f r else r

/-- The record that a successful download leaves. -/
def recordOf (details : Details) : FormRecord where
  formId := details.formId
  contentHash := ContentKey.stripLabel details.descriptor.contentHash
  version := details.descriptor.version
  title := details.descriptor.title
  seenKey := some details.key

/-- The media files that a successful download leaves. -/
def mediaOf (details : Details) : List MediaRecord :=
  details.mediaFiles.map fun f ↦ ⟨f.fileName, ContentKey.stripLabel f.contentHash⟩

/-- The holdings without a form. -/
def drop (formId : String) (h : Holdings) : Holdings :=
  { h with
    changes := .delete formId :: h.changes
    records := h.records.filter (·.formId ≠ formId) }

/-- The holdings after a download that failed: the form loses its remembered key. -/
def refuse (formId : String) (h : Holdings) : Holdings :=
  { h with
    changes := .downloadFailed formId :: h.changes
    records := revise formId (fun r ↦ { r with seenKey := none }) h.records }

/-- The holdings after a download that succeeded. -/
def receive (details : Details) (h : Holdings) : Holdings :=
  { h with
    changes := .download details.formId :: h.changes
    records := put (recordOf details) h.records
    media := putMedia (details.formId, details.descriptor.version) (mediaOf details) h.media }

/-- The holdings with a key remembered for a form. -/
def mark (formId key : String) (h : Holdings) : Holdings :=
  { h with
    remembered := formId :: h.remembered
    records := revise formId (fun r ↦ { r with seenKey := some key }) h.records }

/-- Removes a form. -/
def delete (formId : String) : Op Holdings Unit := modify (drop formId)

/-- Downloads a form: it fails for the ids set to fail, which lose their remembered key. -/
def download (details : Details) : Op Holdings Unit := do
  if (← get).failing.contains details.formId then
    modify (refuse details.formId)
    throw (.download details.formId "simulated failure")
  else modify (receive details)

/-- The media files kept for a form in a version. -/
def mediaFiles (formId : String) (version : Option String) : Op Holdings (List MediaRecord) := do
  modify fun h ↦ { h with mediaCalls := h.mediaCalls + 1 }
  return (← get).mediaAt (formId, version)

/-- Remembers a key for a form. -/
def remember (formId key : String) : Op Holdings Unit := modify (mark formId key)

end Holdings

/-- A server and a device, both in memory, with a journal, the last entry first. -/
structure Rehearsal where
  published : Published := {}
  holdings : Holdings := {}
  journal : List Entry := []

namespace Rehearsal

instance : Recording Rehearsal where
  record e r := { r with journal := e :: r.journal }

/-- Runs a program of the server. -/
def onServer {α : Type} (x : Op Published α) : Op Rehearsal α :=
  Op.within (·.published) (fun p r ↦ { r with published := p }) x

/-- Runs a program of the device. -/
def onDevice {α : Type} (x : Op Holdings α) : Op Rehearsal α :=
  Op.within (·.holdings) (fun h r ↦ { r with holdings := h }) x

/-- The catalog of a rehearsal. -/
def catalog : Catalog Rehearsal where
  server :=
    { formList := onServer Published.formList
      manifest := fun url ↦ onServer (Published.manifest url) }
  device :=
    { records := onDevice do return (← get).records
      mediaFiles := fun formId version ↦ onDevice (Holdings.mediaFiles formId version)
      delete := fun formId ↦ onDevice (Holdings.delete formId)
      download := fun details ↦ onDevice (Holdings.download details)
      remember := fun formId key ↦ onDevice (Holdings.remember formId key) }

end Rehearsal

end FormCatalog.Memory
