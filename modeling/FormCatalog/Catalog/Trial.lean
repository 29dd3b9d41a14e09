import FormCatalog.Catalog.Memory

/-!
A rehearsal in which calls go wrong.

In a `Trial` every call to the server or to the device has a fate: it is carried out, it ends in a
fault before anything is done, or it ends in a fault although it was carried out. Any fault may come
at any call. A download that is refused with the fault of a download costs the form its remembered
key, as on every device. `deeds` says what was done with the forms on the device.
-/

set_option autoImplicit false
set_option relaxedAutoImplicit false

namespace FormCatalog.Memory

/-- What becomes of a call. -/
inductive Fate where
  | carriedOut
  /-- The call ends in a fault and nothing is done. -/
  | fails (fault : Fault)
  /-- The call ends in a fault after it was carried out. -/
  | failsLate (fault : Fault)
  deriving DecidableEq, Repr

/-- What was done with a form on the device. -/
inductive Deed where
  | remembered (formId key : String)
  | deleted (formId : String)
  | downloaded (formId : String)
  | refused (formId : String)
  deriving DecidableEq, Repr

/-- The form that a deed was done with. -/
def Deed.formId : Deed → String
  | remembered id _ => id
  | deleted id => id
  | downloaded id => id
  | refused id => id

/-- A rehearsal, the fates of the calls to come, and the deeds so far, the last one first. When the
fates are used up, every call is carried out. -/
structure Trial where
  rehearsal : Rehearsal := {}
  fates : List Fate := []
  deeds : List Deed := []

namespace Trial

instance : Recording Trial where
  record e t := { t with rehearsal := Recording.record e t.rehearsal }

/-- The same server and device, with other fates and nothing done yet. -/
def withFates (t : Trial) (fates : List Fate) : Trial := ⟨t.rehearsal, fates, []⟩

/-- The same server and device, where nothing goes wrong. -/
def calm (t : Trial) : Trial := t.withFates []

/-- The last thing that was done with a form. -/
def lastDeed? (t : Trial) (formId : String) : Option Deed := t.deeds.find? (·.formId = formId)

/-- Notes a deed. -/
def done (deed : Deed) : Op Trial Unit := modify fun t ↦ { t with deeds := deed :: t.deeds }

/-- Takes the fate of the next call. -/
def nextFate : Op Trial Fate :=
  modifyGet fun t ↦ (t.fates.headD .carriedOut, { t with fates := t.fates.tail })

/-- Runs a program of the rehearsal. -/
def onStage {α : Type} (x : Op Rehearsal α) : Op Trial α :=
  Op.within (·.rehearsal) (fun r t ↦ { t with rehearsal := r }) x

/-- Makes a call. -/
def call {α : Type} (x : Op Trial α) : Op Trial α := do
  match ← nextFate with
  | .carriedOut => x
  | .fails fault => throw fault
  | .failsLate fault =>
    let _ ← x
    throw fault

/-- Makes a download: one that the device refuses costs the form its remembered key. -/
def callDownload (formId : String) (x : Op Trial Unit) : Op Trial Unit := do
  match ← nextFate with
  | .carriedOut => x
  | .fails (.download id message) =>
    onStage (Rehearsal.onDevice (modify (Holdings.refuse formId)))
    done (.refused formId)
    throw (.download id message)
  | .fails fault => throw fault
  | .failsLate fault =>
    x
    throw fault

/-- A download that the device carries out, or refuses itself. -/
def download (details : Details) : Op Trial Unit := do
  match ← Op.attempt (onStage (Rehearsal.onDevice (Holdings.download details))) with
  | .ok () => done (.downloaded details.formId)
  | .error fault =>
    done (.refused details.formId)
    throw fault

/-- The catalog of a trial. -/
def catalog : Catalog Trial where
  server :=
    { formList := call (onStage Rehearsal.catalog.server.formList)
      manifest := fun url ↦ call (onStage (Rehearsal.catalog.server.manifest url)) }
  device :=
    { records := call (onStage Rehearsal.catalog.device.records)
      mediaFiles := fun formId version ↦
        call (onStage (Rehearsal.catalog.device.mediaFiles formId version))
      delete := fun formId ↦ call do
        onStage (Rehearsal.catalog.device.delete formId)
        done (.deleted formId)
      download := fun details ↦ callDownload details.formId (download details)
      remember := fun formId key ↦ call do
        onStage (Rehearsal.catalog.device.remember formId key)
        done (.remembered formId key) }

end Trial

end FormCatalog.Memory
