import FormCatalog.Settings.Basic
import FormCatalog.Trigger.Gate
import FormCatalog.Trigger.Notice
import FormCatalog.Trigger.Scheduler

/-!
Starting passes, on demand or on a schedule.

Every request goes through the gate; one that comes while a pass is running is dropped. A pass that
was let in gives the gate back when it ends, however it ends; one that ends in a fault of
synchronisation is made known to the user, any other fault goes on upwards.
-/

set_option autoImplicit false
set_option relaxedAutoImplicit false

namespace FormCatalog

/-- The state around passes. -/
structure Station (W : Type) where
  gate : Gate := {}
  mode : UpdateMode := .manual
  /-- The failures made known to the user, the last one first. -/
  failures : List SyncFault := []
  world : W

namespace Station

variable {W : Type}

instance [Recording W] : Recording (Station W) where
  record e s := { s with world := Recording.record e s.world }

/-- Whether the device is set to hold what the server lists. -/
def isAvailable (s : Station W) : Bool := s.mode = .matchExactly

/-- The last failure made known to the user. -/
def lastFailure? (s : Station W) : Option SyncFault := s.failures.head?

/-- The station after the gate was tried, and whether it could be taken. -/
def attempted [Recording W] (s : Station W) : Bool × Station W :=
  let (won, gate) := s.gate.tryAcquire
  let s := { s with gate := gate }
  (won, if won then s else Recording.record ⟨.debug, .gate, Gate.refusal⟩ s)

/-- The station after the gate was given back. -/
def givenBack (success : Bool) (s : Station W) : Station W :=
  { s with gate := s.gate.release success }

/-- The station after a failure was made known to the user. -/
def told [Recording W] (fault : SyncFault) (s : Station W) : Station W :=
  Recording.record (Notice.entry fault) { s with failures := fault :: s.failures }

/-- Takes the gate, unless it is held. -/
def tryAcquire [Recording W] : Op (Station W) Bool := modifyGet attempted

/-- Gives the gate back. -/
def release (success : Bool) : Op (Station W) Unit := modify (givenBack success)

/-- Makes a failure known to the user. -/
def notify [Recording W] (fault : SyncFault) : Op (Station W) Unit := modify (told fault)

/-- Runs a program over the world. -/
def inWorld {α : Type} (x : Op W α) : Op (Station W) α :=
  Op.within (·.world) (fun w s ↦ { s with world := w }) x

end Station

/-- Ways to run work later. -/
structure Scheduling (σ : Type) where
  /-- Runs work at once in the background, and gives its outcome. -/
  immediate : Op σ Bool → Op σ (Except Fault Bool)
  /-- Has passes run again and again under a tag. -/
  recurring : String → Number.Binary64 → Op σ Unit
  /-- Ends what runs under a tag. -/
  cancel : String → Op σ Unit

namespace Trigger

variable {W : Type} [Recording W]

/-- The tag of the recurring pass. -/
def tag : String := "match_exactly"

/-- What is reported of a pass that was not let in. -/
def skipped : Entry := ⟨.info, .trigger, "Skipping form sync: another sync is in progress"⟩

/-- Runs a pass for which the gate was taken: whether it succeeded. -/
def runAcquired (pass : Op (Station W) Unit) : Op (Station W) Bool := do
  match ← Op.attempt pass with
  | .ok () =>
    Station.release true
    return true
  | .error (.sync fault) =>
    Station.release false
    Station.notify fault
    return false
  | .error fault =>
    Station.release false
    throw fault

/-- Runs a pass: whether it succeeded, or nothing if another one is running. -/
def runOnce (pass : Op (Station W) Unit) : Op (Station W) (Option Bool) := do
  if ← Station.tryAcquire then some <$> runAcquired pass
  else
    modify (Recording.record skipped)
    return none

/-- Starts a pass in the background: its outcome, or nothing if another one is running. -/
def start (scheduling : Scheduling (Station W)) (pass : Op (Station W) Unit) :
    Op (Station W) (Option (Except Fault Bool)) := do
  if ← Station.tryAcquire then some <$> scheduling.immediate (runAcquired pass)
  else return none

/-- Sets the mode, and starts or ends the recurring pass accordingly. -/
def setMode (scheduling : Scheduling (Station W)) (mode : UpdateMode)
    (interval : Number.Binary64) : Op (Station W) Unit := do
  modify fun s ↦ { s with mode := mode }
  if mode = .matchExactly then
    Op.note .info .trigger ("Scheduling form sync every " ++ interval.wholeText ++ " seconds")
    scheduling.recurring tag interval
  else scheduling.cancel tag

end Trigger

end FormCatalog
