import FormCatalog.Number.Binary64
import FormCatalog.Op

/-!
Recurring tasks and a pool of workers.

Every accepted schedule starts a worker, which runs until it is told to stop. The scheduler keeps
all workers it ever started and, for each tag, which of them is in charge; scheduling a tag anew
stops the worker that was. A shut down scheduler has stopped every worker in charge and takes no
more immediate work.
-/

set_option autoImplicit false
set_option relaxedAutoImplicit false

namespace FormCatalog

/-- A worker for a recurring task. -/
structure Worker where
  tag : String
  interval : Number.Binary64
  /-- Whether the worker was told to stop. -/
  stopped : Bool := false
  deriving DecidableEq, Repr

/-- Whether a worker can wait for its interval: the nanoseconds are counted in 63 bits. A worker
that cannot breaks off after its start without a report. -/
def Worker.canWait (w : Worker) : Bool :=
  match w.interval with
  | .finite _ m e =>
    let (n, d) := Number.Binary64.ratio m e
    n * Nat.pow 10 9 < Nat.pow 2 63 * d
  | .infinite _ => false
  | .notANumber => true

/-- Workers, and which of them is in charge of a tag. -/
structure Scheduler where
  /-- All workers, in the order in which they were started. -/
  workers : List Worker := []
  /-- For each scheduled tag, the place of its worker. -/
  inCharge : List (String × Nat) := []
  accepting : Bool := true
  deriving DecidableEq, Repr

namespace Scheduler

/-- A pool must have a worker. -/
def ofSize (workers : Int) : Except Fault Scheduler :=
  if workers ≤ 0 then .error (.invalid "max_workers must be greater than 0") else .ok {}

/-- Whether a task is scheduled under a tag. -/
def isScheduled (s : Scheduler) (tag : String) : Bool := s.inCharge.any (·.1 = tag)

/-- The place of the worker in charge of a tag. -/
def workerOf? (s : Scheduler) (tag : String) : Option Nat :=
  (s.inCharge.find? (·.1 = tag)).map (·.2)

/-- Tells the workers at some places to stop. -/
def stopAll (s : Scheduler) (places : List Nat) : Scheduler :=
  { s with workers := s.workers.mapIdx fun i w ↦
      if places.contains i then { w with stopped := true } else w }

/-- Schedules a task under a tag, in the place of an earlier one. An interval of zero or less is
refused. -/
def schedule (s : Scheduler) (tag : String) (interval : Number.Binary64) :
    Except Fault Scheduler :=
  if interval.isZeroOrLess then .error (.invalid "interval_seconds must be positive")
  else
    let earlier := (s.workerOf? tag).toList
    let s := s.stopAll earlier
    .ok { s with
      workers := s.workers ++ [⟨tag, interval, false⟩]
      inCharge := s.inCharge.filter (·.1 ≠ tag) ++ [(tag, s.workers.length)] }

/-- Stops the task under a tag, if there is one. -/
def cancel (s : Scheduler) (tag : String) : Scheduler :=
  let s := s.stopAll (s.workerOf? tag).toList
  { s with inCharge := s.inCharge.filter (·.1 ≠ tag) }

/-- Stops all tasks, and takes no more work. -/
def shutdown (s : Scheduler) : Scheduler :=
  let s := s.stopAll (s.inCharge.map (·.2))
  { s with inCharge := [], accepting := false }

/-- Refuses immediate work after a shutdown. -/
def checkAccepting (s : Scheduler) : Except Fault Unit :=
  if s.accepting then .ok () else .error (.stopped "cannot schedule new futures after shutdown")

/-- What a worker reports when it starts. -/
def started (tag : String) (interval : Number.Binary64) : Entry :=
  ⟨.info, .scheduler,
    "Recurring task " ++ tag ++ " started (interval=" ++ interval.wholeText ++ "s)"⟩

/-- What a worker reports when it stops. -/
def ended (tag : String) : Entry := ⟨.info, .scheduler, "Recurring task " ++ tag ++ " stopped"⟩

/-- What a worker reports when its task fails. -/
def failed (tag : String) : Entry := ⟨.error, .scheduler, "Recurring task " ++ tag ++ " failed"⟩

/-- What the workers that stop in a step report. -/
def endedBetween (before after : Scheduler) : List Entry :=
  ((before.workers.zip after.workers).filter fun (b, a) ↦ !b.stopped && a.stopped && a.canWait).map
    fun (_, a) ↦ ended a.tag

variable {σ : Type}

/-- Puts entries into the journal. -/
def report [Recording σ] (entries : List Entry) : Op σ Unit :=
  modify fun s ↦ entries.foldl (fun s e ↦ Recording.record e s) s

/-- Schedules a task, in a state that holds a scheduler. -/
def scheduleIn [Recording σ] (part : σ → Scheduler) (restore : Scheduler → σ → σ) (tag : String)
    (interval : Number.Binary64) : Op σ Unit := do
  let before := part (← get)
  let after ← Op.ofExcept (before.schedule tag interval)
  modify (restore after)
  report (started tag interval :: endedBetween before after)

/-- Stops a task, in a state that holds a scheduler. -/
def cancelIn [Recording σ] (part : σ → Scheduler) (restore : Scheduler → σ → σ) (tag : String) :
    Op σ Unit := do
  let before := part (← get)
  let after := before.cancel tag
  modify (restore after)
  report (endedBetween before after)

/-- Stops everything, in a state that holds a scheduler. -/
def shutdownIn [Recording σ] (part : σ → Scheduler) (restore : Scheduler → σ → σ) : Op σ Unit := do
  let before := part (← get)
  let after := before.shutdown
  modify (restore after)
  report (endedBetween before after)

end Scheduler

end FormCatalog
