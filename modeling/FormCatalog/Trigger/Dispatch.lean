import FormCatalog.Trigger.Traffic

/-!
Handing passes to a pool.

A pass for the background is let in on the thread of the one who asks for it, and is then handed to
a pool of workers. Two things can come between. A pool that was shut down refuses the task, and the
one who asked gets the refusal as a fault; and a task that waits for a worker may be cancelled.
Either way the pass is *lost*: its caller takes no further step, so nothing of it is ever run.
-/

set_option autoImplicit false
set_option relaxedAutoImplicit false

namespace FormCatalog

/-- How a pass got lost between the gate and a worker. -/
inductive Loss where
  /-- The pool refused the task, and the one who asked got this fault. -/
  | refused (fault : Fault)
  | cancelled
  deriving DecidableEq, Repr

/-- Callers, the pool that they hand their passes to, and the passes that got lost. -/
structure Dispatch (W : Type) where
  traffic : Traffic W
  scheduler : Scheduler := {}
  /-- The lost passes by the places of their callers, the last one first. -/
  losses : List (Nat × Loss) := []

/-- What may come next. -/
inductive Turn (W : Type) where
  | move (move : Move W)
  /-- The task of a caller is cancelled, if it still waits for a worker. -/
  | cancel (place : Nat)
  | shutdown

/-- Whether the next step of a caller is to hand its pass over. -/
def Caller.handsOver : Caller → Bool
  | ⟨.background, .admitted⟩ => true
  | _ => false

/-- Whether the pass of a caller waits for a worker. -/
def Caller.waits : Caller → Bool
  | ⟨_, .queued⟩ => true
  | _ => false

namespace Dispatch

variable {W : Type} (d : Dispatch W)

/-- Whether the pass of a caller got lost. -/
def isLost (place : Nat) : Bool := d.losses.any (·.1 = place)

/-- The pass of a caller gets lost. -/
def lose (place : Nat) (loss : Loss) : Dispatch W := { d with losses := (place, loss) :: d.losses }

variable [Recording W]

/-- A move of the callers. -/
def go? (move : Move W) : Option (Dispatch W) :=
  (d.traffic.step? move).map fun traffic ↦ { d with traffic }

/-- Takes a turn, if it can be taken. -/
def step? : Turn W → Option (Dispatch W)
  | .move (.advance place outcome) =>
    if d.isLost place then none
    else if d.traffic.callers[place]?.any (·.handsOver) then
      match d.scheduler.checkAccepting with
      | .ok () => d.go? (.advance place outcome)
      | .error fault => some (d.lose place (.refused fault))
    else d.go? (.advance place outcome)
  | .move move => d.go? move
  | .cancel place =>
    if d.isLost place then none
    else if d.traffic.callers[place]?.any (·.waits) then some (d.lose place .cancelled)
    else none
  | .shutdown => some { d with scheduler := d.scheduler.shutdown }

/-- Takes a number of turns, if they can be taken. -/
def run? (d : Dispatch W) : List (Turn W) → Option (Dispatch W)
  | [] => some d
  | turn :: turns => (d.step? turn).bind (·.run? turns)

/-- The turns lead here from a new station with an open pool. -/
def ReachedBy (d : Dispatch W) (turns : List (Turn W)) : Prop :=
  ∃ s : Station W, s.gate = {} ∧ s.failures = [] ∧
    run? { traffic := { station := s } } turns = some d

end Dispatch

end FormCatalog
