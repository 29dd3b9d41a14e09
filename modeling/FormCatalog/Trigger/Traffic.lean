import FormCatalog.Trigger.Basic

/-!
Many callers at the same time.

Every caller asks for one pass and is at a stage of its own: asking at the gate, turned away,
admitted, waiting for a worker, running its pass, giving the gate back, telling the user. A *move*
takes one caller to its next stage, or lets a new caller arrive, or changes the world, and any move
may come at any time. Passes are not looked into: what they do to the world is a move of its own,
and they may end in any way. A trying of the gate, a release and a notice are one move each, as the
gate's own lock makes them.
-/

set_option autoImplicit false
set_option relaxedAutoImplicit false

namespace FormCatalog

/-- How a pass is asked for: to be run by the caller itself, as a recurring task does, or by a
worker in the background. -/
inductive Way where
  | direct
  | background
  deriving DecidableEq, Repr

/-- How far a caller has got. -/
inductive Stage where
  | asking
  | turnedAway
  /-- The gate is taken, and nothing has been done yet. -/
  | admitted
  /-- The pass waits for a worker. -/
  | queued
  | running
  /-- The pass has ended, and the gate is still held. -/
  | ended (outcome : Except Fault Unit)
  | released (outcome : Except Fault Unit)
  /-- Nothing is left to do. -/
  | finished (outcome : Except Fault Unit)

/-- One who asks for a pass. -/
structure Caller where
  way : Way
  stage : Stage := .asking

/-- What happened to a caller, which is named by its place in the order of arrival. -/
inductive Event where
  | turnedAway (place : Nat)
  | admitted (place : Nat)
  | began (place : Nat)
  | ended (place : Nat) (outcome : Except Fault Unit)
  | released (place : Nat) (success : Bool)
  | notified (place : Nat) (fault : SyncFault)

/-- The caller that an event is about. -/
def Event.place : Event → Nat
  | turnedAway i | admitted i | began i | ended i _ | released i _ | notified i _ => i

/-- A station, the callers in the order of their arrival, and what happened, the last event
first. -/
structure Traffic (W : Type) where
  station : Station W
  callers : List Caller := []
  events : List Event := []

/-- What may come next. -/
inductive Move (W : Type) where
  | arrive (way : Way)
  /-- A caller takes its next step; `outcome` is how its pass ends, if this is where it ends. -/
  | advance (place : Nat) (outcome : Except Fault Unit)
  /-- A pass, or anything else outside the station, changes the world. -/
  | work (world : W)

variable {W : Type}

/-- Whether a pass succeeded. -/
def succeeded : Except Fault Unit → Bool
  | .ok () => true
  | .error _ => false

variable [Recording W]

/-- What a caller does on being turned away. -/
def Way.dismiss (way : Way) (s : Station W) : Station W :=
  match way with
  | direct => Recording.record Trigger.skipped s
  | background => s

/-- The next step of a caller: its new stage, the station after it, and what happened. A caller
that was turned away or is finished takes no more steps. -/
def Caller.next (caller : Caller) (place : Nat) (outcome : Except Fault Unit) (s : Station W) :
    Option (Stage × Station W × List Event) :=
  match caller.stage with
  | .asking =>
    let (won, s) := s.attempted
    if won then some (.admitted, s, [.admitted place])
    else some (.turnedAway, caller.way.dismiss s, [.turnedAway place])
  | .turnedAway => none
  | .admitted =>
    match caller.way with
    | .direct => some (.running, s, [.began place])
    | .background => some (.queued, s, [])
  | .queued => some (.running, s, [.began place])
  | .running => some (.ended outcome, s, [.ended place outcome])
  | .ended outcome =>
    some (.released outcome, s.givenBack (succeeded outcome),
      [.released place (succeeded outcome)])
  | .released (.error (.sync fault)) =>
    some (.finished (.error (.sync fault)), s.told fault, [.notified place fault])
  | .released outcome => some (.finished outcome, s, [])
  | .finished _ => none

namespace Traffic

/-- The traffic after a caller has come to another stage. -/
def moved (t : Traffic W) (place : Nat) (caller : Caller) (stage : Stage) (s : Station W)
    (events : List Event) : Traffic W where
  station := s
  callers := t.callers.set place { caller with stage }
  events := events ++ t.events

/-- Makes a move, if it can be made. -/
def step? (t : Traffic W) : Move W → Option (Traffic W)
  | .arrive way => some { t with callers := t.callers ++ [⟨way, .asking⟩] }
  | .advance place outcome =>
    t.callers[place]?.bind fun caller ↦
      (caller.next place outcome t.station).map fun (stage, s, events) ↦
        t.moved place caller stage s events
  | .work world => some { t with station := { t.station with world } }

/-- Makes a number of moves, if they can be made. -/
def run? (t : Traffic W) : List (Move W) → Option (Traffic W)
  | [] => some t
  | move :: moves => (t.step? move).bind (·.run? moves)

/-- What the callers at a new station can lead to. -/
def Reachable (t : Traffic W) : Prop :=
  ∃ s : Station W, s.gate = {} ∧ s.failures = [] ∧ ∃ moves, run? { station := s } moves = some t

end Traffic

end FormCatalog
