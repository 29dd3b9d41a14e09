/-!
The gate: at most one pass at a time.

The gate is held from an acquisition to the next release; an acquisition of a held gate is refused
and changes nothing. A release also tells whether the pass succeeded: the device counts as out of
sync from a failed pass to the next one that succeeds.
-/

set_option autoImplicit false
set_option relaxedAutoImplicit false

namespace FormCatalog

/-- Whether a pass is running, and whether the last one failed. -/
structure Gate where
  syncing : Bool := false
  outOfSync : Bool := false
  deriving DecidableEq, Repr

namespace Gate

/-- Takes the gate, unless it is held. -/
def tryAcquire (g : Gate) : Bool × Gate :=
  if g.syncing then (false, g) else (true, { g with syncing := true })

/-- Gives the gate back after a pass. -/
def release (success : Bool) (_ : Gate) : Gate := ⟨false, !success⟩

/-- Lets a number of callers try in turn: how many got the gate, and the gate afterwards. -/
def race : Nat → Gate → Nat × Gate
  | 0, g => (0, g)
  | n + 1, g =>
    let (won, g) := g.tryAcquire
    let (others, g) := race n g
    (if won then others + 1 else others, g)

/-- What the gate reports when it refuses. -/
def refusal : String := "Sync already in progress; ignoring request"

end Gate

end FormCatalog
