/-!
Runs of code points.

A table of characters lists runs, each by its first and its last code point, and perhaps with a
value for all of them.
-/

set_option autoImplicit false
set_option relaxedAutoImplicit false

namespace FormCatalog.Text

/-- Whether a code point is in one of the runs. -/
def inRuns (runs : List (Nat × Nat)) (n : Nat) : Bool :=
  runs.any fun (first, last) ↦ first ≤ n && n ≤ last

/-- The value of the run that a code point is in. -/
def runValue? {α : Type} (runs : List (Nat × Nat × α)) (n : Nat) : Option α :=
  (runs.find? fun (first, last, _) ↦ first ≤ n && n ≤ last).map (·.2.2)

end FormCatalog.Text
