import FormCatalog.Fault
import FormCatalog.Journal

/-!
Programs over a state: reporting, recovering, and running a program over one part of a state.
-/

set_option autoImplicit false
set_option relaxedAutoImplicit false

namespace FormCatalog.Op

/-- Puts an entry into the journal. -/
def note {σ : Type} [Recording σ] (level : Level) (component : Component) (message : String) :
    Op σ Unit :=
  modify (Recording.record ⟨level, component, message⟩)

/-- Runs a program and hands a fault over as a value. -/
def attempt {σ α : Type} (x : Op σ α) : Op σ (Except Fault α) := fun s ↦
  match x s with
  | .ok a s => .ok (.ok a) s
  | .error e s => .ok (.error e) s

/-- Ends as a value says: with its result, or with its fault. -/
def ofExcept {σ α : Type} : Except Fault α → Op σ α
  | .ok a => pure a
  | .error e => throw e

/-- Runs a program over a part of the state. -/
def within {σ τ α : Type} (part : σ → τ) (restore : τ → σ → σ) (x : Op τ α) : Op σ α := fun s ↦
  match x (part s) with
  | .ok a t => .ok a (restore t s)
  | .error e t => .error e (restore t s)

end FormCatalog.Op
