/-!
Paths and places.

A `Path` is what a path text says: whether it begins at the root, and its components, empty ones and
single dots left out. A `Place` is where something is: the components from the root down, without
dots. `Path.resolve` follows a path from a working place by its text alone, a double dot taking back
the component before it.
-/

set_option autoImplicit false
set_option relaxedAutoImplicit false

namespace FormCatalog

/-- A place in the tree of directories: the components from the root down. -/
abbrev Place := List String

/-- A path as written. -/
structure Path where
  /-- The slashes kept in front: none, one, or exactly two. -/
  slashes : Nat
  parts : List String
  deriving DecidableEq, Repr

namespace Path

/-- The pieces of a text between slashes. -/
def components (cs : List Char) : List (List Char) :=
  cs.foldr (fun c pieces ↦
    if c = '/' then [] :: pieces
    else
      match pieces with
      | p :: rest => (c :: p) :: rest
      | [] => [[c]]) [[]]

/-- How many slashes of a beginning are kept: three or more count as one. -/
def keptSlashes (cs : List Char) : Nat :=
  match (cs.takeWhile (· = '/')).length with
  | 0 => 0
  | 2 => 2
  | _ => 1

/-- The path that a text writes. -/
def ofText (s : String) : Path where
  slashes := keptSlashes s.toList
  parts := ((components s.toList).map String.ofList).filter fun c ↦ c ≠ "" && c ≠ "."

/-- The text of a path; a path without anything is a dot. -/
def text (p : Path) : String :=
  let body := String.ofList (List.replicate p.slashes '/') ++ "/".intercalate p.parts
  if body = "" then "." else body

/-- Whether the path begins at the root. -/
def isAbsolute (p : Path) : Bool := p.slashes ≠ 0

/-- A path taken from another one; one that begins at the root stands alone. -/
def join (p q : Path) : Path :=
  if q.isAbsolute then q else ⟨p.slashes, p.parts ++ q.parts⟩

/-- A path with one more component. -/
def child (p : Path) (name : String) : Path := ⟨p.slashes, p.parts ++ [name]⟩

/-- The path without its last component. -/
def parent (p : Path) : Path := ⟨p.slashes, p.parts.dropLast⟩

/-- The path from the root to a place. -/
def ofPlace (place : Place) : Path := ⟨1, place⟩

/-- Follows components from a place, by their text alone. -/
def follow (place : Place) (parts : List String) : Place :=
  parts.foldl (fun here c ↦ if c = ".." then here.dropLast else here ++ [c]) place

/-- The place that a path means, taken from a working place. -/
def resolve (working : Place) (p : Path) : Place :=
  follow (if p.isAbsolute then [] else working) p.parts

/-- Whether a component holds the character that no path may hold. -/
def holdsNull (p : Path) : Bool :=
  p.parts.any fun c ↦ c.toList.contains (Char.ofNat 0)

end Path

end FormCatalog
