import FormCatalog.Disk.Path
import FormCatalog.Op
import FormCatalog.Digest.Bytes

/-!
A tree of files and directories, and what a file system does with it.

The tree is a finite map from places to items. Every operation takes a path, walks it from the
working place one component at a time, and either changes the map or refuses with a cause; the
refusals are those that the tree itself forces, together with the limits on the length of a
component and of a path.

The tree has no symbolic links, so no walk runs in a circle. A walk may go as deep as its path is
long: an interpreter that makes each parent directory inside the call for its child, and limits the
depth of calls, gives up on some paths that are carried out here.
-/

set_option autoImplicit false
set_option relaxedAutoImplicit false

namespace FormCatalog

/-- What can be at a place. -/
inductive Item where
  | file (content : Bytes)
  | directory
  deriving DecidableEq

/-- A tree of files and directories and the working place in it. The root is always there. -/
structure Disk where
  working : Place
  items : List (Place × Item)

namespace Disk

/-- The most bytes that a component may have. -/
def componentLimit : Nat := 255

/-- The number of bytes from which on a path is too long. -/
def pathLimit : Nat := 4096

/-- What is at a place. -/
def item? (d : Disk) (place : Place) : Option Item :=
  if place = [] then some .directory
  else (d.items.find? (·.1 = place)).map (·.2)

/-- Puts an item at a place, instead of what was there. -/
def put (d : Disk) (place : Place) (item : Item) : Disk :=
  if d.items.any (·.1 = place) then
    { d with items := d.items.map fun i ↦ if i.1 = place then (place, item) else i }
  else { d with items := d.items ++ [(place, item)] }

/-- Takes away everything at a place and below it. -/
def clear (d : Disk) (place : Place) : Disk :=
  { d with items := d.items.filter fun i ↦ !place.isPrefixOf i.1 }

/-- Whether a directory holds nothing. -/
def isEmptyAt (d : Disk) (place : Place) : Bool :=
  !d.items.any fun i ↦ place.isPrefixOf i.1 && i.1 ≠ place

/-- Walks components from a place. Only directories can be walked through; the last place need not
be there. -/
def walk (d : Disk) (place : Place) : List String → Except DiskCause Place
  | [] => .ok place
  | c :: rest =>
    match d.item? place with
    | none => .error .noEntry
    | some (.file _) => .error .notDirectory
    | some .directory =>
      if c = ".." then walk d place.dropLast rest
      else if c.utf8ByteSize > componentLimit then .error .nameTooLong
      else walk d (place ++ [c]) rest

/-- The place that a path leads to. -/
def locate (d : Disk) (p : Path) : Except DiskCause Place :=
  if p.text.utf8ByteSize ≥ pathLimit then .error .nameTooLong
  else d.walk (if p.isAbsolute then [] else d.working) p.parts

/-- The item that a path leads to. -/
def probe (d : Disk) (p : Path) : Except DiskCause (Place × Item) := do
  let place ← d.locate p
  match d.item? place with
  | some item => .ok (place, item)
  | none => .error .noEntry

/-- Refuses a path, showing it as written. -/
def refuse {α : Type} (p : Path) (cause : DiskCause) : Except Fault α :=
  .error (.disk (.refused cause (.path p.text)))

/-- Turns a cause into a refusal of a path; a path with a null character is never looked at. -/
def checked {α : Type} (p : Path) (x : Except DiskCause α) : Except Fault α :=
  if p.holdsNull then .error (.invalid "embedded null byte")
  else
    match x with
    | .ok a => .ok a
    | .error cause => refuse p cause

/-- The item at a path as far as looking for it answers at all: nothing there is an answer, a name
that is too long is a refusal. -/
def look (d : Disk) (p : Path) : Except Fault (Option (Place × Item)) :=
  if p.holdsNull then .ok none
  else
    match d.probe p with
    | .ok found => .ok (some found)
    | .error .noEntry => .ok none
    | .error .notDirectory => .ok none
    | .error cause => refuse p cause

/-- Whether something is at a path. -/
def exists? (d : Disk) (p : Path) : Except Fault Bool := do
  return (← d.look p).isSome

/-- Whether a directory is at a path. -/
def isDirectory? (d : Disk) (p : Path) : Except Fault Bool := do
  match ← d.look p with
  | some (_, .directory) => return true
  | _ => return false

/-- Makes one directory. -/
def makeDirectory (d : Disk) (p : Path) : Except Fault Disk :=
  checked p do
    let place ← d.locate p
    match d.item? place with
    | some _ => .error .exists
    | none =>
      -- the place can only be missing below a directory, which the walk has seen, or is not there
      match d.item? place.dropLast with
      | some .directory => .ok (d.put place .directory)
      | some (.file _) => .error .notDirectory
      | none => .error .noEntry

/-- Whether a fault is the refusal of a missing entry. -/
def isMissing : Fault → Bool
  | .disk (.refused .noEntry _) => true
  | _ => false

/-- Whether a fault comes from the file system. -/
def isRefusal : Fault → Bool
  | .disk _ => true
  | _ => false

/-- Accepts the refusal of a directory that is there already. -/
def acceptExisting (d : Disk) (p : Path) (fault : Fault) : Except Fault Disk :=
  if isRefusal fault then do
    if ← d.isDirectory? p then .ok d else .error fault
  else .error fault

/-- Changes the disk; a refused change leaves it as it was. -/
def update (f : Disk → Except Fault Disk) : Op Disk Unit := do
  set (← Op.ofExcept (f (← get)))

/-- Makes a directory and the missing ones above it; one that is there already is accepted. What was
made stays when the rest is refused. The number bounds how many components may be missing. -/
def prepareWithin (p : Path) : Nat → Op Disk Unit
  | 0 => update (·.makeDirectory p)
  | depth + 1 => do
    match ← Op.attempt (update (·.makeDirectory p)) with
    | .ok () => return
    | .error fault =>
      if isMissing fault then
        if p.parts = [] then throw fault
        else
          prepareWithin p.parent depth
          match ← Op.attempt (update (·.makeDirectory p)) with
          | .ok () => return
          | .error fault =>
            if isMissing fault then throw fault else update (·.acceptExisting p fault)
      else update (·.acceptExisting p fault)

/-- Makes a directory and the missing ones above it; one that is there already is accepted. What was
made stays when the rest is refused. -/
def prepare (p : Path) : Op Disk Unit := prepareWithin p (p.parts.length + 1)

/-- The disk with a directory made, and the missing ones above it. -/
def makeDirectories (d : Disk) (p : Path) : Except Fault Disk :=
  match prepare p d with
  | .ok () d => .ok d
  | .error fault _ => .error fault

/-- Writes a file, in the place of an earlier one. -/
def writeContent (d : Disk) (p : Path) (content : Bytes) : Except Fault Disk :=
  checked p do
    let place ← d.locate p
    match d.item? place with
    | some .directory => .error .isDirectory
    | some (.file _) => .ok (d.put place (.file content))
    | none =>
      match d.item? place.dropLast with
      | some .directory => .ok (d.put place (.file content))
      | some (.file _) => .error .notDirectory
      | none => .error .noEntry

/-- The content of a file. -/
def readContent (d : Disk) (p : Path) : Except Fault Bytes :=
  checked p do
    match ← d.probe p with
    | (_, .file content) => .ok content
    | (_, .directory) => .error .isDirectory

/-- Removes a file; that there is none is accepted. -/
def removeEntry (d : Disk) (p : Path) : Except Fault Disk :=
  if p.holdsNull then .error (.invalid "embedded null byte")
  else
    match d.probe p with
    | .ok (place, .file _) => .ok (d.clear place)
    | .ok (_, .directory) => refuse p .isDirectory
    | .error .noEntry => .ok d
    | .error cause => refuse p cause

/-- Removes a directory with everything in it. -/
def removeTree (d : Disk) (p : Path) : Except Fault Disk :=
  if p.holdsNull then .error (.invalid "embedded null byte")
  else
    match d.probe p with
    | .ok (place, .directory) => .ok (d.clear place)
    | .ok (_, .file _) => .error (.disk (.refused .notDirectory (.root p.text)))
    | .error cause => refuse p cause

/-- Puts everything at one place, and below it, at another. -/
def relocate (d : Disk) (source target : Place) : Disk :=
  { d with items := d.items.map fun i ↦
      if source.isPrefixOf i.1 then (target ++ i.1.drop source.length, i.2) else i }

/-- Moves a directory to a path where nothing is, or an empty directory. -/
def moveDirectory (d : Disk) (source target : Path) : Except Fault Disk :=
  let outcome : Except DiskCause Disk := do
    let (origin, _) ← d.probe source
    let goal ← d.locate target
    match d.item? goal with
    | some (.file _) => .error .notDirectory
    | some .directory =>
      if d.isEmptyAt goal then .ok ((d.clear goal).relocate origin goal) else .error .notEmpty
    | none =>
      match d.item? goal.dropLast with
      | some .directory => .ok (d.relocate origin goal)
      | some (.file _) => .error .notDirectory
      | none => .error .noEntry
  match outcome with
  | .ok d => .ok d
  | .error cause => .error (.disk (.refused cause (.move source.text target.text)))

/-- The name of the `n`-th temporary directory: eight digits after a beginning. -/
def temporaryName (beginning : String) (n : Nat) : String :=
  let digits := Nat.toDigits 10 n
  beginning ++ String.ofList (List.replicate (8 - digits.length) '0' ++ digits)

/-- Makes a directory under a name that was free, and gives its path. Among as many names as there
are items, and one more, one is free. -/
def makeTemporary (d : Disk) (parent : Path) (beginning : String) : Except Fault (Path × Disk) :=
  let candidates := (List.range (d.items.length + 1)).map fun n ↦
    parent.child (temporaryName beginning n)
  let free (p : Path) : Bool :=
    match d.makeDirectory p with
    | .error (.disk (.refused .exists _)) => false
    | _ => true
  match candidates.find? free with
  | some p => do
    let d ← d.makeDirectory p
    return (p, d)
  | none => refuse (parent.child beginning) .exists

/-- Whether one path comes before another, component by component and character by character. -/
def precedes (a b : Place) : Bool :=
  List.lex a b fun x y ↦ List.lex x.toList y.toList fun c d ↦ c.toNat.blt d.toNat

/-- What is below a place: for each item its path from there, ordered component by component. -/
def below (d : Disk) (place : Place) : List (Place × Item) :=
  let inside := d.items.filter fun i ↦ place.isPrefixOf i.1 && i.1 ≠ place
  (inside.map fun i ↦ (i.1.drop place.length, i.2)).mergeSort fun a b ↦ !precedes b.1 a.1

/-- The files below a place, with their content, ordered component by component. -/
def filesBelow (d : Disk) (place : Place) : List (Place × Bytes) :=
  (d.below place).filterMap fun i ↦
    match i.2 with
    | .file content => some (i.1, content)
    | .directory => none

end Disk

end FormCatalog
