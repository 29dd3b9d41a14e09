import FormCatalog.Catalog.Memory
import FormCatalog.Shelf.Basic

/-!
A network held in memory: a server that answers from memory, and content by address.

Every address asked for is noted. An address may be set to a fault; one that is not known answers
as a server that does not find it.
-/

set_option autoImplicit false
set_option relaxedAutoImplicit false

namespace FormCatalog

/-- A server and a source in memory. -/
structure Archive where
  published : Memory.Published := {}
  contents : List (String × Except Fault Bytes) := []
  /-- The addresses asked for, the last one first. -/
  requests : List String := []

namespace Archive

/-- The content at an address. -/
def content (url : String) : Op Archive Bytes := do
  modify fun a ↦ { a with requests := url :: a.requests }
  match (← get).contents.find? (·.1 = url) with
  | some (_, answer) => Op.ofExcept answer
  | none => throw (.sync (.transport ("GET " ++ url ++ " returned 404")))

/-- Sets the content at an address. -/
def put (url : String) (answer : Except Fault Bytes) (a : Archive) : Archive :=
  { a with contents := (url, answer) :: a.contents.filter (·.1 ≠ url) }

/-- Takes the content at an address away. -/
def remove (url : String) (a : Archive) : Archive :=
  { a with contents := a.contents.filter (·.1 ≠ url) }

/-- Runs a program of the archive behind a device. -/
def behind {α : Type} (x : Op Archive α) : Op (Site Archive) α :=
  Op.within (·.net) (fun n s ↦ { s with net := n }) x

/-- The archive as a source of content. -/
def source : Source Archive := fun url ↦ behind (content url)

/-- A catalog of the archive's server and the shelf. -/
def catalog (forms : FormsDirectory) : Catalog (Site Archive) where
  server :=
    { formList := behind (Op.within (·.published) (fun p a ↦ { a with published := p })
        Memory.Published.formList)
      manifest := fun url ↦ behind (Op.within (·.published) (fun p a ↦ { a with published := p })
        (Memory.Published.manifest url)) }
  device := Shelf.device source forms

end Archive

end FormCatalog
