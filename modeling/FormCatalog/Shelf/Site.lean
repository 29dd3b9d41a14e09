import FormCatalog.Disk.Basic
import FormCatalog.Op
import FormCatalog.Shelf.Table

/-!
The state of a device: its disk, its table of forms, the state of the network behind it, and the
journal, the last entry first.
-/

set_option autoImplicit false
set_option relaxedAutoImplicit false

namespace FormCatalog

/-- A device and the network behind it. -/
structure Site (N : Type) where
  disk : Disk
  table : Table
  net : N
  journal : List Entry

namespace Site

variable {N : Type}

instance : Recording (Site N) where
  record e s := { s with journal := e :: s.journal }

/-- Asks the disk. -/
def ask {α : Type} (question : Disk → Except Fault α) : Op (Site N) α := do
  Op.ofExcept (question (← get).disk)

/-- Changes the disk; a refused change leaves it as it was. -/
def change (f : Disk → Except Fault Disk) : Op (Site N) Unit := do
  let disk ← ask f
  modify fun s ↦ { s with disk := disk }

/-- Runs a program of the disk. -/
def onDisk {α : Type} (x : Op Disk α) : Op (Site N) α :=
  Op.within (·.disk) (fun d s ↦ { s with disk := d }) x

/-- Changes the table. -/
def changeTable (f : Table → Table) : Op (Site N) Unit :=
  modify fun s ↦ { s with table := f s.table }

end Site

/-- Whatever gives the content at an address. -/
abbrev Source (N : Type) := String → Op (Site N) Bytes

end FormCatalog
