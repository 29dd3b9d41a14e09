import FormCatalog.Catalog.Basic

/-!
The table of forms: one row for each form on the device.

Rows are kept in the order of their form ids, character by character, and no two rows share an id.
-/

set_option autoImplicit false
set_option relaxedAutoImplicit false

namespace FormCatalog

/-- What the table holds of one form. -/
structure Row where
  formId : String
  version : Option String
  title : String
  contentHash : String
  /-- Where the definition is. -/
  formPath : String
  /-- Where the media files are, for a form that came with a manifest. -/
  mediaPath : Option String
  seenKey : Option String
  deriving DecidableEq, Repr

/-- The record of a form as a row has it. -/
def Row.record (r : Row) : FormRecord :=
  ⟨r.formId, r.contentHash, r.version, r.title, r.seenKey⟩

/-- The rows of the table. -/
abbrev Table := List Row

namespace Table

/-- The row of a form. -/
def row? (t : Table) (formId : String) : Option Row := t.find? (·.formId = formId)

/-- Puts a row where its id belongs, instead of an earlier row with the same id. -/
def put (row : Row) : Table → Table
  | [] => [row]
  | r :: rest =>
    if r.formId = row.formId then row :: rest
    else if row.formId < r.formId then row :: r :: rest
    else r :: put row rest

/-- Takes the row of a form away. -/
def remove (t : Table) (formId : String) : Table := t.filter (·.formId ≠ formId)

/-- Sets or clears the key remembered for a form, if it has a row. -/
def remember (t : Table) (formId : String) (key : Option String) : Table :=
  t.map fun r ↦ if r.formId = formId then { r with seenKey := key } else r

end Table

end FormCatalog
