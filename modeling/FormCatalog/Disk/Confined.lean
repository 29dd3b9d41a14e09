import FormCatalog.Disk.Path
import FormCatalog.Fault

/-!
Keeping names given by a server inside a directory.

`confined` follows a name from a base by its text alone and answers with the place only if it is the
base or below it.
-/

set_option autoImplicit false
set_option relaxedAutoImplicit false

namespace FormCatalog.Path

/-- The path that a name means from a base, if it does not lead out of the base. A name with a null
character means nothing. -/
def confined (working : Place) (base : Path) (name : String) : Except Fault (Option Path) :=
  let target := base.join (ofText name)
  if target.holdsNull then .error (.invalid "embedded null byte")
  else
    let place := target.resolve working
    if (base.resolve working).isPrefixOf place then .ok (some (ofPlace place)) else .ok none

end FormCatalog.Path
