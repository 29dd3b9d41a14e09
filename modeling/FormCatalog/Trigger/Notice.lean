import FormCatalog.Op

/-!
Telling the user about failed passes.

A notice has the same title and hint for every failure; the action it offers is to sign in when the
server refused the credentials and to look at the forms otherwise.
-/

set_option autoImplicit false
set_option relaxedAutoImplicit false

namespace FormCatalog

/-- What the user is told. -/
structure Notice where
  title : String
  message : String
  action : String
  deriving DecidableEq, Repr

namespace Notice

/-- The notice for a failed pass. -/
def of (fault : SyncFault) : Notice where
  title := "Form update failed"
  message :=
    "If you keep having this problem, report it to the person who asked you to collect data."
  action :=
    match fault.kind with
    | .signIn => "Server Requires Authentication"
    | .tryAgain => "Fill Blank Form"

/-- What is reported of a failed pass; refused credentials matter more than the rest. -/
def entry (fault : SyncFault) : Entry where
  level :=
    match fault.kind with
    | .signIn => .error
    | .tryAgain => .warning
  component := .notice
  message := (of fault).title ++ ": " ++ fault.message ++ " (" ++ (of fault).action ++ ")"

end Notice

end FormCatalog
