import FormCatalog.Text.Quoted

/-!
What can go wrong, and the words for it.

A `SyncFault` ends a whole pass; its `kind` says whether the user should sign in again or simply try
again. A failed download of one form is a fault of its own, which the pass collects. The remaining
faults come from below: the file system, a look-up, a value out of range. `Op` is the type of
programs that change a state and may end in a fault, the state at the fault being kept.
-/

set_option autoImplicit false
set_option relaxedAutoImplicit false

namespace FormCatalog

/-- What the user can do about a failed pass. -/
inductive FaultKind where
  | tryAgain
  | signIn
  deriving DecidableEq, Repr

/-- A fault that ends a pass. -/
inductive SyncFault where
  | general (message : String)
  /-- The network or the server failed. -/
  | transport (message : String)
  /-- The server refused the credentials. -/
  | rejected (message : String)
  /-- Some of the forms could not be downloaded. -/
  | incomplete (message : String) (formIds : List String)
  deriving DecidableEq, Repr

/-- Only refused credentials ask the user to sign in. -/
def SyncFault.kind : SyncFault → FaultKind
  | rejected _ => .signIn
  | _ => .tryAgain

/-- The text of a fault; failed downloads have a text of their own where none is given. -/
def SyncFault.message : SyncFault → String
  | general m => m
  | transport m => m
  | rejected m => m
  | incomplete m _ => if m = "" then "Failed to download one or more forms" else m

/-- Why the file system refuses. -/
inductive DiskCause where
  | noEntry
  | exists
  | notDirectory
  | isDirectory
  | notEmpty
  | nameTooLong
  | notPermitted
  deriving DecidableEq, Repr

/-- The number of a cause. -/
def DiskCause.number : DiskCause → Nat
  | notPermitted => 1
  | noEntry => 2
  | .exists => 17
  | notDirectory => 20
  | isDirectory => 21
  | nameTooLong => 36
  | notEmpty => 39

/-- The wording of a cause. -/
def DiskCause.text : DiskCause → String
  | noEntry => "No such file or directory"
  | .exists => "File exists"
  | notDirectory => "Not a directory"
  | isDirectory => "Is a directory"
  | notEmpty => "Directory not empty"
  | nameTooLong => "File name too long"
  | notPermitted => "Operation not permitted"

/-- What the file system was asked about. -/
inductive DiskSubject where
  | path (text : String)
  /-- The root of a tree to be removed, shown as the path object it was given as. -/
  | root (text : String)
  | move (source target : String)
  deriving DecidableEq, Repr

/-- The subject as shown at the end of a message. -/
def DiskSubject.text : DiskSubject → String
  | path p => Text.quoted p
  | root p => "PosixPath(" ++ Text.quoted p ++ ")"
  | move s t => Text.quoted s ++ " -> " ++ Text.quoted t

/-- A refusal of the file system, or one that is known by its text alone. -/
inductive DiskFault where
  | refused (cause : DiskCause) (subject : DiskSubject)
  | other (message : String)
  deriving DecidableEq, Repr

/-- The text of a refusal: number, wording and subject. -/
def DiskFault.message : DiskFault → String
  | refused cause subject =>
    "[Errno " ++ toString cause.number ++ "] " ++ cause.text ++ ": " ++ subject.text
  | other m => m

/-- Anything that can go wrong. -/
inductive Fault where
  /-- The pass as a whole failed. -/
  | sync (fault : SyncFault)
  /-- One form could not be downloaded. -/
  | download (formId message : String)
  | disk (fault : DiskFault)
  /-- A look-up found nothing under this key. -/
  | missingKey (key : String)
  /-- A text has no character at a place that was asked for. -/
  | outOfRange (message : String)
  /-- A text is not an address. -/
  | badUrl (message : String)
  /-- A value is not acceptable. -/
  | invalid (message : String)
  /-- The operation is not possible in the present state. -/
  | stopped (message : String)
  /-- The operation is not provided. -/
  | unsupported (message : String)
  /-- A text that is not the address of a database. -/
  | databaseAddress (message : String)
  /-- A kind of database that is not known. -/
  | databaseKind (message : String)
  /-- A kind of database whose driver is not installed. -/
  | databaseDriver (message : String)
  /-- The user asked to stop. -/
  | interrupted (message : String)
  deriving DecidableEq, Repr

/-- The text of a fault. -/
def Fault.message : Fault → String
  | sync f => f.message
  | download formId m => formId ++ ": " ++ m
  | disk f => f.message
  | missingKey key => Text.quoted key
  | outOfRange m => m
  | badUrl m => m
  | invalid m => m
  | stopped m => m
  | unsupported m => m
  | databaseAddress m => m
  | databaseKind m => m
  | databaseDriver m => m
  | interrupted m => m

/-- Programs over a state that may end in a fault and keep the state reached. -/
abbrev Op (σ : Type) := EStateM Fault σ

end FormCatalog
