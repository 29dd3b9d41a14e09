import FormCatalog.Disk.Path
import FormCatalog.Number.Binary64
import FormCatalog.Web.ServerAddress

/-!
The settings of the program.

`Settings.prepare` checks what is needed to talk to a server: an address that can serve as one, and
a user name whenever there is a password. The address is put into its normal form on the way.
-/

set_option autoImplicit false
set_option relaxedAutoImplicit false

namespace FormCatalog

/-- How credentials are sent. -/
inductive SignInScheme where
  | basic
  | digest
  deriving DecidableEq, Repr

/-- The name of a scheme in settings. -/
def SignInScheme.name : SignInScheme → String
  | basic => "basic"
  | digest => "digest"

/-- How the device keeps its forms up to date. -/
inductive UpdateMode where
  | manual
  | previouslyDownloadedOnly
  | matchExactly
  deriving DecidableEq, Repr

/-- The name of a mode in settings. -/
def UpdateMode.name : UpdateMode → String
  | manual => "manual"
  | previouslyDownloadedOnly => "previously_downloaded_only"
  | matchExactly => "match_exactly"

/-- The mode with a name. -/
def UpdateMode.ofName? : String → Option UpdateMode
  | "manual" => some manual
  | "previously_downloaded_only" => some previouslyDownloadedOnly
  | "match_exactly" => some matchExactly
  | _ => none

/-- The settings of the program. -/
structure Settings where
  debug : Bool := false
  serverUrl : String := ""
  formListPath : String := "/formList"
  allowInsecureHttp : Bool := false
  requestTimeoutSeconds : Number.Binary64 := Number.Binary64.ofInt 30
  username : String := ""
  password : String := ""
  authScheme : SignInScheme := .digest
  updateMode : UpdateMode := .manual
  syncIntervalMinutes : Int := 15
  syncWorkers : Int := 2
  databaseUrl : String := "sqlite:///data/formsync.db"
  formsDir : Path := Path.ofText "./forms"

namespace Settings

/-- Whether the device is to hold what the server lists. -/
def matchExactly (s : Settings) : Bool := s.updateMode = .matchExactly

/-- What settings lack for talking to a server. -/
inductive Shortcoming where
  | noServer
  | badServer (refusal : ServerAddress.Refusal)
  | noUsername
  deriving DecidableEq, Repr

/-- The text of a shortcoming. -/
def Shortcoming.message : Shortcoming → String
  | noServer => "FORMSYNC_SERVER_URL must be configured"
  | badServer refusal => refusal.message
  | noUsername => "FORMSYNC_USERNAME must be set when FORMSYNC_PASSWORD is set"

/-- The settings with the address in normal form, if it has one, and all that they lack for talking
to a server. -/
def prepare (s : Settings) : Settings × List Shortcoming :=
  let (s, address) : Settings × List Shortcoming :=
    if s.serverUrl = "" then (s, [.noServer])
    else
      match ServerAddress.check s.serverUrl s.allowInsecureHttp with
      | .ok normal => ({ s with serverUrl := normal }, [])
      | .error refusal => (s, [.badServer refusal])
  (s, address ++ if s.password ≠ "" ∧ s.username = "" then [.noUsername] else [])

/-- The text that reports shortcomings. -/
def report (shortcomings : List Shortcoming) : String :=
  "Invalid sync configuration: " ++ "; ".intercalate (shortcomings.map (·.message))

end Settings

end FormCatalog
