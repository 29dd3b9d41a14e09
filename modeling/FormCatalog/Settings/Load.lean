import FormCatalog.Settings.EnvFile
import FormCatalog.Settings.Reading
import FormCatalog.Text.LowerCase
import FormCatalog.Text.Utf8

/-!
Where settings come from.

A setting is given as an argument, or in the environment, or in a settings file; the first of these
that gives it counts. In the latter two it goes by its name with `FORMSYNC_` in front, in upper or
lower case. All settings are read before the outcome is known, so that every violation is reported,
in the order of the settings.
-/

set_option autoImplicit false
set_option relaxedAutoImplicit false

namespace FormCatalog.Settings

/-- Everything that settings are taken from. -/
structure Sources where
  arguments : List (String × Json) := []
  environment : List (String × String) := []
  /-- The content of the settings file, if there is one. -/
  file : Option Bytes := none

/-- Why settings cannot be had. -/
inductive LoadFault where
  | violations (list : List Violation)
  | unreadable (fault : Utf8.Fault)

/-- The text of a fault. -/
def LoadFault.message : LoadFault → String
  | violations list => violationReport list
  | unreadable fault => fault.message

/-- The name of a setting outside the program. -/
def outerName (field : String) : String := "formsync_" ++ field

/-- All settings, by their names. -/
def fieldNames : List String :=
  ["debug", "server_url", "form_list_path", "allow_insecure_http", "request_timeout_seconds",
    "username", "password", "auth_scheme", "form_update_mode", "sync_interval_minutes",
    "sync_workers", "database_url", "forms_dir"]

/-- The last entry whose name, in lower case, is the given one. -/
def named? {α : Type} (name : String) (entries : List (String × α)) : Option α :=
  (entries.reverse.find? fun e ↦ String.ofList (Text.lower e.1.toList) = name).map (·.2)

/-- What is given for a setting. -/
def given? (arguments : List (String × Json)) (environment : List (String × String))
    (file : List (String × Option String)) (field : String) : Option Json :=
  match Json.lastMember? field arguments with
  | some v => some v
  | none =>
    match named? (outerName field) environment with
    | some text => some (.string text)
    | none => ((named? (outerName field) file).bind id).map .string

/-- A setting, or the violation; a setting that is not given has its default. -/
def field {α : Type} (given? : String → Option Json) (name : String) (read : Json → Reading α)
    (default : α) : Except Violation α :=
  match given? name with
  | none => .ok default
  | some v =>
    match read v with
    | .ok a => .ok a
    | .error rule => .error ⟨name, rule, v.text?⟩

/-- The violation, if there is one. -/
def violation? {α : Type} : Except Violation α → Option Violation
  | .ok _ => none
  | .error v => some v

/-- Reads all settings from what is given. -/
def read (given? : String → Option Json) : Except LoadFault Settings :=
  let d : Settings := {}
  let debug := field given? "debug" readBool d.debug
  let serverUrl := field given? "server_url" readAddress d.serverUrl
  let formListPath := field given? "form_list_path" readText d.formListPath
  let allowInsecureHttp := field given? "allow_insecure_http" readBool d.allowInsecureHttp
  let timeout := field given? "request_timeout_seconds" readPositive d.requestTimeoutSeconds
  let username := field given? "username" readText d.username
  let password := field given? "password" readText d.password
  let authScheme := field given? "auth_scheme" readScheme d.authScheme
  let updateMode := field given? "form_update_mode" readMode d.updateMode
  let interval := field given? "sync_interval_minutes" readCount d.syncIntervalMinutes
  let workers := field given? "sync_workers" readCount d.syncWorkers
  let databaseUrl := field given? "database_url" readText d.databaseUrl
  let formsDir := field given? "forms_dir" readPath d.formsDir
  match debug, serverUrl, formListPath, allowInsecureHttp, timeout, username, password, authScheme,
    updateMode, interval, workers, databaseUrl, formsDir with
  | .ok debug, .ok serverUrl, .ok formListPath, .ok allowInsecureHttp, .ok timeout, .ok username,
    .ok password, .ok authScheme, .ok updateMode, .ok interval, .ok workers, .ok databaseUrl,
    .ok formsDir =>
    .ok ⟨debug, serverUrl, formListPath, allowInsecureHttp, timeout, username, password, authScheme,
      updateMode, interval, workers, databaseUrl, formsDir⟩
  | _, _, _, _, _, _, _, _, _, _, _, _, _ =>
    .error (.violations ([violation? debug, violation? serverUrl, violation? formListPath,
      violation? allowInsecureHttp, violation? timeout, violation? username, violation? password,
      violation? authScheme, violation? updateMode, violation? interval, violation? workers,
      violation? databaseUrl, violation? formsDir].filterMap id))

/-- The entries of the settings file. -/
def fileEntries (sources : Sources) : Except LoadFault (List (String × Option String)) :=
  match sources.file with
  | none => .ok []
  | some bytes =>
    match Bytes.toText? bytes, Utf8.firstFault? bytes with
    | some text, _ => .ok (EnvFile.entries sources.environment text)
    | none, some fault => .error (.unreadable fault)
    | none, none => .ok []

/-- The settings that the sources give. -/
def load (sources : Sources) : Except LoadFault Settings := do
  let file ← fileEntries sources
  read (given? sources.arguments sources.environment file)

end FormCatalog.Settings
