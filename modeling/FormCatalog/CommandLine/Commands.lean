import FormCatalog.App.Basic
import FormCatalog.CommandLine.Options

/-!
What the commands do with an app.

A command ends with an exit code and the lines it prints. The code is 0 when the command did what it
was asked for, 2 when the server refused the credentials, and 1 for everything else that can go
wrong in a pass. Faults that are none of synchronisation are not reported here but go on upwards.
-/

set_option autoImplicit false
set_option relaxedAutoImplicit false

namespace FormCatalog.CommandLine

/-- What a command ends with. -/
structure Outcome where
  code : Nat
  lines : List String
  /-- How often the command paused. -/
  pauses : Nat := 0
  deriving DecidableEq, Repr

namespace Outcome

/-- The exit code for a failed pass. -/
def codeOf (fault : SyncFault) : Nat :=
  match fault.kind with
  | .signIn => 2
  | .tryAgain => 1

/-- The report on a failed pass. -/
def failure (fault : SyncFault) : Outcome where
  code := codeOf fault
  lines := ("Error: " ++ fault.message) ::
    match fault.kind with
    | .signIn =>
      ["The server requires authentication. Re-run with --username to enter credentials."]
    | .tryAgain => []

/-- The report on a plan. -/
def plan (p : Plan) : Outcome where
  code := 0
  lines :=
    ["Sync Status:", "  To download: " ++ Number.textOfNat p.toDownload.length,
      "  To delete:   " ++ Number.textOfNat p.toDelete.length,
      "  Unchanged:   " ++ Number.textOfNat p.unchanged.length]
    ++ p.toDownload.map (fun d ↦
      "    < " ++ d.formId ++ (if d.notOnDevice then " (new)" else " (updated)"))
    ++ p.toDelete.map fun r ↦ "    - " ++ r.formId ++ " (delete)"

/-- The report on a pass, given the last failure that was made known. -/
def pass (succeeded : Option Bool) (lastFailure : Option SyncFault) : Outcome :=
  match succeeded, lastFailure with
  | none, _ => { code := 1, lines := ["A sync is already in progress."] }
  | some true, _ => { code := 0, lines := ["Sync complete."] }
  | some false, none => { code := 1, lines := [] }
  | some false, some fault => failure fault

/-- The line for a form on the device. -/
def formLine (r : FormRecord) : String :=
  let version := match r.version with
    | none => ""
    | some "" => ""
    | some v => " v" ++ v
  "  " ++ r.formId ++ version ++ "  " ++ r.title

/-- The report on the forms on the device. -/
def forms (records : List FormRecord) : Outcome where
  code := 0
  lines := if records.isEmpty then ["No forms on device."] else records.map formLine

end Outcome

variable {N : Type} (app : App N)

/-- Shows what a pass would change. -/
def runStatus : Op (AppState N) Outcome := do
  match ← Op.attempt app.preview with
  | .ok plan => return Outcome.plan plan
  | .error (.sync fault) => return Outcome.failure fault
  | .error fault => throw fault

/-- Runs a pass. -/
def runSync : Op (AppState N) Outcome := do
  let succeeded ← app.runOnce
  return Outcome.pass succeeded (← get).lastFailure?

/-- What is reported of a pass in the background that ended in a fault of another kind. -/
def crashEntry? : Except Fault Bool → Option Entry
  | .ok _ => none
  | .error fault => some ⟨.error, .commandLine, "Background form sync crashed: " ++ fault.message⟩

/-- The seconds of a pause. -/
def pauseSeconds : Number.Binary64 := Number.Binary64.ofDecimal ⟨false, 5, -1⟩

/-- Starts a pass now and has passes run until the user stops it in one of the pauses. -/
def runWatch (pauses : Nat) : Op (AppState N) Outcome := do
  let minutes := app.settings.syncIntervalMinutes
  let interval := Number.Binary64.ofInt (minutes * 60)
  App.setMode .matchExactly interval
  match ← app.startPass with
  | none => pure ()
  | some ended =>
    match crashEntry? ended with
    | none => pure ()
    | some entry => modify (Recording.record entry)
  App.setMode .manual interval
  return {
    code := 0
    lines := ["Syncing every " ++ Number.textOfInt minutes ++ " minute(s). Press Ctrl+C to stop.",
      "Stopping..."]
    pauses := pauses }

/-- Lists the forms on the device. -/
def runForms : Op (AppState N) Outcome := do
  return Outcome.forms (← App.onSite Shelf.records)

/-- Runs a command; a watching one pauses a number of times. -/
def Command.run (pauses : Nat) : Command → Op (AppState N) Outcome
  | status => runStatus app
  | sync => runSync app
  | watch => runWatch app pauses
  | forms => runForms

end FormCatalog.CommandLine
