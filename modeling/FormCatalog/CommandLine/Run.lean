import FormCatalog.CommandLine.Commands
import FormCatalog.CommandLine.Help
import FormCatalog.Settings.Load

/-!
A run of the program, from its arguments to its exit code.

Arguments that cannot be read, a request for help and settings that do not serve end a run before
there is an app. Otherwise the command runs on a new app, which is closed in any case. What a run
shows is its `Transcript`; the machine is left as the run left it.
-/

set_option autoImplicit false
set_option relaxedAutoImplicit false

namespace FormCatalog.CommandLine

/-- What a run is given besides its arguments. -/
structure Surroundings where
  environment : List (String × String) := []
  /-- The answer to the question for a password. -/
  password : String := ""
  /-- Whether a pass is running already. -/
  gateHeld : Bool := false
  /-- In which of its pauses the user stops a watching program. -/
  pauses : Nat := 1

/-- How a run ends. -/
inductive Ending where
  /-- The program ends with a code. -/
  | code (n : Nat)
  /-- The arguments alone end the run, with a code. -/
  | usage (n : Nat)
  | fault (fault : Fault)
  deriving DecidableEq, Repr

/-- What a run shows. -/
structure Transcript where
  ending : Ending
  output : String := ""
  errors : String := ""
  /-- What the user was asked. -/
  questions : List String := []
  /-- How often the program paused. -/
  pauses : Nat := 0
  /-- Whether the log was set up for debugging, if it was set up. -/
  debug : Option Bool := none
  /-- The journal, the last entry first. -/
  journal : List Entry := []

/-- What a text option with a text that is not empty gives for a setting. -/
def givenText (field : String) : Option String → List (String × Json)
  | none => []
  | some "" => []
  | some text => [(field, .string text)]

/-- Whether arguments name a user. -/
def Arguments.namesUser (a : Arguments) : Bool := !(a.username.getD "").isEmpty

/-- Whether a command asks for a password: when it is run for a user without one. -/
def Arguments.asksPassword (a : Arguments) : Bool := a.namesUser && a.password.isNone

/-- The question for a password. -/
def passwordQuestion : String := "Password: "

/-- The settings that arguments give. -/
def Arguments.settings (a : Arguments) (answer : String) : List (String × Json) :=
  givenText "server_url" a.server
    ++ (if a.allowInsecureHttp then [("allow_insecure_http", .bool true)] else [])
    ++ (if a.debug then [("debug", .bool true)] else [])
    ++ givenText "username" a.username
    ++ (if a.namesUser then [("password", .string (a.password.getD answer))] else [])
    ++ (if a.command = some .watch then
        [("form_update_mode", .string UpdateMode.matchExactly.name)] else [])

/-- The content of the settings file of a name, if there is such a file. -/
def settingsFile (d : Disk) (name : String) : Except Fault (Option Bytes) := do
  match ← d.look (Path.ofText name) with
  | some (_, .file content) => return some content
  | _ => return none

/-- Why there are no settings for a command. -/
inductive NoSettings where
  /-- The settings do not serve; these words say why. -/
  | refused (text : String)
  /-- The settings file cannot be looked for. -/
  | unreachable (fault : Fault)

/-- The settings for a command. Only to list forms no server is needed. -/
def chosenSettings (a : Arguments) (command : Command) (around : Surroundings) (d : Disk) :
    Except NoSettings Settings :=
  match settingsFile d a.envFile with
  | .error fault => .error (.unreachable fault)
  | .ok file =>
    match Settings.load ⟨a.settings around.password, around.environment, file⟩ with
    | .error fault => .error (.refused fault.message)
    | .ok settings =>
      if command = .forms then .ok settings
      else
        match settings.prepare with
        | (settings, []) => .ok settings
        | (_, shortcomings) => .error (.refused (Settings.report shortcomings))

/-- Lines as a text. -/
def textOf (lines : List String) : String := joined (lines.map (· ++ "\n"))

variable {N : Type}

/-- Runs a command on a new app. -/
def runOnApp (wire : Wire N) (around : Surroundings) (command : Command) (settings : Settings)
    (m : Machine N) : Transcript × Machine N :=
  match App.create settings wire m with
  | .error fault m => ({ ending := .fault fault, debug := some settings.debug }, m)
  | .ok (app, s) m =>
    let s := { s with gate := { s.gate with syncing := around.gateHeld } }
    let work : Op (AppState N) (Except Fault Outcome) := do
      let outcome ← Op.attempt (command.run app around.pauses)
      App.close
      return outcome
    let left (t : Transcript) (s : AppState N) : Transcript × Machine N :=
      ({ t with debug := some settings.debug, journal := s.world.site.journal }, app.leave s m)
    match work s with
    | .ok (.ok outcome) s =>
      left
        { ending := .code outcome.code, output := textOf outcome.lines, pauses := outcome.pauses } s
    | .ok (.error fault) s => left { ending := .fault fault } s
    | .error fault s => left { ending := .fault fault } s

/-- Runs a command with its arguments. -/
def runCommand (wire : Wire N) (around : Surroundings) (a : Arguments) (command : Command)
    (m : Machine N) : Transcript × Machine N :=
  match chosenSettings a command around m.disk with
  | .error (.unreachable fault) => ({ ending := .fault fault }, m)
  | .error (.refused text) => ({ ending := .code 1, output := textOf ["Error: " ++ text] }, m)
  | .ok settings => runOnApp wire around command settings m

/-- Runs the program. -/
def run (wire : Wire N) (around : Surroundings) (arguments : List String) (m : Machine N) :
    Transcript × Machine N :=
  match readArguments arguments with
  | .help command => ({ ending := .usage 0, output := help command }, m)
  | .wrong command fault => ({ ending := .usage 2, errors := refusal command fault }, m)
  | .arguments a =>
    match a.command with
    | none => ({ ending := .code 1, output := help none }, m)
    | some command =>
      let (t, m) := runCommand wire around a command m
      ({ t with questions := if a.asksPassword then [passwordQuestion] else [] }, m)

end FormCatalog.CommandLine
