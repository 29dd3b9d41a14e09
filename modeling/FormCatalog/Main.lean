import FormCatalog.App.LogSetup
import FormCatalog.CommandLine.Run

/-!
The program.

It reads its arguments, the environment, the settings file and, when it has to ask for one, a
password; all else is `CommandLine.run`. No server is within reach of it: every request fails, and
what a run puts on its disk ends with the run.
-/

set_option autoImplicit false
set_option relaxedAutoImplicit false

namespace FormCatalog.CommandLine

/-- A network that reaches no server. -/
def noNetwork : Wire Unit := fun _ net ↦ (.error "Network is unreachable", net)

/-- The settings in the environment, in capital or in small letters. -/
def environmentSettings : IO (List (String × String)) := do
  let mut found := []
  for field in Settings.fieldNames do
    for name in [(Settings.outerName field), (Settings.outerName field).toUpper] do
      if let some value ← IO.getEnv name then found := found ++ [(name, value)]
  return found

/-- A disk with nothing on it but the settings file, if there is one. -/
def startingDisk (envFile : String) : IO Disk := do
  let empty : Disk := ⟨["device"], [(["device"], .directory)]⟩
  let path := Path.ofText envFile
  try
    let content ← IO.FS.readBinFile envFile
    match (empty.makeDirectories path.parent).bind (·.writeContent path content.toList) with
    | .ok disk => return disk
    | .error _ => return empty
  catch _ => return empty

/-- Asks for a password on the error output. -/
def askPassword : IO String := do
  IO.eprint passwordQuestion
  return (← (← IO.getStdin).getLine).trimAsciiEnd.toString

/-- What a run is given, read from outside. -/
def readSurroundings (reading : Reading) : IO (Surroundings × Disk) := do
  match reading with
  | .arguments a =>
    let password ← if a.command.isSome && a.asksPassword then askPassword else pure ""
    let environment ← environmentSettings
    return ({ environment := environment, password := password }, ← startingDisk a.envFile)
  | _ => return ({}, ← startingDisk ".env")

/-- Shows a transcript: the exit code. -/
def showTranscript (t : Transcript) : IO UInt32 := do
  if let some debug := t.debug then
    for line in (LogSetup.of debug).lines t.journal do IO.println line
  IO.print t.output
  IO.eprint t.errors
  match t.ending with
  | .code n => return n.toUInt32
  | .usage n => return n.toUInt32
  | .fault fault =>
    IO.eprintln fault.message
    return 1

end FormCatalog.CommandLine

open FormCatalog CommandLine in
/-- Runs the program with its arguments. -/
def main (arguments : List String) : IO UInt32 := do
  let (around, disk) ← readSurroundings (readArguments arguments)
  let (transcript, _) := run noNetwork around arguments ⟨disk, [], ()⟩
  showTranscript transcript
