import FormCatalog.Journal

/-!
How the log is set up.

One handler writes to the standard output, in a fixed layout. In debugging the program reports
everything and the parts it is built on report more; the transport below the web never reports less
than a warning. `LogSetup.lines` are the lines of a journal that a set-up lets through, without the
time.
-/

set_option autoImplicit false
set_option relaxedAutoImplicit false

namespace FormCatalog

/-- A set-up of the log. -/
structure LogSetup where
  /-- The least level that the program reports. -/
  level : Level
  handlers : Nat
  layout : String
  toStandardOutput : Bool
  /-- The least levels that the parts below report. -/
  parts : List (String × Level)
  deriving DecidableEq, Repr

/-- The set-up of the program, whatever was set up before. -/
def LogSetup.of (debug : Bool) : LogSetup where
  level := if debug then .debug else .info
  handlers := 1
  layout := "%(asctime)s %(levelname)-8s %(name)s: %(message)s"
  toStandardOutput := true
  parts :=
    [("httpx", if debug then .info else .warning), ("httpcore", .warning),
      ("sqlalchemy.engine", if debug then .info else .warning)]

/-- How much a level weighs. -/
def Level.weight : Level → Nat
  | debug => 10
  | info => 20
  | warning => 30
  | error => 40

/-- An entry as a line: the level in eight columns, the component, the message. -/
def Entry.line (e : Entry) : String :=
  let level := e.level.name ++ String.ofList (List.replicate (8 - e.level.name.length) ' ')
  level ++ " " ++ e.component.name ++ ": " ++ e.message

/-- The lines of a journal, which has its last entry first. -/
def LogSetup.lines (setup : LogSetup) (journal : List Entry) : List String :=
  (journal.reverse.filter fun e ↦ setup.level.weight ≤ e.level.weight).map Entry.line

end FormCatalog
