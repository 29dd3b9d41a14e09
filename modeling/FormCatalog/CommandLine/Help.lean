import FormCatalog.CommandLine.Options

/-!
What the program says about its own use.

The usage names all options and commands in a few lines; the help lists each of them with a remark,
which starts in a fixed column, on a line of its own where the name leaves no room before it.
-/

set_option autoImplicit false
set_option relaxedAutoImplicit false

namespace FormCatalog.CommandLine

/-- The name of the program. -/
def programName : String := "formsync"

/-- The remark on a command. -/
def Command.remark : Command → String
  | status => "Show what a sync would change"
  | sync => "Run one sync pass"
  | watch => "Sync periodically until interrupted"
  | forms => "List forms on the device"

/-- All commands, as one choice. -/
def choice : String := "\x7b" ++ ",".intercalate (Command.all.map (·.name)) ++ "\x7d"

/-- A row of blanks. -/
def blanks (n : Nat) : String := String.ofList (List.replicate n ' ')

/-- A name as it is listed, and the remark on it. -/
abbrev Item := String × String

/-- A name that starts some columns from the margin. -/
def item (margin : Nat) (name remark : String) : Item := (blanks margin ++ name, remark)

/-- The column in which remarks start: two behind the longest name, but not behind the 24th. -/
def remarkColumn (items : List Item) : Nat :=
  min 24 (items.foldl (fun longest i ↦ max longest i.1.length) 0 + 2)

/-- Lists a name with the remark on it. -/
def listed (column : Nat) (i : Item) : String :=
  let (name, remark) := i
  if name.length + 2 ≤ column then name ++ blanks (column - name.length) ++ remark ++ "\n"
  else name ++ "\n" ++ blanks column ++ remark ++ "\n"

/-- Many texts as one. -/
def joined (parts : List String) : String := "".intercalate parts

/-- The usage of the program, or of one command. -/
def usage : Option Command → String
  | none =>
    let first := "usage: " ++ programName ++ " "
    let more := "\n" ++ blanks first.length
    joined [first, "[-h] [--env-file ENV_FILE] [--server SERVER]", more,
      "[--allow-insecure-http] [--username USERNAME]", more, "[--password PASSWORD] [--debug]",
      more, choice, " ...\n"]
  | some command => "usage: " ++ programName ++ " " ++ command.name ++ " [-h]\n"

/-- The commands as listed. -/
def commandItems : List Item := Command.all.map fun c ↦ item 4 c.name c.remark

/-- The question for help as listed. -/
def helpItem : Item := item 2 "-h, --help" "show this help message and exit"

/-- The options as listed. -/
def optionItems : List Item :=
  [helpItem, item 2 "--env-file ENV_FILE" "Settings file (default: .env)",
    item 2 "--server SERVER, -s SERVER" "Server URL",
    item 2 "--allow-insecure-http" "Allow http:// server URLs for non-localhost hosts",
    item 2 "--username USERNAME, -u USERNAME" "Username for authentication",
    item 2 "--password PASSWORD" "Password (prompted if omitted)",
    item 2 "--debug" "Verbose logging"]

/-- The help on the program, or on one command. -/
def help : Option Command → String
  | none =>
    let column := remarkColumn (commandItems ++ optionItems)
    joined ([usage none, "\nKeep the device's blank forms matching the server exactly\n",
        "\npositional arguments:\n  ", choice, "\n"]
      ++ commandItems.map (listed column) ++ ["\noptions:\n"] ++ optionItems.map (listed column))
  | some command =>
    joined [usage (some command), "\noptions:\n", listed (remarkColumn [helpItem]) helpItem]

/-- The words that refuse arguments, after the usage that they go against. -/
def refusal (command : Option Command) (fault : UsageFault) : String :=
  let place := match command with
    | none => programName
    | some command => programName ++ " " ++ command.name
  usage command ++ place ++ ": error: " ++ fault.message ++ "\n"

end FormCatalog.CommandLine
