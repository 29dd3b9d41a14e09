import FormCatalog.Number.Digits
import FormCatalog.Text.Quoted

/-!
Reading the arguments of the command line.

Options stand before the command. A long option may be cut short as long as no other begins so, and
may carry its value after an equals sign; a short one may carry it directly. The first word that is
no option is the command, and all arguments after it are the command's own, of which only the
question for help is known.
-/

set_option autoImplicit false
set_option relaxedAutoImplicit false

namespace FormCatalog.CommandLine

/-- What the program is asked to do. -/
inductive Command where
  | status
  | sync
  | watch
  | forms
  deriving DecidableEq, Repr

/-- The word for a command. -/
def Command.name : Command → String
  | status => "status"
  | sync => "sync"
  | watch => "watch"
  | forms => "forms"

/-- All commands, in the order in which they are listed. -/
def Command.all : List Command := [status, sync, watch, forms]

/-- An option of the program. -/
inductive Flag where
  | help
  | envFile
  | server
  | allowInsecureHttp
  | username
  | password
  | debug
  deriving DecidableEq, Repr

/-- Whether an option takes a value. -/
def Flag.takesValue : Flag → Bool
  | envFile => true
  | server => true
  | username => true
  | password => true
  | _ => false

/-- The spellings of an option, as one text. -/
def Flag.label : Flag → String
  | help => "-h/--help"
  | envFile => "--env-file"
  | server => "--server/-s"
  | allowInsecureHttp => "--allow-insecure-http"
  | username => "--username/-u"
  | password => "--password"
  | debug => "--debug"

/-- The options before the command, by their spellings. -/
def mainFlags : List (String × Flag) :=
  [("-h", .help), ("--help", .help), ("--env-file", .envFile), ("--server", .server),
    ("-s", .server), ("--allow-insecure-http", .allowInsecureHttp), ("--username", .username),
    ("-u", .username), ("--password", .password), ("--debug", .debug)]

/-- The options after a command. -/
def commandFlags : List (String × Flag) := [("-h", .help), ("--help", .help)]

/-- What is wrong with arguments. -/
inductive UsageFault where
  | ambiguous (given : String) (matching : List String)
  | missingValue (flag : Flag)
  | needlessValue (flag : Flag) (value : String)
  | unknownCommand (given : String)
  | unrecognized (given : List String)
  deriving DecidableEq, Repr

/-- The text of a fault. -/
def UsageFault.message : UsageFault → String
  | ambiguous given matching =>
    "ambiguous option: " ++ given ++ " could match " ++ ", ".intercalate matching
  | missingValue flag => "argument " ++ flag.label ++ ": expected one argument"
  | needlessValue flag value =>
    "argument " ++ flag.label ++ ": ignored explicit argument " ++ Text.quoted value
  | unknownCommand given => "argument command: invalid choice: " ++ Text.quoted given
      ++ " (choose from " ++ ", ".intercalate (Command.all.map fun c ↦ Text.quoted c.name) ++ ")"
  | unrecognized given => "unrecognized arguments: " ++ " ".intercalate given

/-- The values of options, and the command. -/
structure Arguments where
  envFile : String := ".env"
  server : Option String := none
  allowInsecureHttp : Bool := false
  username : Option String := none
  password : Option String := none
  debug : Bool := false
  command : Option Command := none
  deriving DecidableEq, Repr

/-- Takes in an option with its value. -/
def Arguments.set (a : Arguments) (flag : Flag) (value : String) : Arguments :=
  match flag with
  | .help => a
  | .envFile => { a with envFile := value }
  | .server => { a with server := some value }
  | .allowInsecureHttp => { a with allowInsecureHttp := true }
  | .username => { a with username := some value }
  | .password => { a with password := some value }
  | .debug => { a with debug := true }

/-- A value that an option carries: the text, and whether an equals sign stands before it. -/
abbrev Carried := Option (Bool × List Char)

/-- What an argument is. -/
inductive Token where
  /-- A word that is no option. -/
  | word
  /-- Two dashes, after which there are no options. -/
  | dashes
  /-- An option, perhaps with a value. -/
  | flag (flag : Flag) (carried : Carried)
  /-- What looks like an option and is none. -/
  | unknown
  deriving DecidableEq, Repr

/-- Whether a text is a negative number. -/
def isNegativeNumber (cs : List Char) : Bool :=
  match cs with
  | '-' :: rest =>
    let (whole, after) := rest.span fun c ↦ (Number.anyDigit? c).isSome
    match after with
    | [] => !whole.isEmpty
    | '.' :: fraction => !fraction.isEmpty && fraction.all fun c ↦ (Number.anyDigit? c).isSome
    | _ => false
  | _ => false

/-- The text before the first equals sign, and the one after it. -/
def cutEquals (cs : List Char) : List Char × Carried :=
  match cs.span (· ≠ '=') with
  | (front, _ :: back) => (front, some (true, back))
  | (front, []) => (front, none)

/-- The options that an argument may be short for, each with the value it then carries. -/
def candidates (flags : List (String × Flag)) (cs : List Char) :
    List (String × Flag × Carried) :=
  match cs with
  | '-' :: '-' :: _ =>
    let (front, carried) := cutEquals cs
    (flags.filter fun f ↦ front.isPrefixOf f.1.toList).map fun (name, flag) ↦ (name, flag, carried)
  | _ =>
    flags.filterMap fun (name, flag) ↦
      if name.toList = cs.take 2 then some (name, flag, some (false, cs.drop 2))
      else if cs.isPrefixOf name.toList then some (name, flag, none)
      else none

/-- What one argument is. -/
def classify (flags : List (String × Flag)) (argument : String) : Except UsageFault Token :=
  let cs := argument.toList
  if cs.head? ≠ some '-' then .ok .word
  else
    match flags.find? (·.1 = argument) with
    | some (_, flag) => .ok (.flag flag none)
    | none =>
      if cs.length = 1 then .ok .word
      else
        let (front, carried) := cutEquals cs
        let exact := if carried.isSome then flags.find? (·.1.toList = front) else none
        match exact with
        | some (_, flag) => .ok (.flag flag carried)
        | none =>
          match candidates flags cs with
          | [(_, flag, carried)] => .ok (.flag flag carried)
          | [] => if isNegativeNumber cs || cs.contains ' ' then .ok .word else .ok .unknown
          | several => .error (.ambiguous argument (several.map (·.1)))

/-- What each argument is. After two dashes all are words. -/
def classifyAll (flags : List (String × Flag)) :
    List String → Except UsageFault (List (Token × String))
  | [] => .ok []
  | a :: rest =>
    if a = "--" then .ok ((.dashes, a) :: rest.map fun r ↦ (.word, r))
    else do
      let token ← classify flags a
      let others ← classifyAll flags rest
      .ok ((token, a) :: others)

/-- What comes of reading arguments. -/
inductive Reading where
  | arguments (a : Arguments)
  /-- Help is asked for, perhaps on a command. -/
  | help (command : Option Command)
  /-- Something is wrong, perhaps after a command. -/
  | wrong (command : Option Command) (fault : UsageFault)
  deriving DecidableEq, Repr

/-- What an option comes to. -/
inductive Taken where
  /-- The option has its value, or needs none. -/
  | value (flag : Flag) (text : String)
  /-- The option takes its value from the next argument. -/
  | next (flag : Flag)
  | help
  | wrong (fault : UsageFault)

/-- What the letters after a short option without value come to, each standing for a short option of
its own. The help that such an option asks for is given unless one of the letters is wrong; letters
after one that is no option are not looked at. -/
def takeLetters (flags : List (String × Flag)) (flag : Flag) (equals : Bool) : List Char → Taken
  | [] => .wrong (.needlessValue flag "")
  | c :: rest =>
    if equals || c = '-' then .wrong (.needlessValue flag (String.ofList (c :: rest)))
    else
      match flags.find? (·.1.toList = ['-', c]) with
      | none => .help
      | some (_, following) =>
        if following.takesValue then if rest.isEmpty then .next following else .help
        else
          match rest with
          | [] => .help
          | '=' :: value => .wrong (.needlessValue following (String.ofList value))
          | letters => takeLetters flags following false letters

/-- What an option comes to with the value it carries. -/
def take (flags : List (String × Flag)) (short : Bool) (flag : Flag) (carried : Carried) : Taken :=
  match carried with
  | none =>
    if flag.takesValue then .next flag
    else if flag = .help then .help
    else .value flag ""
  | some (equals, text) =>
    if flag.takesValue then .value flag (String.ofList text)
    else if short then takeLetters flags flag equals text
    else .wrong (.needlessValue flag (String.ofList text))

/-- Reads the arguments of a command. -/
def readCommand (command : Command) (a : Arguments) (extra : List String) :
    List (Token × String) → Reading
  | [] =>
    if extra.isEmpty then .arguments { a with command := some command }
    else .wrong none (.unrecognized extra)
  | (.flag flag carried, text) :: rest =>
    match take commandFlags (text.toList.take 2 ≠ ['-', '-']) flag carried with
    | .value _ _ => readCommand command a extra rest
    | .next flag => .wrong (some command) (.missingValue flag)
    | .help => .help (some command)
    | .wrong fault => .wrong (some command) fault
  | (_, text) :: rest => readCommand command a (extra ++ [text]) rest

/-- Reads a command and its arguments. -/
def startCommand (a : Arguments) (extra : List String) (name : String) (rest : List String) :
    Reading :=
  match Command.all.find? (·.name = name) with
  | none => .wrong none (.unknownCommand name)
  | some command =>
    match classifyAll commandFlags rest with
    | .error fault => .wrong (some command) fault
    | .ok tokens => readCommand command a extra tokens

/-- Reads options up to the command. -/
def readOptions (a : Arguments) (extra : List String) : List (Token × String) → Reading
  | [] => if extra.isEmpty then .arguments a else .wrong none (.unrecognized extra)
  | (.flag flag carried, text) :: rest =>
    match take mainFlags (text.toList.take 2 ≠ ['-', '-']) flag carried with
    | .value flag value => readOptions (a.set flag value) extra rest
    | .help => .help none
    | .wrong fault => .wrong none fault
    | .next wanted =>
      match rest with
      | (.word, value) :: rest =>
        if wanted = flag then readOptions (a.set flag value) extra rest else .help none
      | _ => .wrong none (.missingValue wanted)
  | (.unknown, text) :: rest => readOptions a (extra ++ [text]) rest
  | (.dashes, text) :: rest =>
    if rest.isEmpty then .wrong none (.unrecognized (extra ++ [text]))
    else startCommand a extra text (rest.map (·.2))
  | (.word, text) :: rest => startCommand a extra text (rest.map (·.2))

/-- Reads the arguments of the program. -/
def readArguments (arguments : List String) : Reading :=
  match classifyAll mainFlags arguments with
  | .error fault => .wrong none fault
  | .ok tokens => readOptions {} [] tokens

end FormCatalog.CommandLine
