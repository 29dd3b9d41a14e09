import FormCatalog.Text.Blank

/-!
Settings files: one `NAME=value` a line.

A line may begin with `export`; a name may stand in single quotes. A value stands in single quotes,
in double quotes, where it may run over lines and hold escapes, or plainly, up to the end of the
line or to a comment that follows a blank. A line that cannot be read is skipped. In a value, `${X}`
stands for the value of `X` and `${X:-d}` for that or, if there is none, for `d`.
-/

set_option autoImplicit false
set_option relaxedAutoImplicit false

namespace FormCatalog.EnvFile

open Text

/-- Line ends of any kind become plain line feeds. -/
def unifyLines : List Char → List Char
  | '\r' :: '\n' :: rest => '\n' :: unifyLines rest
  | '\r' :: rest => '\n' :: unifyLines rest
  | c :: rest => c :: unifyLines rest
  | [] => []

/-- A blank that does not end the line. -/
def isLineBlank (c : Char) : Bool := isBlank c && c ≠ '\n' && c ≠ '\r'

/-- A character that does not end the line. -/
def isLineChar (c : Char) : Bool := c ≠ '\n' && c ≠ '\r'

/-- Skips `export` with the blanks after it. -/
def skipExport (cs : List Char) : List Char :=
  match cs with
  | 'e' :: 'x' :: 'p' :: 'o' :: 'r' :: 't' :: rest =>
    match rest with
    | c :: _ => if isLineBlank c then rest.dropWhile isLineBlank else cs
    | [] => cs
  | _ => cs

/-- A name: in single quotes, or up to a blank, a `=` or a `#`. A comment has none. The inner
`none` says that there is no name to read here. -/
def name? (cs : List Char) : Option (Option String × List Char) :=
  match cs with
  | '#' :: _ => some (none, cs)
  | '\'' :: rest =>
    match rest.span (· ≠ '\'') with
    | (name, _ :: after) => if name.isEmpty then none else some (some (String.ofList name), after)
    | (_, []) => none
  | _ =>
    let (name, after) := cs.span fun c ↦ c ≠ '=' && c ≠ '#' && !isBlank c
    if name.isEmpty then none else some (some (String.ofList name), after)

/-- The text up to the closing quote, where a quote after a backslash is taken in. When no quote
closes the text, the last one so taken in closes it after all: `last` is that way out. -/
def untilQuote (quote : Char) (done : List Char) (afterBackslash : Bool)
    (last : Option (List Char × List Char)) : List Char → Option (List Char × List Char)
  | [] => last
  | c :: rest =>
    if c = quote then
      if afterBackslash then untilQuote quote (c :: done) false (some (done.reverse, rest)) rest
      else some (done.reverse, rest)
    else untilQuote quote (c :: done) (c = '\\') last rest

/-- The character that an escape stands for, in single or in double quotes. -/
def escaped? (double : Bool) (c : Char) : Option Char :=
  match c with
  | '\\' => some '\\'
  | '\'' => some '\''
  | '"' => if double then some '"' else none
  | 'a' => if double then some (Char.ofNat 7) else none
  | 'b' => if double then some (Char.ofNat 8) else none
  | 'f' => if double then some (Char.ofNat 12) else none
  | 'n' => if double then some '\n' else none
  | 'r' => if double then some '\r' else none
  | 't' => if double then some '\t' else none
  | 'v' => if double then some (Char.ofNat 11) else none
  | _ => none

/-- Replaces escapes by what they stand for. -/
def unescape (double : Bool) : List Char → List Char
  | [] => []
  | [c] => [c]
  | c :: d :: rest =>
    if c = '\\' then
      match escaped? double d with
      | some e => e :: unescape double rest
      | none => c :: unescape double (d :: rest)
    else c :: unescape double (d :: rest)

/-- A plain value without the comment that follows a blank. -/
def cutComment : List Char → List Char
  | [] => []
  | c :: rest =>
    if isBlank c && (rest.dropWhile isBlank).head? = some '#' then []
    else c :: cutComment rest

/-- A value. -/
def value? (cs : List Char) : Option (String × List Char) :=
  match cs with
  | '\'' :: rest =>
    (untilQuote '\'' [] false none rest).map fun (v, after) ↦
      (String.ofList (unescape false v), after)
  | '"' :: rest =>
    (untilQuote '"' [] false none rest).map fun (v, after) ↦
      (String.ofList (unescape true v), after)
  | _ =>
    let (line, after) := cs.span isLineChar
    some (String.ofList (dropTrailing isBlank (cutComment line)), after)

/-- What follows a value: perhaps a comment, then the end of the line. -/
def lineEnd? (cs : List Char) : Option (List Char) :=
  let afterBlanks := cs.dropWhile isLineBlank
  let cs := match afterBlanks with
    | '#' :: _ => afterBlanks.dropWhile isLineChar
    | _ => afterBlanks
  match cs with
  | [] => some []
  | '\n' :: rest => some rest
  | _ => none

/-- One line read: a name with perhaps a value, or nothing of note; and what is left. -/
abbrev Line := Option (String × Option String) × List Char

/-- Skips the rest of a line. -/
def skipLine (cs : List Char) : List Char := (cs.dropWhile isLineChar).drop 1

/-- One line, or the several lines of a quoted value. -/
def line (cs : List Char) : Line :=
  let cs := skipExport (cs.dropWhile isBlank)
  match name? cs with
  | none => (none, skipLine cs)
  | some (name, rest) =>
    let rest := rest.dropWhile isLineBlank
    let read : Option (Option String × List Char) := match rest with
      | '=' :: rest => (value? (rest.dropWhile isLineBlank)).map fun (v, r) ↦ (some v, r)
      | rest => some (none, rest)
    match read with
    | none => (none, skipLine (rest.drop 1))
    | some (value, after) =>
      match lineEnd? after with
      | none => (none, skipLine after)
      | some after => (name.map fun n ↦ (n, value), after)

/-- All lines, up to as many as there are characters. -/
def lines : Nat → List Char → List (String × Option String)
  | 0, _ => []
  | fuel + 1, cs =>
    if (cs.dropWhile isBlank).isEmpty then []
    else
      match line cs with
      | (some entry, rest) => entry :: lines fuel rest
      | (none, rest) => lines fuel rest

/-- Looks a name up, the last entry first. -/
def find? (name : String) (entries : List (String × Option String)) : Option (Option String) :=
  (entries.reverse.find? (·.1 = name)).map (·.2)

/-- A reference whose `${` has been read: name, default and what is left. -/
def reference? (cs : List Char) : Option (List Char × Option (List Char) × List Char) :=
  match cs.span fun c ↦ c ≠ '\x7d' && c ≠ ':' with
  | (name, '\x7d' :: rest) => some (name, none, rest)
  | (name, ':' :: '-' :: rest) =>
    match rest.span (· ≠ '\x7d') with
    | (default, _ :: after) => some (name, some default, after)
    | (_, []) => none
  | _ => none

/-- Replaces references by values. -/
def expand (known : String → Option (Option String)) : Nat → List Char → List Char
  | 0, cs => cs
  | _, [] => []
  | fuel + 1, c :: rest =>
    match c, rest with
    | '$', '\x7b' :: inside =>
      match reference? inside with
      | some (name, default, after) =>
        let value := match known (String.ofList name) with
          | some (some v) => v.toList
          | some none => []
          | none => default.getD []
        value ++ expand known fuel after
      | none => c :: expand known fuel rest
    | _, _ => c :: expand known fuel rest

/-- Resolves the references of each entry in turn, by the entries before it and else by the
environment. -/
def resolve (environment : List (String × String)) :
    List (String × Option String) → List (String × Option String) → List (String × Option String)
  | done, [] => done
  | done, (name, value) :: rest =>
    let known (n : String) : Option (Option String) :=
      match find? n done with
      | some v => some v
      | none => ((environment.reverse.find? (·.1 = n)).map (·.2)).map some
    let value := value.map fun v ↦ String.ofList (expand known (v.length + 1) v.toList)
    resolve environment (done ++ [(name, value)]) rest

/-- Puts an entry in the place of an earlier one with the same name, or at the end. -/
def putEntry (entry : String × Option String) :
    List (String × Option String) → List (String × Option String)
  | [] => [entry]
  | e :: rest => if e.1 = entry.1 then entry :: rest else e :: putEntry entry rest

/-- The entries of a settings file, one for each name. -/
def entries (environment : List (String × String)) (text : String) :
    List (String × Option String) :=
  let cs := unifyLines text.toList
  (resolve environment [] (lines (cs.length + 1) cs)).foldl (fun es e ↦ putEntry e es) []

end FormCatalog.EnvFile
