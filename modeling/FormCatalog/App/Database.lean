import FormCatalog.Disk.Basic
import FormCatalog.Number.Digits
import FormCatalog.Shelf.Table
import FormCatalog.Text.WordChars
import FormCatalog.Web.Url

/-!
Where the table of forms is kept.

The address of a database names its kind, perhaps with a driver, and for the bundled kind the file
it is in; without a file the table is kept in memory only. Opening makes the directories above the
file and the file itself.
-/

set_option autoImplicit false
set_option relaxedAutoImplicit false

namespace FormCatalog.Database

/-- A column of the table. -/
structure Column where
  name : String
  kind : String
  nullable : Bool
  deriving DecidableEq, Repr

/-- The name of the table. -/
def tableName : String := "forms"

/-- The columns of the table. -/
def columns : List Column :=
  [⟨"id", "INTEGER", false⟩, ⟨"form_id", "VARCHAR", false⟩, ⟨"version", "VARCHAR", true⟩,
    ⟨"title", "TEXT", false⟩, ⟨"content_hash", "TEXT", false⟩, ⟨"form_path", "TEXT", false⟩,
    ⟨"media_path", "TEXT", true⟩, ⟨"last_detected_version_hash", "TEXT", true⟩,
    ⟨"downloaded_at", "TEXT", false⟩]

/-- The address of a database taken apart. -/
structure Address where
  /-- Kind and perhaps driver, joined by a plus sign. -/
  kind : List Char
  /-- Whether a user, a host or a port is named. -/
  isRemote : Bool
  path : Option (List Char)

/-- A character of the name of a kind. -/
def isKindChar (c : Char) : Bool := Text.isWordChar c || c = '+'

/-- Skips the user that may stand in front of an at sign. -/
def skipUser (cs : List Char) : List Char × Bool :=
  match cs.span fun c ↦ c ≠ ':' && c ≠ '/' && c ≠ '@' with
  | (_, '@' :: rest) => (rest, true)
  | (_, ':' :: rest) =>
    match rest.span (· ≠ '@') with
    | (_, _ :: rest) => (rest, true)
    | (_, []) => (cs, false)
  | _ => (cs, false)

/-- Takes the address of a database apart. -/
def address? (cs : List Char) : Option Address :=
  match cs.span isKindChar with
  | ([], _) => none
  | (kind, ':' :: '/' :: '/' :: rest) =>
    let (rest, hasUser) := skipUser rest
    let (host, rest) := rest.span fun c ↦ c ≠ '/' && c ≠ '?'
    let path := match rest with
      | '/' :: rest => some (rest.takeWhile (· ≠ '?'))
      | _ => none
    some ⟨kind, hasUser || !host.isEmpty, path⟩
  | _ => none

/-- The modules that the drivers of other kinds are in. -/
def driverModule? : String → Option String
  | "postgresql" => some "psycopg"
  | "postgresql+psycopg" => some "psycopg"
  | "postgresql+psycopg2" => some "psycopg2"
  | "postgresql+asyncpg" => some "asyncpg"
  | "postgresql+pg8000" => some "pg8000"
  | "mysql" => some "MySQLdb"
  | "mysql+mysqldb" => some "MySQLdb"
  | "mysql+pymysql" => some "pymysql"
  | "mariadb" => some "MySQLdb"
  | "mariadb+pymysql" => some "pymysql"
  | "oracle" => some "oracledb"
  | "oracle+oracledb" => some "oracledb"
  | "oracle+cx_oracle" => some "cx_Oracle"
  | "mssql" => some "pyodbc"
  | "mssql+pyodbc" => some "pyodbc"
  | "mssql+pymssql" => some "pymssql"
  | "sqlite+aiosqlite" => some "aiosqlite"
  | _ => none

/-- The name under which a kind of database is looked for. -/
def pluginName (kind : List Char) : String :=
  String.ofList (kind.map fun c ↦ if c = '+' then '.' else c)

/-- The file of a database of the bundled kind, none if it is kept in memory. -/
def file? (a : Address) : Option Path :=
  match a.path with
  | none => none
  | some [] => none
  | some cs => if String.ofList cs = ":memory:" then none else some (Path.ofText (String.ofList cs))

/-- Makes the directories above the file of a database of the bundled kind. -/
def makeParents (a : Address) : Op Disk Unit :=
  if a.kind.takeWhile (· ≠ '+') = "sqlite".toList then
    match file? a with
    | some file => Disk.prepare file.parent
    | none => return
  else return

/-- Checks that databases of a kind can be used. -/
def checkKind (a : Address) : Except Fault Unit :=
  let kind := String.ofList a.kind
  if kind = "sqlite" ∨ kind = "sqlite+pysqlite" then .ok ()
  else
    match driverModule? kind with
    | some driver => .error (.databaseDriver ("No module named " ++ Text.quoted driver))
    | none =>
      .error (.databaseKind ("Can't load plugin: sqlalchemy.dialects:" ++ pluginName a.kind))

/-- Makes the file of a database, if it has one and there is none yet: its place. -/
def makeContent (a : Address) (d : Disk) : Except Fault (Disk × Option Place) :=
  match file? a with
  | none => .ok (d, none)
  | some file =>
    match d.probe file with
    | .ok (place, _) => .ok (d, some place)
    | .error _ => do
      let d ← d.writeContent file []
      match d.locate file with
      | .ok place => .ok (d, some place)
      | .error _ => .ok (d, none)

/-- The text that refuses the address of a remote database of the bundled kind. -/
def remoteText (address : String) : String :=
  "Invalid SQLite URL: " ++ address ++ "\nValid SQLite URL forms are sqlite:///:memory: or "
    ++ "sqlite:////absolute/path/to/file.db"

/-- Opens a database: the place of its file, none if it is kept in memory. A fault leaves what was
made before it. -/
def openAt (address : String) : EStateM Fault Disk (Option Place) := fun d ↦
  match address? address.toList with
  | none => .error (.databaseAddress "Could not parse SQLAlchemy URL from given URL string") d
  | some a =>
    match makeParents a d with
    | .error fault d => .error fault d
    | .ok () d =>
      match checkKind a with
      | .error fault => .error fault d
      | .ok () =>
        if a.isRemote then .error (.databaseAddress (remoteText address)) d
        else
          match makeContent a d with
          | .error fault => .error fault d
          | .ok (d, place) => .ok place d

end FormCatalog.Database
