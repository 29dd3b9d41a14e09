import FormCatalog.Web.ServerAddress
import FormCatalog.Web.Url

/-!
References: addresses given relative to another one.

A reference with a scheme of its own, or to a scheme that has no places within, stands alone.
Otherwise it takes from the base what it leaves out: the authority, then the directory of the path,
then, when it gives no path at all, the path and the query. No reference is read whose authority has
square brackets around something else than a host, or a character that stands for a delimiter.
-/

set_option autoImplicit false
set_option relaxedAutoImplicit false

namespace FormCatalog.Reference

/-- A reference taken apart. A last component of the path may carry parameters. -/
structure Parts where
  scheme : List Char
  authority : List Char
  path : List Char
  parameters : List Char
  query : List Char
  fragment : List Char
  deriving DecidableEq, Repr

/-- The schemes within which a reference can be relative. -/
def placedSchemes : List String :=
  ["", "ftp", "http", "gopher", "nntp", "imap", "wais", "file", "https", "shttp", "mms", "prospero",
    "rtsp", "rtsps", "rtspu", "sftp", "svn", "svn+ssh", "ws", "wss"]

/-- The schemes that have an authority. -/
def hostedSchemes : List String :=
  ["", "ftp", "http", "gopher", "nntp", "telnet", "imap", "wais", "file", "mms", "https", "shttp",
    "snews", "prospero", "rtsp", "rtsps", "rtspu", "rsync", "svn", "svn+ssh", "sftp", "nfs", "git",
    "git+ssh", "ws", "wss", "itms-services"]

/-- The schemes whose paths carry parameters. -/
def parameterSchemes : List String :=
  ["", "ftp", "hdl", "prospero", "http", "imap", "https", "shttp", "rtsp", "rtsps", "rtspu", "sip",
    "sips", "mms", "sftp", "tel"]

/-- Splits the parameters off the last component of a path. -/
def splitParameters (path : List Char) : List Char × List Char :=
  let last := (path.reverse.takeWhile (· ≠ '/')).reverse
  match last.span (· ≠ ';') with
  | (front, _ :: parameters) => (path.take (path.length - last.length) ++ front, parameters)
  | (_, []) => (path, [])

/-- The scheme of a reference and the rest; without one, `default`. -/
def splitScheme (default : List Char) (cs : List Char) : List Char × List Char :=
  match cs with
  | c :: _ =>
    if Url.isLetter c then
      match cs.span Url.isSchemeChar with
      | (scheme, ':' :: rest) => (Text.lower scheme, rest)
      | _ => (default, cs)
    else (default, cs)
  | [] => (default, [])

/-- Takes a reference apart. -/
def split (default : List Char) (cs : List Char) : Parts :=
  let (scheme, rest) := splitScheme default cs
  let (authority, rest) : List Char × List Char := match rest with
    | '/' :: '/' :: rest => rest.span fun c ↦ c ≠ '/' && c ≠ '?' && c ≠ '#'
    | rest => ([], rest)
  let (rest, fragment) := Url.splitMark '#' rest
  let (path, query) := Url.splitMark '?' rest
  let (path, parameters) :=
    if parameterSchemes.contains (String.ofList scheme) then splitParameters path else (path, [])
  ⟨scheme, authority, path, parameters, query.getD [], fragment.getD []⟩

/-- The text of a reference. -/
def Parts.chars (p : Parts) : List Char :=
  let path := if p.parameters.isEmpty then p.path else p.path ++ ';' :: p.parameters
  let hosted := !p.authority.isEmpty
    || (!p.scheme.isEmpty && hostedSchemes.contains (String.ofList p.scheme))
    || ['/', '/'].isPrefixOf path
  let path :=
    if hosted then
      '/' :: '/' :: (p.authority ++
        if !path.isEmpty && path.head? ≠ some '/' then '/' :: path else path)
    else path
  (if p.scheme.isEmpty then [] else p.scheme ++ [':']) ++ path
    ++ (if p.query.isEmpty then [] else '?' :: p.query)
    ++ (if p.fragment.isEmpty then [] else '#' :: p.fragment)

/-- The path of a reference taken from the path of a base. -/
def joinPaths (base path : List Char) : List Char :=
  let components := HostLiteral.splitAt '/' path
  let segments :=
    if path.head? = some '/' then components
    else
      let front := HostLiteral.splitAt '/' base
      let front := if front.getLast? = some [] then front else front.dropLast
      let all := front ++ components
      all.take 1 ++ ((all.drop 1).dropLast.filter (!·.isEmpty))
        ++ (all.drop 1).drop (all.length - 2)
  let resolved := segments.foldl (fun (done : List (List Char)) s ↦
    if s = ['.', '.'] then done.dropLast else if s = ['.'] then done else done ++ [s]) []
  let last := segments.getLast?
  let resolved :=
    if last = some ['.'] ∨ last = some ['.', '.'] then resolved ++ [[]] else resolved
  let joined := List.intercalate ['/'] resolved
  if joined.isEmpty then ['/'] else joined

/-- What a reference means that is taken from a base, both as texts. -/
def meaning (base reference : List Char) : List Char :=
  let b := split [] base
  let r := split b.scheme reference
  if r.scheme ≠ b.scheme ∨ !placedSchemes.contains (String.ofList r.scheme) then reference
  else if hostedSchemes.contains (String.ofList r.scheme) ∧ !r.authority.isEmpty then r.chars
  else
    let authority :=
      if hostedSchemes.contains (String.ofList r.scheme) then b.authority else r.authority
    if r.path.isEmpty ∧ r.parameters.isEmpty then
      Parts.chars { r with
        authority := authority
        path := b.path
        parameters := b.parameters
        query := if r.query.isEmpty then b.query else r.query }
    else Parts.chars { r with authority := authority, path := joinPaths b.path r.path }

/-- Refuses a text that is not read as a reference because of its authority. -/
def check (cs : List Char) : Except ServerAddress.Refusal Unit := do
  let authority := (split [] cs).authority
  ServerAddress.checkBrackets authority
  if authority.any fun c ↦ ServerAddress.disguises.contains c.toNat then
    .error (.disguised (String.ofList authority))
  else .ok ()

/-- The text of a reference taken from a base, both as texts. An empty one stands for the other, and
neither is read. -/
def join (base reference : List Char) : Except ServerAddress.Refusal (List Char) :=
  if base.isEmpty then .ok reference
  else if reference.isEmpty then .ok base
  else do
    check base
    check reference
    .ok (meaning base reference)

end FormCatalog.Reference
