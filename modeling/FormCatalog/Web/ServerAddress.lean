import FormCatalog.Fault
import FormCatalog.Text.Blank
import FormCatalog.Text.LowerCase
import FormCatalog.Web.HostLiteral

/-!
Checking the address of a server.

An address is trimmed of blanks at both ends and of slashes at its end. It is then read as scheme,
authority, query and fragment; it must have the scheme `http` or `https`, a host, and neither a
query nor a fragment with anything in it, since the path of the form list is appended to it. Plain
`http` is only for hosts that are this machine, unless it is allowed.
-/

set_option autoImplicit false
set_option relaxedAutoImplicit false

namespace FormCatalog.ServerAddress

/-- Why an address is refused. -/
inductive Refusal where
  /-- Square brackets that do not enclose the host. -/
  | brackets
  /-- Square brackets around something that is not a number form. -/
  | notNumeric (host : String)
  /-- Square brackets around a dotted form. -/
  | fourPartInBrackets
  /-- Square brackets around a form of a later version that is not well formed. -/
  | futureForm
  /-- A character of the authority that stands for a delimiter. -/
  | disguised (authority : String)
  | schemeOrHost (address : String)
  | queryOrFragment (address : String)
  /-- Plain `http` to another machine. -/
  | notSecure (host : String)
  deriving DecidableEq, Repr

/-- The text of a refusal. -/
def Refusal.message : Refusal → String
  | brackets => "Invalid IPv6 URL"
  | notNumeric host => Text.quoted host ++ " does not appear to be an IPv4 or IPv6 address"
  | fourPartInBrackets => "An IPv4 address cannot be in brackets"
  | futureForm => "IPvFuture address is invalid"
  | disguised authority =>
    "netloc '" ++ authority ++ "' contains invalid characters under NFKC normalization"
  | schemeOrHost address =>
    "Server URL " ++ Text.quoted address
      ++ " must include scheme and host (e.g. https://central.example.org/v1/key/abc)"
  | queryOrFragment address =>
    "Server URL " ++ Text.quoted address ++ " must not carry a query string or fragment"
  | notSecure host =>
    "HTTPS is required for " ++ host
      ++ "; use --allow-insecure-http only on trusted networks."

/-- An address taken apart. -/
structure Parts where
  scheme : List Char
  authority : List Char
  query : List Char
  fragment : List Char
  deriving DecidableEq, Repr

/-- Trims an address of blanks at both ends, then of slashes at its end. -/
def normalize (address : String) : String :=
  String.ofList (Text.dropTrailing (· = '/') (Text.trim Text.isBlank address.toList))

/-- Controls and the space are skipped in front of an address. -/
def isLeadingControl (c : Char) : Bool := c.toNat ≤ 0x20

/-- Tabs and line ends are skipped anywhere in an address. -/
def isSkipped (c : Char) : Bool := c = '\t' || c = '\r' || c = '\n'

/-- A plain letter. -/
def isLetter (c : Char) : Bool := ('a' ≤ c && c ≤ 'z') || ('A' ≤ c && c ≤ 'Z')

/-- A character of a scheme. -/
def isSchemeChar (c : Char) : Bool :=
  isLetter c || Number.isDigit c || c = '+' || c = '-' || c = '.'

/-- The text before and after the first occurrence of a character, if it occurs. -/
def cut? (mark : Char) (cs : List Char) : Option (List Char × List Char) :=
  match cs.span (· ≠ mark) with
  | (_, []) => none
  | (front, _ :: back) => some (front, back)

/-- The text after the last occurrence of a character, or the whole text. -/
def afterLast (mark : Char) (cs : List Char) : List Char :=
  (cs.reverse.takeWhile (· ≠ mark)).reverse

/-- The scheme in lower case and what follows its colon; without a scheme, nothing and the whole. -/
def splitScheme (cs : List Char) : List Char × List Char :=
  match cut? ':' cs with
  | some (c :: front, back) =>
    if isLetter c && front.all isSchemeChar then (Text.lower (c :: front), back) else ([], cs)
  | _ => ([], cs)

/-- A form of a later version: `v`, hexadecimal digits, a point, and at least one character. -/
def isFutureForm (cs : List Char) : Bool :=
  match cs with
  | 'v' :: rest =>
    let (digits, after) := rest.span fun c ↦ (Json.hexValue? c).isSome
    !digits.isEmpty && after.head? = some '.' && after.length ≥ 2
  | _ => false

/-- Checks the host of an authority that has square brackets. -/
def checkLiteral (host : List Char) : Except Refusal Unit :=
  if host.head? = some 'v' then
    if isFutureForm host then .ok () else .error .futureForm
  else if HostLiteral.isFourPart host then .error .fourPartInBrackets
  else if HostLiteral.isColonForm host then .ok ()
  else .error (.notNumeric (String.ofList host))

/-- Checks the square brackets of an authority: they come in pairs, nothing stands in front of them,
and only a port may follow. -/
def checkBrackets (authority : List Char) : Except Refusal Unit :=
  match authority.contains '[', authority.contains ']' with
  | false, false => .ok ()
  | true, true =>
    let server := afterLast '@' authority
    match cut? '[' server with
    | some (front, inside) =>
      let (host, after) := inside.span (· ≠ ']')
      let port := after.drop 1
      if !front.isEmpty || (!port.isEmpty && port.head? ≠ some ':') then .error .brackets
      else checkLiteral host
    | none => checkLiteral (server.takeWhile (· ≠ ':'))
  | _, _ => .error .brackets

/-- Characters that stand for a text with one of the delimiters `/ ? # @ :` in it. -/
def disguises : List Nat :=
  [0x2047, 0x2048, 0x2049, 0x2100, 0x2101, 0x2105, 0x2106, 0x2a74, 0xfe13, 0xfe16, 0xfe55, 0xfe56,
    0xfe5f, 0xfe6b, 0xff03, 0xff0f, 0xff1a, 0xff1f, 0xff20]

/-- Takes an address apart. -/
def parts (address : String) : Except Refusal Parts := do
  let cs := (address.toList.dropWhile isLeadingControl).filter fun c ↦ !isSkipped c
  let (scheme, rest) := splitScheme cs
  let (authority, rest) := match rest with
    | '/' :: '/' :: rest => rest.span fun c ↦ c ≠ '/' && c ≠ '?' && c ≠ '#'
    | rest => ([], rest)
  checkBrackets authority
  let (rest, fragment) := (cut? '#' rest).getD (rest, [])
  let (_, query) := (cut? '?' rest).getD (rest, [])
  if authority.any fun c ↦ disguises.contains c.toNat then
    .error (.disguised (String.ofList authority))
  else .ok ⟨scheme, authority, query, fragment⟩

/-- The host of an authority, in lower case up to a zone. -/
def host (authority : List Char) : List Char :=
  let server := afterLast '@' authority
  let name := match cut? '[' server with
    | some (_, inside) => inside.takeWhile (· ≠ ']')
    | none => server.takeWhile (· ≠ ':')
  let (plain, zone) := name.span (· ≠ '%')
  Text.lower plain ++ zone

/-- The hosts that are this machine. -/
def thisMachine : List String := ["localhost", "127.0.0.1", "::1"]

/-- The normal form of an address that can serve as the address of a server. -/
def check (address : String) (allowInsecure : Bool) : Except Refusal String := do
  let normal := normalize address
  let p ← parts normal
  let scheme := String.ofList p.scheme
  let host := String.ofList (host p.authority)
  if (scheme ≠ "http" ∧ scheme ≠ "https") ∨ host = "" then .error (.schemeOrHost normal)
  else if p.query ≠ [] ∨ p.fragment ≠ [] then .error (.queryOrFragment normal)
  else if scheme = "http" ∧ allowInsecure = false ∧ !thisMachine.contains host then
    .error (.notSecure host)
  else .ok normal

end FormCatalog.ServerAddress
