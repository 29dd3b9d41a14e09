import FormCatalog.Number.Digits
import FormCatalog.Text.LowerCase
import FormCatalog.Text.Quoted
import FormCatalog.Text.Utf8
import FormCatalog.Web.HostName

/-!
The addresses of requests.

An address is cut into scheme, authority, path, query and fragment at the first delimiter of each
kind; the authority is cut into user information, host and port. Each part is then put into the form
in which it is sent: the scheme and the host in lower case, the port without the scheme's usual one,
dots resolved in the path, and every character that its part may not hold as percent signs with the
hexadecimal digits of its UTF-8 encoding. A percent sign itself always stays. An international host
is sent in plain letters, and is read back where a host is compared or put into another address.
-/

set_option autoImplicit false
set_option relaxedAutoImplicit false

namespace FormCatalog

/-- Why a text is not the address of a request. -/
inductive UrlFault where
  | tooLong
  | control (c : Char) (position : Nat)
  | partTooLong (part : String)
  | controlInPart (part : String) (c : Char) (position : Nat)
  | fourPartHost (host : List Char)
  | bracketedHost (host : List Char)
  | hostName (host : List Char)
  | port (text : List Char)
  | pathAfterHost
  | doubleSlash
  | leadingColon
  deriving DecidableEq, Repr

namespace UrlFault

/-- A text in quotes. -/
def shown (cs : List Char) : String := Text.quoted (String.ofList cs)

/-- The text of a fault. -/
def message : UrlFault → String
  | tooLong => "URL too long"
  | control c n => "Invalid non-printable ASCII character in URL, " ++ shown [c] ++ " at position "
      ++ Number.textOfNat n ++ "."
  | partTooLong part => "URL component '" ++ part ++ "' too long"
  | controlInPart part c n => "Invalid non-printable ASCII character in URL " ++ part
      ++ " component, " ++ shown [c] ++ " at position " ++ Number.textOfNat n ++ "."
  | fourPartHost host => "Invalid IPv4 address: " ++ shown host
  | bracketedHost host => "Invalid IPv6 address: " ++ shown host
  | hostName host => "Invalid IDNA hostname: " ++ shown host
  | port text => "Invalid port: " ++ shown text
  | pathAfterHost => "For absolute URLs, path must be empty or begin with '/'"
  | doubleSlash => "Relative URLs cannot have a path starting with '//'"
  | leadingColon => "Relative URLs cannot have a path starting with ':'"

end UrlFault

/-- An address as it is sent. -/
structure Url where
  scheme : List Char
  userInfo : List Char
  /-- The host, without square brackets. -/
  host : List Char
  port : Option Int
  path : List Char
  query : Option (List Char)
  fragment : Option (List Char)
  deriving DecidableEq, Repr

namespace Url

/-! ### Characters -/

/-- The most characters that an address, or a part of one, may have. -/
def lengthLimit : Nat := 65536

/-- A plain character that does not show. -/
def isControl (c : Char) : Bool := c.toNat < 0x20 || c.toNat = 0x7f

/-- A plain character that shows, other than those listed. -/
def plainBut (excluded : List Char) (c : Char) : Bool :=
  0x20 ≤ c.toNat && c.toNat < 0x7f && !excluded.contains c

/-- What a fragment may hold. -/
def inFragment : Char → Bool := plainBut [' ', '"', '<', '>', '\x60']

/-- What a query may hold. -/
def inQuery : Char → Bool := plainBut [' ', '"', '#', '<', '>']

/-- What a path may hold. -/
def inPath : Char → Bool := plainBut [' ', '"', '#', '<', '>', '?', '\x60', '\x7b', '\x7d']

/-- What user information may hold. -/
def inUserInfo : Char → Bool :=
  plainBut [' ', '"', '#', '<', '>', '?', '\x60', '\x7b', '\x7d', '/', ';', '=', '@', '[', '\\',
    ']', '^', '|']

/-- Letters, digits and the four marks that are never written with a percent sign. -/
def isUnreserved (c : Char) : Bool :=
  ('a' ≤ c && c ≤ 'z') || ('A' ≤ c && c ≤ 'Z') || ('0' ≤ c && c ≤ '9')
    || c = '-' || c = '.' || c = '_' || c = '~'

/-- What a host may hold. -/
def inHost (c : Char) : Bool :=
  isUnreserved c || "!$&'()*+,;=\"\x60\x7b\x7d%|\\".toList.contains c

/-- A byte as a percent sign and two upper-case hexadecimal digits. -/
def percentByte (b : UInt8) : List Char :=
  let digit (n : Nat) : Char := if n < 10 then Char.ofNat (48 + n) else Char.ofNat (55 + n)
  ['%', digit (b.toNat / 16), digit (b.toNat % 16)]

/-- Writes every character that is not allowed by its bytes. -/
def escape (allowed : Char → Bool) (cs : List Char) : List Char :=
  cs.flatMap fun c ↦
    if allowed c then [c] else (Bytes.ofText (String.singleton c)).flatMap percentByte

/-- The bytes that a text with percent signs stands for. -/
def unescapeBytes : List Char → Bytes
  | '%' :: a :: b :: rest =>
    match Json.hexValue? a, Json.hexValue? b with
    | some x, some y => UInt8.ofNat (16 * x + y) :: unescapeBytes rest
    | _, _ => 0x25 :: unescapeBytes (a :: b :: rest)
  | c :: rest => Bytes.ofText (String.singleton c) ++ unescapeBytes rest
  | [] => []

/-- Decodes bytes, a replacement character standing for each broken sequence. -/
def decodeLoosely : Nat → Bytes → List Char
  | 0, _ => []
  | fuel + 1, bs =>
    match Bytes.toText? bs, Utf8.firstFault? bs with
    | some s, _ => s.toList
    | none, none => []
    | none, some fault =>
      ((Bytes.toText? (bs.take fault.position)).getD "").toList
        ++ Char.ofNat 0xfffd :: decodeLoosely fuel (bs.drop (fault.position + fault.length))

/-- The text that a text with percent signs stands for. -/
def unescape (cs : List Char) : List Char :=
  let bs := unescapeBytes cs
  decodeLoosely (bs.length + 1) bs

/-! ### Taking an address apart -/

/-- The parts of an address as written. -/
structure Parts where
  scheme : List Char
  authority : List Char
  path : List Char
  query : Option (List Char)
  fragment : Option (List Char)
  deriving DecidableEq, Repr

/-- A plain letter. -/
def isLetter (c : Char) : Bool := ('a' ≤ c && c ≤ 'z') || ('A' ≤ c && c ≤ 'Z')

/-- A character of a scheme after its first. -/
def isSchemeChar (c : Char) : Bool :=
  isLetter c || Number.isDigit c || c = '+' || c = '.' || c = '-'

/-- The scheme, if one begins the text, and what follows its colon. A colon at the very beginning
ends an empty scheme. -/
def splitScheme (cs : List Char) : List Char × List Char :=
  match cs with
  | ':' :: rest => ([], rest)
  | c :: _ =>
    if isLetter c then
      match cs.span isSchemeChar with
      | (scheme, ':' :: rest) => (scheme, rest)
      | _ => ([], cs)
    else ([], cs)
  | [] => ([], [])

/-- What follows a mark, and what stands before it. -/
def splitMark (mark : Char) (cs : List Char) : List Char × Option (List Char) :=
  match cs.span (· ≠ mark) with
  | (front, _ :: back) => (front, some back)
  | (front, []) => (front, none)

/-- Takes an address apart. -/
def split (cs : List Char) : Parts :=
  let (scheme, rest) := splitScheme cs
  let (authority, rest) : List Char × List Char := match rest with
    | '/' :: '/' :: rest => rest.span fun c ↦ c ≠ '/' && c ≠ '?' && c ≠ '#'
    | rest => ([], rest)
  let (rest, fragment) := splitMark '#' rest
  let (path, query) := splitMark '?' rest
  ⟨scheme, authority, path, query, fragment⟩

/-- User information, host and port of an authority. The last at sign ends the user information;
a host in square brackets ends at the last of them. -/
def splitAuthority (cs : List Char) : List Char × List Char × List Char :=
  let (userInfo, server) : List Char × List Char :=
    if cs.contains '@' then
      let server := (cs.reverse.takeWhile (· ≠ '@')).reverse
      (cs.take (cs.length - server.length - 1), server)
    else ([], cs)
  let bracketed : Option (List Char × List Char) :=
    match server with
    | '[' :: _ =>
      if server.contains ']' then
        let port := (server.reverse.takeWhile (· ≠ ']')).reverse
        some (server.take (server.length - port.length), port)
      else none
    | _ => none
  let (host, rest) := bracketed.getD (server.span (· ≠ ':'))
  (userInfo, host, match rest with
    | ':' :: port => port
    | port => port)

/-! ### Hosts, ports and paths -/

/-- The lengths of the rows of digits between the other characters. -/
def digitRows : List Char → List Nat
  | [] => [0]
  | c :: rest =>
    match digitRows rest with
    | n :: rows => if Number.isDigit c then (n + 1) :: rows else 0 :: n :: rows
    | [] => [0]

/-- Whether a host looks like four numbers: four rows of digits with any one character, which may
itself be a digit, between two of them. -/
def looksFourPart (host : List Char) : Bool :=
  let rows := digitRows host
  let others := rows.length - 1
  rows.all (· ≥ 1) && others ≤ 3 && rows.foldl (fun pairs n ↦ pairs + (n - 1) / 2) 0 ≥ 3 - others

/-- The host as it is sent. -/
def sentHost (host : List Char) : Except UrlFault (List Char) :=
  if host.isEmpty then .ok []
  else if looksFourPart host then
    if HostLiteral.isFourPart host then .ok host else .error (.fourPartHost host)
  else if host.head? = some '[' && host.getLast? = some ']' then
    let inside := (host.drop 1).dropLast
    if HostLiteral.isColonForm inside then .ok inside else .error (.bracketedHost host)
  else if host.all fun c ↦ c.toNat < 128 then .ok (escape inHost (Text.lower host))
  else
    match HostName.encode (Text.lower host) with
    | .ok sent => .ok sent
    | .error _ => .error (.hostName host)

/-- The port that a scheme usually has. -/
def usualPort (scheme : String) : Option Int :=
  match scheme with
  | "ftp" => some 21
  | "http" => some 80
  | "https" => some 443
  | "ws" => some 80
  | "wss" => some 443
  | _ => none

/-- The port, none if it is left out or the usual one of the scheme as written. -/
def sentPort (scheme port : List Char) : Except UrlFault (Option Int) :=
  if port.isEmpty then .ok none
  else
    match Number.anyInt? port with
    | none => .error (.port port)
    | some n => .ok (if usualPort (String.ofList scheme) = some n then none else some n)

/-- Resolves dots: a double dot takes back the component before it, but not the root. -/
def resolveDots (path : List Char) : List Char :=
  let components := HostLiteral.splitAt '/' path
  if !components.contains ['.'] && !components.contains ['.', '.'] then path
  else
    let kept := components.foldl (fun (done : List (List Char)) c ↦
      if c = ['.'] then done
      else if c = ['.', '.'] then if done = [] ∨ done = [[]] then done else done.dropLast
      else done ++ [c]) []
    List.intercalate ['/'] kept

/-- Whether a path may stand where it does. -/
def checkPath (path : List Char) (hasScheme hasAuthority : Bool) : Except UrlFault Unit :=
  if hasAuthority then
    if path.isEmpty || path.head? = some '/' then .ok () else .error .pathAfterHost
  else if hasScheme then .ok ()
  else if ['/', '/'].isPrefixOf path then .error .doubleSlash
  else if path.head? = some ':' then .error .leadingColon
  else .ok ()

/-- Puts the parts of an address into the form in which they are sent. The host and the user
information may be given apart from the authority. -/
def assemble (scheme userInfo host port path : List Char) (query fragment : Option (List Char)) :
    Except UrlFault Url := do
  let sentUser := escape inUserInfo userInfo
  let host ← sentHost host
  let port ← sentPort scheme port
  let scheme := Text.lower scheme
  let hasScheme := !scheme.isEmpty
  let hasAuthority := !sentUser.isEmpty || !host.isEmpty || port.isSome
  checkPath path hasScheme hasAuthority
  let path := if hasScheme || hasAuthority then resolveDots path else path
  .ok ⟨scheme, sentUser, host, port, escape inPath path, query.map (escape inQuery),
    fragment.map (escape inFragment)⟩

/-- The first plain character that does not show, with its place. -/
def firstControl? (cs : List Char) : Option (Char × Nat) :=
  (cs.findIdx? isControl).map fun i ↦ (cs.getD i ' ', i)

/-- The address of a text. -/
def ofText (s : String) : Except UrlFault Url :=
  let cs := s.toList
  if cs.length > lengthLimit then .error .tooLong
  else
    match firstControl? cs with
    | some (c, i) => .error (.control c i)
    | none =>
      let p := split cs
      let (userInfo, host, port) := splitAuthority p.authority
      assemble p.scheme userInfo host port p.path p.query p.fragment

/-! ### Putting an address together -/

/-- The host, in square brackets if it is in colon form. -/
def hostText (u : Url) : List Char :=
  if u.host.contains ':' then '[' :: (u.host ++ [']']) else u.host

/-- Host and port. -/
def server (u : Url) : List Char :=
  u.hostText ++
    match u.port with
    | some n => ':' :: (Number.textOfInt n).toList
    | none => []

/-- User information, host and port. -/
def authority (u : Url) : List Char :=
  (if u.userInfo.isEmpty then [] else u.userInfo ++ ['@']) ++ u.server

/-- The characters of an address. -/
def chars (u : Url) : List Char :=
  (if u.scheme.isEmpty then [] else u.scheme ++ [':'])
    ++ (if u.authority.isEmpty then [] else '/' :: '/' :: u.authority)
    ++ u.path
    ++ (match u.query with
      | some q => '?' :: q
      | none => [])
    ++ (match u.fragment with
      | some f => '#' :: f
      | none => [])

/-- The text of an address. -/
def text (u : Url) : String := String.ofList u.chars

/-- Path and query as they stand in a request; an empty path is the root. -/
def target (u : Url) : List Char :=
  (if u.path.isEmpty then ['/'] else u.path) ++
    match u.query with
    | some q => '?' :: q
    | none => []

/-- The code points of the host, read back from the plain letters in which it is sent. -/
def readHost (u : Url) : Except HostFault (List Nat) := HostName.read u.host

/-- The host, read back if it can be. -/
def hostName (u : Url) : List Char :=
  match u.readHost with
  | .ok points => points.map Char.ofNat
  | .error _ => u.host

/-- Whether the address names a scheme and a host. -/
def isComplete (u : Url) : Bool := !u.scheme.isEmpty && !u.host.isEmpty

/-- Refuses a part that is too long or holds a character that does not show. -/
def checkPart (part : String) (cs : List Char) : Except UrlFault Unit :=
  if cs.length > lengthLimit then .error (.partTooLong part)
  else
    match firstControl? cs with
    | some (c, i) => .error (.controlInPart part c i)
    | none => .ok ()

/-- Refuses parts of which one is too long or holds a character that does not show. -/
def checkParts (scheme authority path : List Char) (query fragment : Option (List Char)) :
    Except UrlFault Unit := do
  checkPart "scheme" scheme
  checkPart "authority" authority
  checkPart "path" path
  checkPart "query" (query.getD [])
  checkPart "fragment" (fragment.getD [])

/-- The address with another path and query, written as one. -/
def withTarget (u : Url) (target : List Char) : Except UrlFault Url := do
  let (path, query) := splitMark '?' target
  checkParts u.scheme u.authority path query u.fragment
  let (userInfo, host, port) := splitAuthority u.authority
  assemble u.scheme userInfo host port path query u.fragment

/-- The address with another host. -/
def withHost (u : Url) (host : List Char) : Except UrlFault Url := do
  let host := if host.contains ':' then '[' :: (host ++ [']']) else host
  checkParts u.scheme u.authority u.path u.query u.fragment
  checkPart "host" host
  let (userInfo, _, port) := splitAuthority u.authority
  assemble u.scheme userInfo host port u.path u.query u.fragment

/-- The address with another fragment. -/
def withFragment (u : Url) (fragment : List Char) : Except UrlFault Url := do
  checkParts u.scheme u.authority u.path u.query (some fragment)
  let (userInfo, host, port) := splitAuthority u.authority
  assemble u.scheme userInfo host port u.path u.query (some fragment)

end Url

end FormCatalog
