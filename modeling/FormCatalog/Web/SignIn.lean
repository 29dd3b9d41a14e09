import FormCatalog.Digest.Base64
import FormCatalog.Digest.Md5
import FormCatalog.Digest.Sha
import FormCatalog.Settings.Basic
import FormCatalog.Text.UpperCase
import FormCatalog.Web.ServerAddress
import FormCatalog.Web.Url

/-!
Signing in to a server.

With the basic scheme every request carries the credentials. With the digest scheme the server first
answers with a challenge, and the request is sent again with a digest of the credentials, the
challenge and the target; later requests answer the last challenge at once, each under the next
number.
-/

set_option autoImplicit false
set_option relaxedAutoImplicit false

namespace FormCatalog

/-- Why a request has no answer. -/
inductive WebFault where
  /-- The network failed, with its own words. -/
  | network (message : String)
  | tooManyRedirects
  /-- A redirect to something that is not an address. -/
  | badLocation (fault : UrlFault)
  | badUrl (fault : UrlFault)
  /-- A host that cannot be read back from the plain letters in which it is sent. -/
  | badHost (fault : HostFault)
  /-- A challenge that lacks what it must have. -/
  | badChallenge
  /-- A challenge that asks for a protection that is not known. -/
  | badProtection (wanted : Bytes)
  /-- A challenge that asks for the protection of content, which is not provided. -/
  | contentProtection
  /-- A challenge that asks for a digest that is not known. -/
  | unknownDigest (name : String)
  /-- A challenge with a name that has no value. -/
  | noValue
  /-- A challenge with a value that has no characters. -/
  | emptyValue
  /-- A server named in other than plain characters, or credentials in such characters for a request
  that has been sent without. -/
  | notPlain (text : String)
  /-- The client has been closed. -/
  | closed
  /-- A request to an address without a scheme. -/
  | noScheme (url : String)
  /-- An address that is not read as a reference. -/
  | badReference (refusal : ServerAddress.Refusal)
  deriving DecidableEq, Repr

/-- The text of bytes in quotes. -/
def quotedBytes (bs : Bytes) : String :=
  let quote : Char := if bs.contains 0x27 && !bs.contains 0x22 then '"' else '\''
  let shown (b : UInt8) : List Char :=
    let c := Char.ofNat b.toNat
    if c = quote ∨ c = '\\' then ['\\', c]
    else if c = '\t' then ['\\', 't']
    else if c = '\n' then ['\\', 'n']
    else if c = '\r' then ['\\', 'r']
    else if 0x20 ≤ b.toNat ∧ b.toNat < 0x7f then [c]
    else '\\' :: 'x' :: Text.hexPadded 2 b.toNat
  String.ofList ('b' :: quote :: (bs.flatMap shown ++ [quote]))

/-- A plain character. -/
def isPlain (c : Char) : Bool := c.toNat < 0x80

/-- The words for the first characters of a text that are not plain. -/
def notPlainText (cs : List Char) : String :=
  let first := (cs.takeWhile isPlain).length
  let others := (cs.dropWhile isPlain).takeWhile fun c ↦ !isPlain c
  let which := match others with
    | [c] =>
      let n := c.toNat
      let shown := if n < 0x100 then 'x' :: Text.hexPadded 2 n
        else if n < 0x10000 then 'u' :: Text.hexPadded 4 n
        else 'U' :: Text.hexPadded 8 n
      "character '\\" ++ String.ofList shown ++ "' in position " ++ Number.textOfNat first
    | _ => "characters in position " ++ Number.textOfNat first ++ "-"
        ++ Number.textOfNat (first + others.length - 1)
  "'ascii' codec can't encode " ++ which ++ ": ordinal not in range(128)"

/-- The text of a fault. -/
def WebFault.message : WebFault → String
  | network m => m
  | tooManyRedirects => "Exceeded maximum allowed redirects."
  | badLocation fault => "Invalid URL in location header: " ++ fault.message ++ "."
  | badUrl fault => fault.message
  | badHost fault => fault.message
  | badChallenge => "Malformed Digest WWW-Authenticate header"
  | badProtection wanted => "Unexpected qop value \"" ++ quotedBytes wanted ++ "\" in digest auth"
  | contentProtection => "Digest auth-int support is not yet implemented"
  | unknownDigest name => Text.quoted name
  | noValue => "not enough values to unpack (expected 2, got 1)"
  | emptyValue => "string index out of range"
  | notPlain text => notPlainText text.toList
  | closed => "Cannot send a request, as the client has been closed."
  | noScheme url => "unknown url type: " ++ Text.quoted url
  | badReference refusal => refusal.message

/-- The ways to sign in. -/
inductive SignIn where
  | basic (username password : String)
  | digest (username password : String)
  deriving DecidableEq, Repr

namespace SignIn

/-- The way to sign in with a scheme; without a user name there is none. -/
def of (username password : String) (scheme : SignInScheme) : Option SignIn :=
  if username = "" then none
  else
    match scheme with
    | .basic => some (.basic username password)
    | .digest => some (.digest username password)

/-- The header that carries credentials as they are. -/
def basicHeader (username password : Bytes) : String :=
  "Basic " ++ Bytes.base64 (username ++ 0x3a :: password)

/-- A challenge of a server. -/
structure Challenge where
  realm : String
  nonce : String
  algorithm : String
  opaqueData : Option String
  protection : Option String
  deriving DecidableEq, Repr

/-- Cuts a list at its commas, except inside double quotes, where a backslash is dropped and keeps
the character after it. -/
def listItems (cs : List Char) : List (List Char) :=
  let step (s : List (List Char) × List Char × Bool × Bool) (c : Char) :
      List (List Char) × List Char × Bool × Bool :=
    let (done, part, escaped, quoted) := s
    if escaped then (done, c :: part, false, quoted)
    else if quoted then
      if c = '\\' then (done, part, true, true) else (done, c :: part, false, c ≠ '"')
    else if c = ',' then (part :: done, [], false, false)
    else (done, c :: part, false, c = '"')
  let (done, part, _, _) := cs.foldl step ([], [], false, false)
  let done := if part.isEmpty then done else part :: done
  done.reverse.map fun p ↦ Text.trim Text.isBlank p.reverse

/-- A value without the double quotes around it. -/
def plainValue (cs : List Char) : Except WebFault (List Char) :=
  match cs with
  | [] => .error .emptyValue
  | _ =>
    if cs.head? = some '"' && cs.getLast? = some '"' then .ok ((cs.drop 1).dropLast) else .ok cs

/-- A name and its value. -/
def pair (item : List Char) : Except WebFault (String × String) :=
  match item.span (· ≠ '=') with
  | (_, []) => .error .noValue
  | (name, _ :: value) => do
    let value ← plainValue value
    .ok (String.ofList name, String.ofList value)

/-- Reads the fields of a challenge. -/
def challenge (fields : List Char) : Except WebFault Challenge := do
  let pairs ← (listItems fields).mapM pair
  let value? (name : String) : Option String := (pairs.reverse.find? (·.1 = name)).map (·.2)
  match value? "realm", value? "nonce" with
  | some realm, some nonce =>
    .ok ⟨realm, nonce, (value? "algorithm").getD "MD5", value? "opaque", value? "qop"⟩
  | _, _ => .error .badChallenge

/-- A text in upper case. -/
def upper (s : String) : String := String.ofList (Text.upper s.toList)

/-- The digests that a challenge may ask for. -/
def digestOf? (name : String) : Option (Bytes → Bytes) :=
  match name with
  | "MD5" => some Digest.Md5.digest
  | "MD5-SESS" => some Digest.Md5.digest
  | "SHA" => some Digest.Sha.sha1
  | "SHA-SESS" => some Digest.Sha.sha1
  | "SHA-256" => some Digest.Sha.sha256
  | "SHA-256-SESS" => some Digest.Sha.sha256
  | "SHA-512" => some Digest.Sha.sha512
  | "SHA-512-SESS" => some Digest.Sha.sha512
  | _ => none

/-- Joins byte strings with colons. -/
def colons (parts : List Bytes) : Bytes := List.intercalate [0x3a] parts

/-- The protections that a challenge offers, cut at commas with at most one space after them. -/
def offers (protection : String) : List (List Char) :=
  (HostLiteral.splitAt ',' protection.toList).mapIdx fun i p ↦
    match i, p with
    | _ + 1, ' ' :: rest => rest
    | _, p => p

/-- Whether the answer takes up the offered protection; the ones that are not known are refused. -/
def protects (protection : Option String) : Except WebFault Bool :=
  match protection with
  | none => .ok false
  | some wanted =>
    let offered := offers wanted
    if offered.contains "auth".toList then .ok true
    else if offered = ["auth-int".toList] then .error .contentProtection
    else .error (.badProtection (Bytes.ofText wanted))

/-- The client's part of the secret under a number. -/
def clientNonce (count : Nat) (nonce : String) : String :=
  String.ofList ((Bytes.hex (Digest.Sha.sha1
    (Bytes.ofText (Number.textOfNat count ++ nonce)))).toList.take 16)

/-- The header that answers a challenge, for a target under a number. -/
def answer (username password : String) (c : Challenge) (count : Nat) (target : String) :
    Except WebFault String :=
  match digestOf? (upper c.algorithm) with
  | none => .error (.unknownDigest (upper c.algorithm))
  | some hash => do
    let hex (parts : List Bytes) : Bytes := Bytes.ofText (Bytes.hex (hash (colons parts)))
    let nonce := Bytes.ofText c.nonce
    let number := String.ofList (Text.hexPadded 8 count)
    let secret := clientNonce count c.nonce
    let user := hex [Bytes.ofText username, Bytes.ofText c.realm, Bytes.ofText password]
    let user :=
      if "-sess".toList.isSuffixOf (Text.lower c.algorithm.toList) then
        hex [user, nonce, Bytes.ofText secret]
      else user
    let request := hex [Bytes.ofText "GET", Bytes.ofText target]
    let guarded ← protects c.protection
    let response :=
      if guarded then
        hex [user, nonce, Bytes.ofText number, Bytes.ofText secret, Bytes.ofText "auth", request]
      else hex [user, nonce, request]
    let quotedField (name value : String) : String := name ++ "=\"" ++ value ++ "\""
    let fields := [quotedField "username" username, quotedField "realm" c.realm,
      quotedField "nonce" c.nonce, quotedField "uri" target,
      quotedField "response" ((Bytes.toText? response).getD ""), "algorithm=" ++ c.algorithm]
    let fields := fields ++ match c.opaqueData with
      | some data => if data = "" then [] else [quotedField "opaque" data]
      | none => []
    let fields := if guarded then
        fields ++ ["qop=auth", "nc=" ++ number, quotedField "cnonce" secret]
      else fields
    .ok ("Digest " ++ ", ".intercalate fields)

end SignIn

end FormCatalog
