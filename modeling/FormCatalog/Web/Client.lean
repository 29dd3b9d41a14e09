import FormCatalog.Web.Reference
import FormCatalog.Web.SignIn

/-!
Sending requests.

A `Wire` carries one request to a server and brings the reply, or fails; the body of a reply is the
one that is left when the encodings that its headers name have been undone, and a body that cannot
be decoded is a failure of the wire. A `Client` sends requests over a wire: an address without
scheme and host is appended to the base address; credentials are added; redirects are followed, at
most twenty of them, and credentials are dropped on the way to another origin; a challenge is
answered once. A host is always read back from the letters in which it is sent, and no request is
made for one that cannot be, or that is not named in plain characters. The address of a request is
kept with the reply as a reference, and a reply is lost where it cannot be.

Cookies are left out: a server that knows a client by them is a wire whose replies depend on the
state of the network, and nothing is said of cookies that cannot be kept or sent back. Left out are
also the other headers of a request, the times after which a wire gives up, proxies, and wires that
break off in another way than a request fails.
-/

set_option autoImplicit false
set_option relaxedAutoImplicit false

namespace FormCatalog

/-- A request for what is at an address. -/
structure Request where
  url : Url
  authorization : Option String
  deriving DecidableEq, Repr

/-- What a server answers. -/
structure Reply where
  status : Nat
  headers : List (String × String)
  body : Bytes
  deriving DecidableEq, Repr

/-- Carries a request over a network with state `N`: the reply, or the words of the failure. -/
abbrev Wire (N : Type) := Request → N → Except String Reply × N

namespace Reply

/-- The values of a header, whose name is taken in any case. -/
def headers? (r : Reply) (name : String) : List String :=
  (r.headers.filter fun h ↦ h.1.toList.map Char.toLower = name.toList).map (·.2)

/-- The value of a header, several of them joined by commas. -/
def header? (r : Reply) (name : String) : Option String :=
  match r.headers? name with
  | [] => none
  | values => some (", ".intercalate values)

/-- Where a redirect leads; other replies lead nowhere. -/
def location? (r : Reply) : Option String :=
  if [301, 302, 303, 307, 308].contains r.status then r.header? "location" else none

/-- Whether the reply brings what was asked for. -/
def isSuccess (r : Reply) : Bool := 200 ≤ r.status && r.status ≤ 299

end Reply

/-- What a client remembers. -/
structure Client where
  /-- The address that relative ones are appended to; its path ends with a slash. -/
  base : Url
  signIn : Option SignIn
  /-- The last challenge of a server. -/
  challenge : Option SignIn.Challenge := none
  /-- The number of the next answer to it. -/
  count : Nat := 1
  isClosed : Bool := false
  deriving DecidableEq, Repr

/-- A client and the network it uses. -/
structure Web (N : Type) where
  client : Client
  net : N

/-- Programs of a client. -/
abbrev WebOp (N : Type) := EStateM WebFault (Web N)

namespace Client

variable {N : Type}

/-- Ends as a value says, a fault of an address being a fault of the request. -/
def orBadUrl {α : Type} : Except UrlFault α → Except WebFault α
  | .ok a => .ok a
  | .error fault => .error (.badUrl fault)

/-- Ends as a value says, a refusal being that of a reference. -/
def orBadReference {α : Type} : Except ServerAddress.Refusal α → Except WebFault α
  | .ok a => .ok a
  | .error refusal => .error (.badReference refusal)

/-- Ends as a value says. -/
def ofExcept {α : Type} : Except WebFault α → WebOp N α
  | .ok a => pure a
  | .error fault => throw fault

/-- A client for a base address, which gets a slash at its end. -/
def of (base : String) (signIn : Option SignIn) : Except UrlFault Client := do
  let url ← Url.ofText base
  let url ← if url.target.getLast? = some '/' then .ok url else url.withTarget (url.target ++ ['/'])
  .ok { base := url, signIn := signIn }

/-- The address that a text means to a client. -/
def resolve (c : Client) (address : String) : Except UrlFault Url := do
  let url ← Url.ofText address
  if url.isComplete then .ok url
  else c.base.withTarget (c.base.target ++ url.target.dropWhile (· = '/'))

/-- Refuses an address whose host cannot be read back. -/
def checkHost (u : Url) : Except WebFault Unit :=
  match u.readHost with
  | .ok _ => .ok ()
  | .error fault => .error (.badHost fault)

/-- Refuses an address whose server cannot be named in a request, where it has to be plain. -/
def checkServer (u : Url) : Except WebFault Unit :=
  if u.server.all isPlain then .ok () else .error (.notPlain (String.ofList u.server))

/-- Whether a text names a scheme: something other than a slash or a colon before its first
colon. -/
def namesScheme (cs : List Char) : Bool :=
  match cs.span fun c ↦ c ≠ '/' && c ≠ ':' with
  | (_ :: _, ':' :: _) => true
  | _ => false

/-- Refuses an address that cannot be kept with a reply: it names no scheme before its last number
sign, or it is not read as a reference. A word for addresses in front of it is left out, and so is
the mark of an empty fragment. -/
def checkKept (u : Url) : Except WebFault Unit :=
  let cs := if "URL:".toList.isPrefixOf u.chars then u.chars.drop 4 else u.chars
  let kept := if cs.getLast? = some '#' then cs.dropLast else cs
  let front := match cs.reverse.dropWhile (· ≠ '#') with
    | _ :: front => front.reverse
    | [] => cs
  if namesScheme front then orBadReference (Reference.check kept)
  else .error (.noScheme (String.ofList kept))

/-- Sends one request. -/
def sendOnce (wire : Wire N) (request : Request) : WebOp N Reply := do
  let web ← get
  let (outcome, net) := wire request web.net
  set { web with net := net }
  match outcome with
  | .error message => throw (.network message)
  | .ok reply => do
    ofExcept (checkKept request.url)
    return reply

/-- The port of an address, the usual one of the scheme if none is given. -/
def portOf (u : Url) : Option Int :=
  match u.port with
  | some p => some p
  | none =>
    match String.ofList u.scheme with
    | "http" => some 80
    | "https" => some 443
    | _ => none

/-- Whether two addresses have the same scheme, host and port. Hosts are compared as they are read,
so there may be several ways to send one. -/
def sameOrigin (a b : Url) : Bool :=
  a.scheme = b.scheme && a.hostName = b.hostName && portOf a = portOf b

/-- Whether a redirect only turns plain `http` into `https`, both on their usual ports. -/
def securesOnly (source target : Url) : Bool :=
  source.hostName = target.hostName && source.scheme = "http".toList && portOf source = some 80
    && target.scheme = "https".toList && portOf target = some 443

/-- The address of a redirect as written. One that names a scheme and no host gets that of the
request. -/
def location (source : Url) (text : String) : Except WebFault Url := do
  let url ← match Url.ofText text with
    | .ok url => .ok url
    | .error fault => .error (.badLocation fault)
  if url.scheme.isEmpty then .ok url
  else
    checkHost url
    if url.host.isEmpty then orBadUrl (url.withHost source.hostName) else .ok url

/-- The address that a redirect from a request means. -/
def redirectTarget (source : Url) (text : String) : Except WebFault Url := do
  let url ← location source text
  let url ← if url.isComplete then .ok url
    else do
      let joined ← orBadReference (Reference.join source.chars url.chars)
      orBadUrl (Url.ofText (String.ofList joined))
  let fragment := Url.unescape (source.fragment.getD [])
  if !fragment.isEmpty && (url.fragment.getD []).isEmpty then orBadUrl (url.withFragment fragment)
  else .ok url

/-- The request that follows a redirect. Only another origin is named anew. -/
def redirected (request : Request) (location : String) : Except WebFault Request := do
  let url ← redirectTarget request.url location
  checkHost url
  if sameOrigin url request.url then .ok ⟨url, request.authorization⟩
  else
    checkServer url
    .ok ⟨url, if securesOnly request.url url then request.authorization else none⟩

/-- Sends a request and follows redirects. The number says how many requests may still be sent. -/
def follow (wire : Wire N) : Nat → Request → WebOp N Reply
  | 0, _ => throw .tooManyRedirects
  | left + 1, request => do
    let reply ← sendOnce wire request
    match reply.location? with
    | none => return reply
    | some location => do
      let next ← ofExcept (redirected request location)
      follow wire left next

/-- How many requests may be sent for one: the first, and twenty redirects. -/
def requestLimit : Nat := 21

/-- The fields of the first digest challenge of a reply. -/
def challengeFields? (reply : Reply) : Option (List Char) :=
  ((reply.headers? "www-authenticate").map String.toList).findSome? fun cs ↦
    if "digest ".toList.isPrefixOf (cs.map Char.toLower) then some (cs.drop 7) else none

/-- The header that answers the challenge a client remembers. The number is used up as soon as the
digest is known. -/
def answerChallenge (username password : String) (c : SignIn.Challenge) (url : Url) :
    WebOp N String := do
  let web ← get
  let count := web.client.count
  if (SignIn.digestOf? (SignIn.upper c.algorithm)).isSome then
    set { web with client := { web.client with count := count + 1 } }
  ofExcept (SignIn.answer username password c count (String.ofList url.target))

/-- Whether credentials can be put into a request that has been sent with others, or without. A
request that was sent in plain characters takes no others after that. -/
def canReplace (first : Option String) (second : String) : Bool :=
  second.toList.all isPlain || first.any fun header ↦ !header.toList.all isPlain

/-- Sends a request with digest sign-in: the remembered challenge is answered at once, and a new one
once. -/
def sendDigest (wire : Wire N) (username password : String) (url : Url) : WebOp N Reply := do
  let first ← match (← get).client.challenge with
    | some c => some <$> answerChallenge username password c url
    | none => pure none
  let reply ← follow wire requestLimit ⟨url, first⟩
  if reply.status ≠ 401 then return reply
  else
    match challengeFields? reply with
    | none => return reply
    | some fields => do
      let c ← ofExcept (SignIn.challenge fields)
      modify fun web ↦ { web with client := { web.client with challenge := some c, count := 1 } }
      let second ← answerChallenge username password c url
      if canReplace first second then follow wire (requestLimit - 1) ⟨url, some second⟩
      else throw (.notPlain second)

/-- The credentials that an address itself carries. -/
def ownCredentials? (url : Url) : Option String :=
  let (username, password) := Url.splitMark ':' url.userInfo
  let username := Url.unescape username
  let password := Url.unescape (password.getD [])
  if username.isEmpty && password.isEmpty then none
  else some (SignIn.basicHeader (Bytes.ofText (String.ofList username))
    (Bytes.ofText (String.ofList password)))

/-- Asks for what is at an address. -/
def send (wire : Wire N) (address : String) : WebOp N Reply := do
  let client := (← get).client
  let url ← ofExcept (orBadUrl (client.resolve address))
  ofExcept (checkHost url)
  ofExcept (checkServer url)
  if client.isClosed then throw .closed
  else
    match client.signIn with
    | some (.digest username password) => sendDigest wire username password url
    | some (.basic username password) =>
      follow wire requestLimit
        ⟨url, some (SignIn.basicHeader (Bytes.ofText username) (Bytes.ofText password))⟩
    | none => follow wire requestLimit ⟨url, ownCredentials? url⟩

end Client

end FormCatalog
