import FormCatalog.Catalog.Pass
import FormCatalog.Catalog.Payload
import FormCatalog.Shelf.Site
import FormCatalog.Web.Client

/-!
The server of forms, reached over the web.

Every answer is classified: refused credentials ask the user to sign in, any other answer without
success and any failure of the network is a fault of transport, and so is a payload that cannot be
read.
-/

set_option autoImplicit false
set_option relaxedAutoImplicit false

namespace FormCatalog

/-- Whether a fault is a failure of the request, rather than of its use. -/
def WebFault.isRequestFailure : WebFault → Bool
  | network _ => true
  | tooManyRedirects => true
  | badLocation _ => true
  | badUrl _ => true
  | badChallenge => true
  | badProtection _ => true
  | _ => false

/-- A fault of the web as a fault of the program. -/
def WebFault.fault : WebFault → Fault
  | contentProtection => .unsupported contentProtection.message
  | unknownDigest name => .missingKey name
  | noValue => .invalid noValue.message
  | emptyValue => .outOfRange emptyValue.message
  | badHost fault => .invalid (badHost fault).message
  | notPlain text => .invalid (notPlain text).message
  | closed => .stopped closed.message
  | noScheme url => .invalid (noScheme url).message
  | badReference refusal => .invalid (badReference refusal).message
  | f => .sync (.transport f.message)

/-- The program of the server's forms: where the form list is, and how requests are carried. -/
structure FormServer (N : Type) where
  formListPath : String
  wire : Wire N

namespace FormServer

variable {N : Type} (server : FormServer N)

/-- The base address without the slashes at its end. -/
def baseAddress (serverUrl : String) : String :=
  String.ofList (Text.dropTrailing (· = '/') serverUrl.toList)

/-- Sends a request. A request that fails is reported. -/
def request (address : String) : Op (Site (Web N)) Reply := fun s ↦
  match Client.send server.wire address s.net with
  | .ok reply web => .ok reply { s with net := web }
  | .error fault web =>
    let s := { s with net := web }
    if fault.isRequestFailure then
      let s := Recording.record ⟨.warning, .web,
        "Request to " ++ address ++ " failed: " ++ fault.message⟩ s
      .error (.sync (.transport ("Request to " ++ address ++ " failed: " ++ fault.message))) s
    else .error fault.fault s

/-- The body that is at an address. -/
def download (address : String) : Op (Site (Web N)) Bytes := do
  let reply ← server.request address
  if reply.status = 401 ∨ reply.status = 403 then
    throw (.sync (.rejected ("Server rejected credentials (" ++ Number.textOfNat reply.status
      ++ ") for " ++ address)))
  else if reply.isSuccess then return reply.body
  else throw (.sync (.transport ("Server returned " ++ Number.textOfNat reply.status
    ++ " for " ++ address)))

/-- A payload that was read, or a fault of transport. -/
def orTransport {α : Type} : Except Payload.Refusal α → Op (Site (Web N)) α
  | .ok a => pure a
  | .error refusal => throw (.sync (.transport refusal.message))

/-- The form list. -/
def formList : Op (Site (Web N)) (List Descriptor) := do
  orTransport (Payload.formList (← server.download server.formListPath))

/-- The manifest at an address. -/
def manifest (address : String) : Op (Site (Web N)) Manifest := do
  orTransport (Payload.manifest (← server.download address))

/-- The server's side of a pass. -/
def side : Server (Site (Web N)) := ⟨server.formList, server.manifest⟩

/-- Closes the client. -/
def close : Op (Site (Web N)) Unit :=
  modify fun s ↦ { s with net := { s.net with client := { s.net.client with isClosed := true } } }

end FormServer

end FormCatalog
