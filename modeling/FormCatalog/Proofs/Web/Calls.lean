import FormCatalog.Proofs.Programs
import FormCatalog.Proofs.Web.Redirects

/-!
# Calls to the server

A call sends one request and then only looks at the reply, so what holds of the state after the
request holds after the call (`Call.of_request`). In particular the client and the network are
left as the request leaves them (`Call.net_after`). A session is a number of calls, one after the
other, each made whether the one before returned or not.
-/

set_option autoImplicit false
set_option relaxedAutoImplicit false

namespace FormCatalog.FormServer

open Op

variable {N : Type} {server : FormServer N} {s : Site (Web N)} {inv : Site (Web N) → Prop}

/-! ### One call -/

section Requests

variable {address : String}

theorem keeps_orTransport {α : Type} (r : Except Payload.Refusal α) :
    Keeps inv (orTransport r : Op (Site (Web N)) α) := by
  cases r with
  | ok a => exact keeps_pure
  | error refusal => exact keeps_throw

theorem ends_download_of_request (h : Ends (server.request address) s fun _ t ↦ inv t) :
    Ends (server.download address) s fun _ t ↦ inv t := by
  refine h.bind_of_keeps fun reply ↦ ?_
  split
  · exact keeps_throw
  · split
    · exact keeps_pure
    · exact keeps_throw

theorem ends_manifest_of_request (h : Ends (server.request address) s fun _ t ↦ inv t) :
    Ends (server.manifest address) s fun _ t ↦ inv t :=
  (ends_download_of_request h).bind_of_keeps fun _ ↦ keeps_orTransport _

theorem ends_formList_of_request
    (h : Ends (server.request server.formListPath) s fun _ t ↦ inv t) :
    Ends server.formList s fun _ t ↦ inv t :=
  (ends_download_of_request h).bind_of_keeps fun _ ↦ keeps_orTransport _

/-- A request leaves the client and the network as the exchange leaves them. -/
theorem ends_request_net (server : FormServer N) (address : String) (s : Site (Web N)) :
    Ends (server.request address) s fun _ t ↦
      t.net = (Client.send server.wire address).after s.net := by
  unfold Ends request
  cases hsend : Client.send server.wire address s.net with
  | ok reply web => exact (WebOp.after_of_ok hsend).symm
  | error fault web =>
    dsimp only
    by_cases hfault : fault.isRequestFailure = true
    · rw [if_pos hfault]
      exact (WebOp.after_of_error hsend).symm
    · rw [if_neg hfault]
      exact (WebOp.after_of_error hsend).symm

end Requests

/-- A call to the server. -/
inductive Call where
  | formList
  | manifest (address : String)
  | download (address : String)
  deriving DecidableEq, Repr

namespace Call

/-- The address that a call asks for. That of the form list is in the settings. -/
def address (server : FormServer N) : Call → String
  | formList => server.formListPath
  | manifest address => address
  | download address => address

/-- The state that a call leaves, whether it returns or not. -/
def after (server : FormServer N) : Call → Site (Web N) → Site (Web N)
  | formList => server.formList.after
  | manifest address => (server.manifest address).after
  | download address => (server.download address).after

/-- What holds after the request of a call holds after the call. -/
theorem of_request (call : Call)
    (h : Ends (server.request (call.address server)) s fun _ t ↦ inv t) :
    inv (call.after server s) := by
  cases call with
  | formList =>
    obtain ⟨_, hafter⟩ := (ends_formList_of_request h).after
    exact hafter
  | manifest address =>
    obtain ⟨_, hafter⟩ := (ends_manifest_of_request h).after
    exact hafter
  | download address =>
    obtain ⟨_, hafter⟩ := (ends_download_of_request h).after
    exact hafter

theorem net_after (server : FormServer N) (call : Call) (s : Site (Web N)) :
    (call.after server s).net = (Client.send server.wire (call.address server)).after s.net :=
  call.of_request (ends_request_net server _ s)

end Call

/-! ### Calls one after the other -/

/-- The state that a number of calls leaves. -/
def session (server : FormServer N) : List Call → Site (Web N) → Site (Web N)
  | [], s => s
  | call :: rest, s => session server rest (call.after server s)

theorem session_append (server : FormServer N) (calls later : List Call) (s : Site (Web N)) :
    session server (calls ++ later) s = session server later (session server calls s) := by
  induction calls generalizing s with
  | nil => rfl
  | cons call rest ih => exact ih (call.after server s)

end FormCatalog.FormServer
