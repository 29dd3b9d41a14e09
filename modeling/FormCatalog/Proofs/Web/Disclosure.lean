import FormCatalog.Proofs.Web.Addresses
import FormCatalog.Proofs.Web.Calls
import FormCatalog.Proofs.Web.Exchange
import FormCatalog.Proofs.Web.HostNames

/-!
# Where credentials go

The requests that a client sends are kept by its wire (`Wire.logged`). What one request leads to is
told by `Leads`: the log only grows, and the client goes on signing in as before, below the same
base address. Along redirects credentials stay with the host that was asked for, under its
scheme or `https` (`Request.StaysWith.redirected`), so in a session of calls every request with
credentials stays with an address that one of the calls means (`FormServer.stays_session`). Hosts
are compared as they are read: a name in plain form may be left for another form of the same name.

The check of the server's address covers the base address and everything below it, and nothing else.
A call may be given a whole address, and those of forms, manifests and files are written by the
server. `FormServer.leaks_only_as_called` says what comes of it: no request carries credentials over
plain `http` to another machine unless a call was given such an address, and with basic sign-in
every call that was given one sends such a request. A form list is enough to bring that about
(`FormServer.listed_address_leaks`).
-/

set_option autoImplicit false
set_option relaxedAutoImplicit false

namespace FormCatalog

open WebOp Client

variable {N : Type}

/-! ### The hosts of addresses -/

namespace Url

variable {u v : Url}

theorem sent_of_assemble {scheme userInfo name port path : List Char}
    {query fragment : Option (List Char)}
    (h : assemble scheme userInfo name port path query fragment = .ok u) : u.Sent :=
  ⟨name, (assemble_eq_ok h).2.1⟩

theorem sent_of_ofText {text : String} (h : ofText text = .ok u) : u.Sent := by
  obtain ⟨-, _, name, _, -, -, hhost, -⟩ := ofText_eq_ok h
  exact ⟨name, hhost⟩

theorem sent_of_withHost {host : List Char} (h : u.withHost host = .ok v) : v.Sent := by
  unfold withHost at h
  obtain ⟨-, -, h⟩ := Except.bind_eq_ok_iff.mp h
  obtain ⟨-, -, h⟩ := Except.bind_eq_ok_iff.mp h
  exact sent_of_assemble h

theorem sent_of_withFragment {fragment : List Char} (h : u.withFragment fragment = .ok v) :
    v.Sent := by
  unfold withFragment at h
  obtain ⟨-, -, h⟩ := Except.bind_eq_ok_iff.mp h
  exact sent_of_assemble h

end Url

namespace Client

theorem orBadUrl_eq_ok_iff {α : Type} {r : Except UrlFault α} {a : α} :
    orBadUrl r = .ok a ↔ r = .ok a := by
  cases r <;> simp [orBadUrl]

theorem sent_of_resolve {client : Client} {address : String} {url : Url}
    (h : client.resolve address = .ok url) : url.Sent := by
  unfold Client.resolve at h
  obtain ⟨read, hread, h⟩ := Except.bind_eq_ok_iff.mp h
  obtain ⟨-, h⟩ | ⟨-, h⟩ := ite_eq_iff.mp h
  · cases h
    exact Url.sent_of_ofText hread
  · exact ⟨_, (Url.withTarget_eq_ok h).2⟩

theorem sent_of_location {source url : Url} {text : String} (h : location source text = .ok url) :
    url.Sent := by
  unfold location at h
  cases hread : Url.ofText text with
  | error fault =>
    rw [hread] at h
    cases h
  | ok read =>
    rw [hread] at h
    obtain ⟨-, h⟩ | ⟨-, h⟩ := ite_eq_iff.mp h
    · cases h
      exact Url.sent_of_ofText hread
    · obtain ⟨-, -, h⟩ := Except.bind_eq_ok_iff.mp h
      obtain ⟨-, h⟩ | ⟨-, h⟩ := ite_eq_iff.mp h
      · exact Url.sent_of_withHost (orBadUrl_eq_ok_iff.mp h)
      · cases h
        exact Url.sent_of_ofText hread

theorem sent_of_redirectTarget {source url : Url} {text : String}
    (h : redirectTarget source text = .ok url) : url.Sent := by
  have hlast {whole : Url} {p : Prop} [Decidable p] {fragment : List Char} (hwhole : whole.Sent)
      (h : (if p then orBadUrl (whole.withFragment fragment) else .ok whole) = .ok url) :
      url.Sent := by
    obtain ⟨-, h⟩ | ⟨-, h⟩ := ite_eq_iff.mp h
    · exact Url.sent_of_withFragment (orBadUrl_eq_ok_iff.mp h)
    · cases h
      exact hwhole
  unfold redirectTarget at h
  obtain ⟨written, hwritten, h⟩ := Except.bind_eq_ok_iff.mp h
  obtain ⟨-, h⟩ | ⟨-, h⟩ := ite_eq_iff.mp h
  · exact hlast (sent_of_location hwritten) h
  · obtain ⟨joined, -, h⟩ := Except.bind_eq_ok_iff.mp h
    obtain ⟨whole, hwhole, h⟩ := Except.bind_eq_ok_iff.mp h
    exact hlast (Url.sent_of_ofText (orBadUrl_eq_ok_iff.mp hwhole)) h

end Client

/-! ### The requests of a client -/

/-- A wire that keeps the requests it carries, the last one first. -/
def Wire.logged (wire : Wire N) : Wire (N × List Request) := fun request s ↦
  ((wire request s.1).1, ((wire request s.1).2, request :: s.2))

/-- The requests that were sent. -/
def Web.log (web : Web (N × List Request)) : List Request := web.net.2

namespace Request

/-- The request carries credentials over plain `http` to another machine. -/
def Leaks (r : Request) : Prop := r.authorization.isSome = true ∧ r.url.Exposed

instance (r : Request) : Decidable r.Leaks :=
  inferInstanceAs (Decidable (r.authorization.isSome = true ∧ r.url.Exposed))

/-- If the request carries credentials, it goes to the host of an address, under its scheme or under
`https`. -/
structure StaysWith (r : Request) (url : Url) : Prop where
  sent : r.url.Sent
  host : r.authorization.isSome = true → r.url.SameHost url
  scheme : r.authorization.isSome = true →
    r.url.scheme = url.scheme ∨ r.url.scheme = "https".toList

theorem staysWith_self {url : Url} (h : url.Sent) (header : Option String) :
    StaysWith ⟨url, header⟩ url :=
  ⟨h, fun _ ↦ .refl url, fun _ ↦ Or.inl rfl⟩

theorem staysWith_none {target : Url} (h : target.Sent) (url : Url) :
    StaysWith ⟨target, none⟩ url where
  sent := h
  host hnone := by cases hnone
  scheme hnone := by cases hnone

variable {r next : Request} {url : Url} {location : String}

/-- A request may take credentials along to the same host, under the same scheme or `https`. -/
theorem StaysWith.take_along {target : Url} (h : r.StaysWith url) (hsent : target.Sent)
    (hname : target.hostName = r.url.hostName)
    (hscheme : target.scheme = r.url.scheme ∨ target.scheme = "https".toList) :
    StaysWith ⟨target, r.authorization⟩ url where
  sent := hsent
  host hold := (Url.sameHost_of_hostName_eq hsent h.sent hname).trans (h.host hold)
  scheme hold := by
    obtain hsame | hsafe := hscheme
    · dsimp only
      rw [hsame]
      exact h.scheme hold
    · exact Or.inr hsafe

/-- A redirect takes credentials along only to the same origin, or from `http` to `https`. -/
theorem StaysWith.redirected (h : r.StaysWith url) (hnext : redirected r location = .ok next) :
    next.StaysWith url := by
  unfold Client.redirected at hnext
  obtain ⟨target, htarget, hnext⟩ := Except.bind_eq_ok_iff.mp hnext
  obtain ⟨⟨⟩, -, hnext⟩ := Except.bind_eq_ok_iff.mp hnext
  have hsent := sent_of_redirectTarget htarget
  obtain ⟨horigin, hnext⟩ | ⟨-, hnext⟩ := ite_eq_iff.mp hnext
  · cases hnext
    simp only [sameOrigin, Bool.and_eq_true, decide_eq_true_eq] at horigin
    exact h.take_along hsent horigin.1.2 (Or.inl horigin.1.1)
  · obtain ⟨⟨⟩, -, hnext⟩ := Except.bind_eq_ok_iff.mp hnext
    cases hnext
    by_cases hsecures : securesOnly r.url target = true
    · rw [if_pos hsecures]
      simp only [securesOnly, Bool.and_eq_true, decide_eq_true_eq] at hsecures
      exact h.take_along hsent hsecures.1.1.1.1.symm (Or.inr hsecures.1.2)
    · rw [if_neg hsecures]
      exact staysWith_none hsent url

/-- A request that leaks stays with an address that is exposed itself. -/
theorem StaysWith.exposed (h : r.StaysWith url) (hleaks : r.Leaks) :
    url.Exposed ∧ r.url.SameHost url := by
  obtain ⟨hauthorization, hscheme, hlocal⟩ := hleaks
  have hhost := h.host hauthorization
  obtain hsame | hsafe := h.scheme hauthorization
  · exact ⟨⟨hsame.symm.trans hscheme, hhost.isLocal_iff.not.mp hlocal⟩, hhost⟩
  · cases hsafe.symm.trans hscheme

end Request

/-! ### What a program of a client leads to -/

/-- The client goes on as it was, and the requests that were added to the log are as said. -/
structure Leads (sent : Request → Prop) (web web' : Web (N × List Request)) : Prop where
  base : web'.client.base = web.client.base
  signIn : web'.client.signIn = web.client.signIn
  isClosed : web'.client.isClosed = web.client.isClosed
  kept : web.log <:+ web'.log
  added : ∀ r ∈ web'.log, r ∈ web.log ∨ sent r

namespace Leads

variable {sent sent' : Request → Prop} {web web' web'' : Web (N × List Request)}

theorem refl : Leads sent web web :=
  ⟨rfl, rfl, rfl, List.suffix_rfl, fun _ hr ↦ Or.inl hr⟩

theorem trans (h : Leads sent web web') (h' : Leads sent web' web'') : Leads sent web web'' where
  base := h'.base.trans h.base
  signIn := h'.signIn.trans h.signIn
  isClosed := h'.isClosed.trans h.isClosed
  kept := h.kept.trans h'.kept
  added r hr := (h'.added r hr).elim (h.added r) Or.inr

theorem mono (h : Leads sent web web') (himp : ∀ r, sent r → sent' r) : Leads sent' web web' where
  base := h.base
  signIn := h.signIn
  isClosed := h.isClosed
  kept := h.kept
  added r hr := (h.added r hr).imp_right (himp r)

/-- A client means the same by an address as before. -/
theorem resolve (h : Leads sent web web') (address : String) :
    web'.client.resolve address = web.client.resolve address := by
  unfold Client.resolve
  rw [h.base]

end Leads

namespace Client

variable {wire : Wire N} {request : Request} {sent : Request → Prop} {url : Url}
  {username password address : String} {web : Web (N × List Request)}

theorem after_sendOnce :
    after (sendOnce wire.logged request) web =
      { web with net := ((wire request web.net.1).2, request :: web.net.2) } := by
  unfold after
  rw [sendOnce_eq]
  unfold Wire.logged
  cases (wire request web.net.1).1 with
  | error message => rfl
  | ok reply =>
    dsimp only
    cases checkKept request.url with
    | ok done => rfl
    | error fault => rfl

theorem leads_sendOnce (h : sent request) :
    Leads sent web (after (sendOnce wire.logged request) web) where
  base := by rw [after_sendOnce]
  signIn := by rw [after_sendOnce]
  isClosed := by rw [after_sendOnce]
  kept := by
    rw [after_sendOnce]
    exact List.suffix_cons _ _
  added r hr := by
    rw [after_sendOnce] at hr
    exact (List.mem_cons.mp hr).elim (fun heq ↦ Or.inr (heq ▸ h)) Or.inl

/-- Along redirects, all requests are as said that a redirect leads to from one that is. -/
theorem leads_follow (hstep : ∀ r location next, sent r → redirected r location = .ok next →
    sent next) (left : Nat) (h : sent request) :
    Leads sent web (after (follow wire.logged left request) web) := by
  induction left generalizing request web with
  | zero => exact .refl
  | succ left ih =>
    unfold follow
    refine after_bind (leads_sendOnce h) fun reply u hu ↦ ?_
    cases reply.location? with
    | none => exact hu
    | some location =>
      dsimp only
      cases hnext : redirected request location with
      | error fault => exact hu
      | ok next => exact hu.trans (ih (hstep request location next h hnext))

/-- The first request is sent in any case, and stays in the log. -/
theorem suffix_log_follow {left : Nat} :
    request :: web.log <:+ (after (follow wire.logged (left + 1) request) web).log := by
  have hfirst : Leads (fun _ ↦ True) (after (sendOnce wire.logged request) web)
      (after (follow wire.logged (left + 1) request) web) := by
    unfold follow
    refine after_bind .refl fun reply u hu ↦ ?_
    cases reply.location? with
    | none => exact hu
    | some location =>
      refine after_bind (by rwa [after_ofExcept]) fun next v hv ↦ ?_
      exact hv.trans (leads_follow (fun _ _ _ _ _ ↦ trivial) left trivial)
  have hkept := hfirst.kept
  rw [after_sendOnce] at hkept
  exact hkept

theorem after_answerChallenge {c : SignIn.Challenge} :
    after (answerChallenge username password c url) web =
      if (SignIn.digestOf? (SignIn.upper c.algorithm)).isSome then counted web else web := by
  unfold after
  rw [answerChallenge_eq]
  exact after_ofExcept

theorem leads_answerChallenge {c : SignIn.Challenge} :
    Leads sent web (after (answerChallenge username password c url) web) := by
  rw [after_answerChallenge]
  split
  · exact ⟨rfl, rfl, rfl, List.suffix_rfl, fun _ hr ↦ Or.inl hr⟩
  · exact .refl

theorem leads_answerRemembered :
    Leads sent web (after (answerRemembered username password url) web) := by
  cases hchallenge : web.client.challenge with
  | none =>
    rw [after_of_ok (answerRemembered_of_none hchallenge)]
    exact .refl
  | some c =>
    rw [after_congr (answerRemembered_of_some hchallenge), after_map]
    exact leads_answerChallenge

/-- The requests that redirects lead to from an address stay with it. -/
theorem leads_follow_self (hurl : url.Sent) (left : Nat) (header : Option String) :
    Leads (·.StaysWith url) web (after (follow wire.logged left ⟨url, header⟩) web) :=
  leads_follow (fun _ _ _ ↦ Request.StaysWith.redirected) left (Request.staysWith_self hurl header)

theorem leads_followAgain (hurl : url.Sent) {first : Option String} {second : String} :
    Leads (·.StaysWith url) web (after (followAgain wire.logged url first second) web) := by
  unfold followAgain
  split
  · exact leads_follow_self hurl _ _
  · exact .refl

theorem leads_answerReply (hurl : url.Sent) {first : Option String} {reply : Reply} :
    Leads (·.StaysWith url) web
      (after (answerReply wire.logged username password url first reply) web) := by
  by_cases hdemands : ∃ fields, Demands reply fields
  · obtain ⟨fields, hdemands⟩ := hdemands
    rw [answerReply_of_demands hdemands]
    refine after_bind ?_ fun c u hu ↦ after_bind ?_ fun _ v hv ↦ after_bind (hv.trans
      leads_answerChallenge) fun header w hw ↦ hw.trans (leads_followAgain hurl)
    · rw [after_ofExcept]
      exact .refl
    · exact ⟨hu.base, hu.signIn, hu.isClosed, hu.kept, hu.added⟩
  · rw [answerReply_of_not fun fields h ↦ hdemands ⟨fields, h⟩]
    exact .refl

/-- With digest sign-in, all requests stay with the address. -/
theorem leads_sendDigest (hurl : url.Sent) : Leads (·.StaysWith url) web
    (after (sendDigest wire.logged username password url) web) := by
  rw [after_congr sendDigest_eq]
  exact after_bind leads_answerRemembered fun header u hu ↦
    after_bind (hu.trans (leads_follow_self hurl _ _)) fun reply v hv ↦
      hv.trans (leads_answerReply hurl)

/-- All requests that are sent for one stay with the address that is meant. -/
theorem leads_send (wire : Wire N) (address : String) (web : Web (N × List Request)) :
    Leads (fun r ↦ ∃ url, web.client.resolve address = .ok url ∧ url.Sendable ∧ r.StaysWith url)
      web (after (send wire.logged address) web) := by
  obtain ⟨fault, -, hsend⟩ | ⟨url, fault, -, -, hsend⟩ | ⟨url, -, -, -, hsend⟩ |
    ⟨url, username, password, hurl, hhost, -, -, hsend⟩ | ⟨url, header, hbegins, -, hsend⟩ :=
    send_cases wire.logged address web
  · rw [after_of_error hsend]
    exact .refl
  · rw [after_of_error hsend]
    exact .refl
  · rw [after_of_error hsend]
    exact .refl
  · rw [after_congr hsend]
    exact (leads_sendDigest (sent_of_resolve hurl)).mono fun r hr ↦ ⟨url, hurl, hhost, hr⟩
  · rw [after_congr hsend]
    exact (leads_follow_self (sent_of_resolve hbegins.resolved) _ _).mono fun r hr ↦
      ⟨url, hbegins.resolved, hbegins.sendable, hr⟩

/-- An open client with basic sign-in sends its credentials to the address that is meant. -/
theorem exists_mem_log_send (wire : Wire N) (hurl : web.client.resolve address = .ok url)
    (hhost : url.Sendable) (hopen : web.client.isClosed = false)
    (hsignIn : web.client.signIn = some (.basic username password)) :
    ∃ r ∈ (after (send wire.logged address) web).log,
      r.authorization.isSome = true ∧ r.url = url := by
  have hplain : ∀ username' password',
      web.client.signIn ≠ some (.digest username' password') := by
    intro _ _ hdigest
    cases hdigest.symm.trans hsignIn
  obtain ⟨header, hopening, hsend⟩ : ∃ header, web.client.opening url = .ok header ∧
      send wire.logged address web = follow wire.logged requestLimit ⟨url, header⟩ web :=
    send_of_plain hurl hhost hopen hplain
  unfold opening at hopening
  rw [hsignIn] at hopening
  cases hopening
  rw [after_congr hsend]
  exact ⟨_, suffix_log_follow.subset List.mem_cons_self, rfl, rfl⟩

end Client

/-! ### Sessions -/

namespace FormServer

/-- A server whose wire keeps the requests. -/
def logged (server : FormServer N) : FormServer (N × List Request) :=
  ⟨server.formListPath, server.wire.logged⟩

variable {server : FormServer N} {s : Site (Web (N × List Request))} {calls : List Call}
  {address : String} {url : Url}

/-- In a session all requests stay with addresses that the calls mean. -/
theorem stays_session (server : FormServer N) (calls : List Call)
    (s : Site (Web (N × List Request))) :
    Leads (fun r ↦ ∃ call ∈ calls, ∃ url,
        s.net.client.resolve (call.address server.logged) = .ok url ∧ url.Sendable ∧
          r.StaysWith url)
      s.net (session server.logged calls s).net := by
  induction calls generalizing s with
  | nil => exact .refl
  | cons call rest ih =>
    have hcall := leads_send server.wire (call.address server.logged) s.net
    change Leads _ _ (WebOp.after (send server.logged.wire _) _) at hcall
    rw [← Call.net_after] at hcall
    refine (hcall.mono fun r hr ↦ ⟨call, List.mem_cons_self, hr⟩).trans
      ((ih (call.after server.logged s)).mono fun r ⟨later, hlater, url, hurl, hr⟩ ↦
        ⟨later, List.mem_cons_of_mem _ hlater, url, ?_, hr⟩)
    rw [← hcall.resolve]
    exact hurl

/-- An address as a whole, over plain `http` to another machine, that a request can be made for. -/
structure Exposes (address : String) (url : Url) : Prop where
  text : Url.ofText address = .ok url
  complete : url.isComplete = true
  sendable : url.Sendable
  exposed : url.Exposed

theorem Exposes.resolve {client : Client} (h : Exposes address url) :
    client.resolve address = .ok url := by
  unfold Client.resolve
  rw [h.text]
  dsimp only [bind, Except.bind]
  rw [if_pos h.complete]

/-- With basic sign-in, a call that is given such an address sends the credentials there. -/
theorem exists_mem_log_session {username password : String} {call : Call} (hcall : call ∈ calls)
    (hurl : Exposes (call.address server.logged) url) (hopen : s.net.client.isClosed = false)
    (hsignIn : s.net.client.signIn = some (.basic username password)) :
    ∃ r ∈ (session server.logged calls s).net.log, r.Leaks ∧ r.url = url := by
  obtain ⟨before, later, rfl⟩ := List.append_of_mem hcall
  have hbefore := stays_session server before s
  obtain ⟨r, hr, hauthorization, rfl⟩ :=
    exists_mem_log_send server.wire hurl.resolve hurl.sendable (hbefore.isClosed.trans hopen)
      (hbefore.signIn.trans hsignIn)
  have hlater := stays_session server later
    (call.after server.logged (session server.logged before s))
  refine ⟨r, ?_, ⟨hauthorization, hurl.exposed⟩, rfl⟩
  rw [session_append]
  refine hlater.kept.subset ?_
  rw [Call.net_after]
  exact hr

/-- The client is a new one for settings that lack nothing and do not allow plain `http`. -/
structure Secured (settings ready : Settings) (client : Client) : Prop where
  complete : settings.prepare = (ready, [])
  secure : settings.allowInsecureHttp = false
  client : Client.of (baseAddress ready.serverUrl)
    (SignIn.of ready.username ready.password ready.authScheme) = .ok client

/-- A client for a checked server sends no credentials over plain `http` to another machine, unless
a call is given such an address as a whole; with basic sign-in it then does. -/
theorem leaks_only_as_called (server : FormServer N) (calls : List Call)
    (s : Site (Web (N × List Request))) {settings ready : Settings}
    (hsecured : Secured settings ready s.net.client) (hlog : s.net.log = []) :
    (∀ r ∈ (session server.logged calls s).net.log, r.Leaks →
      ∃ call ∈ calls, ∃ url, Exposes (call.address server.logged) url ∧ r.url.SameHost url) ∧
    (ready.authScheme = .basic → ready.username ≠ "" →
      ∀ call ∈ calls, ∀ url, Exposes (call.address server.logged) url →
        ∃ r ∈ (session server.logged calls s).net.log, r.Leaks ∧ r.url = url) := by
  have hchecked := check_of_prepare hsecured.complete
  rw [hsecured.secure] at hchecked
  have hbase := sheltered_of_check hchecked hsecured.client
  obtain ⟨hsignIn, hopen, -⟩ := of_eq_ok hsecured.client
  constructor
  · intro r hr hleaks
    obtain hold | ⟨call, hcall, url, hurl, hread, hstays⟩ :=
      (stays_session server calls s).added r hr
    · rw [hlog] at hold
      exact absurd hold List.not_mem_nil
    · obtain ⟨hexposed, hhost⟩ := hstays.exposed hleaks
      obtain ⟨htext, hcomplete⟩ := exposed_of_resolve hbase hurl hexposed
      exact ⟨call, hcall, url, ⟨htext, hcomplete, hread, hexposed⟩, hhost⟩
  · intro hscheme husername call hcall url hurl
    unfold SignIn.of at hsignIn
    rw [if_neg husername, hscheme] at hsignIn
    exact exists_mem_log_session hcall hurl hopen hsignIn

/-! ### A form list with an exposed address -/

/-- Settings for a server over `https`, with basic sign-in. -/
def trusting : Settings where
  serverUrl := "https://example.com"
  username := "u"
  password := "p"
  authScheme := .basic

/-- A server whose form list has one form, at an address over plain `http` on another host. -/
def careless : FormServer Unit :=
  ⟨trusting.formListPath, fun request n ↦
    if request.url.host = "example.com".toList then
      (.ok ⟨200, [], Bytes.ofText "\x7b\"forms\": [\x7b\"form_id\": \"a\", \"hash\": \"md5:0\",
        \"download_url\": \"http://files.example.org/a\"\x7d]\x7d"⟩, n)
    else (.ok ⟨200, [], Bytes.ofText "a"⟩, n)⟩

/-- A site with the client for these settings, before its first call. -/
def visitor : Site (Web (Unit × List Request)) where
  disk := ⟨["device"], []⟩
  table := []
  net :=
    { client :=
        { base := ⟨"https".toList, [], "example.com".toList, none, [], none, none⟩
          signIn := some (.basic "u" "p") }
      net := ((), []) }
  journal := []

/-- The address of the form that is listed. -/
def elsewhere : Url :=
  ⟨"http".toList, [], "files.example.org".toList, none, "/a".toList, none, none⟩

/-- The form list, and then the form that is listed. -/
def fetching : List Call := [.formList, .download "http://files.example.org/a"]

theorem secured_visitor : Secured trusting trusting visitor.net.client :=
  ⟨rfl, rfl, by decide +kernel⟩

/-- Of the two calls only the download is given an exposed address, and it sends the credentials
there. -/
theorem fetching_leaks_as_called :
    Secured trusting trusting visitor.net.client ∧ visitor.net.log = [] ∧
      (∀ r ∈ (session careless.logged fetching visitor).net.log, r.Leaks →
        ∃ call ∈ fetching, ∃ url, Exposes (call.address careless.logged) url ∧
          r.url.SameHost url) ∧
      ∃ r ∈ (session careless.logged fetching visitor).net.log, r.Leaks ∧ r.url = elsewhere := by
  have hexposes : Exposes "http://files.example.org/a" elsewhere :=
    ⟨by decide +kernel, by decide,
      ⟨Url.readable_of_not_isMarked (by decide), Url.nameable_iff.mpr (by decide)⟩, by decide⟩
  have hleaks := leaks_only_as_called careless fetching visitor secured_visitor rfl
  exact ⟨secured_visitor, rfl, hleaks.1,
    hleaks.2 rfl (by decide) (.download "http://files.example.org/a")
      (List.mem_cons_of_mem _ List.mem_cons_self) elsewhere hexposes⟩

/-- A server that was checked can list an address over plain `http` on another machine, and the
client sends its credentials there when the form is downloaded. -/
theorem listed_address_leaks :
    Secured trusting trusting visitor.net.client ∧ trusting.username ≠ "" ∧
      Op.Returns careless.logged.formList visitor
        (fun ds _ ↦ ds.map (·.downloadUrl) = ["http://files.example.org/a"]) ∧
      ∃ r ∈ (session careless.logged fetching visitor).net.log, r.Leaks := by
  refine ⟨secured_visitor, by decide, ?_, ?_⟩
  · decide +kernel
  · decide +kernel

end FormServer

end FormCatalog
