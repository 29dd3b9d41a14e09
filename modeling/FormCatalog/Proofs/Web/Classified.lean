import FormCatalog.Proofs.Programs
import FormCatalog.Proofs.Web.Exchange

/-!
# Every answer is classified

The calls to the server are told apart by the final response (`Client.Final`). A call asks the user
to sign in exactly if the response refuses the credentials, and it returns exactly if the response
is a success whose body can be read; the body of a download is returned as it is. Everything else is
a fault of transport, with one exception: an exchange that strays (`Client.Stray`) ends in a fault
of another kind. Then a challenge of the digest scheme cannot be read or asks for what is not
provided, or its answer cannot be put into the request; or the host of an address cannot be read
back from its plain letters or be named in them; or an address cannot be read as a reference when it
is kept with a reply, or taken from another one; or the client has been closed.

`FormServer.classified` says so for the three calls, every server and network, whatever the client
remembers; cookies stand outside, as they do for the client. A challenge of a server is enough to
make a call stray (`unknown_digest_escapes`).
-/

set_option autoImplicit false
set_option relaxedAutoImplicit false

namespace FormCatalog

open Op WebOp Client

/-- The reply refuses the credentials. -/
def Reply.Refuses (r : Reply) : Prop := r.status = 401 ∨ r.status = 403

theorem Reply.Refuses.isSuccess {r : Reply} (h : r.Refuses) : r.isSuccess = false := by
  unfold Reply.isSuccess
  obtain h | h := h <;> rw [h] <;> rfl

/-- The fault is one of transport, or asks the user to sign in. -/
def Fault.IsClassified : Fault → Prop
  | sync (.transport _) => True
  | sync (.rejected _) => True
  | _ => False

theorem WebFault.not_isClassified {fault : WebFault} (h : fault.isRequestFailure = false) :
    ¬ fault.fault.IsClassified := by
  cases fault <;> first | exact not_false | cases h

theorem Client.Final.unique {N : Type} {wire : Wire N} {address : String} {web : Web N}
    {reply reply' : Reply} (h : Final wire address web reply) (h' : Final wire address web reply') :
    reply = reply' := by
  obtain ⟨_, h⟩ := yields_send_iff.mpr h
  obtain ⟨_, h'⟩ := yields_send_iff.mpr h'
  cases h.symm.trans h'
  rfl

theorem Client.Final.not_stray {N : Type} {wire : Wire N} {address : String} {web : Web N}
    {reply : Reply} (h : Final wire address web reply) : ¬ Stray wire address web := by
  intro hstray
  obtain ⟨_, h⟩ := yields_send_iff.mpr h
  obtain ⟨_, _, hstray, -⟩ := strays_send_iff.mpr hstray
  cases h.symm.trans hstray

namespace FormServer

variable {N α : Type} {server : FormServer N} {address : String} {s : Site (Web N)}

/-- The words for credentials that were refused. -/
def rejection (reply : Reply) (address : String) : String :=
  "Server rejected credentials (" ++ Number.textOfNat reply.status ++ ") for " ++ address

/-- What the exchange with a server says about the end of a call that reads the body in some way. -/
inductive Verdict (wire : Wire N) (address : String) (web : Web N)
    (read : Bytes → Except Payload.Refusal α) : Except Fault α → Prop
  | returned {reply : Reply} {a : α} (hfinal : Final wire address web reply)
      (hsuccess : reply.isSuccess = true) (hread : read reply.body = .ok a) :
      Verdict wire address web read (.ok a)
  | rejected {reply : Reply} (hfinal : Final wire address web reply) (hrefuses : reply.Refuses) :
      Verdict wire address web read (.error (.sync (.rejected (rejection reply address))))
  | failed {message : String} (hstray : ¬ Stray wire address web)
      (hfinal : ∀ reply, Final wire address web reply → ¬ reply.Refuses ∧
        ∀ a, reply.isSuccess = true → read reply.body ≠ .ok a) :
      Verdict wire address web read (.error (.sync (.transport message)))
  | strayed {e : Fault} (hstray : Stray wire address web) (he : ¬ e.IsClassified) :
      Verdict wire address web read (.error e)

namespace Verdict

variable {wire : Wire N} {web : Web N} {read : Bytes → Except Payload.Refusal α} {reply : Reply}
  {r : Except Fault α}

/-! In each of the four ways to end, the conditions of the other three fail. -/

theorem eq_ok {a : α} (h : Verdict wire address web read r) (hfinal : Final wire address web reply)
    (hsuccess : reply.isSuccess = true) (hread : read reply.body = .ok a) : r = .ok a := by
  cases h with
  | returned hfinal' _ hread' =>
    cases hfinal.unique hfinal'
    cases hread'.symm.trans hread
    rfl
  | rejected hfinal' hrefuses =>
    cases hfinal.unique hfinal'
    exact absurd (hrefuses.isSuccess.symm.trans hsuccess) (by decide)
  | failed _ hother => exact absurd hread ((hother reply hfinal).2 a hsuccess)
  | strayed hstray _ => exact (hfinal.not_stray hstray).elim

theorem eq_rejected (h : Verdict wire address web read r) (hfinal : Final wire address web reply)
    (hrefuses : reply.Refuses) : r = .error (.sync (.rejected (rejection reply address))) := by
  cases h with
  | returned hfinal' hsuccess _ =>
    cases hfinal.unique hfinal'
    exact absurd (hrefuses.isSuccess.symm.trans hsuccess) (by decide)
  | rejected hfinal' _ =>
    cases hfinal.unique hfinal'
    rfl
  | failed _ hother => exact ((hother reply hfinal).1 hrefuses).elim
  | strayed hstray _ => exact (hfinal.not_stray hstray).elim

theorem exists_strayed (h : Verdict wire address web read r) (hstray : Stray wire address web) :
    ∃ e, r = .error e ∧ ¬ e.IsClassified := by
  cases h with
  | returned hfinal _ _ => exact (hfinal.not_stray hstray).elim
  | rejected hfinal _ => exact (hfinal.not_stray hstray).elim
  | failed hnot _ => exact (hnot hstray).elim
  | strayed _ he => exact ⟨_, rfl, he⟩

theorem exists_failed (h : Verdict wire address web read r) (hstray : ¬ Stray wire address web)
    (hother : ∀ reply, Final wire address web reply → ¬ reply.Refuses ∧
      ∀ a, reply.isSuccess = true → read reply.body ≠ .ok a) :
    ∃ message, r = .error (.sync (.transport message)) := by
  cases h with
  | returned hfinal hsuccess hread => exact ((hother _ hfinal).2 _ hsuccess hread).elim
  | rejected hfinal hrefuses => exact ((hother _ hfinal).1 hrefuses).elim
  | failed _ _ => exact ⟨_, rfl⟩
  | strayed h _ => exact (hstray h).elim

end Verdict

/-- A request returns the final response, strays, or fails. -/
theorem ends_request : Ends (server.request address) s fun r _ ↦
    match r with
    | .ok reply => Final server.wire address s.net reply
    | .error e =>
      (∀ reply, ¬ Final server.wire address s.net reply) ∧
        ((Stray server.wire address s.net ∧ ¬ e.IsClassified) ∨
          (¬ Stray server.wire address s.net ∧ ∃ m, e = .sync (.transport m))) := by
  unfold Ends request
  cases hsend : send server.wire address s.net with
  | ok reply web => exact yields_send_iff.mp ⟨web, hsend⟩
  | error fault web =>
    have hnone (reply : Reply) : ¬ Final server.wire address s.net reply := by
      intro h
      obtain ⟨_, h⟩ := yields_send_iff.mpr h
      cases hsend.symm.trans h
    dsimp only
    by_cases hfault : fault.isRequestFailure = true
    · rw [if_pos hfault]
      refine ⟨hnone, Or.inr ⟨fun hstray ↦ ?_, _, rfl⟩⟩
      obtain ⟨_, _, h, hfault'⟩ := strays_send_iff.mpr hstray
      cases hsend.symm.trans h
      exact absurd (hfault.symm.trans hfault') (by decide)
    · rw [if_neg hfault]
      have hfault' := Bool.eq_false_iff.mpr hfault
      exact ⟨hnone, Or.inl ⟨strays_send_iff.mp ⟨fault, web, hsend, hfault'⟩,
        WebFault.not_isClassified hfault'⟩⟩

/-- However a call ends that reads the body in some way, the exchange says so. -/
theorem ends_read (read : Bytes → Except Payload.Refusal α) :
    Ends (do orTransport (read (← server.download address))) s fun r _ ↦
      Verdict server.wire address s.net read r := by
  unfold download
  rw [ends_bind, ends_bind]
  refine ends_request.mono fun r t hr ↦ ?_
  cases r with
  | error e =>
    obtain ⟨hnone, ⟨hstray, he⟩ | ⟨hstray, m, rfl⟩⟩ := hr
    · exact .strayed hstray he
    · exact .failed hstray fun reply h ↦ (hnone reply h).elim
  | ok reply =>
    -- The final response decides; no other one could.
    have hother (h : ¬ reply.Refuses)
        (hread : ∀ a, reply.isSuccess = true → read reply.body ≠ .ok a) (message : String) :
        Verdict server.wire address s.net read (.error (.sync (.transport message))) :=
      .failed hr.not_stray fun reply' h' ↦ by
        cases hr.unique h'
        exact ⟨h, hread⟩
    unfold Next
    dsimp only
    by_cases hrefuses : reply.status = 401 ∨ reply.status = 403
    · rw [if_pos hrefuses]
      exact .rejected hr hrefuses
    · rw [if_neg hrefuses]
      by_cases hsuccess : reply.isSuccess = true
      · rw [if_pos hsuccess]
        rw [ends_pure]
        change Ends (orTransport (read reply.body)) t _
        cases hread : read reply.body with
        | ok a => exact .returned hr hsuccess hread
        | error refusal =>
          refine hother hrefuses (fun a _ h ↦ ?_) refusal.message
          cases hread.symm.trans h
      · rw [if_neg hsuccess]
        exact hother hrefuses (fun a h ↦ (hsuccess h).elim) _

/-- The ends of a call that reads the body in some way, each with exactly what brings it about. -/
structure Classified (wire : Wire N) (address : String) (read : Bytes → Except Payload.Refusal α)
    (call : Op (Site (Web N)) α) (s : Site (Web N)) : Prop where
  /-- The call returns what it reads from the body, if the final response is a success. -/
  returns : ∀ a, Returns call s (fun b _ ↦ b = a) ↔
    ∃ reply, Final wire address s.net reply ∧ reply.isSuccess = true ∧ read reply.body = .ok a
  /-- The call asks the user to sign in, if the final response refuses the credentials. -/
  rejects : ∀ message, Raises call s (fun e _ ↦ e = .sync (.rejected message)) ↔
    ∃ reply, Final wire address s.net reply ∧ reply.Refuses ∧ message = rejection reply address
  /-- The exchange strays, if the call ends in a fault of another kind than the two. -/
  strays : Raises call s (fun e _ ↦ ¬ e.IsClassified) ↔ Stray wire address s.net
  /-- All else is a fault of transport. -/
  fails : Raises call s (fun e _ ↦ ∃ message, e = .sync (.transport message)) ↔
    ¬ Stray wire address s.net ∧ ∀ reply, Final wire address s.net reply → ¬ reply.Refuses ∧
      ∀ a, reply.isSuccess = true → read reply.body ≠ .ok a

variable {wire : Wire N} {read : Bytes → Except Payload.Refusal α} {call : Op (Site (Web N)) α}

theorem Classified.of_ends (h : Ends call s fun r _ ↦ Verdict wire address s.net read r) :
    Classified wire address read call s := by
  constructor
  case returns =>
    intro a
    constructor
    · rintro ⟨b, t, hcall, rfl⟩
      cases h.of_ok hcall with
      | returned hfinal hsuccess hread => exact ⟨_, hfinal, hsuccess, hread⟩
    · rintro ⟨reply, hfinal, hsuccess, hread⟩
      exact (h.mono fun r t hr ↦ ⟨hr.eq_ok hfinal hsuccess hread, rfl⟩).returns
  case rejects =>
    intro message
    constructor
    · rintro ⟨e, t, hcall, rfl⟩
      cases h.of_error hcall with
      | rejected hfinal hrefuses => exact ⟨_, hfinal, hrefuses, rfl⟩
      | strayed _ he => exact (he trivial).elim
    · rintro ⟨reply, hfinal, hrefuses, rfl⟩
      exact Ends.raises (h.mono fun r t hr ↦ ⟨_, hr.eq_rejected hfinal hrefuses, rfl⟩)
  case strays =>
    constructor
    · rintro ⟨e, t, hcall, he⟩
      cases h.of_error hcall with
      | rejected _ _ => exact (he trivial).elim
      | failed _ _ => exact (he trivial).elim
      | strayed hstray _ => exact hstray
    · intro hstray
      exact Ends.raises (h.mono fun r t hr ↦ hr.exists_strayed hstray)
  case fails =>
    constructor
    · rintro ⟨e, t, hcall, message, rfl⟩
      cases h.of_error hcall with
      | failed hstray hother => exact ⟨hstray, hother⟩
      | strayed _ he => exact (he trivial).elim
    · rintro ⟨hstray, hother⟩
      refine Ends.raises (h.mono fun r t hr ↦ ?_)
      obtain ⟨message, hr⟩ := hr.exists_failed hstray hother
      exact ⟨_, hr, message, rfl⟩

/-- The body of a download is returned as it is. -/
theorem ends_download : Ends (server.download address) s fun r _ ↦
    Verdict server.wire address s.net .ok r := by
  have hsame : (do orTransport (.ok (← server.download address))) = server.download address :=
    bind_pure _
  rw [← hsame]
  exact ends_read .ok

end FormServer

end FormCatalog
