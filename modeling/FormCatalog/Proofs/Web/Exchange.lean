import FormCatalog.Proofs.Text.Marks
import FormCatalog.Proofs.Web.Redirects

/-!
# Exchanges

What comes of asking for an address is told here without the programs that ask. `Final` is the reply
that stands at the end of it all, when redirects have been followed and a challenge has been
answered. An exchange without a final reply fails as a request, except for those of `Stray`: they
fail in the use of what the server said or of an address that was given, and their faults are none
of the network.

`yields_send_iff` and `strays_send_iff` tie both to the program, whatever the wire does and whatever
the client remembers.
-/

set_option autoImplicit false
set_option relaxedAutoImplicit false

namespace FormCatalog

open WebFault WebOp

/-! ### Challenges -/

namespace SignIn

/-- A pair that is none: it has no equals sign, or nothing after the first one. -/
def Garbled (item : List Char) : Prop := '=' ∉ item ∨ ∃ name, '=' ∉ name ∧ item = name ++ ['=']

/-- The challenge asks for a digest that is not known, or for the protection of content alone. -/
def Challenge.Unsupported (c : Challenge) : Prop :=
  digestOf? (upper c.algorithm) = none ∨
    ∃ wanted, c.protection = some wanted ∧ offers wanted = ["auth-int".toList]

theorem pair_of_not_mem {item : List Char} (h : '=' ∉ item) : pair item = .error .noValue := by
  unfold pair
  rw [Text.span_of_not_mem h]

theorem pair_append {name value : List Char} (h : '=' ∉ name) :
    pair (name ++ '=' :: value) =
      plainValue value >>= fun v ↦ .ok (String.ofList name, String.ofList v) := by
  unfold pair
  rw [Text.span_append h]

theorem pair_eq_error_iff {item : List Char} {fault : WebFault} :
    pair item = .error fault ↔
      ('=' ∉ item ∧ fault = .noValue) ∨
        ∃ name, '=' ∉ name ∧ item = name ++ ['='] ∧ fault = .emptyValue := by
  constructor
  · intro h
    by_cases hmark : '=' ∈ item
    · obtain ⟨name, value, rfl, hname⟩ := List.eq_append_cons_of_mem hmark
      rw [pair_append hname] at h
      cases value with
      | nil =>
        cases h
        exact Or.inr ⟨name, hname, rfl, rfl⟩
      | cons c value =>
        unfold plainValue at h
        dsimp only at h
        split at h <;> cases h
    · rw [pair_of_not_mem hmark] at h
      cases h
      exact Or.inl ⟨hmark, rfl⟩
  · rintro (⟨hmark, rfl⟩ | ⟨name, hname, rfl, rfl⟩)
    · exact pair_of_not_mem hmark
    · rw [pair_append hname]
      rfl

/-- A pair that fails is none, and its fault is no failure of the request. -/
theorem isRequestFailure_of_pair {item : List Char} {fault : WebFault}
    (h : pair item = .error fault) : fault.isRequestFailure = false := by
  obtain ⟨-, rfl⟩ | ⟨_, -, -, rfl⟩ := pair_eq_error_iff.mp h <;> rfl

theorem amiss_pair_iff {item : List Char} : Amiss (pair item) ↔ Garbled item := by
  constructor
  · rintro ⟨fault, h, -⟩
    obtain ⟨hmark, -⟩ | ⟨name, hname, hitem, -⟩ := pair_eq_error_iff.mp h
    · exact Or.inl hmark
    · exact Or.inr ⟨name, hname, hitem⟩
  · rintro (hmark | ⟨name, hname, hitem⟩)
    · exact ⟨.noValue, pair_eq_error_iff.mpr (Or.inl ⟨hmark, rfl⟩), rfl⟩
    · exact ⟨.emptyValue, pair_eq_error_iff.mpr (Or.inr ⟨name, hname, hitem, rfl⟩), rfl⟩

/-- A challenge cannot be read because of its pairs; one that lacks a field fails as a request. -/
theorem amiss_challenge_iff {fields : List Char} :
    Amiss (challenge fields) ↔ ∃ item ∈ listItems fields, Garbled item := by
  unfold challenge
  rw [amiss_bind_iff, amiss_mapM_iff fun _ _ ↦ isRequestFailure_of_pair]
  simp only [amiss_pair_iff]
  refine or_iff_left ?_
  rintro ⟨pairs, -, h⟩
  split at h
  · exact not_amiss_ok h
  · exact absurd (amiss_error_iff.mp h) (by decide)

theorem amiss_protects_iff {protection : Option String} :
    Amiss (protects protection) ↔
      ∃ wanted, protection = some wanted ∧ offers wanted = ["auth-int".toList] := by
  cases protection with
  | none => exact iff_of_false not_amiss_ok (by simp)
  | some wanted =>
    simp only [Option.some.injEq, exists_eq_left']
    unfold protects
    dsimp only
    by_cases hoffer : offers wanted = ["auth-int".toList]
    · rw [hoffer]
      exact iff_of_true (amiss_error_iff.mpr rfl) rfl
    · rw [if_neg hoffer]
      refine iff_of_false ?_ hoffer
      split
      · exact not_amiss_ok
      · exact fun h ↦ absurd (amiss_error_iff.mp h) (by simp [WebFault.isRequestFailure])

/-- The answer to a challenge fails amiss if it is asked for what is not provided. -/
theorem amiss_answer_iff {username password target : String} {c : Challenge} {count : Nat} :
    Amiss (answer username password c count target) ↔ c.Unsupported := by
  unfold answer Challenge.Unsupported
  cases hdigest : digestOf? (upper c.algorithm) with
  | none => exact iff_of_true (amiss_error_iff.mpr rfl) (Or.inl rfl)
  | some hash =>
    dsimp only
    rw [amiss_bind_iff, amiss_protects_iff]
    simp only [reduceCtorEq, false_or]
    exact or_iff_left fun ⟨_, _, h⟩ ↦ not_amiss_ok h

theorem isSome_of_answer {username password target header : String} {c : Challenge} {count : Nat}
    (h : answer username password c count target = .ok header) :
    (digestOf? (upper c.algorithm)).isSome = true := by
  unfold answer at h
  cases hdigest : digestOf? (upper c.algorithm) with
  | none =>
    rw [hdigest] at h
    cases h
  | some hash => rfl

end SignIn

namespace Client

variable {N : Type} (wire : Wire N)

/-! ### A whole exchange -/

/-- The credentials that a client sends along unasked: those of the basic scheme, the answer to the
last challenge of a server, or without a way to sign in those of the address itself. -/
def opening (client : Client) (url : Url) : Except WebFault (Option String) :=
  match client.signIn, client.challenge with
  | none, _ => .ok (ownCredentials? url)
  | some (.basic username password), _ =>
    .ok (some (SignIn.basicHeader (Bytes.ofText username) (Bytes.ofText password)))
  | some (.digest _ _), none => .ok none
  | some (.digest username password), some c =>
    some <$> SignIn.answer username password c client.count (String.ofList url.target)

/-- A client that has not been closed is about to ask for an address, with these credentials. -/
structure Begins (client : Client) (address : String) (url : Url) (header : Option String) :
    Prop where
  isOpen : client.isClosed = false
  resolved : client.resolve address = .ok url
  sendable : url.Sendable
  opened : client.opening url = .ok header

/-- The reply refuses credentials and demands a digest of them. -/
structure Demands (reply : Reply) (fields : List Char) : Prop where
  status : reply.status = 401
  fields : challengeFields? reply = some fields

/-- A client that signs in with the digest scheme meets a challenge in the first reply. -/
def Challenged (address : String) (web : Web N) (url : Url) (username password : String)
    (header : Option String) (fields : List Char) (net : N) : Prop :=
  web.client.signIn = some (.digest username password) ∧
    ∃ reply, Begins web.client address url header ∧
      Delivers wire requestLimit ⟨url, header⟩ web.net reply net ∧ Demands reply fields

/-- The final response to a client that asks for an address: the first reply that is no redirect,
or, if that one is a challenge, the reply to its answer. -/
inductive Final (address : String) (web : Web N) (reply : Reply) : Prop
  | first {url : Url} {header : Option String} {net : N}
      (hbegins : Begins web.client address url header)
      (hdelivers : Delivers wire requestLimit ⟨url, header⟩ web.net reply net)
      (hlast : ∀ username password fields,
        web.client.signIn = some (.digest username password) → ¬ Demands reply fields)
  | second {url : Url} {username password header : String} {first : Option String}
      {fields : List Char} {net net' : N} {c : SignIn.Challenge}
      (h : Challenged wire address web url username password first fields net)
      (hread : SignIn.challenge fields = .ok c)
      (hanswer : SignIn.answer username password c 1 (String.ofList url.target) = .ok header)
      (hreplace : canReplace first header = true)
      (hdelivers : Delivers wire (requestLimit - 1) ⟨url, some header⟩ net reply net')

/-- The exchanges that fail in the use of what the server said, or of an address. -/
inductive Stray (address : String) (web : Web N) : Prop
  /-- No request can be made for the address: its host cannot be read back, or not be named. -/
  | unsendable {url : Url} (hurl : web.client.resolve address = .ok url) (hhost : ¬ url.Sendable)
  /-- The client has been closed. -/
  | closed {url : Url} (hurl : web.client.resolve address = .ok url) (hhost : url.Sendable)
      (hclosed : web.client.isClosed = true)
  /-- The challenge that the client remembers cannot be answered. -/
  | remembered {url : Url} {username password : String} {c : SignIn.Challenge}
      (hurl : web.client.resolve address = .ok url) (hhost : url.Sendable)
      (hopen : web.client.isClosed = false)
      (hsignIn : web.client.signIn = some (.digest username password))
      (hchallenge : web.client.challenge = some c) (hc : c.Unsupported)
  /-- A reply comes from an address that cannot be kept with it, or redirects to one that no request
  can be made for. -/
  | misled {url : Url} {header : Option String} (hbegins : Begins web.client address url header)
      (hmisleads : Misleads wire requestLimit ⟨url, header⟩ web.net)
  /-- The challenge of the first reply cannot be read. -/
  | garbled {url : Url} {username password : String} {first : Option String}
      {fields item : List Char} {net : N}
      (h : Challenged wire address web url username password first fields net)
      (hitem : item ∈ SignIn.listItems fields) (hgarbled : SignIn.Garbled item)
  /-- The challenge of the first reply cannot be answered. -/
  | unsupported {url : Url} {username password : String} {first : Option String}
      {fields : List Char} {net : N} {c : SignIn.Challenge}
      (h : Challenged wire address web url username password first fields net)
      (hread : SignIn.challenge fields = .ok c) (hc : c.Unsupported)
  /-- The answer to the challenge cannot be put into the request. -/
  | notPlain {url : Url} {username password header : String} {first : Option String}
      {fields : List Char} {net : N} {c : SignIn.Challenge}
      (h : Challenged wire address web url username password first fields net)
      (hread : SignIn.challenge fields = .ok c)
      (hanswer : SignIn.answer username password c 1 (String.ofList url.target) = .ok header)
      (hreplace : canReplace first header = false)
  /-- The reply to the answer comes from an address that cannot be kept with it, or redirects to one
  that no request can be made for. -/
  | misledAgain {url : Url} {username password header : String} {first : Option String}
      {fields : List Char} {net : N} {c : SignIn.Challenge}
      (h : Challenged wire address web url username password first fields net)
      (hread : SignIn.challenge fields = .ok c)
      (hanswer : SignIn.answer username password c 1 (String.ofList url.target) = .ok header)
      (hreplace : canReplace first header = true)
      (hmisleads : Misleads wire (requestLimit - 1) ⟨url, some header⟩ net)

section Sending

variable {wire} {address username password : String} {url : Url} {first : Option String}
  {reply last : Reply} {web web' : Web N}

/-- The state of a client that has used up a number. -/
def counted (web : Web N) : Web N :=
  { web with client := { web.client with count := web.client.count + 1 } }

theorem answerChallenge_eq {c : SignIn.Challenge} :
    answerChallenge username password c url web =
      ofExcept (SignIn.answer username password c web.client.count (String.ofList url.target))
        (if (SignIn.digestOf? (SignIn.upper c.algorithm)).isSome then counted web else web) := by
  unfold answerChallenge
  rw [get_bind]
  dsimp only
  split <;> rfl

theorem answerChallenge_eq_ok_iff {c : SignIn.Challenge} {header : String} :
    answerChallenge username password c url web = .ok header web' ↔
      SignIn.answer username password c web.client.count (String.ofList url.target) = .ok header ∧
        web' = counted web := by
  rw [answerChallenge_eq, ofExcept_eq_ok_iff]
  refine and_congr_right fun hanswer ↦ ?_
  rw [if_pos (SignIn.isSome_of_answer hanswer), eq_comm]

theorem strays_answerChallenge_iff {c : SignIn.Challenge} :
    Strays (answerChallenge username password c url) web ↔ c.Unsupported := by
  unfold Strays
  rw [answerChallenge_eq]
  exact strays_ofExcept_iff.trans SignIn.amiss_answer_iff

/-- The first step of digest sign-in: the answer to the challenge that the client remembers. -/
def answerRemembered (username password : String) (url : Url) : WebOp N (Option String) :=
  fun web ↦
    match web.client.challenge with
    | some c => (some <$> answerChallenge username password c url) web
    | none => .ok none web

/-- The last request of digest sign-in, with the answer to a challenge in place of the credentials
of the first one. -/
def followAgain (wire : Wire N) (url : Url) (first : Option String) (second : String) :
    WebOp N Reply :=
  if canReplace first second then follow wire (requestLimit - 1) ⟨url, some second⟩
  else throw (.notPlain second)

/-- The last step of digest sign-in: the answer to a reply that is a challenge. -/
def answerReply (wire : Wire N) (username password : String) (url : Url) (first : Option String)
    (reply : Reply) : WebOp N Reply :=
  if reply.status ≠ 401 then pure reply
  else
    match challengeFields? reply with
    | none => pure reply
    | some fields => do
      let c ← ofExcept (SignIn.challenge fields)
      modify fun web ↦ { web with client := { web.client with challenge := some c, count := 1 } }
      let second ← answerChallenge username password c url
      followAgain wire url first second

theorem sendDigest_eq : sendDigest wire username password url web =
    (do
      let first ← answerRemembered username password url
      let reply ← follow wire requestLimit ⟨url, first⟩
      answerReply wire username password url first reply) web := by
  unfold sendDigest
  rw [get_bind]
  change _ = EStateM.bind (answerRemembered username password url) _ web
  unfold EStateM.bind answerRemembered
  cases web.client.challenge with
  | none => rfl
  | some c => rfl

theorem answerRemembered_eq_ok_iff {header : Option String}
    (hsignIn : web.client.signIn = some (.digest username password)) :
    answerRemembered username password url web = .ok header web' ↔
      web.client.opening url = .ok header ∧
        web' = if web.client.challenge.isSome then counted web else web := by
  unfold answerRemembered opening
  rw [hsignIn]
  cases web.client.challenge with
  | none => simp [eq_comm (a := web')]
  | some c =>
    dsimp only
    rw [map_eq_ok_iff]
    simp only [answerChallenge_eq_ok_iff, Option.isSome_some, if_true]
    cases SignIn.answer username password c web.client.count (String.ofList url.target) with
    | ok answer => simp [and_comm]
    | error fault => simp

theorem answerRemembered_of_none (h : web.client.challenge = none) :
    answerRemembered username password url web = .ok none web := by
  unfold answerRemembered
  rw [h]

theorem answerRemembered_of_some {c : SignIn.Challenge} (h : web.client.challenge = some c) :
    answerRemembered username password url web =
      (some <$> answerChallenge username password c url) web := by
  unfold answerRemembered
  rw [h]

theorem strays_answerRemembered_iff :
    Strays (answerRemembered username password url) web ↔
      ∃ c, web.client.challenge = some c ∧ c.Unsupported := by
  cases hchallenge : web.client.challenge with
  | none => simp [Strays, answerRemembered_of_none hchallenge]
  | some c =>
    simp only [Option.some.injEq, exists_eq_left']
    rw [strays_congr (answerRemembered_of_some hchallenge), strays_map_iff]
    exact strays_answerChallenge_iff

theorem yields_followAgain_iff {second : String} :
    Yields (followAgain wire url first second) web last ↔
      canReplace first second = true ∧
        ∃ net, Delivers wire (requestLimit - 1) ⟨url, some second⟩ web.net last net := by
  unfold followAgain Yields
  cases canReplace first second with
  | false => exact iff_of_false (fun ⟨_, h⟩ ↦ by cases h) (by simp)
  | true =>
    simp only [if_true, true_and]
    constructor
    · rintro ⟨_, h⟩
      obtain ⟨net, hdelivers, -⟩ := follow_eq_ok_iff.mp h
      exact ⟨net, hdelivers⟩
    · rintro ⟨net, hdelivers⟩
      exact ⟨_, follow_eq_ok_iff.mpr ⟨net, hdelivers, rfl⟩⟩

theorem strays_followAgain_iff {second : String} :
    Strays (followAgain wire url first second) web ↔
      canReplace first second = false ∨
        canReplace first second = true ∧
          Misleads wire (requestLimit - 1) ⟨url, some second⟩ web.net := by
  unfold followAgain
  cases canReplace first second with
  | false => exact iff_of_true ⟨_, _, rfl, rfl⟩ (Or.inl rfl)
  | true => simpa using strays_follow_iff

/-- A reply that is no challenge is the last one. -/
theorem answerReply_of_not (h : ∀ fields, ¬ Demands reply fields) :
    answerReply wire username password url first reply = pure reply := by
  unfold answerReply
  split
  · rfl
  · next hstatus =>
    cases hfields : challengeFields? reply with
    | none => rfl
    | some fields => exact (h fields ⟨not_not.mp hstatus, hfields⟩).elim

theorem answerReply_of_demands {fields : List Char} (h : Demands reply fields) :
    answerReply wire username password url first reply = (do
      let c ← ofExcept (SignIn.challenge fields)
      modify fun web ↦ { web with client := { web.client with challenge := some c, count := 1 } }
      let second ← answerChallenge username password c url
      followAgain wire url first second) := by
  unfold answerReply
  rw [if_neg (not_not.mpr h.status), h.fields]

theorem yields_answerReply_iff {fields : List Char} (h : Demands reply fields) :
    Yields (answerReply wire username password url first reply) web last ↔
      ∃ c header net, SignIn.challenge fields = .ok c ∧
        SignIn.answer username password c 1 (String.ofList url.target) = .ok header ∧
        canReplace first header = true ∧
        Delivers wire (requestLimit - 1) ⟨url, some header⟩ web.net last net := by
  rw [answerReply_of_demands h]
  simp only [yields_bind_iff, ofExcept_eq_ok_iff, answerChallenge_eq_ok_iff, yields_followAgain_iff]
  constructor
  · rintro ⟨c, _, ⟨hread, rfl⟩, _, _, hmodify, header, _, ⟨hanswer, rfl⟩, hreplace, net,
      hdelivers⟩
    cases hmodify
    exact ⟨c, header, net, hread, hanswer, hreplace, hdelivers⟩
  · rintro ⟨c, header, net, hread, hanswer, hreplace, hdelivers⟩
    exact ⟨c, web, ⟨hread, rfl⟩, ⟨⟩, _, rfl, header, _, ⟨hanswer, rfl⟩, hreplace, net, hdelivers⟩

theorem strays_answerReply_iff {fields : List Char} (h : Demands reply fields) :
    Strays (answerReply wire username password url first reply) web ↔
      (∃ item ∈ SignIn.listItems fields, SignIn.Garbled item) ∨
        ∃ c, SignIn.challenge fields = .ok c ∧ (c.Unsupported ∨
          ∃ header, SignIn.answer username password c 1 (String.ofList url.target) = .ok header ∧
            (canReplace first header = false ∨ canReplace first header = true ∧
              Misleads wire (requestLimit - 1) ⟨url, some header⟩ web.net)) := by
  rw [answerReply_of_demands h, strays_bind_iff, strays_ofExcept_iff, SignIn.amiss_challenge_iff]
  refine or_congr_right ?_
  simp only [ofExcept_eq_ok_iff]
  constructor
  · rintro ⟨c, _, ⟨hread, rfl⟩, hrest⟩
    obtain ⟨_, _, hmodify, -⟩ | ⟨_, _, hmodify, hrest⟩ := strays_bind_iff.mp hrest
    · cases hmodify
    · cases hmodify
      obtain hc | ⟨header, _, hresult, hrest⟩ := strays_bind_iff.mp hrest
      · exact ⟨c, hread, Or.inl (strays_answerChallenge_iff.mp hc)⟩
      · obtain ⟨hanswer, rfl⟩ := answerChallenge_eq_ok_iff.mp hresult
        have hagain := strays_followAgain_iff.mp hrest
        exact ⟨c, hread, Or.inr ⟨header, hanswer, hagain⟩⟩
  · rintro ⟨c, hread, hrest⟩
    refine ⟨c, web, ⟨hread, rfl⟩, strays_bind_iff.mpr (Or.inr ⟨⟨⟩, _, rfl, strays_bind_iff.mpr ?_⟩)⟩
    obtain hc | ⟨header, hanswer, hagain⟩ := hrest
    · exact Or.inl (strays_answerChallenge_iff.mpr hc)
    · exact Or.inr ⟨header, _, answerChallenge_eq_ok_iff.mpr ⟨hanswer, rfl⟩,
        strays_followAgain_iff.mpr hagain⟩

theorem net_ite_counted (web : Web N) :
    (if web.client.challenge.isSome then counted web else web).net = web.net := by
  split <;> rfl

theorem yields_sendDigest_iff (hsignIn : web.client.signIn = some (.digest username password)) :
    Yields (sendDigest wire username password url) web last ↔
      ∃ header reply net, web.client.opening url = .ok header ∧
        Delivers wire requestLimit ⟨url, header⟩ web.net reply net ∧
        ((∀ fields, ¬ Demands reply fields) ∧ last = reply ∨
          ∃ fields, Demands reply fields ∧ ∃ c second net', SignIn.challenge fields = .ok c ∧
            SignIn.answer username password c 1 (String.ofList url.target) = .ok second ∧
            canReplace header second = true ∧
            Delivers wire (requestLimit - 1) ⟨url, some second⟩ net last net') := by
  rw [yields_congr sendDigest_eq]
  simp only [yields_bind_iff, answerRemembered_eq_ok_iff hsignIn, follow_eq_ok_iff]
  constructor
  · rintro ⟨header, _, ⟨hopening, rfl⟩, reply, _, ⟨net, hdelivers, rfl⟩, hreply⟩
    rw [net_ite_counted] at hdelivers
    refine ⟨header, reply, net, hopening, hdelivers, ?_⟩
    by_cases hdemands : ∃ fields, Demands reply fields
    · obtain ⟨fields, hfields⟩ := hdemands
      exact Or.inr ⟨fields, hfields, (yields_answerReply_iff hfields).mp hreply⟩
    · have hnone : ∀ fields, ¬ Demands reply fields := not_exists.mp hdemands
      rw [answerReply_of_not hnone] at hreply
      obtain ⟨_, hpure⟩ := hreply
      exact Or.inl ⟨hnone, (pure_eq_ok_iff.mp hpure).1.symm⟩
  · rintro ⟨header, reply, net, hopening, hdelivers, hrest⟩
    rw [← net_ite_counted] at hdelivers
    refine ⟨header, _, ⟨hopening, rfl⟩, reply, _, ⟨net, hdelivers, rfl⟩, ?_⟩
    obtain ⟨hnone, rfl⟩ | ⟨fields, hfields, hanswer⟩ := hrest
    · rw [answerReply_of_not hnone]
      exact ⟨_, rfl⟩
    · exact (yields_answerReply_iff hfields).mpr hanswer

theorem strays_sendDigest_iff (hsignIn : web.client.signIn = some (.digest username password)) :
    Strays (sendDigest wire username password url) web ↔
      (∃ c, web.client.challenge = some c ∧ c.Unsupported) ∨
        ∃ header, web.client.opening url = .ok header ∧
          (Misleads wire requestLimit ⟨url, header⟩ web.net ∨
            ∃ reply net fields, Delivers wire requestLimit ⟨url, header⟩ web.net reply net ∧
              Demands reply fields ∧
              ((∃ item ∈ SignIn.listItems fields, SignIn.Garbled item) ∨
                ∃ c, SignIn.challenge fields = .ok c ∧ (c.Unsupported ∨ ∃ second,
                  SignIn.answer username password c 1 (String.ofList url.target) = .ok second ∧
                  (canReplace header second = false ∨ canReplace header second = true ∧
                    Misleads wire (requestLimit - 1) ⟨url, some second⟩ net)))) := by
  rw [strays_congr sendDigest_eq, strays_bind_iff, strays_answerRemembered_iff]
  refine or_congr_right ?_
  simp only [answerRemembered_eq_ok_iff hsignIn]
  constructor
  · rintro ⟨header, _, ⟨hopening, rfl⟩, hrest⟩
    refine ⟨header, hopening, ?_⟩
    obtain hmisleads | ⟨reply, _, hfollow, hreply⟩ := strays_bind_iff.mp hrest
    · exact Or.inl (net_ite_counted web ▸ strays_follow_iff.mp hmisleads)
    · obtain ⟨net, hdelivers, rfl⟩ := follow_eq_ok_iff.mp hfollow
      rw [net_ite_counted] at hdelivers
      by_cases hdemands : ∃ fields, Demands reply fields
      · obtain ⟨fields, hfields⟩ := hdemands
        exact Or.inr ⟨reply, net, fields, hdelivers, hfields,
          (strays_answerReply_iff hfields).mp hreply⟩
      · rw [answerReply_of_not (not_exists.mp hdemands)] at hreply
        exact (not_strays_pure hreply).elim
  · rintro ⟨header, hopening, hrest⟩
    refine ⟨header, _, ⟨hopening, rfl⟩, strays_bind_iff.mpr ?_⟩
    obtain hmisleads | ⟨reply, net, fields, hdelivers, hfields, hreply⟩ := hrest
    · exact Or.inl (strays_follow_iff.mpr ((net_ite_counted web).symm ▸ hmisleads))
    · rw [← net_ite_counted] at hdelivers
      exact Or.inr ⟨reply, _, follow_eq_ok_iff.mpr ⟨net, hdelivers, rfl⟩,
        (strays_answerReply_iff hfields).mpr hreply⟩

theorem send_of_unresolved {fault : UrlFault} (h : web.client.resolve address = .error fault) :
    send wire address web = .error (.badUrl fault) web := by
  unfold send
  rw [get_bind]
  rw [h]
  rfl

/-- The last step of a request: an open client makes it in its way of signing in. -/
def sendTo (wire : Wire N) (client : Client) (url : Url) : WebOp N Reply :=
  if client.isClosed then throw .closed
  else
    match client.signIn with
    | some (.digest username password) => sendDigest wire username password url
    | some (.basic username password) =>
      follow wire requestLimit
        ⟨url, some (SignIn.basicHeader (Bytes.ofText username) (Bytes.ofText password))⟩
    | none => follow wire requestLimit ⟨url, ownCredentials? url⟩

theorem send_of_resolved (h : web.client.resolve address = .ok url) :
    send wire address web = (do
      ofExcept (checkHost url)
      ofExcept (checkServer url)
      sendTo wire web.client url) web := by
  unfold send
  rw [get_bind]
  rw [h]
  rfl

theorem send_of_badHost {fault : HostFault} (h : web.client.resolve address = .ok url)
    (hhost : url.readHost = .error fault) :
    send wire address web = .error (.badHost fault) web := by
  have hcheck : checkHost url = .error (.badHost fault) := by
    unfold checkHost
    rw [hhost]
  rw [send_of_resolved h, hcheck]
  rfl

theorem send_of_not_nameable (h : web.client.resolve address = .ok url) (hhost : url.Readable)
    (hname : ¬ url.Nameable) :
    send wire address web = .error (.notPlain (String.ofList url.server)) web := by
  have hserver : checkServer url = .error (.notPlain (String.ofList url.server)) :=
    if_neg fun hplain ↦ hname (checkServer_eq_ok_iff.mp (if_pos hplain))
  rw [send_of_resolved h, checkHost_eq_ok_iff.mpr hhost, hserver]
  rfl

/-- A request that cannot be made ends at once, in a fault of a value. -/
theorem send_of_not_sendable (wire : Wire N) (h : web.client.resolve address = .ok url)
    (hhost : ¬ url.Sendable) :
    ∃ fault, send wire address web = .error fault web ∧ fault.isRequestFailure = false ∧
      ∃ message, fault.fault = .invalid message := by
  cases hread : url.readHost with
  | error fault => exact ⟨_, send_of_badHost h hread, rfl, _, rfl⟩
  | ok points =>
    have hname : ¬ url.Nameable := fun hname ↦ hhost ⟨⟨points, hread⟩, hname⟩
    exact ⟨_, send_of_not_nameable h ⟨points, hread⟩ hname, rfl, _, rfl⟩

/-- A request that can be made comes to its last step. -/
theorem send_of_sendable (h : web.client.resolve address = .ok url) (hhost : url.Sendable) :
    send wire address web = sendTo wire web.client url web := by
  rw [send_of_resolved h, checkHost_eq_ok_iff.mpr hhost.readable,
    checkServer_eq_ok_iff.mpr hhost.nameable]
  rfl

theorem send_of_closed (h : web.client.resolve address = .ok url) (hhost : url.Sendable)
    (hclosed : web.client.isClosed = true) : send wire address web = .error .closed web := by
  rw [send_of_sendable h hhost]
  unfold sendTo
  rw [hclosed]
  rfl

theorem send_of_digest (h : web.client.resolve address = .ok url) (hhost : url.Sendable)
    (hopen : web.client.isClosed = false)
    (hsignIn : web.client.signIn = some (.digest username password)) :
    send wire address web = sendDigest wire username password url web := by
  rw [send_of_sendable h hhost]
  unfold sendTo
  rw [hopen, hsignIn]
  rfl

/-- Without digest sign-in the credentials are those that are sent along unasked. -/
theorem send_of_plain (h : web.client.resolve address = .ok url) (hhost : url.Sendable)
    (hopen : web.client.isClosed = false)
    (hsignIn : ∀ username password, web.client.signIn ≠ some (.digest username password)) :
    ∃ header, web.client.opening url = .ok header ∧
      send wire address web = follow wire requestLimit ⟨url, header⟩ web := by
  rw [send_of_sendable h hhost]
  unfold sendTo opening
  rw [hopen]
  cases hway : web.client.signIn with
  | none => exact ⟨_, rfl, rfl⟩
  | some way =>
    cases way with
    | basic username password => exact ⟨_, rfl, rfl⟩
    | digest username password => exact (hsignIn username password hway).elim

/-- The five ways in which a request is taken up. -/
theorem send_cases (wire : Wire N) (address : String) (web : Web N) :
    (∃ fault, web.client.resolve address = .error fault ∧
        send wire address web = .error (.badUrl fault) web) ∨
      (∃ url fault, web.client.resolve address = .ok url ∧ ¬ url.Sendable ∧
        send wire address web = .error fault web) ∨
      (∃ url, web.client.resolve address = .ok url ∧ url.Sendable ∧ web.client.isClosed = true ∧
        send wire address web = .error .closed web) ∨
      (∃ url username password, web.client.resolve address = .ok url ∧ url.Sendable ∧
        web.client.isClosed = false ∧ web.client.signIn = some (.digest username password) ∧
        send wire address web = sendDigest wire username password url web) ∨
      ∃ url header, Begins web.client address url header ∧
        (∀ username password, web.client.signIn ≠ some (.digest username password)) ∧
        send wire address web = follow wire requestLimit ⟨url, header⟩ web := by
  cases hurl : web.client.resolve address with
  | error fault => exact Or.inl ⟨fault, rfl, send_of_unresolved hurl⟩
  | ok url =>
    refine Or.inr ?_
    by_cases hhost : url.Sendable
    · refine Or.inr ?_
      by_cases hclosed : web.client.isClosed = true
      · exact Or.inl ⟨url, rfl, hhost, hclosed, send_of_closed hurl hhost hclosed⟩
      · have hopen : web.client.isClosed = false := Bool.eq_false_iff.mpr hclosed
        refine Or.inr ?_
        by_cases hdigest : ∃ username password, web.client.signIn = some (.digest username password)
        · obtain ⟨username, password, hsignIn⟩ := hdigest
          exact Or.inl ⟨url, username, password, rfl, hhost, hopen, hsignIn,
            send_of_digest hurl hhost hopen hsignIn⟩
        · have hplain : ∀ username password,
              web.client.signIn ≠ some (.digest username password) :=
            fun username password h ↦ hdigest ⟨username, password, h⟩
          obtain ⟨header, hopening, hsend⟩ := send_of_plain hurl hhost hopen hplain
          exact Or.inr ⟨url, header, ⟨hopen, hurl, hhost, hopening⟩, hplain, hsend⟩
    · obtain ⟨fault, hsend, -⟩ := send_of_not_sendable wire hurl hhost
      exact Or.inl ⟨url, fault, rfl, hhost, hsend⟩

/-- An exchange that begins is a walk along redirects, unless the digest scheme has more to say. -/
theorem Begins.send_eq {header : Option String} (h : Begins web.client address url header)
    (hplain : ∀ username password, web.client.signIn ≠ some (.digest username password)) :
    send wire address web = follow wire requestLimit ⟨url, header⟩ web := by
  obtain ⟨header', hopening, hsend⟩ := send_of_plain h.resolved h.sendable h.isOpen hplain
  rw [h.opened] at hopening
  cases hopening
  exact hsend

/-- An exchange that begins with digest sign-in goes by its rules. -/
theorem Begins.send_eq_digest {header : Option String} (h : Begins web.client address url header)
    (hsignIn : web.client.signIn = some (.digest username password)) :
    send wire address web = sendDigest wire username password url web :=
  send_of_digest h.resolved h.sendable h.isOpen hsignIn

/-- After a challenge the exchange strays if the challenge, or the answer to it, does. -/
theorem Challenged.strays {fields : List Char} {net : N}
    (h : Challenged wire address web url username password first fields net)
    (hrest : (∃ item ∈ SignIn.listItems fields, SignIn.Garbled item) ∨
      ∃ c, SignIn.challenge fields = .ok c ∧ (c.Unsupported ∨ ∃ second,
        SignIn.answer username password c 1 (String.ofList url.target) = .ok second ∧
        (canReplace first second = false ∨ canReplace first second = true ∧
          Misleads wire (requestLimit - 1) ⟨url, some second⟩ net))) :
    Strays (send wire address) web := by
  obtain ⟨hsignIn, reply, hbegins, hdelivers, hfields⟩ := h
  rw [strays_congr (hbegins.send_eq_digest hsignIn), strays_sendDigest_iff hsignIn]
  exact Or.inr ⟨first, hbegins.opened, Or.inr ⟨reply, net, fields, hdelivers, hfields, hrest⟩⟩

/-- A request returns exactly the final response. -/
theorem yields_send_iff : Yields (send wire address) web reply ↔ Final wire address web reply := by
  constructor
  · rintro ⟨web', h⟩
    obtain ⟨fault, -, hsend⟩ | ⟨url, fault, -, -, hsend⟩ | ⟨url, -, -, -, hsend⟩ |
      ⟨url, username, password, hurl, hhost, hopen, hsignIn, hsend⟩ |
      ⟨url, header, hbegins, hplain, hsend⟩ :=
      send_cases wire address web
    · cases hsend.symm.trans h
    · cases hsend.symm.trans h
    · cases hsend.symm.trans h
    · obtain ⟨header, first, net, hopening, hdelivers, hrest⟩ :=
        (yields_sendDigest_iff hsignIn).mp ⟨web', hsend.symm.trans h⟩
      have hbegins : Begins web.client address url header := ⟨hopen, hurl, hhost, hopening⟩
      obtain ⟨hnone, rfl⟩ | ⟨fields, hfields, c, second, net', hread, hanswer, hreplace, hlast⟩ :=
        hrest
      · exact .first hbegins hdelivers fun _ _ fields _ ↦ hnone fields
      · exact .second ⟨hsignIn, first, hbegins, hdelivers, hfields⟩ hread hanswer hreplace hlast
    · obtain ⟨net, hdelivers, -⟩ := follow_eq_ok_iff.mp (hsend.symm.trans h)
      exact .first hbegins hdelivers fun username password _ h ↦ (hplain username password h).elim
  · intro h
    by_cases hdigest : ∃ username password, web.client.signIn = some (.digest username password)
    · obtain ⟨username, password, hsignIn⟩ := hdigest
      cases h with
      | first hbegins hdelivers hlast =>
        rw [yields_congr (hbegins.send_eq_digest hsignIn), yields_sendDigest_iff hsignIn]
        exact ⟨_, _, _, hbegins.opened, hdelivers,
          Or.inl ⟨fun fields ↦ hlast username password fields hsignIn, rfl⟩⟩
      | second h hread hanswer hreplace hdelivers =>
        obtain ⟨hsignIn, first, hbegins, hfirst, hfields⟩ := h
        rw [yields_congr (hbegins.send_eq_digest hsignIn), yields_sendDigest_iff hsignIn]
        exact ⟨_, _, _, hbegins.opened, hfirst,
          Or.inr ⟨_, hfields, _, _, _, hread, hanswer, hreplace, hdelivers⟩⟩
    · have hplain : ∀ username password, web.client.signIn ≠ some (.digest username password) :=
        fun username password h ↦ hdigest ⟨username, password, h⟩
      cases h with
      | first hbegins hdelivers _ =>
        exact ⟨_, (hbegins.send_eq hplain).trans (follow_eq_ok_iff.mpr ⟨_, hdelivers, rfl⟩)⟩
      | second h _ _ _ _ => exact (hplain _ _ h.1).elim

/-- A request strays exactly if it fails in the use of what the server said, or of an address. -/
theorem strays_send_iff : Strays (send wire address) web ↔ Stray wire address web := by
  constructor
  · rintro ⟨fault, web', h, hfault⟩
    obtain ⟨_, -, hsend⟩ | ⟨url, _, hurl, hhost, -⟩ | ⟨url, hurl, hhost, hclosed, -⟩ |
      ⟨url, username, password, hurl, hhost, hopen, hsignIn, hsend⟩ |
      ⟨url, header, hbegins, hplain, hsend⟩ :=
      send_cases wire address web
    · cases hsend.symm.trans h
      cases hfault
    · exact .unsendable hurl hhost
    · exact .closed hurl hhost hclosed
    · obtain ⟨c, hchallenge, hc⟩ | ⟨header, hopening, hrest⟩ :=
        (strays_sendDigest_iff hsignIn).mp ⟨fault, web', hsend.symm.trans h, hfault⟩
      · exact .remembered hurl hhost hopen hsignIn hchallenge hc
      · have hbegins : Begins web.client address url header := ⟨hopen, hurl, hhost, hopening⟩
        obtain hmisleads | ⟨first, net, fields, hdelivers, hfields, hrest⟩ := hrest
        · exact .misled hbegins hmisleads
        · have hchallenged :
              Challenged wire address web url username password header fields net :=
            ⟨hsignIn, first, hbegins, hdelivers, hfields⟩
          obtain ⟨item, hitem, hgarbled⟩ | ⟨c, hread, hc | ⟨second, hanswer, hagain⟩⟩ := hrest
          · exact .garbled hchallenged hitem hgarbled
          · exact .unsupported hchallenged hread hc
          · obtain hreplace | ⟨hreplace, hmisleads⟩ := hagain
            · exact .notPlain hchallenged hread hanswer hreplace
            · exact .misledAgain hchallenged hread hanswer hreplace hmisleads
    · exact .misled hbegins
        (strays_follow_iff.mp ⟨fault, web', hsend.symm.trans h, hfault⟩)
  · intro h
    cases h with
    | unsendable hurl hhost =>
      obtain ⟨fault, hsend, hfault, -⟩ := send_of_not_sendable wire hurl hhost
      exact ⟨fault, web, hsend, hfault⟩
    | closed hurl hhost hclosed => exact ⟨_, _, send_of_closed hurl hhost hclosed, rfl⟩
    | remembered hurl hhost hopen hsignIn hchallenge hc =>
      rw [strays_congr (send_of_digest hurl hhost hopen hsignIn), strays_sendDigest_iff hsignIn]
      exact Or.inl ⟨_, hchallenge, hc⟩
    | misled hbegins hmisleads =>
      by_cases hdigest : ∃ username password, web.client.signIn = some (.digest username password)
      · obtain ⟨username, password, hsignIn⟩ := hdigest
        rw [strays_congr (hbegins.send_eq_digest hsignIn), strays_sendDigest_iff hsignIn]
        exact Or.inr ⟨_, hbegins.opened, Or.inl hmisleads⟩
      · rw [strays_congr (hbegins.send_eq fun username password h ↦
          hdigest ⟨username, password, h⟩), strays_follow_iff]
        exact hmisleads
    | garbled h hitem hgarbled => exact h.strays (Or.inl ⟨_, hitem, hgarbled⟩)
    | unsupported h hread hc => exact h.strays (Or.inr ⟨_, hread, Or.inl hc⟩)
    | notPlain h hread hanswer hreplace =>
      exact h.strays (Or.inr ⟨_, hread, Or.inr ⟨_, hanswer, Or.inl hreplace⟩⟩)
    | misledAgain h hread hanswer hreplace hmisleads =>
      exact h.strays (Or.inr ⟨_, hread, Or.inr ⟨_, hanswer, Or.inr ⟨hreplace, hmisleads⟩⟩⟩)

end Sending

end Client

end FormCatalog
