import FormCatalog.Proofs.Web.HostNames
import FormCatalog.Web.FormServer
import Mathlib.Logic.Basic

/-!
# Following redirects

A request leads along redirects to a reply, or to none. `Redirects` is a number of redirects from
one request to another, `Delivers` a reply at their end that redirects no further, and `Misleads` a
reply that cannot be used: it comes from an address that cannot be kept with it, or it redirects to
an address that no request can be made for. `follow_eq_ok_iff` and `strays_follow_iff` tie them to
the program that follows redirects: it returns the reply delivered, and it ends in a fault that is
no failure of the request exactly if it is misled.
-/

set_option autoImplicit false
set_option relaxedAutoImplicit false

namespace FormCatalog

/-! ### Faults that are no failures of the request -/

namespace WebFault

variable {α β : Type}

/-- The value is a fault, and not one of the request. -/
def Amiss (r : Except WebFault α) : Prop :=
  ∃ fault, r = .error fault ∧ fault.isRequestFailure = false

theorem not_amiss_ok {a : α} : ¬ Amiss (.ok a) := by
  rintro ⟨_, h, -⟩
  cases h

theorem amiss_error_iff {fault : WebFault} :
    Amiss (.error fault : Except WebFault α) ↔ fault.isRequestFailure = false := by
  simp [Amiss]

theorem amiss_bind_iff {r : Except WebFault α} {f : α → Except WebFault β} :
    Amiss (r >>= f) ↔ Amiss r ∨ ∃ a, r = .ok a ∧ Amiss (f a) := by
  cases r with
  | ok a =>
    change Amiss (f a) ↔ _
    simp [not_amiss_ok]
  | error fault =>
    change Amiss (.error fault) ↔ _
    simp [amiss_error_iff]

theorem not_amiss_bind {r : Except WebFault α} {f : α → Except WebFault β} (hr : ¬ Amiss r)
    (hf : ∀ a, ¬ Amiss (f a)) : ¬ Amiss (r >>= f) := by
  rw [amiss_bind_iff]
  rintro (h | ⟨a, -, h⟩)
  · exact hr h
  · exact hf a h

theorem not_amiss_ite {p : Prop} [Decidable p] {r r' : Except WebFault α} (h : ¬ Amiss r)
    (h' : ¬ Amiss r') : ¬ Amiss (if p then r else r') := by
  split
  · exact h
  · exact h'

/-- A traversal goes amiss where one of its steps does, if a step fails in no other way. -/
theorem amiss_mapM_iff {f : α → Except WebFault β} {l : List α}
    (h : ∀ a fault, f a = .error fault → fault.isRequestFailure = false) :
    Amiss (l.mapM f) ↔ ∃ a ∈ l, Amiss (f a) := by
  induction l with
  | nil => exact ⟨fun hnil ↦ (not_amiss_ok hnil).elim, by simp⟩
  | cons a rest ih =>
    have hrest (b : β) : Amiss (do pure (b :: (← rest.mapM f))) ↔ ∃ a ∈ rest, Amiss (f a) := by
      rw [amiss_bind_iff, ← ih]
      exact or_iff_left fun ⟨_, _, hpure⟩ ↦ not_amiss_ok hpure
    rw [List.mapM_cons, amiss_bind_iff]
    simp only [hrest, List.mem_cons, exists_eq_or_imp]
    cases hstep : f a with
    | ok b => simp
    | error fault => simp [amiss_error_iff, h a fault hstep]

end WebFault

open WebFault

namespace WebOp

variable {N α β : Type}

/-- The program ends in a fault that is none of the request. -/
def Strays (x : WebOp N α) (web : Web N) : Prop :=
  ∃ fault web', x web = .error fault web' ∧ fault.isRequestFailure = false

variable {x : WebOp N α} {web web' : Web N}

theorem bind_eq_ok_iff {f : α → WebOp N β} {b : β} :
    (x >>= f) web = .ok b web' ↔ ∃ a u, x web = .ok a u ∧ f a u = .ok b web' := by
  change EStateM.bind x f web = _ ↔ _
  unfold EStateM.bind
  cases x web with
  | ok a u => simp [and_assoc]
  | error e u => simp

theorem strays_bind_iff {f : α → WebOp N β} :
    Strays (x >>= f) web ↔ Strays x web ∨ ∃ a u, x web = .ok a u ∧ Strays (f a) u := by
  unfold Strays
  change (∃ fault web', EStateM.bind x f web = _ ∧ _) ↔ _
  unfold EStateM.bind
  cases x web with
  | ok a u => simp [and_assoc]
  | error e u => simp

theorem map_eq_ok_iff {f : α → β} {b : β} :
    (f <$> x) web = .ok b web' ↔ ∃ a, x web = .ok a web' ∧ f a = b := by
  change EStateM.map f x web = _ ↔ _
  unfold EStateM.map
  cases x web with
  | ok a u =>
    constructor
    · intro h
      cases h
      exact ⟨a, rfl, rfl⟩
    · rintro ⟨_, h, rfl⟩
      cases h
      rfl
  | error e u => simp

theorem strays_map_iff {f : α → β} : Strays (f <$> x) web ↔ Strays x web := by
  unfold Strays
  change (∃ fault web', EStateM.map f x web = _ ∧ _) ↔ _
  unfold EStateM.map
  cases x web with
  | ok a u => simp
  | error e u => simp

theorem pure_eq_ok_iff {a b : α} :
    (pure a : WebOp N α) web = .ok b web' ↔ a = b ∧ web = web' := by
  change EStateM.Result.ok a web = _ ↔ _
  simp

theorem not_strays_pure {a : α} : ¬ Strays (pure a : WebOp N α) web := by
  rintro ⟨_, _, h, -⟩
  cases h

/-- The program returns a result. -/
def Yields (x : WebOp N α) (web : Web N) (a : α) : Prop := ∃ web', x web = .ok a web'

theorem yields_bind_iff {f : α → WebOp N β} {b : β} :
    Yields (x >>= f) web b ↔ ∃ a u, x web = .ok a u ∧ Yields (f a) u b := by
  unfold Yields
  simp only [bind_eq_ok_iff]
  exact ⟨fun ⟨u, a, v, hx, hf⟩ ↦ ⟨a, v, hx, u, hf⟩, fun ⟨a, v, hx, u, hf⟩ ↦ ⟨u, a, v, hx, hf⟩⟩

theorem yields_congr {y : WebOp N α} {a : α} (h : x web = y web) :
    Yields x web a ↔ Yields y web a := by
  unfold Yields
  rw [h]

theorem strays_congr {y : WebOp N α} (h : x web = y web) : Strays x web ↔ Strays y web := by
  unfold Strays
  rw [h]

/-- The client and the network that a program leaves, however it ends. -/
def after (x : WebOp N α) (web : Web N) : Web N :=
  match x web with
  | .ok _ web' => web'
  | .error _ web' => web'

theorem after_congr {y : WebOp N α} (h : x web = y web) : after x web = after y web := by
  unfold after
  rw [h]

theorem after_of_ok {a : α} (h : x web = .ok a web') : after x web = web' := by
  unfold after
  rw [h]

theorem after_of_error {fault : WebFault} (h : x web = .error fault web') :
    after x web = web' := by
  unfold after
  rw [h]

/-- What the first of two programs leaves, and the second one keeps, is left by both. -/
theorem after_bind {f : α → WebOp N β} {post : Web N → Prop} (hx : post (after x web))
    (hf : ∀ a u, post u → post (after (f a) u)) : post (after (x >>= f) web) := by
  change post (after (EStateM.bind x f) web)
  unfold after EStateM.bind
  cases hresult : x web with
  | ok a u => exact hf a u (after_of_ok hresult ▸ hx)
  | error fault u => exact after_of_error hresult ▸ hx

theorem after_bind_of_ok {f : α → WebOp N β} {a : α} (h : x web = .ok a web') :
    after (x >>= f) web = after (f a) web' := by
  change after (EStateM.bind x f) web = _
  unfold after EStateM.bind
  rw [h]

theorem after_map {f : α → β} : after (f <$> x) web = after x web := by
  change after (EStateM.map f x) web = _
  unfold after EStateM.map
  cases x web <;> rfl

theorem after_ofExcept {r : Except WebFault α} :
    after (Client.ofExcept r : WebOp N α) web = web := by
  cases r <;> rfl

theorem get_bind {f : Web N → WebOp N β} : ((get : WebOp N (Web N)) >>= f) web = f web web := rfl

theorem ofExcept_eq_ok_iff {r : Except WebFault α} {a : α} :
    (Client.ofExcept r : WebOp N α) web = .ok a web' ↔ r = .ok a ∧ web = web' := by
  cases r with
  | ok b => exact pure_eq_ok_iff.trans (by simp)
  | error fault =>
    change EStateM.Result.error fault web = _ ↔ _
    simp

theorem strays_ofExcept_iff {r : Except WebFault α} :
    Strays (Client.ofExcept r : WebOp N α) web ↔ Amiss r := by
  cases r with
  | ok a => exact iff_of_false not_strays_pure not_amiss_ok
  | error fault =>
    change (∃ e u, EStateM.Result.error fault web = .error e u ∧ _) ↔ _
    simp [amiss_error_iff]

end WebOp

open WebOp

namespace Client

variable {N : Type} (wire : Wire N)

/-! ### Redirects -/

/-- The wire brings a reply, and the address can be kept with it. -/
def Gets (request : Request) (net : N) (reply : Reply) (net' : N) : Prop :=
  wire request net = (.ok reply, net') ∧ checkKept request.url = .ok ()

/-- So many redirects lead from a request, made in a state of the network, to another one. -/
inductive Redirects : Nat → Request → N → Request → N → Prop
  | none {request : Request} {net : N} : Redirects 0 request net request net
  | next {count : Nat} {request next last : Request} {net net' net'' : N} {reply : Reply}
      {location : String} (h : Gets wire request net reply net')
      (hlocation : reply.location? = some location) (hnext : redirected request location = .ok next)
      (hrest : Redirects count next net' last net'') :
      Redirects (count + 1) request net last net''

/-- With so many requests at most, a request leads to a reply that redirects no further. -/
def Delivers (limit : Nat) (request : Request) (net : N) (reply : Reply) (net' : N) : Prop :=
  ∃ count < limit, ∃ last u, Redirects wire count request net last u ∧
    Gets wire last u reply net' ∧ reply.location? = none

/-- A redirect leads to an address that no request can be made for. -/
inductive Misguides (source : Url) (text : String) : Prop
  /-- With a scheme before it, the host cannot be read back as it is written. -/
  | written {url : Url} (hurl : Url.ofText text = .ok url) (hscheme : url.scheme ≠ [])
      (hhost : ¬ url.Readable)
  /-- A relative address cannot be taken from the one that was asked for. -/
  | unread {url : Url} {refusal : ServerAddress.Refusal} (hurl : location source text = .ok url)
      (hrelative : url.isComplete = false)
      (hjoin : Reference.join source.chars url.chars = .error refusal)
  /-- The host of the address that is meant cannot be read back. -/
  | meant {url : Url} (hurl : redirectTarget source text = .ok url) (hhost : ¬ url.Readable)
  /-- Another server is meant than the one that was asked, and it cannot be named. -/
  | unnamed {url : Url} (hurl : redirectTarget source text = .ok url) (hhost : url.Readable)
      (horigin : sameOrigin url source = false) (hname : ¬ url.Nameable)

/-- A request brings a reply that cannot be used: its address cannot be kept with the reply, or it
is a redirect to an address that no request can be made for. -/
inductive Baffles (request : Request) (net : N) : Prop
  | unkept {reply : Reply} {net' : N} {fault : WebFault} (h : wire request net = (.ok reply, net'))
      (hkept : checkKept request.url = .error fault)
  | misguided {reply : Reply} {net' : N} {location : String} (h : Gets wire request net reply net')
      (hlocation : reply.location? = some location) (hmisguides : Misguides request.url location)

/-- With so many requests at most, a request leads to a reply that cannot be used. -/
def Misleads (limit : Nat) (request : Request) (net : N) : Prop :=
  ∃ count < limit, ∃ last u, Redirects wire count request net last u ∧ Baffles wire last u

section Following

variable {wire} {left : Nat} {request : Request} {net net' : N} {reply : Reply}

/-- What comes at the end of redirects comes of the request itself, or of the first redirect. -/
theorem exists_redirects_succ_iff {p : Request → N → Prop} :
    (∃ count < left + 1, ∃ last u, Redirects wire count request net last u ∧ p last u) ↔
      p request net ∨ ∃ first u location next, Gets wire request net first u ∧
        first.location? = some location ∧ redirected request location = .ok next ∧
        ∃ count < left, ∃ last v, Redirects wire count next u last v ∧ p last v := by
  constructor
  · rintro ⟨count, hcount, last, u, hredirects, hlast⟩
    cases hredirects with
    | none => exact Or.inl hlast
    | next h hlocation hnext hrest =>
      exact Or.inr ⟨_, _, _, _, h, hlocation, hnext, _, by omega, _, _, hrest, hlast⟩
  · rintro (hlast | ⟨first, u, location, next, h, hlocation, hnext, count, hcount, last, v, hrest,
      hlast⟩)
    · exact ⟨0, by omega, request, net, .none, hlast⟩
    · exact ⟨count + 1, by omega, last, v, .next h hlocation hnext hrest, hlast⟩

theorem delivers_succ_iff :
    Delivers wire (left + 1) request net reply net' ↔
      (Gets wire request net reply net' ∧ reply.location? = none) ∨
        ∃ first u location next, Gets wire request net first u ∧
          first.location? = some location ∧ redirected request location = .ok next ∧
          Delivers wire left next u reply net' :=
  exists_redirects_succ_iff

theorem misleads_succ_iff :
    Misleads wire (left + 1) request net ↔
      Baffles wire request net ∨
        ∃ first u location next, Gets wire request net first u ∧
          first.location? = some location ∧ redirected request location = .ok next ∧
          Misleads wire left next u :=
  exists_redirects_succ_iff

theorem not_amiss_orBadUrl {α : Type} (r : Except UrlFault α) : ¬ Amiss (orBadUrl r) := by
  cases r with
  | ok a => exact not_amiss_ok
  | error fault => exact fun h ↦ absurd (amiss_error_iff.mp h) (by simp [WebFault.isRequestFailure])

theorem checkHost_eq_ok_iff {url : Url} : checkHost url = .ok () ↔ url.Readable := by
  unfold checkHost Url.Readable
  cases url.readHost <;> simp

/-- A host that cannot be read back is no failure of the request. -/
theorem amiss_checkHost_iff {url : Url} : Amiss (checkHost url) ↔ ¬ url.Readable := by
  unfold checkHost Url.Readable
  cases url.readHost with
  | ok points => exact iff_of_false not_amiss_ok (by simp)
  | error fault => exact iff_of_true (amiss_error_iff.mpr rfl) (by simp)

/-- A redirect to what is no address fails as a request. -/
theorem amiss_location_iff {source : Url} {text : String} :
    Amiss (location source text) ↔
      ∃ url, Url.ofText text = .ok url ∧ url.scheme ≠ [] ∧ ¬ url.Readable := by
  unfold location
  cases hurl : Url.ofText text with
  | error fault =>
    refine iff_of_false (fun h ↦ ?_) (by simp)
    exact absurd (amiss_error_iff.mp h) (by simp [WebFault.isRequestFailure])
  | ok url =>
    change Amiss (ite _ _ _) ↔ _
    by_cases hscheme : url.scheme.isEmpty
    · rw [if_pos hscheme]
      exact iff_of_false not_amiss_ok (by simp [List.isEmpty_iff.mp hscheme])
    · rw [if_neg hscheme, amiss_bind_iff, amiss_checkHost_iff]
      rw [List.isEmpty_iff] at hscheme
      simp only [Except.ok.injEq, exists_eq_left', hscheme, ne_eq, not_false_eq_true, true_and]
      exact or_iff_left fun ⟨_, _, h⟩ ↦ not_amiss_ite (not_amiss_orBadUrl _) not_amiss_ok h

/-- A reference that cannot be read is no failure of the request. -/
theorem amiss_orBadReference_iff {α : Type} {r : Except ServerAddress.Refusal α} :
    Amiss (orBadReference r) ↔ ∃ refusal, r = .error refusal := by
  cases r with
  | ok a => exact iff_of_false not_amiss_ok (by simp)
  | error refusal => exact iff_of_true (amiss_error_iff.mpr rfl) ⟨refusal, rfl⟩

/-- A redirect goes amiss as it is written, or as a reference. -/
theorem amiss_redirectTarget_iff {source : Url} {text : String} :
    Amiss (redirectTarget source text) ↔ Amiss (location source text) ∨
      ∃ url, location source text = .ok url ∧ url.isComplete = false ∧
        ∃ refusal, Reference.join source.chars url.chars = .error refusal := by
  unfold redirectTarget
  rw [amiss_bind_iff]
  refine or_congr_right (exists_congr fun url ↦ and_congr_right fun _ ↦ ?_)
  dsimp only
  by_cases hcomplete : url.isComplete = true
  · rw [if_pos hcomplete]
    refine iff_of_false (not_amiss_bind not_amiss_ok fun meant ↦ ?_) (by simp [hcomplete])
    exact not_amiss_ite (not_amiss_orBadUrl _) not_amiss_ok
  · rw [if_neg hcomplete, amiss_bind_iff, amiss_orBadReference_iff,
      and_iff_right (Bool.eq_false_iff.mpr hcomplete)]
    refine or_iff_left fun ⟨joined, _, h⟩ ↦ ?_
    refine not_amiss_bind (not_amiss_orBadUrl _) (fun meant ↦ ?_) h
    exact not_amiss_ite (not_amiss_orBadUrl _) not_amiss_ok

theorem checkServer_eq_ok_iff {url : Url} : checkServer url = .ok () ↔ url.Nameable := by
  rw [← Url.forall_mem_server_iff]
  unfold checkServer isPlain
  simp

/-- A server that cannot be named is no failure of the request. -/
theorem amiss_checkServer_iff {url : Url} : Amiss (checkServer url) ↔ ¬ url.Nameable := by
  rw [← checkServer_eq_ok_iff]
  unfold checkServer
  split
  · exact iff_of_false not_amiss_ok (by simp)
  · exact iff_of_true (amiss_error_iff.mpr rfl) (by simp)

theorem amiss_redirected_iff {location : String} :
    Amiss (redirected request location) ↔ Misguides request.url location := by
  unfold redirected
  rw [amiss_bind_iff, amiss_redirectTarget_iff, amiss_location_iff]
  constructor
  · rintro ((⟨url, hurl, hscheme, hhost⟩ | ⟨url, hurl, hrelative, refusal, hjoin⟩) | ⟨url, hurl, h⟩)
    · exact .written hurl hscheme hhost
    · exact .unread hurl hrelative hjoin
    · obtain hhost | ⟨⟨⟩, hhost, h⟩ := amiss_bind_iff.mp h
      · exact .meant hurl (amiss_checkHost_iff.mp hhost)
      · split at h
        · exact (not_amiss_ok h).elim
        · next horigin =>
          obtain hname | ⟨-, -, h⟩ := amiss_bind_iff.mp h
          · exact .unnamed hurl (checkHost_eq_ok_iff.mp hhost) (Bool.eq_false_iff.mpr horigin)
              (amiss_checkServer_iff.mp hname)
          · exact (not_amiss_ok h).elim
  · intro h
    cases h with
    | written hurl hscheme hhost => exact Or.inl (Or.inl ⟨_, hurl, hscheme, hhost⟩)
    | unread hurl hrelative hjoin => exact Or.inl (Or.inr ⟨_, hurl, hrelative, _, hjoin⟩)
    | meant hurl hhost =>
      exact Or.inr ⟨_, hurl, amiss_bind_iff.mpr (Or.inl (amiss_checkHost_iff.mpr hhost))⟩
    | unnamed hurl hhost horigin hname =>
      refine Or.inr ⟨_, hurl, amiss_bind_iff.mpr (Or.inr ⟨⟨⟩, checkHost_eq_ok_iff.mpr hhost, ?_⟩)⟩
      rw [if_neg (by simp [horigin]), amiss_bind_iff]
      exact Or.inl (amiss_checkServer_iff.mpr hname)

/-- An address that cannot be kept with a reply is no failure of the request. -/
theorem isRequestFailure_of_checkKept {url : Url} {fault : WebFault}
    (h : checkKept url = .error fault) : fault.isRequestFailure = false := by
  unfold checkKept at h
  dsimp only at h
  obtain ⟨-, h⟩ | ⟨-, h⟩ := ite_eq_iff.mp h
  · generalize Reference.check _ = result at h
    cases result <;> cases h
    rfl
  · cases h
    rfl

variable {web web' : Web N}

theorem sendOnce_eq :
    sendOnce wire request web =
      match wire request web.net with
      | (.error message, net) => .error (.network message) { web with net := net }
      | (.ok reply, net) =>
        match checkKept request.url with
        | .ok () => .ok reply { web with net := net }
        | .error fault => .error fault { web with net := net } := by
  unfold sendOnce
  rw [get_bind]
  obtain ⟨outcome, net⟩ := wire request web.net
  cases outcome with
  | error message => rfl
  | ok reply =>
    change EStateM.bind (ofExcept (checkKept request.url)) _ _ = _
    cases checkKept request.url with
    | ok done => rfl
    | error fault => rfl

theorem sendOnce_eq_ok_iff :
    sendOnce wire request web = .ok reply web' ↔
      ∃ net, Gets wire request web.net reply net ∧ web' = { web with net := net } := by
  unfold Gets
  rw [sendOnce_eq]
  obtain ⟨outcome, net⟩ := wire request web.net
  cases outcome with
  | error message =>
    dsimp only
    simp
  | ok first =>
    dsimp only
    cases checkKept request.url with
    | ok done => simp [eq_comm (a := web'), and_assoc]
    | error fault => simp

theorem strays_sendOnce_iff :
    Strays (sendOnce wire request) web ↔
      ∃ reply net fault, wire request web.net = (.ok reply, net) ∧
        checkKept request.url = .error fault := by
  unfold Strays
  rw [sendOnce_eq]
  obtain ⟨outcome, net⟩ := wire request web.net
  cases outcome with
  | error message =>
    dsimp only
    simp [WebFault.isRequestFailure]
  | ok first =>
    dsimp only
    cases hkept : checkKept request.url with
    | ok done => simp
    | error fault => simp [isRequestFailure_of_checkKept hkept]

/-- Following redirects returns exactly the reply that they lead to, and only the network has
changed. -/
theorem follow_eq_ok_iff :
    follow wire left request web = .ok reply web' ↔
      ∃ net, Delivers wire left request web.net reply net ∧ web' = { web with net := net } := by
  induction left generalizing request web with
  | zero =>
    refine iff_of_false (fun h ↦ by cases h) ?_
    rintro ⟨_, ⟨_, hcount, -⟩, -⟩
    omega
  | succ left ih =>
    unfold follow
    simp only [bind_eq_ok_iff, sendOnce_eq_ok_iff, delivers_succ_iff]
    constructor
    · rintro ⟨first, _, ⟨net, hfirst, rfl⟩, hrest⟩
      cases hlocation : first.location? with
      | none =>
        rw [hlocation] at hrest
        obtain ⟨rfl, rfl⟩ := pure_eq_ok_iff.mp hrest
        exact ⟨net, Or.inl ⟨hfirst, hlocation⟩, rfl⟩
      | some location =>
        rw [hlocation] at hrest
        obtain ⟨next, u, hresult, hrest⟩ := bind_eq_ok_iff.mp hrest
        obtain ⟨hnext, rfl⟩ := ofExcept_eq_ok_iff.mp hresult
        obtain ⟨net', hdelivers, rfl⟩ := ih.mp hrest
        exact ⟨net', Or.inr ⟨first, net, location, next, hfirst, hlocation, hnext, hdelivers⟩, rfl⟩
    · rintro ⟨net, ⟨hlast, hlocation⟩ | ⟨first, u, location, next, hfirst, hlocation, hnext, hrest⟩,
        rfl⟩
      · refine ⟨reply, _, ⟨net, hlast, rfl⟩, ?_⟩
        rw [hlocation]
        exact pure_eq_ok_iff.mpr ⟨rfl, rfl⟩
      · refine ⟨first, _, ⟨u, hfirst, rfl⟩, ?_⟩
        rw [hlocation]
        exact bind_eq_ok_iff.mpr ⟨next, _, ofExcept_eq_ok_iff.mpr ⟨hnext, rfl⟩,
          ih.mpr ⟨net, hrest, rfl⟩⟩

theorem strays_follow_iff :
    Strays (follow wire left request) web ↔ Misleads wire left request web.net := by
  induction left generalizing request web with
  | zero =>
    refine iff_of_false ?_ ?_
    · rintro ⟨_, _, h, hfault⟩
      cases h
      cases hfault
    · rintro ⟨_, hcount, -⟩
      omega
  | succ left ih =>
    unfold follow
    rw [strays_bind_iff, strays_sendOnce_iff, misleads_succ_iff]
    simp only [sendOnce_eq_ok_iff]
    constructor
    · rintro (⟨reply, net, fault, h, hkept⟩ | ⟨first, _, ⟨net, hfirst, rfl⟩, hrest⟩)
      · exact Or.inl (.unkept h hkept)
      cases hlocation : first.location? with
      | none =>
        rw [hlocation] at hrest
        exact (not_strays_pure hrest).elim
      | some location =>
        rw [hlocation] at hrest
        obtain hresult | ⟨next, u, hresult, hrest⟩ := strays_bind_iff.mp hrest
        · exact Or.inl (.misguided hfirst hlocation
            (amiss_redirected_iff.mp (strays_ofExcept_iff.mp hresult)))
        · obtain ⟨hnext, rfl⟩ := ofExcept_eq_ok_iff.mp hresult
          exact Or.inr ⟨first, net, location, next, hfirst, hlocation, hnext, ih.mp hrest⟩
    · rintro (hbaffles | ⟨first, u, location, next, hfirst, hlocation, hnext, hrest⟩)
      · cases hbaffles with
        | unkept h hkept => exact Or.inl ⟨_, _, _, h, hkept⟩
        | misguided hfirst hlocation hmisguides =>
          refine Or.inr ⟨_, _, ⟨_, hfirst, rfl⟩, ?_⟩
          rw [hlocation]
          exact strays_bind_iff.mpr
            (Or.inl (strays_ofExcept_iff.mpr (amiss_redirected_iff.mpr hmisguides)))
      · refine Or.inr ⟨first, _, ⟨u, hfirst, rfl⟩, ?_⟩
        rw [hlocation]
        exact strays_bind_iff.mpr
          (Or.inr ⟨next, _, ofExcept_eq_ok_iff.mpr ⟨hnext, rfl⟩, ih.mpr hrest⟩)

end Following

end Client

end FormCatalog
