import FormCatalog.Proofs.Web.Classified
import FormCatalog.Proofs.Web.Disclosure
import FormCatalog.Proofs.Web.Joined
import FormCatalog.Proofs.Web.NormalForm

/-!
# Where the form list is asked for

The check of a server's address refuses one that has a query or a fragment, since the path of the
form list is put behind it. The check looks for something in them, though, and not for their marks,
so a bare question mark passes. `Url.ReadAs` is what is known of a checked address when it is read
to send requests: its path ends with no slash, unless a mark stands behind it, and its query is
missing or empty.

`FormServer.formList_carried_unless_marked` says for every checked address, every network and every
way to sign in what the first request for the form list is. Without a question mark it goes to the
host of the address, for the two paths joined (`Carries`); it is not sent at all where the joined
address cannot be read (`Client.Joins`), or its host cannot be read back from its plain letters
(`Client.Rereads`). With a question mark the path of the form list becomes the query (`Misplaces`),
and an address that ends with one is enough for that (`bare_question_mark_misplaces`).
-/

set_option autoImplicit false
set_option relaxedAutoImplicit false

namespace FormCatalog

open ServerAddress

namespace Url

/-! ### Checked addresses, read to send requests -/

section Marks

variable {mark : Char} {cs front back : List Char}

theorem splitMark_eq_some (h : splitMark mark cs = (front, some back)) :
    cs = front ++ mark :: back ∧ mark ∉ front := by
  by_cases hmark : mark ∈ cs
  · obtain ⟨front', back', rfl, hfront⟩ := List.eq_append_cons_of_mem hmark
    rw [splitMark_append hfront] at h
    cases h
    exact ⟨rfl, hfront⟩
  · cases (splitMark_of_not_mem hmark).symm.trans h

theorem splitMark_eq_none (h : splitMark mark cs = (front, none)) : front = cs ∧ mark ∉ cs := by
  by_cases hmark : mark ∈ cs
  · obtain ⟨front', back', rfl, hfront⟩ := List.eq_append_cons_of_mem hmark
    cases (splitMark_append hfront).symm.trans h
  · cases (splitMark_of_not_mem hmark).symm.trans h
    exact ⟨rfl, hmark⟩

theorem splitMark_prefix {back : Option (List Char)} (h : splitMark mark cs = (front, back)) :
    front <+: cs ∧ mark ∉ front := by
  cases back with
  | none =>
    obtain ⟨rfl, hmark⟩ := splitMark_eq_none h
    exact ⟨List.prefix_rfl, hmark⟩
  | some back =>
    obtain ⟨rfl, hmark⟩ := splitMark_eq_some h
    exact ⟨List.prefix_append _ _, hmark⟩

theorem getD_cut? (mark : Char) (cs : List Char) :
    (cut? mark cs).getD (cs, []) = ((splitMark mark cs).1, (splitMark mark cs).2.getD []) := by
  by_cases hmark : mark ∈ cs
  · obtain ⟨front, back, rfl, hfront⟩ := List.eq_append_cons_of_mem hmark
    rw [splitMark_append hfront, cut?_append hfront]
    rfl
  · rw [splitMark_of_not_mem hmark, cut?_of_not_mem hmark]
    rfl

/-- What follows an authority is a path and then bare marks, if it has nothing in its query and its
fragment. -/
theorem splitMark_of_tail {query : Option (List Char)} {path middle : List Char}
    {fragment : Option (List Char)} (htail : tail cs = ([], []))
    (hmiddle : splitMark '#' cs = (middle, fragment))
    (hpath : splitMark '?' middle = (path, query)) :
    ('?' ∉ cs → query = none) ∧ ('?' ∈ cs → query = some []) ∧ fragment.getD [] = [] ∧
      ('?' ∉ cs → '#' ∉ cs → path = cs) := by
  unfold tail at htail
  rw [getD_cut?, hmiddle] at htail
  dsimp only at htail
  rw [getD_cut?, hpath] at htail
  obtain ⟨hquery, hfragment⟩ := Prod.mk.inj htail
  have hcs : cs = middle ∧ '#' ∉ cs ∨ cs = middle ++ ['#'] := by
    cases fragment with
    | none => exact Or.inl ((splitMark_eq_none hmiddle).imp_left Eq.symm)
    | some fragment =>
      obtain rfl : fragment = [] := hfragment
      exact Or.inr (splitMark_eq_some hmiddle).1
  have hmark : '?' ∈ cs ↔ '?' ∈ middle := by
    obtain ⟨rfl, -⟩ | rfl := hcs
    · rfl
    · simp
  simp only [hmark]
  cases query with
  | none =>
    obtain ⟨rfl, hnone⟩ := splitMark_eq_none hpath
    refine ⟨fun _ ↦ rfl, fun hmem ↦ (hnone hmem).elim, hfragment, fun _ hbare ↦ ?_⟩
    obtain ⟨rfl, -⟩ | rfl := hcs
    · rfl
    · simp at hbare
  | some query =>
    obtain rfl : query = [] := hquery
    obtain ⟨rfl, -⟩ := splitMark_eq_some hpath
    have hmem : '?' ∈ path ++ ['?'] := by simp
    exact ⟨fun hbare ↦ (hbare hmem).elim, fun _ ↦ rfl, hfragment, fun hbare ↦ (hbare hmem).elim⟩

end Marks

theorem splitScheme_eq_append {cs written rest : List Char}
    (h : splitScheme cs = (written, rest)) (hne : written ≠ []) :
    cs = written ++ ':' :: rest ∧ ∀ c ∈ written, isSchemeChar c = true := by
  unfold splitScheme at h
  split at h
  · cases h
    exact (hne rfl).elim
  · split at h
    · rw [List.span_eq_takeWhile_dropWhile] at h
      split at h
      · next hspan =>
        cases h
        obtain ⟨hfront, hback⟩ := Prod.mk.inj hspan
        refine ⟨?_, fun c hc ↦ ?_⟩
        · rw [← hfront, ← hback]
          exact List.takeWhile_append_dropWhile.symm
        · rw [← hfront] at hc
          exact List.mem_takeWhile_imp hc
      · cases h
        exact (hne rfl).elim
    · cases h
      exact (hne rfl).elim
  · cases h
    exact (hne rfl).elim

/-- Where an authority was cut off. -/
theorem cutAuthority_eq_append {cs authority back : List Char}
    (h : cutAuthority cs = (authority, back)) (hne : authority ≠ []) :
    cs = '/' :: '/' :: (authority ++ back) ∧ ('?' ∉ authority ∧ '#' ∉ authority) ∧
      ∀ c ∈ back.head?, c = '/' ∨ c = '?' ∨ c = '#' := by
  unfold cutAuthority at h
  split at h
  · next rest =>
    rw [List.span_eq_takeWhile_dropWhile] at h
    obtain ⟨rfl, rfl⟩ := Prod.mk.inj h
    refine ⟨?_, ⟨fun hmem ↦ ?_, fun hmem ↦ ?_⟩, fun c hc ↦ ?_⟩
    · rw [List.takeWhile_append_dropWhile]
    · exact absurd (List.mem_takeWhile_imp hmem) (by decide)
    · exact absurd (List.mem_takeWhile_imp hmem) (by decide)
    · have hhead := List.head?_dropWhile_not (fun c ↦ c ≠ '/' && c ≠ '?' && c ≠ '#') rest
      rw [hc] at hhead
      rw [or_iff_not_imp_left, or_iff_not_imp_left]
      simpa using hhead
  · cases h
    exact (hne rfl).elim

theorem mem_of_mem_splitServer {c : Char} {server : List Char} (h : c ∈ (splitServer server).1) :
    c ∈ server := by
  have hspan : (server.span (· ≠ ':')).1 ⊆ server := by
    rw [List.span_eq_takeWhile_dropWhile]
    exact List.takeWhile_subset _
  unfold splitServer at h
  dsimp only at h
  split at h
  · split at h
    · exact List.take_subset _ _ h
    · exact hspan h
  · exact hspan h

theorem not_mem_afterLast (mark : Char) (cs : List Char) : mark ∉ afterLast mark cs := by
  unfold afterLast
  intro h
  exact absurd (List.mem_takeWhile_imp (List.mem_reverse.mp h)) (by simp)

theorem rooted_escape {path : List Char} (h : path = [] ∨ path.head? = some '/') :
    escape inPath path = [] ∨ (escape inPath path).head? = some '/' := by
  obtain rfl | hhead := h
  · exact Or.inl rfl
  · obtain ⟨rest, rfl⟩ := List.head?_eq_some_iff.mp hhead
    rw [escape_cons_of_allowed (by decide)]
    exact Or.inr rfl

/-- What is known of a checked address that is read to send requests. -/
structure ReadAs (normal : String) (u : Url) : Prop where
  written : Written u
  path : u.path = escape inPath (resolveDots (split normal.toList).path)
  query_of_not_mem : '?' ∉ normal.toList → u.query = none
  query_of_mem : '?' ∈ normal.toList → u.query = some []
  last : '?' ∉ normal.toList → '#' ∉ normal.toList →
    (split normal.toList).path.getLast? ≠ some '/'

theorem ofText_eq_ok_parts {text : String} {u : Url} (h : ofText text = .ok u) :
    assemble (split text.toList).scheme (splitAuthority (split text.toList).authority).1
      (splitAuthority (split text.toList).authority).2.1
      (splitAuthority (split text.toList).authority).2.2 (split text.toList).path
      (split text.toList).query (split text.toList).fragment = .ok u := by
  unfold ofText at h
  dsimp only at h
  split at h
  · cases h
  · split at h
    · cases h
    · exact h

theorem readAs_of_check {address normal : String} {allowInsecure : Bool} {u : Url}
    (hcheck : check address allowInsecure = .ok normal) (h : ofText normal = .ok u) :
    ReadAs normal u := by
  obtain ⟨p, written, rest, back, hpasses, -, hscheme, hlower, hcut, htail⟩ :=
    split_of_check hcheck h
  rw [hpasses.query, hpasses.fragment] at htail
  have hwritten : written ≠ [] := by
    rintro rfl
    exact hpasses.scheme_ne_nil hlower.symm
  have hauthority : p.authority ≠ [] := by
    intro hempty
    exact hpasses.host (by rw [hempty]; rfl)
  obtain ⟨hwhole, hchars⟩ := splitScheme_eq_append hscheme hwritten
  obtain ⟨rfl, hbare, hhead⟩ := cutAuthority_eq_append hcut hauthority
  cases hmiddle : splitMark '#' back with
  | mk middle fragment =>
  cases hpath : splitMark '?' middle with
  | mk path query =>
  have hsplit : split normal.toList = ⟨written, p.authority, path, query, fragment⟩ := by
    change Parts.mk (splitScheme normal.toList).1
      (cutAuthority (splitScheme normal.toList).2).1
      (splitMark '?' (splitMark '#' (cutAuthority (splitScheme normal.toList).2).2).1).1
      (splitMark '?' (splitMark '#' (cutAuthority (splitScheme normal.toList).2).2).1).2
      (splitMark '#' (cutAuthority (splitScheme normal.toList).2).2).2 = _
    rw [hscheme, hcut, hmiddle, hpath]
  obtain ⟨hnone, hsome, hempty, hpathBack⟩ := splitMark_of_tail htail hmiddle hpath
  have hmem {mark : Char} (hmark : isSchemeChar mark = false ∧ mark ≠ ':' ∧ mark ≠ '/')
      (hplace : mark ∉ p.authority) : mark ∈ normal.toList ↔ mark ∈ back := by
    have hfront : mark ∉ written := fun hc ↦
      absurd ((hchars mark hc).symm.trans hmark.1) (by decide)
    rw [hwhole]
    simp [hfront, hmark.2.1, hmark.2.2, hplace]
  have hquery := hmem (by decide) hbare.1
  have hfragment := hmem (by decide) hbare.2
  have hrooted : path = [] ∨ path.head? = some '/' := by
    obtain ⟨hfront, hquestion⟩ := splitMark_prefix hpath
    obtain ⟨hfront', hsharp⟩ := splitMark_prefix hmiddle
    cases path with
    | nil => exact Or.inl rfl
    | cons c more =>
      obtain ⟨after, rfl⟩ := hfront.trans hfront'
      obtain rfl | rfl | rfl := hhead c rfl
      · exact Or.inr rfl
      · exact absurd List.mem_cons_self hquestion
      · exact absurd (hfront.subset List.mem_cons_self) hsharp
  have hweb : Text.lower written ≠ [] := by
    rw [hlower]
    exact hpasses.scheme_ne_nil
  have hassembled := ofText_eq_ok_parts h
  rw [hsplit] at hassembled
  dsimp only at hassembled
  obtain ⟨host, sent, hhost, hsent, rfl⟩ := (assemble_eq_ok_iff hweb hrooted).mp hassembled
  have hname : ∀ c ∈ (splitAuthority p.authority).2.1, c ≠ '@' ∧ isControl c = false := by
    rw [splitAuthority_snd]
    intro c hc
    have hserver := mem_of_mem_splitServer hc
    refine ⟨?_, (ofText_eq_ok h).1 c ?_⟩
    · rintro rfl
      exact not_mem_afterLast _ _ hserver
    · rw [hwhole]
      simp [mem_of_mem_afterLast hserver]
  constructor
  case written =>
    refine ⟨?_, isControl_of_mem_escape fun _ ↦ isControl_of_plainBut,
      writtenHost_of_sentHost hname hhost, length_of_sentPort hsent, inPath_of_mem_escape,
      noDots_escape.mpr (noDots_resolveDots path), ?_, ?_⟩
    · rw [hlower]
      exact hpasses.scheme
    · exact rooted_escape (rooted_resolveDots hrooted)
    · exact getD_map_escape hempty
  case path => rw [hsplit]
  case query_of_not_mem =>
    intro hnot
    rw [hnone (hquery.not.mp hnot)]
    rfl
  case query_of_mem =>
    intro hmem
    rw [hsome (hquery.mp hmem)]
    rfl
  case last =>
    intro hnot hnot' hlast
    have hslash : back.getLast? = some '/' := by
      rwa [hsplit, hpathBack (hquery.not.mp hnot) (hfragment.not.mp hnot')] at hlast
    have hend : normal.toList.getLast? = some '/' := by
      obtain ⟨front, hfront⟩ := List.getLast?_eq_some_iff.mp hslash
      rw [hwhole, hfront]
      exact List.getLast?_eq_some_iff.mpr
        ⟨written ++ ':' :: '/' :: '/' :: (p.authority ++ front), by simp⟩
    rw [eq_normalize_of_check hcheck] at hend
    exact getLast?_normalize '/' hend rfl

/-- Where nothing hides a slash, the path of an address is the place of what is below it. -/
theorem ReadAs.basePath_eq {normal : String} {u : Url} (h : ReadAs normal u)
    (hquery : '?' ∉ normal.toList) (hfragment : '#' ∉ normal.toList)
    (hdots : NoDots (split normal.toList).path) :
    u.basePath = escape inPath (split normal.toList).path := by
  have hpath := h.path
  have hlast := h.last hquery hfragment
  rw [resolveDots_of_noDots hdots] at hpath
  generalize (split normal.toList).path = path at hpath hlast ⊢
  have hend : u.path.getLast? ≠ some '/' := by
    rw [hpath]
    cases path using List.reverseRecOn with
    | nil => simp [escape]
    | append_singleton front c =>
      rw [List.getLast?_concat] at hlast
      exact getLast?_escape_ne (fun heq ↦ hlast (congrArg some heq)) (by decide) inPath front
  unfold basePath
  rw [if_neg hend, hpath]

end Url

open Url WebOp Client

/-! ### The first request -/

namespace Client

variable {N : Type} {wire : Wire N} {web : Web (N × List Request)} {address : String} {url : Url}
  {header : Option String}

/-- An exchange that begins sends its first request to the address that is meant. -/
theorem Begins.suffix_log_send (h : Begins web.client address url header) :
    ⟨url, header⟩ :: web.log <:+ (after (send wire.logged address) web).log := by
  by_cases hdigest : ∃ username password, web.client.signIn = some (.digest username password)
  · obtain ⟨username, password, hsignIn⟩ := hdigest
    have hlog : (if web.client.challenge.isSome then counted web else web).log = web.log :=
      congrArg Prod.snd (net_ite_counted web)
    rw [after_congr (h.send_eq_digest hsignIn), after_congr sendDigest_eq,
      after_bind_of_ok ((answerRemembered_eq_ok_iff hsignIn).mpr ⟨h.opened, rfl⟩), ← hlog]
    generalize (if web.client.challenge.isSome then counted web else web) = web'
    have hrest : Leads (fun _ ↦ True)
        (after (follow wire.logged requestLimit ⟨url, header⟩) web')
        (after (do
          let reply ← follow wire.logged requestLimit ⟨url, header⟩
          answerReply wire.logged username password url header reply) web') :=
      after_bind .refl fun reply u hu ↦
        hu.trans ((leads_answerReply (sent_of_resolve h.resolved)).mono fun _ _ ↦ trivial)
    exact suffix_log_follow.trans hrest.kept
  · rw [after_congr (h.send_eq fun username password heq ↦ hdigest ⟨username, password, heq⟩)]
    exact suffix_log_follow

/-- A new client begins wherever an address means something that a request can be made for. -/
theorem exists_begins {base : String} {signIn : Option SignIn} {client : Client}
    (hclient : Client.of base signIn = .ok client) (h : client.resolve address = .ok url)
    (hhost : url.Sendable) : ∃ header, Begins client address url header := by
  obtain ⟨-, hopen, place, htext, -⟩ := of_eq_ok hclient
  obtain ⟨_, -, rfl⟩ := (of_eq_ok_iff htext).mp hclient
  cases signIn with
  | none => exact ⟨_, hopen, h, hhost, rfl⟩
  | some way =>
    cases way with
    | basic username password => exact ⟨_, hopen, h, hhost, rfl⟩
    | digest username password => exact ⟨_, hopen, h, hhost, rfl⟩

theorem Challenged.resolved {wire : Wire N} {web : Web N} {username password : String}
    {first : Option String} {fields : List Char} {net : N}
    (h : Challenged wire address web url username password first fields net) :
    ∃ url, web.client.resolve address = .ok url := by
  obtain ⟨-, _, hbegins, -⟩ := h
  exact ⟨_, hbegins.resolved⟩

theorem Final.resolved {wire : Wire N} {web : Web N} {reply : Reply}
    (h : Final wire address web reply) : ∃ url, web.client.resolve address = .ok url := by
  cases h with
  | first hbegins => exact ⟨_, hbegins.resolved⟩
  | second hchallenged => exact hchallenged.resolved

theorem Stray.resolved {wire : Wire N} {web : Web N} (h : Stray wire address web) :
    ∃ url, web.client.resolve address = .ok url := by
  cases h with
  | unsendable hurl => exact ⟨_, hurl⟩
  | closed hurl => exact ⟨_, hurl⟩
  | remembered hurl => exact ⟨_, hurl⟩
  | misled hbegins => exact ⟨_, hbegins.resolved⟩
  | garbled hchallenged => exact hchallenged.resolved
  | unsupported hchallenged => exact hchallenged.resolved
  | notPlain hchallenged => exact hchallenged.resolved
  | misledAgain hchallenged => exact hchallenged.resolved

end Client

namespace FormServer

variable {N : Type}

/-- The requests that are sent for the form list, the last one first. -/
def asked (server : FormServer N) (s : Site (Web (N × List Request))) : List Request :=
  (Call.formList.after server.logged s).net.log

/-- A request carries the path of the form list below an address. -/
structure Carries (normal : String) (u : Url) (path : String) (sent : Url) : Prop where
  origin : SameOrigin sent u
  path_eq : sent.path = escape inPath (resolveDots (u.basePath ++ path.toList))
  /-- The paths are joined as they stand, where nothing hides a slash or is resolved. -/
  joined : '#' ∉ normal.toList → NoDots (split normal.toList).path → NoDots path.toList →
    sent.path = escape inPath ((split normal.toList).path ++ path.toList)
  query : sent.query = none

/-- A request has the path of the form list as its query. -/
structure Misplaces (u : Url) (path : String) (sent : Url) : Prop where
  origin : SameOrigin sent u
  path_eq : sent.path = u.root
  query : sent.query = some (escape inPath path.toList)

section FormList

variable {server : FormServer N} {s : Site (Web (N × List Request))} {url : Url}

/-- The first request for the form list goes to the address that its path means to the client. -/
theorem getLast?_asked {base : String} {signIn : Option SignIn}
    (hclient : Client.of base signIn = .ok s.net.client) (hlog : s.net.log = [])
    (h : s.net.client.resolve server.formListPath = .ok url) (hhost : url.Sendable) :
    ∃ first, (asked server s).getLast? = some first ∧ first.url = url := by
  obtain ⟨header, hbegins⟩ := exists_begins hclient h hhost
  have hsuffix : ⟨url, header⟩ :: s.net.log <:+
      (after (send server.wire.logged server.formListPath) s.net).log := hbegins.suffix_log_send
  rw [hlog] at hsuffix
  obtain ⟨later, hlater⟩ := hsuffix
  refine ⟨⟨url, header⟩, ?_, rfl⟩
  unfold asked
  rw [Call.net_after]
  change (after (send server.wire.logged server.formListPath) s.net).log.getLast? = _
  rw [← hlater]
  exact List.getLast?_concat

/-- A request that is given up at once is not sent. -/
theorem asked_of_send {fault : WebFault} (hlog : s.net.log = [])
    (h : send server.wire.logged server.formListPath s.net = .error fault s.net) :
    asked server s = [] := by
  unfold asked
  rw [Call.net_after]
  change (after (send server.wire.logged server.formListPath) s.net).log = []
  rw [after_of_error h]
  exact hlog

/-- Where no request can be made for the path of the form list, none is sent. -/
theorem asked_of_not_sendable (hlog : s.net.log = [])
    (h : s.net.client.resolve server.formListPath = .ok url) (hhost : ¬ url.Sendable) :
    asked server s = [] ∧
      Op.Raises server.logged.formList s fun e _ ↦ ∃ message, e = .invalid message := by
  obtain ⟨fault, hsend, hfault, message, hmessage⟩ :=
    send_of_not_sendable server.wire.logged h hhost
  have hrequest : server.logged.request server.formListPath s = .error (.invalid message) s := by
    unfold request logged
    rw [hsend, ← hmessage]
    dsimp only
    rw [if_neg (by simp [hfault])]
  refine ⟨asked_of_send hlog hsend, .invalid message, s, ?_, _, rfl⟩
  exact Op.bind_eq_error (Op.bind_eq_error hrequest)

/-- Where the path of the form list means nothing to the client, no request is sent. -/
theorem asked_of_unresolved {fault : UrlFault} (hlog : s.net.log = [])
    (h : s.net.client.resolve server.formListPath = .error fault) :
    asked server s = [] ∧
      Op.Raises server.logged.formList s fun e _ ↦ ∃ message, e = .sync (.transport message) := by
  constructor
  · exact asked_of_send hlog (send_of_unresolved h)
  · have hnone (url : Url) : s.net.client.resolve server.formListPath ≠ .ok url := by
      intro hurl
      cases h.symm.trans hurl
    refine (Classified.of_ends (ends_read _)).fails.mpr ⟨fun hstray ↦ ?_, fun reply hfinal ↦ ?_⟩
    · obtain ⟨url, hurl⟩ := hstray.resolved
      exact (hnone url hurl).elim
    · obtain ⟨url, hurl⟩ := hfinal.resolved
      exact (hnone url hurl).elim

/-- A path is joined to that of a checked address as it stands, where nothing hides a slash or is
resolved. -/
theorem resolveDots_basePath_append {normal path : String} {u : Url} (h : ReadAs normal u)
    (hpath : IsPlace path) (hquery : '?' ∉ normal.toList) (hfragment : '#' ∉ normal.toList)
    (hdots : NoDots (split normal.toList).path) (hpathDots : NoDots path.toList) :
    escape inPath (resolveDots (u.basePath ++ path.toList)) =
      escape inPath ((split normal.toList).path ++ path.toList) := by
  obtain ⟨c, rest, hchars, -⟩ := hpath
  have hjoined : NoDots (escape inPath (split normal.toList).path ++ path.toList) := by
    rw [hchars] at hpathDots ⊢
    exact noDots_append (noDots_escape.mpr hdots) hpathDots
  rw [h.basePath_eq hquery hfragment hdots, resolveDots_of_noDots hjoined, escape_append,
    escape_escape (fun _ ↦ inPath_of_mem_escapeChars) fun _ h ↦ h, ← escape_append]

/-- The first request for the form list of a server that was checked goes to its scheme, host and
port, for its path with that of the form list behind it, and has no query, unless the address holds
a question mark. If it does, the path of the form list is sent as the query. There is no request
where the two cannot be joined, or the host cannot be read back or named. -/
theorem formList_carried_unless_marked {address normal : String} {allowInsecure : Bool}
    {signIn : Option SignIn} (server : FormServer N) (s : Site (Web (N × List Request)))
    (hcheck : check address allowInsecure = .ok normal)
    (hclient : Client.of (baseAddress normal) signIn = .ok s.net.client)
    (hpath : IsPlace server.formListPath) (hlog : s.net.log = []) :
    ∃ u, Url.ofText normal = .ok u ∧
      ('?' ∉ normal.toList →
        (Joins s.net.client.base u.basePath server.formListPath →
          (Rereads s.net.client.base → ∃ first, (asked server s).getLast? = some first ∧
            Carries normal u server.formListPath first.url) ∧
          (¬ Rereads s.net.client.base →
            asked server s = [] ∧ Op.Raises server.logged.formList s fun e _ ↦
              ∃ message, e = .invalid message)) ∧
        (¬ Joins s.net.client.base u.basePath server.formListPath →
          asked server s = [] ∧ Op.Raises server.logged.formList s fun e _ ↦
            ∃ message, e = .sync (.transport message))) ∧
      ('?' ∈ normal.toList → ∀ first, (asked server s).getLast? = some first →
        Misplaces u server.formListPath first.url) := by
  rw [baseAddress_of_check hcheck] at hclient
  obtain ⟨-, -, u, htext, -⟩ := of_eq_ok hclient
  have hread := readAs_of_check hcheck htext
  refine ⟨u, htext, fun hbare ↦ ?_, fun hmark first hfirst ↦ ?_⟩
  · obtain ⟨hresolves, hsent⟩ := resolve_of_no_query hread.written htext hclient hpath
      (hread.query_of_not_mem hbare)
    constructor
    · intro hjoins
      obtain ⟨v, hv⟩ := hresolves.mpr hjoins
      obtain ⟨hsendable, horigin, hvpath, hvquery⟩ := hsent v hv
      refine ⟨fun hrereads ↦ ?_, fun hrereads ↦ ?_⟩
      · obtain ⟨first, hfirst, rfl⟩ := getLast?_asked hclient hlog hv (hsendable.mpr hrereads)
        exact ⟨first, hfirst, horigin, hvpath, fun hfragment hdots hpathDots ↦ hvpath.trans
          (resolveDots_basePath_append hread hpath hbare hfragment hdots hpathDots), hvquery⟩
      · exact asked_of_not_sendable hlog hv (hsendable.not.mpr hrereads)
    · intro hjoins
      cases hv : s.net.client.resolve server.formListPath with
      | ok v => exact (hjoins (hresolves.mp ⟨v, hv⟩)).elim
      | error fault => exact asked_of_unresolved hlog hv
  · cases hv : s.net.client.resolve server.formListPath with
    | ok v =>
      obtain ⟨horigin, hvpath, hvquery⟩ := resolve_of_empty_query hread.written htext hclient hpath
        (hread.query_of_mem hmark) hv
      by_cases hhost : v.Sendable
      · obtain ⟨first', hfirst', rfl⟩ := getLast?_asked hclient hlog hv hhost
        cases hfirst'.symm.trans hfirst
        exact ⟨horigin, hvpath, hvquery⟩
      · rw [(asked_of_not_sendable hlog hv hhost).1] at hfirst
        cases hfirst
    | error fault =>
      rw [(asked_of_unresolved hlog hv).1] at hfirst
      cases hfirst

end FormList

/-! ### Two addresses -/

/-- A server that does not answer. -/
def silent : FormServer Unit := ⟨"/formList", fun _ n ↦ (.error "no answer", n)⟩

/-- A site with a client for an address, before its first call. -/
def newcomer (base : Url) : Site (Web (Unit × List Request)) where
  disk := ⟨["device"], []⟩
  table := []
  net := { client := { base := base, signIn := none }, net := ((), []) }
  journal := []

/-- A server with a port of its own, and a path on it. -/
def nested (path : String) : Url :=
  ⟨"https".toList, [], "example.org".toList, some 8443, path.toList, none, none⟩

/-- The path of the form list is put behind that of the address, a letter of which is written with
percent signs. -/
theorem formList_carried_unless_marked_nested :
    check " https://Example.org:8443/v1/ä/ " false = .ok "https://Example.org:8443/v1/ä" ∧
      Client.of (baseAddress "https://Example.org:8443/v1/ä") none =
        .ok (newcomer (nested "/v1/%C3%A4/")).net.client ∧
      IsPlace silent.formListPath ∧ (newcomer (nested "/v1/%C3%A4/")).net.log = [] ∧
      ∃ first, (asked silent (newcomer (nested "/v1/%C3%A4/"))).getLast? = some first ∧
        Carries "https://Example.org:8443/v1/ä" (nested "/v1/%C3%A4") "/formList" first.url ∧
        first.url.path = "/v1/%C3%A4/formList".toList := by
  have hcheck : check " https://Example.org:8443/v1/ä/ " false =
      .ok "https://Example.org:8443/v1/ä" := by
    decide +kernel
  have hclient : Client.of (baseAddress "https://Example.org:8443/v1/ä") none =
      .ok (newcomer (nested "/v1/%C3%A4/")).net.client := by
    decide +kernel
  have hplace : IsPlace silent.formListPath :=
    ⟨'f', "ormList".toList, rfl, by decide, by decide, by decide⟩
  have hnested : Url.ofText "https://Example.org:8443/v1/ä" = .ok (nested "/v1/%C3%A4") := by
    decide +kernel
  obtain ⟨u, htext, hcarried, -⟩ :=
    formList_carried_unless_marked silent _ hcheck hclient hplace rfl
  cases htext.symm.trans hnested
  have hhost : sentHost (nested "/v1/%C3%A4/").hostText = .ok "example.org".toList := by
    decide +kernel
  obtain ⟨first, hfirst, hcarries⟩ := ((hcarried (by decide)).1
    ⟨by decide, firstControl?_eq_none_iff.mp (by decide), by decide +kernel, by decide +kernel,
      _, hhost⟩).1 ⟨_, hhost, ⟨_, rfl⟩, Url.nameable_iff.mpr (by decide)⟩
  refine ⟨hcheck, hclient, hplace, rfl, first, hfirst, hcarries, ?_⟩
  rw [hcarries.path_eq]
  decide +kernel

/-- The base address that a client makes of one with a question mark at its end. -/
def marked : Url :=
  ⟨"https".toList, [], "h.org".toList, none, "/a".toList, some ['/'], none⟩

/-- An address that ends with a question mark passes the check, and the path of the form list is
sent as the query of its own path. -/
theorem bare_question_mark_misplaces :
    check "https://h.org/a?" false = .ok "https://h.org/a?" ∧
      Client.of (baseAddress "https://h.org/a?") none = .ok (newcomer marked).net.client ∧
      IsPlace silent.formListPath ∧
      ∃ first, (asked silent (newcomer marked)).getLast? = some first ∧
        first.url.path = "/a".toList ∧ first.url.query = some "/formList".toList := by
  refine ⟨by decide +kernel, by decide +kernel,
    ⟨'f', "ormList".toList, rfl, by decide, by decide, by decide⟩, ?_⟩
  decide +kernel

end FormServer

end FormCatalog
