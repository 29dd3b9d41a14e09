import FormCatalog.Proofs.Number.Digits
import FormCatalog.Proofs.Web.Addresses
import FormCatalog.Proofs.Web.HostNames

/-!
# Addresses below others

A client puts an address below its base address: it joins their paths, and writes the authority of
the base as text and reads it again. `Url.Written` is what is known of an address that was read for
a web server, and it stays so. The authority keeps the host, up to the case of its letters, and the
port (`Url.SameOrigin`). A host need not be read back at all, when its escapes make it look like
four numbers; `Url.withTarget_eq_ok_iff` says when an address with another path and query comes
about, and which.
-/

set_option autoImplicit false
set_option relaxedAutoImplicit false

namespace FormCatalog

open ServerAddress

namespace Text

/-- Lower case leaves the lower case of a plain text alone. -/
theorem lower_lower {cs : List Char} (h : ∀ c ∈ cs, c.toNat < 128) :
    lower (lower cs) = lower cs := by
  have hall := forall_plain
    (p := fun c ↦ (lowerChar c).all fun d ↦ d.toNat < 128 ∧ ¬ IsUpper d) (by decide +kernel)
  refine lower_eq_self fun d hd ↦ ?_
  rw [lower_of_plain h] at hd
  obtain ⟨c, hc, hd⟩ := List.mem_flatMap.mp hd
  exact of_decide_eq_true (List.all_eq_true.mp (hall c (h c hc)) d hd)

end Text

namespace Url

/-! ### Hosts -/

/-- A host as it is sent: in colon form, or in characters that are sent as they are. -/
def WrittenHost (host : List Char) : Prop :=
  (HostLiteral.isColonForm host = true ∧ ∀ c ∈ host, c ≠ '@' ∧ isControl c = false) ∨
    ∀ c ∈ host, inHost c = true

theorem isControl_of_inHost {c : Char} (h : inHost c = true) : isControl c = false :=
  Text.forall_plain (p := fun d ↦ inHost d = true → isControl d = false) (by decide +kernel)
    c (plain_of_inHost h) h

theorem WrittenHost.plain {host : List Char} (h : WrittenHost host) :
    ∀ c ∈ host, isControl c = false := by
  obtain ⟨-, hinside⟩ | hchars := h
  · exact fun c hc ↦ (hinside c hc).2
  · exact fun c hc ↦ isControl_of_inHost (hchars c hc)

theorem inHost_of_mem_lower {host : List Char} (h : ∀ c ∈ host, inHost c = true) :
    ∀ d ∈ Text.lower host, inHost d = true := by
  have hall := Text.forall_plain
    (p := fun c ↦ inHost c = true → (Text.lowerChar c).all inHost = true) (by decide +kernel)
  intro d hd
  rw [Text.lower_of_plain fun c hc ↦ plain_of_inHost (h c hc)] at hd
  obtain ⟨c, hc, hd⟩ := List.mem_flatMap.mp hd
  exact List.all_eq_true.mp (hall c (plain_of_inHost (h c hc)) (h c hc)) d hd

theorem sentHost_of_colonForm {inside : List Char} (h : HostLiteral.isColonForm inside = true) :
    sentHost ('[' :: (inside ++ [']'])) = .ok inside := by
  have hlast : ('[' :: (inside ++ [']'])).getLast? = some ']' := by
    rw [← List.cons_append]
    exact List.getLast?_concat
  have hinside : (('[' :: (inside ++ [']'])).drop 1).dropLast = inside := by simp
  unfold sentHost
  rw [looksFourPart_bracket, hlast]
  dsimp only
  rw [hinside, h]
  rfl

/-- A host is sent as a written one. -/
theorem writtenHost_of_sentHost {name host : List Char}
    (hname : ∀ c ∈ name, c ≠ '@' ∧ isControl c = false) (h : sentHost name = .ok host) :
    WrittenHost host :=
  (sentHost_cases h).imp_left fun ⟨hform, hinside⟩ ↦ ⟨hform, fun c hc ↦ hname c (hinside hc)⟩

/-- A written host in other characters than those of the colon form is read as written, but for
the case of its letters, unless it looks like four numbers. -/
theorem lower_of_sentHost {name host : List Char} (hname : ∀ c ∈ name, inHost c = true)
    (h : sentHost name = .ok host) :
    Text.lower host = Text.lower name ∧ ∀ c ∈ host, inHost c = true := by
  have hplain : ∀ c ∈ name, c.toNat < 128 := fun c hc ↦ plain_of_inHost (hname c hc)
  have hbracket : name.head? ≠ some '[' :=
    fun hhead ↦ absurd (hname '[' (List.mem_of_head? hhead)) (by decide)
  have hlower := inHost_of_mem_lower hname
  unfold sentHost at h
  split at h
  · next hempty =>
    cases h
    rw [List.isEmpty_iff.mp hempty]
    exact ⟨rfl, fun _ hc ↦ absurd hc List.not_mem_nil⟩
  · split at h
    · split at h
      · cases h
        exact ⟨rfl, hname⟩
      · cases h
    · rw [if_neg (by simp [hbracket]), if_pos (by simpa using hplain),
        escape_of_allowed hlower] at h
      cases h
      exact ⟨Text.lower_lower hplain, hlower⟩

variable {u v : Url}

theorem hostText_of_colonForm (h : HostLiteral.isColonForm u.host = true) :
    u.hostText = '[' :: (u.host ++ [']']) := by
  have hcolon := List.takeWhile_subset _ (HostLiteral.colon_mem_of_isColonForm h)
  exact if_pos (by simpa using hcolon)

theorem hostText_of_inHost (h : ∀ c ∈ u.host, inHost c = true) : u.hostText = u.host := by
  have hcolon : ':' ∉ u.host := fun hmem ↦ absurd (h ':' hmem) (by decide)
  exact if_neg (by simpa using hcolon)

/-- A written host that is read again is the same, up to the case of letters. -/
theorem WrittenHost.reread {host : List Char} (hu : WrittenHost u.host)
    (h : sentHost u.hostText = .ok host) :
    Text.lower host = Text.lower u.host ∧ WrittenHost host := by
  obtain ⟨hform, hinside⟩ | hchars := hu
  · rw [hostText_of_colonForm hform, sentHost_of_colonForm hform] at h
    cases h
    exact ⟨rfl, Or.inl ⟨hform, hinside⟩⟩
  · rw [hostText_of_inHost hchars] at h
    obtain ⟨hlower, hwritten⟩ := lower_of_sentHost hchars h
    exact ⟨hlower, Or.inr hwritten⟩

/-! ### Authorities -/

/-- The digits of the port in an authority. -/
def portDigits (u : Url) : List Char :=
  match u.port with
  | some n => (Number.textOfInt n).toList
  | none => []

theorem splitServer_of_plain {host : List Char} (hcolon : ':' ∉ host) (hbracket : '[' ∉ host) :
    splitServer (host ++ u.portText) = (host, u.portDigits) := by
  have hhead : (host ++ u.portText).head? ≠ some '[' := fun hhead ↦
    (List.mem_append.mp (List.mem_of_head? hhead)).elim hbracket
      (not_mem_portText u (by decide) (by decide) (by decide))
  have hspan : (host ++ u.portText).span (· ≠ ':') = (host, u.portText) := by
    unfold portText
    split
    · exact Text.span_append hcolon
    · rw [List.append_nil]
      exact Text.span_of_not_mem hcolon
  generalize host ++ u.portText = server at hhead hspan
  unfold splitServer
  split
  · exact absurd rfl hhead
  · dsimp only
    rw [Option.getD_none, hspan]
    unfold portText portDigits
    cases u.port <;> rfl

theorem splitServer_of_bracketed (inside : List Char) :
    splitServer ('[' :: (inside ++ ']' :: u.portText)) =
      ('[' :: (inside ++ [']']), u.portDigits) := by
  have hport : ']' ∉ u.portText := not_mem_portText u (by decide) (by decide) (by decide)
  have hlast : afterLast ']' ('[' :: (inside ++ ']' :: u.portText)) = u.portText := by
    rw [← List.cons_append]
    exact afterLast_append hport
  have hcontains : ('[' :: (inside ++ ']' :: u.portText)).contains ']' = true := by simp
  refine Prod.ext (splitServer_of_brackets inside hport) ?_
  unfold splitServer
  dsimp only
  rw [if_pos hcontains, hlast]
  unfold portText portDigits
  cases u.port <;> rfl

/-- The host and the port are read back from an authority. -/
theorem splitAuthority_authority (hu : WrittenHost u.host) :
    (splitAuthority u.authority).2 = (u.hostText, u.portDigits) := by
  obtain ⟨hform, hinside⟩ | hchars := hu
  · have hat : '@' ∉ u.host := fun hmem ↦ (hinside '@' hmem).1 rfl
    have htext := hostText_of_colonForm hform
    have hserver : '[' :: (u.host ++ [']']) ++ u.portText =
        '[' :: (u.host ++ ']' :: u.portText) := by
      simp
    rw [splitAuthority_snd, afterLast_authority (by rw [htext]; simpa using hat), htext, hserver]
    exact splitServer_of_bracketed u.host
  · have hnone (mark : Char) (hmark : inHost mark = false) : mark ∉ u.host :=
      fun hmem ↦ by simp [hchars mark hmem] at hmark
    have htext := hostText_of_inHost hchars
    rw [splitAuthority_snd, afterLast_authority (htext ▸ hnone '@' (by decide)), htext]
    exact splitServer_of_plain (hnone ':' (by decide)) (hnone '[' (by decide))

theorem inPath_of_mem_escapeChars {c : Char} (h : c ∈ escapeChars) : inPath c = true := by
  have hall : escapeChars.all inPath := by decide
  exact List.all_eq_true.mp hall c h

theorem inPath_of_mem_escape {cs : List Char} : ∀ c ∈ escape inPath cs, inPath c = true :=
  fun _ hc ↦ (mem_escape hc).elim id inPath_of_mem_escapeChars

theorem inQuery_of_inPath {c : Char} (h : inPath c = true) : inQuery c = true := by
  have hplain : c.toNat < 128 := by
    unfold inPath plainBut at h
    simp only [Bool.and_eq_true, decide_eq_true_eq] at h
    omega
  exact Text.forall_plain (p := fun d ↦ inPath d = true → inQuery d = true) (by decide +kernel)
    c hplain h

/-! ### Written addresses -/

/-- What is known of an address that was read for a web server. -/
structure Written (u : Url) : Prop where
  scheme : u.scheme = "http".toList ∨ u.scheme = "https".toList
  userInfo : ∀ c ∈ u.userInfo, isControl c = false
  host : WrittenHost u.host
  port : ∀ n ∈ u.port, (Number.digitsOf n.natAbs).length ≤ Number.digitLimit
  path : ∀ c ∈ u.path, inPath c = true
  noDots : NoDots u.path
  rooted : u.path = [] ∨ u.path.head? = some '/'
  fragment : u.fragment.getD [] = []

/-- Two addresses have the same scheme and port, and the same host up to the case of letters. -/
structure SameOrigin (u v : Url) : Prop where
  scheme : u.scheme = v.scheme
  host : Text.lower u.host = Text.lower v.host
  port : Client.portOf u = Client.portOf v

theorem SameOrigin.trans {w : Url} (h : SameOrigin u v) (h' : SameOrigin v w) : SameOrigin u w :=
  ⟨h.scheme.trans h'.scheme, h.host.trans h'.host, h.port.trans h'.port⟩

theorem SameOrigin.refl (u : Url) : SameOrigin u u :=
  ⟨rfl, rfl, rfl⟩

theorem assemble_eq_ok_iff {scheme userInfo name port path : List Char}
    {query fragment : Option (List Char)} (hscheme : Text.lower scheme ≠ [])
    (hpath : path = [] ∨ path.head? = some '/') :
    assemble scheme userInfo name port path query fragment = .ok u ↔
      ∃ host sent, sentHost name = .ok host ∧ sentPort scheme port = .ok sent ∧
        u = ⟨Text.lower scheme, escape inUserInfo userInfo, host, sent,
          escape inPath (resolveDots path), query.map (escape inQuery),
          fragment.map (escape inFragment)⟩ := by
  have hlower : (Text.lower scheme).isEmpty = false := by simpa using hscheme
  have hcheck (hasAuthority : Bool) : checkPath path true hasAuthority = .ok () := by
    unfold checkPath
    cases hasAuthority with
    | true =>
      obtain rfl | hhead := hpath
      · rfl
      · simp [hhead]
    | false => rfl
  unfold assemble
  cases hhost : sentHost name with
  | error fault => simp [bind, Except.bind]
  | ok host =>
    cases hport : sentPort scheme port with
    | error fault => simp [bind, Except.bind]
    | ok sent =>
      simp [bind, Except.bind, hlower, hcheck, eq_comm]

/-- A port is read back, or left out if it is the usual one of the scheme. -/
theorem Written.exists_sentPort (hu : Written u) :
    ∃ sent, sentPort u.scheme u.portDigits = .ok sent ∧
      ∀ v : Url, v.scheme = u.scheme → v.port = sent → Client.portOf v = Client.portOf u := by
  cases hport : u.port with
  | none =>
    refine ⟨none, ?_, fun v hscheme hsent ↦ ?_⟩
    · unfold portDigits
      rw [hport]
      rfl
    · unfold Client.portOf
      rw [hscheme, hsent, hport]
  | some n =>
    have hread := Number.anyInt?_textOfInt (hu.port n hport)
    have hne : (Number.textOfInt n).toList.isEmpty = false := by
      cases htext : (Number.textOfInt n).toList with
      | nil =>
        rw [htext] at hread
        cases hread
      | cons c rest => rfl
    refine ⟨if usualPort (String.ofList u.scheme) = some n then none else some n, ?_,
      fun v hscheme hsent ↦ ?_⟩
    · unfold portDigits sentPort
      rw [hport]
      dsimp only
      rw [hne, hread]
      rfl
    · unfold Client.portOf
      rw [hscheme, hsent, hport]
      split_ifs with husual
      · obtain hweb | hweb := hu.scheme
        · rw [hweb] at husual ⊢
          exact husual
        · rw [hweb] at husual ⊢
          exact husual
      · rfl

/-- The query in an address. -/
def queryText : Option (List Char) → List Char
  | some query => '?' :: query
  | none => []

theorem splitMark_append {mark : Char} {front back : List Char} (h : mark ∉ front) :
    splitMark mark (front ++ mark :: back) = (front, some back) := by
  unfold splitMark
  rw [Text.span_append h]

theorem splitMark_of_not_mem {mark : Char} {cs : List Char} (h : mark ∉ cs) :
    splitMark mark cs = (cs, none) := by
  unfold splitMark
  rw [Text.span_of_not_mem h]

theorem isControl_of_plainBut {excluded : List Char} {c : Char} (h : plainBut excluded c = true) :
    isControl c = false := by
  unfold plainBut at h
  simp only [Bool.and_eq_true, decide_eq_true_eq] at h
  unfold isControl
  simp only [Bool.or_eq_false_iff, decide_eq_false_iff_not]
  omega

theorem isControl_of_mem_escape {allowed : Char → Bool} {cs : List Char}
    (h : ∀ c, allowed c = true → isControl c = false) :
    ∀ c ∈ escape allowed cs, isControl c = false :=
  fun c hc ↦ (mem_escape hc).elim (h c) fun hescape ↦
    isControl_of_inHost (inHost_of_mem_escapeChars hescape)

theorem getD_map_escape {allowed : Char → Bool} {part : Option (List Char)}
    (h : part.getD [] = []) : (part.map (escape allowed)).getD [] = [] := by
  cases part with
  | none => rfl
  | some cs =>
    obtain rfl : cs = [] := h
    rfl

theorem firstControl?_eq_none_iff {cs : List Char} :
    firstControl? cs = none ↔ ∀ c ∈ cs, isControl c = false := by
  unfold firstControl?
  rw [Option.map_eq_none_iff, List.findIdx?_eq_none_iff]

theorem checkPart_of_plain {part : String} {cs : List Char}
    (h : ∀ c ∈ cs, isControl c = false) : checkPart part cs = .ok () ↔ cs.length ≤ lengthLimit := by
  unfold checkPart
  rw [firstControl?_eq_none_iff.mpr h, ← Nat.not_lt]
  split <;> simp_all

theorem isControl_of_mem_portText {c : Char} (hc : c ∈ u.portText) : isControl c = false := by
  obtain rfl | rfl | hdigit := of_mem_portText hc
  · decide
  · decide
  · exact isControl_of_inHost (inHost_of_isDigit hdigit)

/-- A written address has nothing in its authority that does not show. -/
theorem Written.authority_plain (hu : Written u) : ∀ c ∈ u.authority, isControl c = false := by
  have hhost : ∀ c ∈ u.hostText, isControl c = false := by
    intro c hc
    unfold hostText at hc
    split at hc
    · obtain rfl | hc := List.mem_cons.mp hc
      · decide
      · obtain hc | hc := List.mem_append.mp hc
        · exact hu.host.plain c hc
        · rw [List.mem_singleton.mp hc]
          decide
    · exact hu.host.plain c hc
  have huser : ∀ c ∈ (if u.userInfo.isEmpty then [] else u.userInfo ++ ['@']),
      isControl c = false := by
    intro c hc
    split at hc
    · exact absurd hc List.not_mem_nil
    · obtain hc | hc := List.mem_append.mp hc
      · exact hu.userInfo c hc
      · rw [List.mem_singleton.mp hc]
        decide
  intro c hc
  obtain hc | hc := List.mem_append.mp hc
  · exact huser c hc
  · exact (List.mem_append.mp hc).elim (hhost c) isControl_of_mem_portText

/-- A path and a query as they stand in an address. -/
structure WrittenTarget (path : List Char) (query : Option (List Char)) : Prop where
  chars : ∀ c ∈ path, inPath c = true
  rooted : path.head? = some '/'
  queryChars : ∀ q ∈ query, ∀ c ∈ q, inQuery c = true

variable {path : List Char} {query : Option (List Char)}

/-- The parts of a written address with another path and query can be put together, if they are not
too long. -/
theorem Written.checkParts_iff (hu : Written u) (ht : WrittenTarget path query) :
    checkParts u.scheme u.authority path query u.fragment = .ok () ↔
      path.length ≤ lengthLimit ∧ (query.getD []).length ≤ lengthLimit ∧
        u.authority.length ≤ lengthLimit := by
  have hscheme : checkPart "scheme" u.scheme = .ok () := by
    obtain hweb | hweb := hu.scheme <;> rw [hweb] <;> decide +kernel
  have hfragment : checkPart "fragment" (u.fragment.getD []) = .ok () := by
    rw [hu.fragment]
    rfl
  have hquery : ∀ c ∈ query.getD [], isControl c = false := by
    cases query with
    | none => simp
    | some query => exact fun c hc ↦ isControl_of_plainBut (ht.queryChars query rfl c hc)
  unfold checkParts
  simp only [Except.bind_eq_ok_iff, hscheme, hfragment, and_true, true_and, exists_const,
    checkPart_of_plain hu.authority_plain, checkPart_of_plain hquery,
    checkPart_of_plain fun c hc ↦ isControl_of_plainBut (ht.chars c hc)]
  exact ⟨fun ⟨hauthority, hpath, hquery⟩ ↦ ⟨hpath, hquery, hauthority⟩,
    fun ⟨hpath, hquery, hauthority⟩ ↦ ⟨hauthority, hpath, hquery⟩⟩

/-- When an address with another path and query comes about, and which. -/
theorem Written.withTarget_eq_ok_iff (hu : Written u) (ht : WrittenTarget path query) :
    u.withTarget (path ++ queryText query) = .ok v ↔
      (path.length ≤ lengthLimit ∧ (query.getD []).length ≤ lengthLimit ∧
        u.authority.length ≤ lengthLimit) ∧
        ∃ host sent, sentHost u.hostText = .ok host ∧ sentPort u.scheme u.portDigits = .ok sent ∧
          v = ⟨u.scheme, escape inUserInfo (splitAuthority u.authority).1, host, sent,
            resolveDots path, query, u.fragment.map (escape inFragment)⟩ := by
  have hmark : '?' ∉ path := fun hmem ↦ absurd (ht.chars '?' hmem) (by decide)
  have hsplit : splitMark '?' (path ++ queryText query) = (path, query) := by
    cases query with
    | none =>
      unfold queryText
      rw [List.append_nil]
      exact splitMark_of_not_mem hmark
    | some query => exact splitMark_append hmark
  have hlower : Text.lower u.scheme = u.scheme := by
    obtain hweb | hweb := hu.scheme <;> rw [hweb] <;> decide
  have hscheme : Text.lower u.scheme ≠ [] := by
    obtain hweb | hweb := hu.scheme <;> rw [hweb] <;> decide
  have hescaped : escape inPath (resolveDots path) = resolveDots path := by
    rw [← resolveDots_escape, escape_of_allowed ht.chars]
  have hkept : query.map (escape inQuery) = query := by
    cases query with
    | none => rfl
    | some query => exact congrArg some (escape_of_allowed (ht.queryChars query rfl))
  have hauthority : splitAuthority u.authority =
      ((splitAuthority u.authority).1, u.hostText, u.portDigits) :=
    Prod.ext rfl (splitAuthority_authority hu.host)
  have hparts := hu.checkParts_iff ht
  unfold withTarget
  rw [hsplit]
  dsimp only
  rw [Except.bind_eq_ok_iff, ← hparts]
  generalize (splitAuthority u.authority).1 = userInfo at hauthority ⊢
  rw [hauthority]
  dsimp only
  rw [assemble_eq_ok_iff hscheme (Or.inr ht.rooted), hlower, hescaped, hkept]
  exact ⟨fun ⟨_, hcheck, hrest⟩ ↦ ⟨hcheck, hrest⟩, fun ⟨hcheck, hrest⟩ ↦ ⟨⟨⟩, hcheck, hrest⟩⟩

theorem length_of_sentPort {scheme port : List Char} {sent : Option Int}
    (h : sentPort scheme port = .ok sent) :
    ∀ n ∈ sent, (Number.digitsOf n.natAbs).length ≤ Number.digitLimit := by
  unfold sentPort at h
  split at h
  · cases h
    simp
  · split at h
    · cases h
    · next n hn =>
      cases h
      intro m hm
      obtain ⟨-, hm⟩ := Option.ite_none_left_eq_some.mp hm
      cases hm
      exact Number.length_digitsOf_of_anyInt? hn

/-- Another path and query leave the origin, and dots are resolved in the path. -/
theorem Written.sameOrigin_withTarget (hu : Written u) (ht : WrittenTarget path query)
    (h : u.withTarget (path ++ queryText query) = .ok v) :
    SameOrigin v u ∧ v.path = resolveDots path ∧ v.query = query := by
  obtain ⟨-, host, sent, hhost, hsent, rfl⟩ := (hu.withTarget_eq_ok_iff ht).mp h
  obtain ⟨sent', hsent', hport⟩ := hu.exists_sentPort
  cases hsent.symm.trans hsent'
  exact ⟨⟨rfl, (hu.host.reread hhost).1, hport _ rfl rfl⟩, rfl, rfl⟩

theorem Written.withTarget (hu : Written u) (ht : WrittenTarget path query) (hdots : NoDots path)
    (h : u.withTarget (path ++ queryText query) = .ok v) : Written v := by
  obtain ⟨-, host, sent, hhost, hsent, rfl⟩ := (hu.withTarget_eq_ok_iff ht).mp h
  rw [resolveDots_of_noDots hdots]
  exact ⟨hu.scheme, isControl_of_mem_escape fun _ ↦ isControl_of_plainBut,
    (hu.host.reread hhost).2, length_of_sentPort hsent, ht.chars, hdots, Or.inr ht.rooted,
    getD_map_escape hu.fragment⟩

/-! ### The place of a base address -/

/-- The path as it is asked for; an empty one is the root. -/
def root (u : Url) : List Char := if u.path.isEmpty then ['/'] else u.path

theorem target_eq (u : Url) : u.target = u.root ++ queryText u.query := by
  unfold target root queryText
  cases u.query <;> rfl

/-- The path without one slash at its end. -/
def basePath (u : Url) : List Char :=
  if u.path.getLast? = some '/' then u.path.dropLast else u.path

theorem root_eq_of_path (h : u.path.head? = some '/') : u.root = u.path := by
  unfold root
  obtain ⟨rest, hrest⟩ := List.head?_eq_some_iff.mp h
  rw [hrest]
  rfl

theorem root_eq_of_slash (h : u.root.getLast? = some '/') : u.root = u.basePath ++ ['/'] := by
  unfold root basePath at *
  split at h
  · next hempty =>
    rw [List.isEmpty_iff.mp hempty]
    rfl
  · next hne =>
    rw [if_neg hne, if_pos h]
    exact (List.dropLast_append_getLast? '/' h).symm

theorem basePath_of_no_slash (h : u.root.getLast? ≠ some '/') :
    u.root = u.path ∧ u.basePath = u.path := by
  unfold root basePath at *
  split at h
  · exact absurd rfl h
  · next hne =>
    rw [if_neg hne, if_neg h]
    exact ⟨rfl, rfl⟩

theorem Written.root_rooted (hu : Written u) : u.root.head? = some '/' := by
  unfold root
  split
  · rfl
  · next hne =>
    exact hu.rooted.resolve_left (by simpa using hne)

theorem Written.root_chars (hu : Written u) : ∀ c ∈ u.root, inPath c = true := by
  unfold root
  split
  · exact List.forall_mem_singleton.mpr (by decide)
  · exact hu.path

theorem Written.root_noDots (hu : Written u) : NoDots u.root := by
  unfold root
  split
  · decide
  · exact hu.noDots

theorem Written.basePath_rooted (hu : Written u) :
    u.basePath = [] ∨ u.basePath.head? = some '/' := by
  unfold basePath
  split
  · obtain hempty | hhead := hu.rooted
    · rw [hempty]
      exact Or.inl rfl
    · obtain ⟨rest, hrest⟩ := List.head?_eq_some_iff.mp hhead
      rw [hrest]
      cases rest with
      | nil => exact Or.inl rfl
      | cons _ _ => exact Or.inr rfl
  · exact hu.rooted

theorem Written.basePath_chars (hu : Written u) : ∀ c ∈ u.basePath, inPath c = true := by
  unfold basePath
  split
  · exact fun c hc ↦ hu.path c (List.dropLast_subset _ hc)
  · exact hu.path

end Url

open Url

namespace Client

variable {u v : Url} {signIn : Option SignIn} {client : Client} {base path : String}

/-! ### Base addresses -/

theorem of_eq_ok_iff (htext : Url.ofText base = .ok u) : Client.of base signIn = .ok client ↔
    ∃ place, (if u.target.getLast? = some '/' then .ok u
      else u.withTarget (u.target ++ ['/'])) = .ok place ∧
        client = { base := place, signIn := signIn } := by
  unfold Client.of
  rw [htext]
  dsimp only [bind, Except.bind]
  by_cases hslash : u.target.getLast? = some '/'
  · simp [hslash, eq_comm]
  · rw [if_neg hslash, if_neg hslash]
    cases u.withTarget (u.target ++ ['/']) <;> simp [eq_comm]

/-- The base address for an address without a query has one slash more at its end, if it has none
yet. -/
theorem base_of_no_query (hu : Written u) (hquery : u.query = none)
    (htext : Url.ofText base = .ok u) (h : Client.of base signIn = .ok client) :
    Written client.base ∧ SameOrigin client.base u ∧
      client.base.target = u.basePath ++ ['/'] := by
  have htarget : u.target = u.root := by
    rw [target_eq, hquery]
    exact List.append_nil _
  obtain ⟨place, hplace, rfl⟩ := (of_eq_ok_iff htext).mp h
  rw [htarget] at hplace
  by_cases hslash : u.root.getLast? = some '/'
  · rw [if_pos hslash] at hplace
    cases hplace
    exact ⟨hu, .refl u, htarget.trans (root_eq_of_slash hslash)⟩
  · obtain ⟨hroot, hbase⟩ := basePath_of_no_slash hslash
    have ht : WrittenTarget (u.root ++ ['/']) none :=
      ⟨List.forall_mem_append.mpr ⟨hu.root_chars, List.forall_mem_singleton.mpr (by decide)⟩,
        by rw [List.head?_append, hu.root_rooted]; rfl, by simp⟩
    have hdots : NoDots (u.root ++ ['/']) := noDots_append hu.root_noDots (by decide)
    rw [if_neg hslash, ← List.append_nil (u.root ++ ['/'])] at hplace
    obtain ⟨horigin, hpath, hplaceQuery⟩ := hu.sameOrigin_withTarget ht hplace
    rw [resolveDots_of_noDots hdots] at hpath
    refine ⟨hu.withTarget ht hdots hplace, horigin, ?_⟩
    rw [target_eq, hplaceQuery, root_eq_of_path (hpath ▸ ht.rooted), hpath, hroot, hbase]
    exact List.append_nil _

/-- The base address for an address with an empty query has a slash in the query. -/
theorem base_of_empty_query (hu : Written u) (hquery : u.query = some [])
    (htext : Url.ofText base = .ok u) (h : Client.of base signIn = .ok client) :
    Written client.base ∧ SameOrigin client.base u ∧
      client.base.target = u.root ++ queryText (some ['/']) := by
  have htarget : u.target ++ ['/'] = u.root ++ queryText (some ['/']) := by
    rw [target_eq, hquery, List.append_assoc]
    rfl
  have hlast : u.target.getLast? ≠ some '/' := by
    rw [target_eq, hquery]
    simp [queryText]
  have ht : WrittenTarget u.root (some ['/']) := by
    refine ⟨hu.root_chars, hu.root_rooted, ?_⟩
    rintro _ ⟨⟩
    exact List.forall_mem_singleton.mpr (by decide)
  obtain ⟨place, hplace, rfl⟩ := (of_eq_ok_iff htext).mp h
  rw [if_neg hlast, htarget] at hplace
  obtain ⟨horigin, hpath, hplaceQuery⟩ := hu.sameOrigin_withTarget ht hplace
  rw [resolveDots_of_noDots hu.root_noDots] at hpath
  refine ⟨hu.withTarget ht hu.root_noDots hplace, horigin, ?_⟩
  rw [target_eq, hplaceQuery, root_eq_of_path (hpath ▸ hu.root_rooted), hpath]

/-! ### Paths below a base address -/

/-- A path below a base address: one slash and then something else, without the marks of a query or
a fragment. -/
def IsPlace (path : String) : Prop :=
  ∃ c rest, path.toList = '/' :: c :: rest ∧ c ≠ '/' ∧ '?' ∉ path.toList ∧ '#' ∉ path.toList

theorem split_of_isPlace (h : IsPlace path) :
    Url.split path.toList = ⟨[], [], path.toList, none, none⟩ := by
  obtain ⟨c, rest, hpath, hc, hquery, hfragment⟩ := h
  have hscheme : Url.splitScheme path.toList = ([], path.toList) := by
    rw [hpath]
    rfl
  have hauthority : cutAuthority path.toList = ([], path.toList) := by
    rw [hpath]
    unfold cutAuthority
    split
    · next heq => exact absurd (List.cons.inj (List.cons.inj heq).2).1 hc
    · rfl
  change (Parts.mk (Url.splitScheme path.toList).1
    (cutAuthority (Url.splitScheme path.toList).2).1
    (splitMark '?' (splitMark '#' (cutAuthority (Url.splitScheme path.toList).2).2).1).1
    (splitMark '?' (splitMark '#' (cutAuthority (Url.splitScheme path.toList).2).2).1).2
    (splitMark '#' (cutAuthority (Url.splitScheme path.toList).2).2).2) = _
  rw [hscheme, hauthority, splitMark_of_not_mem hfragment, splitMark_of_not_mem hquery]

/-- A path is read as it stands, if it is not too long and has no controls. -/
theorem ofText_of_isPlace (h : IsPlace path) : Url.ofText path = .ok v ↔
    path.toList.length ≤ lengthLimit ∧ (∀ c ∈ path.toList, isControl c = false) ∧
      v = ⟨[], [], [], none, escape inPath path.toList, none, none⟩ := by
  have hassemble : assemble [] [] [] [] path.toList none none =
      .ok ⟨[], [], [], none, escape inPath path.toList, none, none⟩ := by
    obtain ⟨c, rest, hpath, hc, -⟩ := h
    have hcheck : checkPath ('/' :: c :: rest) false false = .ok () := by
      simp [checkPath, Ne.symm hc]
    rw [hpath]
    simp [assemble, sentHost, sentPort, escape, Text.lower, Text.lowerAfter, hcheck, bind,
      Except.bind]
  unfold Url.ofText
  dsimp only
  rw [split_of_isPlace h]
  by_cases hlong : path.toList.length > lengthLimit
  · rw [if_pos hlong]
    constructor
    · intro heq
      cases heq
    · exact fun hread ↦ absurd hread.1 (Nat.not_le.mpr hlong)
  · rw [if_neg hlong]
    cases hcontrol : firstControl? path.toList with
    | none =>
      have hplain := firstControl?_eq_none_iff.mp hcontrol
      change assemble [] [] [] [] path.toList none none = .ok v ↔ _
      rw [hassemble, Except.ok.injEq]
      exact ⟨fun heq ↦ ⟨Nat.le_of_not_lt hlong, hplain, heq.symm⟩, fun hread ↦ hread.2.2.symm⟩
    | some found =>
      constructor
      · intro heq
        cases heq
      · rintro ⟨-, hplain, -⟩
        cases (firstControl?_eq_none_iff.mpr hplain).symm.trans hcontrol

/-- What a client makes of a path. -/
theorem resolve_of_isPlace (h : IsPlace path) : client.resolve path = .ok v ↔
    path.toList.length ≤ lengthLimit ∧ (∀ c ∈ path.toList, isControl c = false) ∧
      client.base.withTarget (client.base.target ++ escape inPath (path.toList.drop 1)) =
        .ok v := by
  have hdrop : (escape inPath path.toList).dropWhile (· = '/') =
      escape inPath (path.toList.drop 1) := by
    obtain ⟨c, rest, hpath, hc, -⟩ := h
    have hfirst := head?_escape_ne hc (by decide) inPath rest
    rw [hpath, escape_cons_of_allowed (by decide), List.dropWhile_cons_of_pos rfl]
    change (escape inPath (c :: rest)).dropWhile _ = escape inPath (c :: rest)
    cases hchars : escape inPath (c :: rest) with
    | nil => rfl
    | cons d ds =>
      rw [hchars] at hfirst
      exact List.dropWhile_cons_of_neg (by simpa using hfirst)
  have htarget : Url.target ⟨[], [], [], none, escape inPath path.toList, none, none⟩ =
      escape inPath path.toList := by
    obtain ⟨c, rest, hpath, -⟩ := h
    rw [hpath, escape_cons_of_allowed (by decide)]
    exact List.append_nil _
  unfold Client.resolve
  cases hread : Url.ofText path with
  | error fault =>
    constructor
    · intro heq
      cases heq
    · rintro ⟨hshort, hplain, -⟩
      cases ((ofText_of_isPlace h).mpr ⟨hshort, hplain, rfl⟩).symm.trans hread
  | ok url =>
    obtain ⟨hshort, hplain, rfl⟩ := (ofText_of_isPlace h).mp hread
    change client.base.withTarget (client.base.target ++ List.dropWhile _ (Url.target _)) = _ ↔ _
    rw [htarget, hdrop]
    exact ⟨fun heq ↦ ⟨hshort, hplain, heq⟩, fun heq ↦ heq.2.2⟩

/-- What it takes for an address below another to come about: a path that can be read, a whole and
an authority that are not too long, and a host that is read again. -/
structure Joins (base : Url) (front : List Char) (path : String) : Prop where
  short : path.toList.length ≤ lengthLimit
  plain : ∀ c ∈ path.toList, isControl c = false
  whole : (escape inPath (front ++ path.toList)).length ≤ lengthLimit
  authority : base.authority.length ≤ lengthLimit
  host : ∃ host, sentHost base.hostText = .ok host

/-- The host of an address, when it is read again, is one that a request can be made for. -/
def Rereads (base : Url) : Prop :=
  ∃ host, sentHost base.hostText = .ok host ∧ ({ base with host := host } : Url).Sendable

section Below

variable (hu : Written u) (htext : Url.ofText base = .ok u)
  (h : Client.of base signIn = .ok client) (hpath : IsPlace path)

include hu htext h hpath

/-- Below an address without a query a path is put behind that of the address. -/
theorem resolve_of_no_query (hquery : u.query = none) :
    ((∃ v, client.resolve path = .ok v) ↔ Joins client.base u.basePath path) ∧
      ∀ v, client.resolve path = .ok v → (v.Sendable ↔ Rereads client.base) ∧ SameOrigin v u ∧
        v.path = escape inPath (resolveDots (u.basePath ++ path.toList)) ∧ v.query = none := by
  obtain ⟨hbase, horigin, htarget⟩ := base_of_no_query hu hquery htext h
  obtain ⟨c, rest, hchars, -⟩ := id hpath
  have hwhole : client.base.target ++ escape inPath (path.toList.drop 1) =
      escape inPath (u.basePath ++ path.toList) ++ queryText none := by
    have hslash : inPath '/' = true := by decide
    rw [htarget, hchars, escape_append, escape_cons_of_allowed hslash,
      escape_of_allowed hu.basePath_chars]
    simp [queryText]
  have ht : WrittenTarget (escape inPath (u.basePath ++ path.toList)) none := by
    refine ⟨inPath_of_mem_escape, ?_, by simp⟩
    rw [escape_append, escape_of_allowed hu.basePath_chars, hchars,
      escape_cons_of_allowed (by decide)]
    obtain hempty | hhead := hu.basePath_rooted
    · rw [hempty]
      rfl
    · rw [List.head?_append, hhead]
      rfl
  constructor
  · constructor
    · rintro ⟨v, hv⟩
      obtain ⟨hshort, hplain, hv⟩ := (resolve_of_isPlace hpath).mp hv
      rw [hwhole] at hv
      obtain ⟨⟨hlength, -, hauthority⟩, host, _, hhost, -⟩ := (hbase.withTarget_eq_ok_iff ht).mp hv
      exact ⟨hshort, hplain, hlength, hauthority, host, hhost⟩
    · rintro ⟨hshort, hplain, hlength, hauthority, host, hhost⟩
      obtain ⟨sent, hsent, -⟩ := hbase.exists_sentPort
      have hjoined := (hbase.withTarget_eq_ok_iff ht).mpr
        ⟨⟨hlength, Nat.zero_le _, hauthority⟩, host, sent, hhost, hsent, rfl⟩
      rw [← hwhole] at hjoined
      exact ⟨_, (resolve_of_isPlace hpath).mpr ⟨hshort, hplain, hjoined⟩⟩
  · intro v hv
    obtain ⟨-, -, hv⟩ := (resolve_of_isPlace hpath).mp hv
    rw [hwhole] at hv
    obtain ⟨hsame, hvpath, hvquery⟩ := hbase.sameOrigin_withTarget ht hv
    refine ⟨?_, hsame.trans horigin, hvpath.trans (resolveDots_escape _), hvquery⟩
    obtain ⟨-, host, _, hhost, -, rfl⟩ := (hbase.withTarget_eq_ok_iff ht).mp hv
    constructor
    · rintro ⟨⟨points, hread⟩, hplain⟩
      exact ⟨host, hhost, ⟨points, hread⟩, hplain⟩
    · rintro ⟨host', hhost', ⟨points, hread⟩, hplain⟩
      cases hhost.symm.trans hhost'
      exact ⟨⟨points, hread⟩, hplain⟩

/-- Below an address with an empty query a path is put into the query. -/
theorem resolve_of_empty_query (hquery : u.query = some []) (hv : client.resolve path = .ok v) :
    SameOrigin v u ∧ v.path = u.root ∧ v.query = some (escape inPath path.toList) := by
  obtain ⟨hbase, horigin, htarget⟩ := base_of_empty_query hu hquery htext h
  obtain ⟨c, rest, hchars, -⟩ := id hpath
  have hwhole : client.base.target ++ escape inPath (path.toList.drop 1) =
      u.root ++ queryText (some (escape inPath path.toList)) := by
    have hslash : inPath '/' = true := by decide
    rw [htarget, hchars, escape_cons_of_allowed hslash]
    simp [queryText]
  have ht : WrittenTarget u.root (some (escape inPath path.toList)) := by
    refine ⟨hu.root_chars, hu.root_rooted, ?_⟩
    rintro _ ⟨⟩ c hc
    exact inQuery_of_inPath (inPath_of_mem_escape c hc)
  obtain ⟨-, -, hv⟩ := (resolve_of_isPlace hpath).mp hv
  rw [hwhole] at hv
  obtain ⟨hsame, hvpath, hvquery⟩ := hbase.sameOrigin_withTarget ht hv
  exact ⟨hsame.trans horigin, hvpath.trans (resolveDots_of_noDots hu.root_noDots), hvquery⟩

end Below

end Client

end FormCatalog
