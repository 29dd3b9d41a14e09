import FormCatalog.Proofs.Programs
import FormCatalog.Proofs.Web.HostNames
import FormCatalog.Proofs.Web.LocalHosts
import FormCatalog.Settings.Basic
import FormCatalog.Web.FormServer

/-!
# Addresses that stay sheltered

An address is sheltered if requests to it go over `https` or stay on this machine, and exposed if
they go over plain `http` to another one. The address of a server is checked as a text, by another
reader than the one that sends requests; `Url.sheltered_of_check` says that the two agree far
enough: what passes the check is sheltered as it is sent. That goes for addresses below it as well.
To put a path into an address is to write its authority as text and to read it again, and a local
host comes through that (`Url.sentHost_of_authority`).

So a client whose base address was checked leads to an exposed address only where it is given one
as a whole (`Client.exposed_of_resolve`).
-/

set_option autoImplicit false
set_option relaxedAutoImplicit false

namespace FormCatalog

open ServerAddress

namespace Url

/-! ### Whole addresses -/

/-- The authority in what follows a scheme, and the rest. -/
def cutAuthority : List Char → List Char × List Char
  | '/' :: '/' :: rest => rest.span fun c ↦ c ≠ '/' && c ≠ '?' && c ≠ '#'
  | rest => ([], rest)

theorem split_scheme (cs : List Char) : (split cs).scheme = (splitScheme cs).1 :=
  rfl

theorem split_authority (cs : List Char) :
    (split cs).authority = (cutAuthority (splitScheme cs).2).1 :=
  rfl

theorem assemble_eq_ok {scheme userInfo name port path : List Char}
    {query fragment : Option (List Char)} {u : Url}
    (h : assemble scheme userInfo name port path query fragment = .ok u) :
    u.scheme = Text.lower scheme ∧ sentHost name = .ok u.host ∧
      sentPort scheme port = .ok u.port := by
  unfold assemble at h
  cases hhost : sentHost name with
  | error fault =>
    rw [hhost] at h
    cases h
  | ok host =>
    cases hport : sentPort scheme port with
    | error fault =>
      rw [hhost, hport] at h
      cases h
    | ok sent =>
      rw [hhost, hport] at h
      dsimp only [bind, Except.bind] at h
      split at h
      · cases h
      · cases h
        exact ⟨rfl, rfl, rfl⟩

theorem ofText_eq_ok {text : String} {u : Url} (h : ofText text = .ok u) :
    (∀ c ∈ text.toList, isControl c = false) ∧
      ∃ userInfo name port, splitAuthority (split text.toList).authority = (userInfo, name, port) ∧
        u.scheme = Text.lower (split text.toList).scheme ∧ sentHost name = .ok u.host ∧
        sentPort (split text.toList).scheme port = .ok u.port := by
  unfold ofText at h
  dsimp only at h
  split at h
  · cases h
  · split at h
    · cases h
    · next hnone =>
      refine ⟨fun c hc ↦ ?_, _, _, _, rfl, assemble_eq_ok h⟩
      unfold firstControl? at hnone
      rw [Option.map_eq_none_iff, List.findIdx?_eq_none_iff] at hnone
      exact hnone c hc

end Url

namespace ServerAddress

/-- The query and the fragment in what follows an authority. -/
def tail (cs : List Char) : List Char × List Char :=
  let (front, fragment) := (cut? '#' cs).getD (cs, [])
  (((cut? '?' front).getD (front, [])).2, fragment)

theorem parts_eq_ok {address : String} {p : Parts} {cs : List Char}
    (hcs : (address.toList.dropWhile isLeadingControl).filter (fun c ↦ !isSkipped c) = cs)
    (h : parts address = .ok p) :
    p.scheme = (splitScheme cs).1 ∧ p.authority = (Url.cutAuthority (splitScheme cs).2).1 ∧
      (p.query, p.fragment) = tail (Url.cutAuthority (splitScheme cs).2).2 ∧
      checkBrackets p.authority = .ok () := by
  unfold parts at h
  rw [hcs] at h
  change (do
    checkBrackets (Url.cutAuthority (splitScheme cs).2).1
    if (Url.cutAuthority (splitScheme cs).2).1.any fun c ↦ disguises.contains c.toNat then _
    else .ok (Parts.mk (splitScheme cs).1 (Url.cutAuthority (splitScheme cs).2).1
      (tail (Url.cutAuthority (splitScheme cs).2).2).1
      (tail (Url.cutAuthority (splitScheme cs).2).2).2)) = _ at h
  cases hbrackets : checkBrackets (Url.cutAuthority (splitScheme cs).2).1 with
  | error refusal =>
    rw [hbrackets] at h
    cases h
  | ok _ =>
    rw [hbrackets] at h
    dsimp only [bind, Except.bind] at h
    split at h
    · cases h
    · cases h
      exact ⟨rfl, rfl, rfl, hbrackets⟩

theorem isSchemeChar_eq (c : Char) : Url.isSchemeChar c = isSchemeChar c := by
  unfold Url.isSchemeChar isSchemeChar
  rw [Bool.or_assoc _ (decide (c = '.')), Bool.or_comm (decide (c = '.')), ← Bool.or_assoc]
  rfl

/-- Both readings cut a scheme off in the same place. -/
theorem splitScheme_eq {cs scheme rest : List Char} (h : splitScheme cs = (scheme, rest))
    (hscheme : scheme ≠ []) :
    ∃ written, Url.splitScheme cs = (written, rest) ∧ Text.lower written = scheme := by
  unfold splitScheme at h
  by_cases hcolon : ':' ∈ cs
  · obtain ⟨written, back, rfl, hwritten⟩ := List.eq_append_cons_of_mem hcolon
    rw [cut?_append hwritten] at h
    cases written with
    | nil =>
      cases h
      exact (hscheme rfl).elim
    | cons c front =>
      dsimp only at h
      split at h
      · next hchars =>
        cases h
        refine ⟨c :: front, ?_, rfl⟩
        rw [Bool.and_eq_true] at hchars
        have hall : ∀ d ∈ c :: front, Url.isSchemeChar d = true := by
          refine List.forall_mem_cons.mpr ⟨?_, fun d hd ↦ ?_⟩
          · unfold Url.isSchemeChar
            rw [show Url.isLetter c = true from hchars.1]
            rfl
          · rw [isSchemeChar_eq]
            exact List.all_eq_true.mp hchars.2 d hd
        have hmark : Url.isSchemeChar ':' = false := by decide
        have hspan : (c :: front ++ ':' :: rest).span Url.isSchemeChar =
            (c :: front, ':' :: rest) := by
          rw [List.span_eq_takeWhile_dropWhile, List.takeWhile_append_of_pos hall,
            List.dropWhile_append_of_pos hall]
          simp [hmark]
        unfold Url.splitScheme
        split
        · next heq =>
          cases heq
          exact absurd hchars.1 (by decide)
        · next heq =>
          cases heq
          rw [if_pos (show Url.isLetter c = true from hchars.1), hspan]
          rfl
        · next heq => cases heq
      · cases h
        exact (hscheme rfl).elim
  · rw [cut?_of_not_mem hcolon] at h
    cases h
    exact (hscheme rfl).elim

/-- An address in normal form does not begin with a blank. -/
theorem head_normalize {address : String} {c : Char} {rest : List Char}
    (h : (normalize address).toList = c :: rest) : Text.isBlank c = false := by
  unfold normalize Text.trim at h
  rw [String.toList_ofList] at h
  have hprefix := (Text.dropTrailing_prefix (· = '/') (Text.dropTrailing Text.isBlank
    (address.toList.dropWhile Text.isBlank))).trans (Text.dropTrailing_prefix _ _)
  rw [h] at hprefix
  obtain ⟨tail, htail⟩ := hprefix
  have hhead := List.head?_dropWhile_not Text.isBlank address.toList
  rw [← htail] at hhead
  simpa using hhead

/-- In an address in normal form that has no controls, nothing is skipped. -/
theorem skipped_normalize {address : String}
    (h : ∀ c ∈ (normalize address).toList, Url.isControl c = false) :
    ((normalize address).toList.dropWhile isLeadingControl).filter (fun c ↦ !isSkipped c) =
      (normalize address).toList := by
  have hleading : (normalize address).toList.dropWhile isLeadingControl =
      (normalize address).toList := by
    cases hchars : (normalize address).toList with
    | nil => rfl
    | cons c rest =>
      have hblank : Text.isBlank c = false := head_normalize hchars
      have hcontrol : Url.isControl c = false := h c (hchars ▸ List.mem_cons_self)
      have hleading : isLeadingControl c = false := by
        unfold Url.isControl at hcontrol
        unfold Text.isBlank Text.isWhiteSpace at hblank
        unfold isLeadingControl
        simp only [Bool.or_eq_false_iff, decide_eq_false_iff_not, beq_eq_false_iff_ne] at *
        omega
      exact List.dropWhile_cons_of_neg (by rw [hleading]; decide)
  rw [hleading, List.filter_eq_self]
  intro c hc
  have hcontrol := h c hc
  rw [Bool.not_eq_true']
  refine Bool.eq_false_iff.mpr fun hskipped ↦ ?_
  unfold isSkipped at hskipped
  simp only [Bool.or_eq_true, decide_eq_true_eq] at hskipped
  obtain (rfl | rfl) | rfl := hskipped <;> exact absurd hcontrol (by decide)

/-- What is known of the parts of an address that passes the check. -/
structure Passes (p : Parts) (allowInsecure : Bool) : Prop where
  scheme : p.scheme = "http".toList ∨ p.scheme = "https".toList
  host : host p.authority ≠ []
  query : p.query = []
  fragment : p.fragment = []
  isLocal : allowInsecure = false → p.scheme = "http".toList →
    IsLocal (ServerAddress.host p.authority)

theorem Passes.scheme_ne_nil {p : Parts} {allowInsecure : Bool} (h : Passes p allowInsecure) :
    p.scheme ≠ [] := by
  intro hempty
  have hscheme := h.scheme
  rw [hempty] at hscheme
  exact absurd hscheme (by decide)

theorem check_eq_ok {address normal : String} {allowInsecure : Bool}
    (h : check address allowInsecure = .ok normal) :
    normal = normalize address ∧ ∃ p, parts normal = .ok p ∧ Passes p allowInsecure := by
  unfold check at h
  dsimp only at h
  cases hparts : parts (normalize address) with
  | error refusal =>
    rw [hparts] at h
    cases h
  | ok p =>
    rw [hparts] at h
    dsimp only [bind, Except.bind] at h
    split at h
    · cases h
    · next hscheme =>
      split at h
      · cases h
      · next hbare =>
        split at h
        · cases h
        · next hsecure =>
          cases h
          rw [not_or] at hscheme hbare
          refine ⟨rfl, p, hparts, ?_, fun hhost ↦ hscheme.2 (Text.ofList_eq_iff.mpr hhost),
            not_not.mp hbare.1, not_not.mp hbare.2, fun hstrict hhttp ↦ ?_⟩
          · by_contra hneither
            rw [not_or] at hneither
            exact hscheme.1 (by simpa only [ne_eq, Text.ofList_eq_iff] using hneither)
          · by_contra hremote
            refine hsecure ⟨Text.ofList_eq_iff.mpr hhttp, hstrict, ?_⟩
            rw [Bool.not_eq_true', Bool.eq_false_iff]
            exact fun hcontains ↦ hremote (List.contains_iff_mem.mp hcontains)

end ServerAddress

namespace Url

/-- Requests to the address go over plain `http` to another machine. -/
def Exposed (u : Url) : Prop := u.scheme = "http".toList ∧ ¬ IsLocal u.host

instance (u : Url) : Decidable u.Exposed :=
  inferInstanceAs (Decidable (u.scheme = "http".toList ∧ ¬ IsLocal u.host))

/-- Requests to the address go over `https`, or stay on this machine. -/
def Sheltered (u : Url) : Prop :=
  u.scheme = "https".toList ∨ u.scheme = "http".toList ∧ IsLocal u.host

theorem Sheltered.not_exposed {u : Url} (h : u.Sheltered) : ¬ u.Exposed := by
  rintro ⟨hscheme, hlocal⟩
  obtain h | ⟨-, h⟩ := h
  · rw [hscheme] at h
    exact absurd h (by decide)
  · exact hlocal h

/-- Where the two readers of an address that passes the check cut it: the scheme, which the check
has in lower case, the authority, and the rest. -/
theorem split_of_check {address normal : String} {allowInsecure : Bool} {u : Url}
    (hcheck : check address allowInsecure = .ok normal) (h : ofText normal = .ok u) :
    ∃ p written rest back, Passes p allowInsecure ∧ checkBrackets p.authority = .ok () ∧
      splitScheme normal.toList = (written, rest) ∧ Text.lower written = p.scheme ∧
      cutAuthority rest = (p.authority, back) ∧ tail back = (p.query, p.fragment) := by
  obtain ⟨rfl, p, hparts, hpasses⟩ := check_eq_ok hcheck
  obtain ⟨hcontrols, -⟩ := ofText_eq_ok h
  obtain ⟨hp, hauthority, htail, hbrackets⟩ := parts_eq_ok (skipped_normalize hcontrols) hparts
  cases hscheme : ServerAddress.splitScheme (normalize address).toList with
  | mk scheme rest =>
    rw [hscheme] at hp hauthority htail
    dsimp only at hp hauthority htail
    cases hcut : cutAuthority rest with
    | mk authority back =>
      rw [hcut] at hauthority htail
      dsimp only at hauthority htail
      obtain ⟨written, hwritten, hlower⟩ := splitScheme_eq hscheme (hp ▸ hpasses.scheme_ne_nil)
      exact ⟨p, written, rest, back, hpasses, hbrackets, hwritten, hlower.trans hp.symm,
        hauthority ▸ hcut, htail.symm⟩

/-- An address that passes the check of server addresses is sheltered, as the client reads it. -/
theorem sheltered_of_check {address normal : String} {u : Url}
    (hcheck : check address false = .ok normal) (h : ofText normal = .ok u) : u.Sheltered := by
  obtain ⟨p, written, rest, back, hpasses, hbrackets, hwritten, hlower, hcut, -⟩ :=
    split_of_check hcheck h
  obtain ⟨-, userInfo, name, port, hsplit, hu, hhost, hport⟩ := ofText_eq_ok h
  have hsame : u.scheme = p.scheme := by
    rw [hu, split_scheme, hwritten, hlower]
  have hplace : (split normal.toList).authority = p.authority := by
    rw [split_authority, hwritten, hcut]
  unfold Sheltered
  rw [hsame]
  refine hpasses.scheme.symm.imp_right fun hhttp ↦ ⟨hhttp, ?_⟩
  rw [hplace] at hsplit
  exact isLocal_of_splitAuthority hbrackets (hpasses.isLocal rfl hhttp) hsplit hhost hport

/-! ### Addresses with another target -/

theorem withTarget_eq_ok {u v : Url} {target : List Char} (h : u.withTarget target = .ok v) :
    v.scheme = Text.lower u.scheme ∧ sentHost (splitAuthority u.authority).2.1 = .ok v.host := by
  unfold withTarget at h
  obtain ⟨⟨⟩, -, h⟩ := Except.bind_eq_ok_iff.mp h
  have hassembled := assemble_eq_ok h
  exact ⟨hassembled.1, hassembled.2.1⟩

/-- A port has no marks of an authority. -/
theorem not_mem_portText {c : Char} (u : Url) (hcolon : c ≠ ':') (hminus : c ≠ '-')
    (hdigit : Number.isDigit c = false) : c ∉ u.portText := by
  intro hc
  obtain rfl | rfl | hmem := of_mem_portText hc
  · exact hcolon rfl
  · exact hminus rfl
  · exact absurd (hdigit.symm.trans hmem) (by decide)

/-- What follows the last at sign of an authority is the host and the port. -/
theorem afterLast_authority {u : Url} (h : '@' ∉ u.hostText) :
    afterLast '@' u.authority = u.hostText ++ u.portText := by
  have hnone : '@' ∉ u.hostText ++ u.portText := fun hmem ↦
    (List.mem_append.mp hmem).elim h (not_mem_portText u (by decide) (by decide) (by decide))
  rw [← server_eq] at hnone ⊢
  unfold authority
  split
  · exact afterLast_of_not_mem hnone
  · rw [List.append_assoc]
    exact afterLast_append hnone

/-- A plain host is read back from an authority. -/
theorem name_of_plain {u : Url} (hcolon : ':' ∉ u.host) (hat : '@' ∉ u.host)
    (hbracket : '[' ∉ u.host) : (splitAuthority u.authority).2.1 = u.host := by
  have htext : u.hostText = u.host := if_neg (by simpa using hcolon)
  have hhead : (u.host ++ u.portText).head? ≠ some '[' := fun hhead ↦
    (List.mem_append.mp (List.mem_of_head? hhead)).elim hbracket
      (not_mem_portText u (by decide) (by decide) (by decide))
  rw [splitAuthority_snd, afterLast_authority (htext ▸ hat), htext, splitServer_of_head hhead,
    List.takeWhile_append_of_pos (Text.forall_ne_of_not_mem hcolon)]
  unfold portText
  split <;> simp

/-- A host in colon form is read back from an authority with its square brackets. -/
theorem name_of_colon {u : Url} (hcolon : ':' ∈ u.host) (hat : '@' ∉ u.host) :
    (splitAuthority u.authority).2.1 = '[' :: (u.host ++ [']']) := by
  have htext : u.hostText = '[' :: (u.host ++ [']']) := if_pos (by simpa using hcolon)
  have hserver : '[' :: (u.host ++ [']']) ++ u.portText =
      '[' :: (u.host ++ ']' :: u.portText) := by
    simp
  rw [splitAuthority_snd, afterLast_authority (by rw [htext]; simpa using hat), htext, hserver]
  exact splitServer_of_brackets _ (not_mem_portText u (by decide) (by decide) (by decide))

/-- A local host is read back from an authority, and sent as it is. -/
theorem sentHost_of_authority {u : Url} {host : List Char} (hlocal : IsLocal u.host)
    (h : sentHost (splitAuthority u.authority).2.1 = .ok host) : host = u.host := by
  obtain hword | hword | hword := isLocal_iff.mp hlocal
  · have hsent : sentHost "localhost".toList = .ok "localhost".toList := by decide +kernel
    rw [name_of_plain (by rw [hword]; decide) (by rw [hword]; decide) (by rw [hword]; decide),
      hword, hsent] at h
    rw [hword]
    exact (Except.ok.inj h).symm
  · have hsent : sentHost "127.0.0.1".toList = .ok "127.0.0.1".toList := by decide +kernel
    rw [name_of_plain (by rw [hword]; decide) (by rw [hword]; decide) (by rw [hword]; decide),
      hword, hsent] at h
    rw [hword]
    exact (Except.ok.inj h).symm
  · have hsent : sentHost "[::1]".toList = .ok "::1".toList := by decide +kernel
    rw [name_of_colon (by rw [hword]; decide) (by rw [hword]; decide), hword] at h
    rw [hword]
    exact (Except.ok.inj (hsent.symm.trans h)).symm

/-- Another target leaves an address sheltered. -/
theorem Sheltered.withTarget {u v : Url} {target : List Char} (hu : u.Sheltered)
    (h : u.withTarget target = .ok v) : v.Sheltered := by
  obtain ⟨hscheme, hhost⟩ := withTarget_eq_ok h
  unfold Sheltered
  rw [hscheme]
  obtain hhttps | ⟨hhttp, hlocal⟩ := hu
  · rw [hhttps]
    exact Or.inl (by decide)
  · rw [hhttp, sentHost_of_authority hlocal hhost]
    exact Or.inr ⟨by decide, hlocal⟩

end Url

open Url

/-! ### The addresses of a client -/

namespace Client

/-- Settings that lack nothing keep the normal form of an address that passes the check. -/
theorem check_of_prepare {settings ready : Settings} (hready : settings.prepare = (ready, [])) :
    check settings.serverUrl settings.allowInsecureHttp = .ok ready.serverUrl := by
  unfold Settings.prepare at hready
  by_cases hempty : settings.serverUrl = ""
  · simp [hempty] at hready
  · cases hcheck : check settings.serverUrl settings.allowInsecureHttp with
    | error refusal => simp [hempty, hcheck] at hready
    | ok normal =>
      rw [if_neg hempty, hcheck] at hready
      exact congrArg Except.ok (congrArg Settings.serverUrl (Prod.ext_iff.mp hready).1)

/-- A new client signs in as told, is open, and has the address it was given as its base, with a
slash at the end. -/
theorem of_eq_ok {base : String} {signIn : Option SignIn} {client : Client}
    (h : Client.of base signIn = .ok client) :
    client.signIn = signIn ∧ client.isClosed = false ∧
      ∃ url, Url.ofText base = .ok url ∧
        (client.base = url ∨ url.withTarget (url.target ++ ['/']) = .ok client.base) := by
  unfold Client.of at h
  cases htext : Url.ofText base with
  | error fault =>
    rw [htext] at h
    cases h
  | ok url =>
    rw [htext] at h
    dsimp only [bind, Except.bind] at h
    by_cases hslash : url.target.getLast? = some '/'
    · rw [if_pos hslash] at h
      cases h
      exact ⟨rfl, rfl, url, rfl, Or.inl rfl⟩
    · rw [if_neg hslash] at h
      cases hslashed : url.withTarget (url.target ++ ['/']) with
      | error fault =>
        rw [hslashed] at h
        cases h
      | ok slashed =>
        rw [hslashed] at h
        cases h
        exact ⟨rfl, rfl, url, rfl, Or.inr hslashed⟩

theorem baseAddress_of_check {address normal : String} {allowInsecure : Bool}
    (h : check address allowInsecure = .ok normal) : FormServer.baseAddress normal = normal := by
  rw [(check_eq_ok h).1]
  unfold FormServer.baseAddress ServerAddress.normalize
  rw [String.toList_ofList, Text.dropTrailing_dropTrailing]

/-- The base address of a client for a checked server is sheltered. -/
theorem sheltered_of_check {address normal : String} {signIn : Option SignIn} {client : Client}
    (hcheck : check address false = .ok normal)
    (hclient : Client.of (FormServer.baseAddress normal) signIn = .ok client) :
    client.base.Sheltered := by
  rw [baseAddress_of_check hcheck] at hclient
  obtain ⟨-, -, url, htext, rfl | hslashed⟩ := of_eq_ok hclient
  · exact Url.sheltered_of_check hcheck htext
  · exact (Url.sheltered_of_check hcheck htext).withTarget hslashed

/-- Where a text leads a client over plain `http` to another machine, it is such an address
itself. -/
theorem exposed_of_resolve {client : Client} {address : String} {u : Url}
    (hbase : client.base.Sheltered) (h : client.resolve address = .ok u) (hu : u.Exposed) :
    Url.ofText address = .ok u ∧ u.isComplete = true := by
  unfold Client.resolve at h
  cases htext : Url.ofText address with
  | error fault =>
    rw [htext] at h
    cases h
  | ok url =>
    rw [htext] at h
    dsimp only [bind, Except.bind] at h
    split at h
    · next hcomplete =>
      cases h
      exact ⟨rfl, hcomplete⟩
    · exact absurd hu (hbase.withTarget h).not_exposed

end Client

end FormCatalog
