import FormCatalog.Proofs.Text.Marks
import FormCatalog.Web.ServerAddress
import Mathlib.Data.List.Basic

/-!
# Hosts that are this machine

The address of a server is read twice: once when it is checked and once when a request is sent. The
check finds the host in lower case, up to a zone, and in brackets up to the first closing one
(`ServerAddress.host`); a request goes to the host that is cut off at the last closing bracket, and
a name in brackets is sent as it is, any other in lower case (`Url.splitAuthority`, `Url.sentHost`).
Where the check finds one of the hosts that are this machine, the request goes to one of them
(`Url.isLocal_of_splitAuthority`).

The brackets are where the two could differ. A literal that passes the check has only digits, dots
and colons before a zone (`HostLiteral.mem_of_isColonForm`), so the only local one is `::1`, and
with a second closing bracket the literal would not be well formed.
-/

set_option autoImplicit false
set_option relaxedAutoImplicit false

namespace FormCatalog

/-! ### Hosts written as numbers -/

namespace HostLiteral

open Number

/-- The dotted form has digits and dots. -/
theorem mem_of_isFourPart {cs : List Char} (h : isFourPart cs = true) {c : Char} (hc : c ∈ cs) :
    c = '.' ∨ isDigit c = true := by
  unfold isFourPart at h
  dsimp only at h
  rw [Bool.and_eq_true] at h
  refine (mem_splitAt '.' hc).imp_right fun ⟨p, hp, hcp⟩ ↦ ?_
  have hoctet := List.all_eq_true.mp h.2 p hp
  unfold isOctet at hoctet
  simp only [Bool.and_eq_true, List.all_eq_true] at hoctet
  exact hoctet.1.1.1.2 c hcp

theorem eq_nil_of_getD {parts : List (List Char)} {i : Nat} (hi : i < parts.length)
    (h : (parts.getD i []).isEmpty = true) : parts[i] = [] := by
  rwa [List.getD_eq_getElem?_getD, List.getElem?_eq_getElem hi, Option.getD_some,
    List.isEmpty_iff] at h

/-- Groups that fill an address are well formed, or left out. -/
theorem isGroup_of_groupsFill {parts : List (List Char)} (h : groupsFill parts = true)
    {p : List Char} (hp : p ∈ parts) : p = [] ∨ isGroup p = true := by
  obtain ⟨i, hi, rfl⟩ := List.getElem_of_mem hp
  unfold groupsFill at h
  dsimp only at h
  split at h
  · rw [Bool.and_eq_true] at h
    exact Or.inr (List.all_eq_true.mp h.2 _ hp)
  · next skip hinner =>
    have hskip : skip ∈ (List.range parts.length).filter fun i ↦
        0 < i && i + 1 < parts.length && (parts.getD i []).isEmpty := by
      rw [hinner]
      exact List.mem_singleton.mpr rfl
    simp only [List.mem_filter, List.mem_range, Bool.and_eq_true, decide_eq_true_eq] at hskip
    simp only [Bool.and_eq_true, Bool.or_eq_true, decide_eq_true_eq] at h
    obtain ⟨⟨⟨⟨⟨-, hstart⟩, hend⟩, -⟩, hhigh⟩, hlow⟩ := h
    -- A group stands before the one left out, after it, or is empty at an end.
    by_cases heq : i = skip
    · subst heq
      exact Or.inl (eq_nil_of_getD hi hskip.2.2)
    · obtain hbefore | hafter := Nat.lt_or_gt_of_ne heq
      · cases hfirst : (parts.getD 0 []).isEmpty with
        | true =>
          rw [hfirst] at hstart
          simp only [Bool.not_true, Bool.false_eq_true, if_true, false_or] at hstart
          obtain rfl : i = 0 := by omega
          exact Or.inl (eq_nil_of_getD hi hfirst)
        | false =>
          rw [hfirst] at hhigh
          refine Or.inr (List.all_eq_true.mp hhigh _ ?_)
          exact List.mem_take_iff_getElem.mpr ⟨i, by simp; omega, rfl⟩
      · cases hlast : (parts.getD (parts.length - 1) []).isEmpty with
        | true =>
          rw [hlast] at hend
          simp only [Bool.not_true, Bool.false_eq_true, if_true, false_or] at hend
          obtain rfl : i = parts.length - 1 := by omega
          exact Or.inl (eq_nil_of_getD hi hlast)
        | false =>
          rw [hlast] at hlow
          refine Or.inr (List.all_eq_true.mp hlow _ ?_)
          have hplace : parts.length - (parts.length - skip - 1) = skip + 1 := by omega
          simp only [Bool.false_eq_true, if_false, hplace]
          refine List.mem_drop_iff_getElem.mpr ⟨i - (skip + 1), by omega, ?_⟩
          congr 1
          omega
  · cases h

/-- The groups of a text are the pieces between its colons, but for a dotted form at the end. -/
theorem mem_of_groups? {cs : List Char} {parts : List (List Char)} (h : groups? cs = some parts) :
    3 ≤ (splitAt ':' cs).length ∧ ∀ p ∈ splitAt ':' cs, p ∈ parts ∨ isFourPart p = true := by
  unfold groups? at h
  dsimp only at h
  split at h
  · next last hlast =>
    split at h
    · cases h
    · next hlength =>
      refine ⟨by omega, fun p hp ↦ ?_⟩
      split at h
      · split at h
        · next hdotted =>
          cases h
          rw [← List.dropLast_append_getLast? last hlast] at hp
          obtain hp | hp := List.mem_append.mp hp
          · exact Or.inl (List.mem_append_left _ hp)
          · exact Or.inr (List.mem_singleton.mp hp ▸ hdotted)
        · cases h
      · cases h
        exact Or.inl hp
  · cases h

theorem groups_of_isColonForm {cs : List Char} (h : isColonForm cs = true) :
    ∃ parts, groups? (cs.takeWhile (· ≠ '%')) = some parts ∧ groupsFill parts = true := by
  unfold isColonForm at h
  rw [List.span_eq_takeWhile_dropWhile] at h
  dsimp only at h
  rw [Bool.and_eq_true] at h
  cases hgroups : groups? (cs.takeWhile (· ≠ '%')) with
  | none =>
    rw [hgroups] at h
    cases h.2
  | some parts =>
    rw [hgroups] at h
    exact ⟨parts, rfl, h.2⟩

/-- A character of the colon form, before the zone, is a colon, a dot, a digit or a hexadecimal
digit. -/
theorem mem_of_isColonForm {cs : List Char} (h : isColonForm cs = true) {c : Char}
    (hc : c ∈ cs.takeWhile (· ≠ '%')) :
    c = ':' ∨ c = '.' ∨ isDigit c = true ∨ (Json.hexValue? c).isSome = true := by
  obtain ⟨parts, hgroups, hfill⟩ := groups_of_isColonForm h
  obtain hcolon | ⟨p, hp, hcp⟩ := mem_splitAt ':' hc
  · exact Or.inl hcolon
  · refine Or.inr ?_
    obtain hparts | hdotted := (mem_of_groups? hgroups).2 p hp
    · obtain rfl | hgroup := isGroup_of_groupsFill hfill hparts
      · exact absurd hcp List.not_mem_nil
      · unfold isGroup at hgroup
        rw [Bool.and_eq_true, List.all_eq_true] at hgroup
        exact Or.inr (Or.inr (hgroup.2 c hcp))
    · exact (mem_of_isFourPart hdotted hcp).imp_right Or.inl

/-- The colon form has a colon before the zone. -/
theorem colon_mem_of_isColonForm {cs : List Char} (h : isColonForm cs = true) :
    ':' ∈ cs.takeWhile (· ≠ '%') := by
  obtain ⟨parts, hgroups, -⟩ := groups_of_isColonForm h
  by_contra hnone
  have hlength := (mem_of_groups? hgroups).1
  rw [splitAt_of_not_mem hnone, List.length_singleton] at hlength
  omega

end HostLiteral

/-! ### Hosts that are this machine -/

namespace ServerAddress

/-- The host is this machine. -/
def IsLocal (host : List Char) : Prop := String.ofList host ∈ thisMachine

instance (host : List Char) : Decidable (IsLocal host) :=
  inferInstanceAs (Decidable (String.ofList host ∈ thisMachine))

theorem isLocal_iff {host : List Char} :
    IsLocal host ↔ host = "localhost".toList ∨ host = "127.0.0.1".toList ∨ host = "::1".toList := by
  simp only [IsLocal, thisMachine, List.mem_cons, List.not_mem_nil, or_false, Text.ofList_eq_iff]

/-- In plain letters a local host has no upper-case ones and no percent sign. -/
theorem IsLocal.ne_percent {host : List Char} (h : IsLocal host) : '%' ∉ host := by
  obtain rfl | rfl | rfl := isLocal_iff.mp h <;> decide

/-- A host read up to a zone is a local one only if there is no zone. -/
theorem isLocal_lower_of_zone {name : List Char}
    (h : IsLocal (Text.lower (name.takeWhile (· ≠ '%')) ++ name.dropWhile (· ≠ '%'))) :
    '%' ∉ name ∧ IsLocal (Text.lower name) := by
  have hname : name.takeWhile (· ≠ '%') ++ name.dropWhile (· ≠ '%') = name :=
    List.takeWhile_append_dropWhile
  have hzone : name.dropWhile (· ≠ '%') = [] := by
    by_contra hne
    have hhead := List.head_dropWhile_not (fun c ↦ decide (c ≠ '%')) hne
    have hpercent : (name.dropWhile (· ≠ '%')).head hne = '%' := by simpa using hhead
    have hmem := List.head_mem hne
    rw [hpercent] at hmem
    exact h.ne_percent (List.mem_append_right _ hmem)
  rw [hzone, List.append_nil] at h hname
  refine ⟨fun hmem ↦ ?_, hname ▸ h⟩
  have hall := List.dropWhile_eq_nil_iff.mp hzone '%' hmem
  exact absurd hall (by decide)

/-- The local host in colon form has no letters. -/
theorem not_isLower_of_mem {c : Char} (hc : c ∈ "::1".toList) : ¬ Text.IsLower c := by
  have hchars : "::1".toList = [':', ':', '1'] := rfl
  rw [hchars] at hc
  simp only [List.mem_cons, List.not_mem_nil, or_false] at hc
  obtain rfl | rfl | rfl := hc <;> decide

/-- In brackets the only local host is the one in colon form. -/
theorem eq_of_checkLiteral {name : List Char} (h : checkLiteral name = .ok ())
    (hzone : '%' ∉ name) (hlocal : IsLocal (Text.lower name)) : name = "::1".toList := by
  have hwhole : name.takeWhile (· ≠ '%') = name := Text.takeWhile_of_not_mem hzone
  unfold checkLiteral at h
  split at h
  · next hhead =>
    have hv : 'v' ∈ Text.lower name :=
      Text.mem_lower (List.mem_of_head? hhead) (by decide) (by decide)
    obtain hword | hword | hword := isLocal_iff.mp hlocal <;> rw [hword] at hv <;>
      exact absurd hv (by decide)
  · split at h
    · cases h
    · split at h
      · next hform =>
        have hcolon : ':' ∈ Text.lower name :=
          Text.mem_lower (hwhole ▸ HostLiteral.colon_mem_of_isColonForm hform) (by decide)
            (by decide)
        have hword : Text.lower name = "::1".toList := by
          obtain hword | hword | hword := isLocal_iff.mp hlocal
          · rw [hword] at hcolon
            exact absurd hcolon (by decide)
          · rw [hword] at hcolon
            exact absurd hcolon (by decide)
          · exact hword
        have hself : Text.lower name = name := by
          refine Text.lower_eq_self_of_no_letter (fun c hc ↦ ?_)
            (hword ▸ fun _ ↦ not_isLower_of_mem)
          have hc' : c ∈ name.takeWhile (· ≠ '%') := hwhole.symm ▸ hc
          obtain rfl | rfl | hdigit | hdigit := HostLiteral.mem_of_isColonForm hform hc'
          · decide
          · decide
          · exact (Text.plain_of_isDigit hdigit).1
          · exact Text.plain_of_hexValue? hdigit
        exact hself.symm.trans hword
      · cases h

end ServerAddress

open ServerAddress

namespace Url

/-- The host and the port of an authority without its user information. -/
def splitServer (server : List Char) : List Char × List Char :=
  let bracketed : Option (List Char × List Char) :=
    match server with
    | '[' :: _ =>
      if server.contains ']' then
        some (server.take (server.length - (afterLast ']' server).length), afterLast ']' server)
      else none
    | _ => none
  let (host, rest) := bracketed.getD (server.span (· ≠ ':'))
  (host, match rest with
    | ':' :: port => port
    | port => port)

theorem splitAuthority_snd (cs : List Char) :
    (splitAuthority cs).2 = splitServer (afterLast '@' cs) := by
  unfold splitAuthority
  by_cases h : cs.contains '@' = true
  · rw [if_pos h]
    rfl
  · have hnone : '@' ∉ cs := by simpa using h
    rw [if_neg h, afterLast_of_not_mem hnone]
    rfl

/-- A local name that is not in brackets is sent as a local name. -/
theorem isLocal_of_sentHost {name host : List Char} (hlocal : IsLocal (Text.lower name))
    (hcolon : ':' ∉ name) (hbracket : name.head? ≠ some '[') (h : sentHost name = .ok host) :
    IsLocal host := by
  unfold sentHost at h
  split at h
  · next hempty =>
    rw [List.isEmpty_iff.mp hempty] at hlocal
    exact absurd hlocal (by decide)
  · split at h
    · split at h
      · next hfour =>
        cases h
        have hself : Text.lower name = name := by
          refine Text.lower_eq_self fun c hc ↦ ?_
          obtain rfl | hdigit := HostLiteral.mem_of_isFourPart hfour hc
          · exact ⟨by decide, by decide⟩
          · exact Text.plain_of_isDigit hdigit
        rwa [← hself]
      · cases h
    · rw [if_neg (by simp [hbracket])] at h
      split at h
      · next hplain =>
        cases h
        obtain hword | hword | hword := isLocal_iff.mp hlocal
        · rw [hword]
          decide
        · rw [hword]
          decide
        · have hself : Text.lower name = name := by
            refine Text.lower_eq_self_of_no_letter (by simpa using hplain) ?_
            rw [hword]
            exact fun _ ↦ not_isLower_of_mem
          exact absurd (hself.symm.trans hword ▸ List.mem_cons_self) hcolon
      · obtain hword | hword | hword := isLocal_iff.mp hlocal
        · have hsent : HostName.encode "localhost".toList = .ok "localhost".toList := by
            decide +kernel
          rw [hword, hsent] at h
          cases h
          decide
        · have hsent : HostName.encode "127.0.0.1".toList = .ok "127.0.0.1".toList := by
            decide +kernel
          rw [hword, hsent] at h
          cases h
          decide
        · have hsent : HostName.encode "::1".toList =
              .error (.character ':'.toNat 1 ("::1".toList.map Char.toNat)) := by decide +kernel
          rw [hword, hsent] at h
          cases h

theorem splitServer_of_head {server : List Char} (h : server.head? ≠ some '[') :
    (splitServer server).1 = server.takeWhile (· ≠ ':') := by
  unfold splitServer
  split
  · exact absurd rfl h
  · dsimp only
    rw [Option.getD_none, List.span_eq_takeWhile_dropWhile]

/-- The last square bracket ends a host that begins with one. -/
theorem splitServer_of_brackets (inside : List Char) {port : List Char} (h : ']' ∉ port) :
    (splitServer ('[' :: (inside ++ ']' :: port))).1 = '[' :: (inside ++ [']']) := by
  have hlast : afterLast ']' ('[' :: (inside ++ ']' :: port)) = port := by
    rw [← List.cons_append]
    exact afterLast_append h
  have hcontains : ('[' :: (inside ++ ']' :: port)).contains ']' = true := by simp
  unfold splitServer
  dsimp only
  rw [if_pos hcontains, hlast]
  change ('[' :: (inside ++ ']' :: port)).take _ = _
  have hwhole : '[' :: (inside ++ ']' :: port) = ('[' :: (inside ++ [']'])) ++ port := by simp
  rw [hwhole]
  exact List.take_left' (by simp; omega)

theorem looksFourPart_bracket (inside : List Char) : looksFourPart ('[' :: inside) = false := by
  have hrows : (digitRows ('[' :: inside)).all (· ≥ 1) = false := by
    unfold digitRows
    cases digitRows inside with
    | nil => rfl
    | cons n rows => rfl
  unfold looksFourPart
  dsimp only
  rw [hrows, Bool.false_and, Bool.false_and]

/-- A host in brackets that are more than the literal's own is not sent. -/
theorem sentHost_of_extra_bracket {inside : List Char} (h : ']' ∈ inside.takeWhile (· ≠ '%')) :
    sentHost ('[' :: (inside ++ [']'])) = .error (.bracketedHost ('[' :: (inside ++ [']']))) := by
  have hform : HostLiteral.isColonForm inside = false := by
    refine Bool.eq_false_iff.mpr fun hform ↦ ?_
    obtain hc | hc | hc | hc := HostLiteral.mem_of_isColonForm hform h <;>
      exact absurd hc (by decide)
  have hlast : ('[' :: (inside ++ [']'])).getLast? = some ']' := by
    rw [← List.cons_append]
    exact List.getLast?_concat
  have hinside : (('[' :: (inside ++ [']'])).drop 1).dropLast = inside := by simp
  unfold sentHost
  rw [looksFourPart_bracket, hlast]
  dsimp only
  rw [hinside, hform]
  rfl

/-- Brackets pass the check only around a whole host. -/
theorem literal_of_checkBrackets {authority front inside : List Char}
    (h : checkBrackets authority = .ok ())
    (hcut : cut? '[' (afterLast '@' authority) = some (front, inside)) :
    front = [] ∧ checkLiteral (inside.takeWhile (· ≠ ']')) = .ok () := by
  have hopened : authority.contains '[' = true := by
    by_contra hnone
    have hserver : '[' ∉ afterLast '@' authority :=
      fun hmem ↦ hnone (by simpa using mem_of_mem_afterLast hmem)
    cases (cut?_of_not_mem hserver).symm.trans hcut
  unfold checkBrackets at h
  rw [hopened] at h
  cases hclosed : authority.contains ']' with
  | false =>
    rw [hclosed] at h
    cases h
  | true =>
    rw [hclosed] at h
    dsimp only at h
    rw [hcut] at h
    dsimp only at h
    rw [List.span_eq_takeWhile_dropWhile] at h
    split at h
    · cases h
    · next hplain =>
      simp only [Bool.or_eq_true, not_or, Bool.not_eq_true, Bool.not_eq_false',
        List.isEmpty_iff] at hplain
      exact ⟨hplain.1, h⟩

/-- The name that the check of an address cuts off as the host. -/
def checkedName (authority : List Char) : List Char :=
  match cut? '[' (afterLast '@' authority) with
  | some (_, inside) => inside.takeWhile (· ≠ ']')
  | none => (afterLast '@' authority).takeWhile (· ≠ ':')

/-- The check of an address reads the host up to a zone. -/
theorem host_eq (authority : List Char) :
    ServerAddress.host authority =
      Text.lower ((checkedName authority).takeWhile (· ≠ '%')) ++
        (checkedName authority).dropWhile (· ≠ '%') :=
  congrArg (fun name : List Char × List Char ↦ Text.lower name.1 ++ name.2)
    (List.span_eq_takeWhile_dropWhile _ (checkedName authority))

/-- A literal that the check of an address takes for a local host is sent as one. -/
theorem isLocal_of_literal {inside name port scheme host : List Char} {sent : Option Int}
    (hname : inside.takeWhile (· ≠ ']') = "::1".toList)
    (hserver : splitServer ('[' :: inside) = (name, port))
    (hhost : sentHost name = .ok host) (hport : sentPort scheme port = .ok sent) :
    IsLocal host := by
  by_cases hclosed : ']' ∈ inside
  · obtain ⟨front, back, hinside, hfront⟩ := List.eq_append_cons_of_mem hclosed
    have hword : front = "::1".toList := by
      rw [hinside, List.takeWhile_append_of_pos (Text.forall_ne_of_not_mem hfront)] at hname
      simpa using hname
    subst hinside hword
    by_cases hagain : ']' ∈ back
    · obtain ⟨middle, hback, hlast⟩ := exists_afterLast hagain
      -- What stands between the two brackets makes the literal ill-formed.
      have hsplit := splitServer_of_brackets ("::1".toList ++ ']' :: middle) hlast
      rw [List.append_assoc, List.cons_append, ← hback, hserver] at hsplit
      subst hsplit
      have hextra : ']' ∈ ("::1".toList ++ ']' :: middle).takeWhile (· ≠ '%') := by
        simp
      cases (sentHost_of_extra_bracket hextra).symm.trans hhost
    · have hsplit := splitServer_of_brackets "::1".toList hagain
      rw [hserver] at hsplit
      subst hsplit
      have hsent : sentHost "[::1]".toList = .ok "::1".toList := by decide +kernel
      cases hsent.symm.trans hhost
      decide
  · rw [Text.takeWhile_of_not_mem hclosed] at hname
    subst hname
    have hsplit : splitServer "[::1".toList = ("[".toList, ":1".toList) := by decide +kernel
    cases hsplit.symm.trans hserver
    have hnumber : Number.anyInt? ":1".toList = none := by decide +kernel
    unfold sentPort at hport
    rw [hnumber] at hport
    cases hport

/-- Where the check of an address finds a local host, the request goes to one. -/
theorem isLocal_of_splitAuthority {authority userInfo name port scheme host : List Char}
    {sent : Option Int} (hbrackets : checkBrackets authority = .ok ())
    (hlocal : IsLocal (ServerAddress.host authority))
    (hsplit : splitAuthority authority = (userInfo, name, port))
    (hhost : sentHost name = .ok host) (hport : sentPort scheme port = .ok sent) :
    IsLocal host := by
  have hserver : splitServer (afterLast '@' authority) = (name, port) := by
    rw [← splitAuthority_snd, hsplit]
  by_cases hopened : '[' ∈ afterLast '@' authority
  · obtain ⟨front, inside, hcut, hfront⟩ := List.eq_append_cons_of_mem hopened
    have hname : checkedName authority = inside.takeWhile (· ≠ ']') := by
      unfold checkedName
      rw [hcut, cut?_append hfront]
    rw [host_eq, hname] at hlocal
    obtain ⟨hzone, hlower⟩ := isLocal_lower_of_zone hlocal
    obtain ⟨rfl, hliteral⟩ := literal_of_checkBrackets hbrackets (hcut ▸ cut?_append hfront)
    rw [hcut] at hserver
    exact isLocal_of_literal (eq_of_checkLiteral hliteral hzone hlower) hserver hhost hport
  · have hchecked : checkedName authority = (afterLast '@' authority).takeWhile (· ≠ ':') := by
      unfold checkedName
      rw [cut?_of_not_mem hopened]
    rw [host_eq, hchecked] at hlocal
    obtain ⟨-, hlower⟩ := isLocal_lower_of_zone hlocal
    have hhead : (afterLast '@' authority).head? ≠ some '[' :=
      fun hhead ↦ hopened (List.mem_of_head? hhead)
    have hname := splitServer_of_head hhead
    rw [hserver] at hname
    subst hname
    refine isLocal_of_sentHost hlower (fun hcolon ↦ ?_) (fun hname ↦ ?_) hhost
    · exact absurd (List.mem_takeWhile_imp hcolon) (by decide)
    · exact hopened (List.takeWhile_subset _ (List.mem_of_head? hname))

end Url

end FormCatalog
