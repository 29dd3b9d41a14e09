import FormCatalog.Proofs.Web.Addresses
import FormCatalog.Settings.Load

/-!
# The normal form of a server's address

An address is trimmed of blanks at both ends and then of slashes at its end. `Settled` are the
addresses that this leaves alone. What is left of any other address begins with no blank and ends
with no slash, but it need not be settled: where blanks stand before the slashes, they are at the
end once the slashes are gone (`HidesBlank`), and trimming again takes them away.

Settings keep the trimmed address when they are loaded, and put the address into its normal form
when they are prepared. `settles_iff_no_blank` says that an address which passed the check passes it
again as it is, and that preparing does not change a loaded address, if and only if no blank is left
at the end. An address with a blank before its last slash shows that one can be left
(`blank_before_slash_stays`).
-/

set_option autoImplicit false
set_option relaxedAutoImplicit false

namespace FormCatalog

namespace ServerAddress

/-! ### Addresses that trimming leaves alone -/

/-- There is nothing to trim at either end. -/
structure Settled (address : String) : Prop where
  first : ∀ c ∈ address.toList.head?, Text.isBlank c = false
  last : ∀ c ∈ address.toList.getLast?, Text.isBlank c = false ∧ c ≠ '/'

/-- The last character is a blank. -/
def EndsBlank (address : String) : Prop :=
  ∃ c ∈ address.toList.getLast?, Text.isBlank c = true

/-- Slashes stand at the end, perhaps with blanks after them, and a blank before them. -/
def HidesBlank (address : String) : Prop :=
  ∃ front c slashes back, address.toList = front ++ c :: (slashes ++ back) ∧
    (∃ d ∈ front, Text.isBlank d = false) ∧ Text.isBlank c = true ∧ slashes ≠ [] ∧
    (∀ s ∈ slashes, s = '/') ∧ ∀ b ∈ back, Text.isBlank b = true

variable {address normal : String} {allowInsecure : Bool}

theorem toList_normalize (address : String) :
    (normalize address).toList =
      Text.dropTrailing (· = '/') (Text.trim Text.isBlank address.toList) :=
  String.toList_ofList

/-- What is left begins with no blank. -/
theorem head?_normalize : ∀ c ∈ (normalize address).toList.head?, Text.isBlank c = false := by
  intro c hc
  have hfront := (Text.dropTrailing_prefix (· = '/') (Text.trim Text.isBlank address.toList)).trans
    (Text.dropTrailing_prefix _ _)
  rw [← toList_normalize] at hfront
  obtain ⟨tail, htail⟩ := hfront
  have hhead := List.head?_dropWhile_not Text.isBlank address.toList
  have hne := List.ne_nil_of_mem (List.mem_of_head? hc)
  rw [← htail, List.head?_append_of_ne_nil _ hne, hc] at hhead
  exact hhead

/-- What is left ends with no slash. -/
theorem getLast?_normalize : ∀ c ∈ (normalize address).toList.getLast?, c ≠ '/' := by
  intro c hc
  rw [toList_normalize] at hc
  exact of_decide_eq_false (Text.getLast?_dropTrailing c hc)

theorem settled_normalize_iff : Settled (normalize address) ↔ ¬ EndsBlank (normalize address) := by
  constructor
  · rintro h ⟨c, hc, hblank⟩
    exact absurd ((h.last c hc).1.symm.trans hblank) (by decide)
  · intro h
    exact ⟨head?_normalize, fun c hc ↦
      ⟨Bool.eq_false_iff.mpr fun hblank ↦ h ⟨c, hc, hblank⟩, getLast?_normalize c hc⟩⟩

/-- The settled addresses are those that are their own normal form. -/
theorem normalize_eq_self_iff : normalize address = address ↔ Settled address := by
  constructor
  · intro h
    refine ⟨h ▸ head?_normalize, fun c hc ↦ ⟨?_, ?_⟩⟩
    · -- A blank at the end would have been trimmed before the slashes were.
      have hfront := Text.dropTrailing_prefix (· = '/') (Text.trim Text.isBlank address.toList)
      have hwhole := (Text.dropTrailing_prefix Text.isBlank
        (address.toList.dropWhile Text.isBlank)).length_le
      have hdrop := (List.dropWhile_suffix Text.isBlank (l := address.toList)).length_le
      rw [← toList_normalize, h] at hfront
      have htrim : Text.trim Text.isBlank address.toList = address.toList :=
        (hfront.eq_of_length_le (hwhole.trans hdrop)).symm
      rw [← htrim] at hc
      exact Text.getLast?_dropTrailing c hc
    · exact getLast?_normalize c (h.symm ▸ hc)
  · intro h
    have hfront : address.toList.dropWhile Text.isBlank = address.toList := by
      cases hchars : address.toList with
      | nil => rfl
      | cons c rest =>
        exact List.dropWhile_cons_of_neg (by simp [h.first c (by rw [hchars]; rfl)])
    rw [← String.toList_inj, toList_normalize]
    unfold Text.trim
    rw [hfront, Text.dropTrailing_eq_self_iff.mpr fun c hc ↦ (h.last c hc).1,
      Text.dropTrailing_eq_self_iff.mpr fun c hc ↦ decide_eq_false (h.last c hc).2]

/-! ### Blanks before slashes -/

theorem isBlank_slash : Text.isBlank '/' = false := by decide

theorem slash_ne_of_isBlank {c : Char} (h : Text.isBlank c = true) : c ≠ '/' := by
  rintro rfl
  exact absurd h (by decide)

theorem endsBlank_of_hidesBlank (h : HidesBlank address) : EndsBlank (normalize address) := by
  obtain ⟨front, c, slashes, back, haddress, ⟨d, hd, hplain⟩, hc, hne, hslashes, hback⟩ := h
  have hfront : front.dropWhile Text.isBlank ≠ [] := fun hnil ↦
    absurd (List.dropWhile_eq_nil_iff.mp hnil d hd) (by simp [hplain])
  have hlast : ∀ s ∈ (front.dropWhile Text.isBlank ++ c :: slashes).getLast?,
      Text.isBlank s = false := by
    intro s hs
    rw [List.getLast?_append_of_ne_nil _ (List.cons_ne_nil _ _), List.getLast?_cons_of_ne_nil hne]
      at hs
    exact hslashes s (List.mem_of_getLast? hs) ▸ isBlank_slash
  have hdrop : address.toList.dropWhile Text.isBlank =
      front.dropWhile Text.isBlank ++ c :: slashes ++ back := by
    rw [haddress, List.dropWhile_append, if_neg (by simpa using hfront), List.append_assoc,
      List.cons_append]
  have hcut : Text.dropTrailing (· = '/') (front.dropWhile Text.isBlank ++ [c] ++ slashes) =
      front.dropWhile Text.isBlank ++ [c] := by
    refine Text.dropTrailing_append (fun s hs ↦ ?_) fun s hs ↦ decide_eq_true (hslashes s hs)
    rw [List.getLast?_concat] at hs
    exact decide_eq_false (Option.some.inj hs ▸ slash_ne_of_isBlank hc)
  refine ⟨c, ?_, hc⟩
  rw [toList_normalize]
  unfold Text.trim
  rw [hdrop, Text.dropTrailing_append hlast hback, List.append_cons, hcut, List.getLast?_concat]
  rfl

theorem hidesBlank_of_endsBlank (h : EndsBlank (normalize address)) : HidesBlank address := by
  obtain ⟨c, hc, hblank⟩ := h
  obtain ⟨front, hnormal⟩ := List.getLast?_eq_some_iff.mp hc
  obtain ⟨back, htrim, hback⟩ := Text.exists_eq_dropTrailing_append Text.isBlank
    (address.toList.dropWhile Text.isBlank)
  obtain ⟨slashes, hslashed, hslashes⟩ := Text.exists_eq_dropTrailing_append (· = '/')
    (Text.trim Text.isBlank address.toList)
  rw [← toList_normalize, hnormal] at hslashed
  have hne : slashes ≠ [] := by
    rintro rfl
    have hend : c ∈ (Text.trim Text.isBlank address.toList).getLast? → Text.isBlank c = false :=
      Text.getLast?_dropTrailing c
    rw [hslashed, List.append_nil, List.getLast?_concat] at hend
    exact absurd (hblank.symm.trans (hend rfl)) (by decide)
  have hfirst : ∃ d ∈ front, Text.isBlank d = false := by
    have hhead := @head?_normalize address
    rw [hnormal] at hhead
    cases front with
    | nil => exact absurd (hblank.symm.trans (hhead c rfl)) (by decide)
    | cons d rest => exact ⟨d, List.mem_cons_self, hhead d rfl⟩
  obtain ⟨d, hd, hplain⟩ := hfirst
  refine ⟨address.toList.takeWhile Text.isBlank ++ front, c, slashes, back, ?_,
    ⟨d, List.mem_append_right _ hd, hplain⟩, hblank, hne,
    fun s hs ↦ of_decide_eq_true (hslashes s hs), hback⟩
  have hmiddle : address.toList.dropWhile Text.isBlank = front ++ [c] ++ slashes ++ back := by
    rw [htrim]
    exact congrArg (· ++ back) hslashed
  calc address.toList
      = address.toList.takeWhile Text.isBlank ++ address.toList.dropWhile Text.isBlank :=
        List.takeWhile_append_dropWhile.symm
    _ = address.toList.takeWhile Text.isBlank ++ front ++ c :: (slashes ++ back) := by
        rw [hmiddle]
        simp

/-- Trimming leaves a blank at the end if it stood before slashes. -/
theorem endsBlank_normalize_iff : EndsBlank (normalize address) ↔ HidesBlank address :=
  ⟨hidesBlank_of_endsBlank, endsBlank_of_hidesBlank⟩

/-! ### The check -/

theorem eq_normalize_of_check (h : check address allowInsecure = .ok normal) :
    normal = normalize address :=
  (check_eq_ok h).1

/-- The check looks at the normal form alone. -/
theorem check_congr {other : String} (h : normalize address = normalize other) :
    check address allowInsecure = check other allowInsecure := by
  unfold check
  rw [h]

/-- What passed the check passes it again unchanged, if it is settled. -/
theorem check_eq_self_iff (h : check address allowInsecure = .ok normal) :
    check normal allowInsecure = .ok normal ↔ ¬ EndsBlank normal := by
  obtain rfl := eq_normalize_of_check h
  rw [← settled_normalize_iff, ← normalize_eq_self_iff]
  constructor
  · exact fun hagain ↦ (eq_normalize_of_check hagain).symm
  · exact fun hself ↦ (check_congr hself).trans h

/-- What the check makes of an address that passes it. -/
structure Normalizes (address normal : String) (allowInsecure : Bool) : Prop where
  first : ∀ c ∈ normal.toList.head?, Text.isBlank c = false
  last : ∀ c ∈ normal.toList.getLast?, c ≠ '/'
  /-- It passes the check again as it is, unless a blank is left at its end. -/
  again_iff : check normal allowInsecure = .ok normal ↔ ¬ EndsBlank normal
  /-- A blank is left where one stood before slashes. -/
  endsBlank_iff : EndsBlank normal ↔ HidesBlank address

theorem normalizes_of_check (h : check address allowInsecure = .ok normal) :
    Normalizes address normal allowInsecure := by
  have hagain := check_eq_self_iff h
  obtain rfl := eq_normalize_of_check h
  exact ⟨head?_normalize, getLast?_normalize, hagain, endsBlank_normalize_iff⟩

end ServerAddress

open ServerAddress

/-! ### Settings -/

namespace Settings

/-- A loaded address has been trimmed, unless it is the empty one by default. -/
theorem serverUrl_of_read {given? : String → Option Json} {settings : Settings}
    (h : read given? = .ok settings) :
    settings.serverUrl = "" ∨ ∃ given, settings.serverUrl = normalize given := by
  unfold read at h
  dsimp only at h
  split at h
  · rename_i hurl _ _ _ _ _ _ _ _ _ _ _
    cases h
    unfold field at hurl
    split at hurl
    · cases hurl
      exact Or.inl rfl
    · rename_i given _
      cases given with
      | string given =>
        cases hurl
        exact Or.inr ⟨given, rfl⟩
      | _ => cases hurl
  · cases h

theorem serverUrl_of_load {sources : Sources} {settings : Settings}
    (h : load sources = .ok settings) :
    settings.serverUrl = "" ∨ ∃ given, settings.serverUrl = normalize given := by
  unfold load at h
  cases hfile : fileEntries sources with
  | error fault =>
    rw [hfile] at h
    cases h
  | ok file =>
    rw [hfile] at h
    exact serverUrl_of_read h

/-- Settings that lack nothing have the normal form of their address. -/
theorem serverUrl_of_prepare {settings ready : Settings} (h : settings.prepare = (ready, [])) :
    settings.serverUrl ≠ "" ∧ ready.serverUrl = normalize settings.serverUrl := by
  unfold prepare at h
  by_cases hempty : settings.serverUrl = ""
  · simp [hempty] at h
  · cases hcheck : check settings.serverUrl settings.allowInsecureHttp with
    | error refusal => simp [hempty, hcheck] at h
    | ok normal =>
      rw [if_neg hempty, hcheck] at h
      have hready : normal = ready.serverUrl :=
        congrArg Settings.serverUrl (Prod.ext_iff.mp h).1
      exact ⟨hempty, hready.symm.trans (eq_normalize_of_check hcheck)⟩

/-- Preparing changes a loaded address if a blank is left at its end. -/
theorem serverUrl_eq_iff {sources : Sources} {settings ready : Settings}
    (hload : load sources = .ok settings) (hready : settings.prepare = (ready, [])) :
    ready.serverUrl = settings.serverUrl ↔ ¬ EndsBlank settings.serverUrl := by
  obtain ⟨hne, hnormal⟩ := serverUrl_of_prepare hready
  obtain ⟨given, hgiven⟩ := (serverUrl_of_load hload).resolve_left hne
  rw [hnormal, hgiven, normalize_eq_self_iff, settled_normalize_iff]

end Settings

/-- An address that passed the check is in normal form, and a loaded one is left alone when the
settings are prepared, if and only if no blank is left at its end. -/
theorem settles_iff_no_blank (address : String) (allowInsecure : Bool)
    (sources : Settings.Sources) :
    (∀ normal, check address allowInsecure = .ok normal →
      Normalizes address normal allowInsecure) ∧
    ∀ settings ready, Settings.load sources = .ok settings → settings.prepare = (ready, []) →
      (ready.serverUrl = settings.serverUrl ↔ ¬ EndsBlank settings.serverUrl) :=
  ⟨fun _ ↦ normalizes_of_check, fun _ _ ↦ Settings.serverUrl_eq_iff⟩

/-- The sources of settings that give an address and nothing else. -/
def addressed (address : String) : Settings.Sources := ⟨[("server_url", .string address)], [], none⟩

/-- An address with blanks around it and slashes at its end, and one with a blank between two
slashes: the first comes to rest at once, the other is changed again. -/
theorem settles_iff_no_blank_illustrated :
    (check "\u3000https://x.org/a// " false = .ok "https://x.org/a" ∧
      Normalizes "\u3000https://x.org/a// " "https://x.org/a" false) ∧
    (check "https://x.org/ /" false = .ok "https://x.org/ " ∧
      Normalizes "https://x.org/ /" "https://x.org/ " false) ∧
    Settings.load (addressed "https://x.org//") = .ok { serverUrl := "https://x.org" } ∧
      Settings.prepare { serverUrl := "https://x.org" } = ({ serverUrl := "https://x.org" }, []) ∧
      ("https://x.org" = "https://x.org" ↔ ¬ EndsBlank "https://x.org") := by
  have hplain : check "\u3000https://x.org/a// " false = .ok "https://x.org/a" := by
    decide +kernel
  have hhidden : check "https://x.org/ /" false = .ok "https://x.org/ " := by decide +kernel
  have hload : Settings.load (addressed "https://x.org//") =
      .ok { serverUrl := "https://x.org" } := by
    rfl
  have hready : Settings.prepare { serverUrl := "https://x.org" } =
      ({ serverUrl := "https://x.org" }, []) := by
    rfl
  obtain ⟨hrests, hkept⟩ := settles_iff_no_blank "\u3000https://x.org/a// " false
    (addressed "https://x.org//")
  obtain ⟨hmoves, -⟩ := settles_iff_no_blank "https://x.org/ /" false (addressed "https://x.org//")
  exact ⟨⟨hplain, hrests _ hplain⟩, ⟨hhidden, hmoves _ hhidden⟩, hload, hready,
    hkept _ _ hload hready⟩

/-- With a blank before its last slash an address passes the check with the blank at its end, and
what passed is changed when it is checked again, also by settings that have been loaded. -/
theorem blank_before_slash_stays :
    check "https://x.org /" false = .ok "https://x.org " ∧
      check "https://x.org " false = .ok "https://x.org" ∧
      ∃ settings ready, Settings.load (addressed "https://x.org /") = .ok settings ∧
        settings.prepare = (ready, []) ∧ settings.serverUrl = "https://x.org " ∧
        ready.serverUrl = "https://x.org" :=
  ⟨by decide +kernel, by decide +kernel, { serverUrl := "https://x.org " },
    { serverUrl := "https://x.org" }, rfl, rfl, rfl, rfl⟩

end FormCatalog
