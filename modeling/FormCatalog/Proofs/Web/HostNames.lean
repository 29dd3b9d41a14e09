import FormCatalog.Proofs.Number.Digits
import FormCatalog.Proofs.Programs
import FormCatalog.Proofs.Web.Rewriting

/-!
# Host names in plain letters

An international name is sent in characters that a host may hold (`HostName.inHost_of_encode`). A
label that is plain already is sent as it is, and only after it has been read back: what was read
holds its plain characters, and the rest of it are digits and hyphens. A name in plain form is read
back as one that is not plain (`HostName.decode_eq_ok`), because a code point that is not plain is
put in at the end of every number.

So the host of an address is in colon form or in such characters (`Url.sentHost_cases`), and it
cannot be taken for one that is read back. Two hosts that are read as the same name are sent as the
same, or both are in plain form (`Url.sameHost_of_hostName_eq`).

A request can be made for an address (`Url.Sendable`) if its host is read back and is plain; only
the zone of a colon form may be otherwise.
-/

set_option autoImplicit false
set_option relaxedAutoImplicit false

namespace FormCatalog

open Url

/-! ### Characters of a host -/

namespace Url

variable {c : Char}

theorem inHost_of_isDigit (h : Number.isDigit c = true) : inHost c = true := by
  obtain ⟨hlow, hhigh⟩ := Number.digit_bounds h
  have hall := Text.forall_plain (p := fun d ↦ 48 ≤ d.toNat → d.toNat ≤ 57 → inHost d = true)
    (by decide +kernel)
  exact hall c (by omega) hlow hhigh

theorem inHost_of_mem_escapeChars (h : c ∈ escapeChars) : inHost c = true := by
  have hall : escapeChars.all inHost := by decide
  exact List.all_eq_true.mp hall c h

/-- A plain character whose lower-case form may stand in a host may stand there itself. -/
theorem inHost_of_toLower (hplain : c.toNat < 128) (h : inHost c.toLower = true) :
    inHost c = true :=
  Text.forall_plain (p := fun d ↦ inHost d.toLower = true → inHost d = true) (by decide +kernel)
    c hplain h

/-- Of the plain characters the hyphen, figures and small letters may stand anywhere in a name. -/
theorem plain_of_isNamePoint {n : Nat} (hplain : n < 128) (h : Text.isNamePoint n = true) :
    n = 45 ∨ (48 ≤ n ∧ n ≤ 57) ∨ (97 ≤ n ∧ n ≤ 122) := by
  have hruns : ∀ run ∈ Text.nameRuns, run.1 < 128 →
      run = (45, 45, 1) ∨ run = (48, 57, 1) ∨ run = (97, 122, 1) := by decide +kernel
  unfold Text.isNamePoint at h
  obtain ⟨⟨first, last, step⟩, hrun, hin⟩ := List.any_eq_true.mp h
  simp only [Bool.and_eq_true, decide_eq_true_eq] at hin
  have hfound := hruns _ hrun (Nat.lt_of_le_of_lt hin.1.1 hplain)
  simp only [Prod.mk.injEq] at hfound
  omega

theorem inHost_of_isNamePoint (hplain : c.toNat < 128) (h : Text.isNamePoint c.toNat = true) :
    inHost c = true := by
  have hall := Text.forall_plain
    (p := fun d ↦ d.toNat = 45 ∨ (48 ≤ d.toNat ∧ d.toNat ≤ 57) ∨ (97 ≤ d.toNat ∧ d.toNat ≤ 122) →
      inHost d = true)
    (by decide +kernel)
  exact hall c hplain (plain_of_isNamePoint hplain h)

end Url

/-! ### Plain form -/

namespace Punycode

theorem inHost_digit {n : Nat} (h : n < 36) : inHost (digit n) = true := by
  have hall : ∀ n < 36, inHost (digit n) = true := by decide
  exact hall n h

theorem inHost_of_digitValue? {c : Char} (h : (digitValue? c).isSome = true) :
    inHost c = true := by
  have hplain : c.toNat < 128 := by
    unfold digitValue? at h
    split at h
    · next hc =>
      have hhigh : c.toNat ≤ 122 := hc.2
      omega
    · split at h
      · next hc =>
        have hhigh : c.toNat ≤ 90 := hc.2
        omega
      · split at h
        · next hc =>
          have hhigh : c.toNat ≤ 57 := hc.2
          omega
        · cases h
  exact Text.forall_plain (p := fun d ↦ (digitValue? d).isSome = true → inHost d = true)
    (by decide +kernel) c hplain h

theorem threshold_le (k bias : Nat) : threshold k bias ≤ 26 := by
  unfold threshold
  split_ifs <;> omega

theorem inHost_digits {bias fuel k q : Nat} {c : Char} (h : c ∈ digits bias fuel k q) :
    inHost c = true := by
  induction fuel generalizing k q with
  | zero => exact absurd h List.not_mem_nil
  | succ fuel ih =>
    have hthreshold := threshold_le k bias
    unfold digits at h
    dsimp only at h
    split at h
    · rw [List.mem_singleton.mp h]
      exact inHost_digit (by omega)
    · obtain rfl | h := List.mem_cons.mp h
      · have hrest := Nat.mod_lt (q - threshold k bias)
          (by omega : 36 - threshold k bias > 0)
        exact inHost_digit (by omega)
      · exact ih h

theorem inHost_pass {label : List Char} {p : Progress} (hp : ∀ c ∈ p.text, inHost c = true) :
    ∀ c ∈ (p.pass label).text, inHost c = true := by
  unfold Progress.pass
  induction label generalizing p with
  | nil => exact hp
  | cons d label ih =>
    rw [List.foldl_cons]
    refine ih ?_
    split_ifs
    · exact hp
    · intro c hc
      obtain hc | hc := List.mem_append.mp hc
      · exact inHost_digits (List.mem_reverse.mp hc)
      · exact hp c hc
    · exact hp

theorem inHost_passes {label : List Char} {codes : List Nat} {p : Progress}
    (hp : ∀ c ∈ p.text, inHost c = true) : ∀ c ∈ (p.passes label codes).text, inHost c = true := by
  induction codes generalizing p with
  | nil => exact hp
  | cons point codes ih =>
    unfold Progress.passes
    exact ih (inHost_pass hp)

/-- The plain form of a label has its plain characters, a hyphen and digits. -/
theorem inHost_of_encode {label : List Char}
    (h : ∀ c ∈ label, c.toNat < 128 → inHost c = true) : ∀ c ∈ encode label, inHost c = true := by
  intro c hc
  have hplain : c ∈ label.filter (fun c ↦ c.toNat < 128) → inHost c = true := by
    intro hc
    obtain ⟨hmem, hlow⟩ := List.mem_filter.mp hc
    exact h c hmem (of_decide_eq_true hlow)
  have hrest {start : Progress} (hstart : start.text = []) :
      c ∈ (start.passes label (points label)).text.reverse → inHost c = true := by
    intro hc
    refine inHost_passes ?_ c (List.mem_reverse.mp hc)
    simp [hstart]
  unfold encode at hc
  dsimp only at hc
  split at hc
  · exact hrest rfl hc
  · obtain hc | hc := List.mem_append.mp hc
    · exact hplain hc
    · obtain rfl | hc := List.mem_cons.mp hc
      · decide
      · exact hrest rfl hc

/-! ### Reading plain form -/

/-- What is known of a label under way: the plain characters are in its text, and what is put in is
not plain. -/
structure Reading.Sound (plain : List Nat) (r : Reading) : Prop where
  plain : ∀ n ∈ plain, n ∈ r.text
  point : 128 ≤ r.point
  place : 36 ≤ r.numeral.place

/-- A code point that is not plain has been put in, or a number is not complete. -/
def Reading.Advanced (r : Reading) : Prop := (∃ n ∈ r.text, 128 ≤ n) ∨ 36 < r.numeral.place

variable {plain : List Nat} {r r' : Reading} {c : Char} {delta : Nat}

theorem Reading.sound_start (plain : List Char) :
    (Reading.start plain).Sound (plain.map Char.toNat) :=
  ⟨fun _ hn ↦ hn, Nat.le_refl _, Nat.le_refl _⟩

theorem Reading.Sound.insert (hr : r.Sound plain) (h : r.insert delta = some r') :
    r'.Sound plain ∧ r'.Advanced := by
  unfold Reading.insert at h
  obtain ⟨-, h⟩ := Option.ite_none_left_eq_some.mp h
  cases h
  have hpoint : 128 ≤ r.point + (r.position + delta) / (r.text.length + 1) :=
    Nat.le_add_right_of_le hr.point
  refine ⟨⟨fun n hn ↦ ?_, hpoint, Nat.le_refl _⟩, Or.inl ⟨_, ?_, hpoint⟩⟩
  · have hmem := hr.plain n hn
    rw [← List.take_append_drop ((r.position + delta) % (r.text.length + 1)) r.text] at hmem
    exact List.mem_append.mpr
      ((List.mem_append.mp hmem).imp_right fun hdrop ↦ List.mem_cons_of_mem _ hdrop)
  · exact List.mem_append_right _ List.mem_cons_self

/-- A digit ends a number, and a code point is put in, or the number goes on. -/
theorem Reading.Sound.step (hr : r.Sound plain) (h : r.step c = some r') :
    r'.Sound plain ∧ r'.Advanced ∧ (digitValue? c).isSome = true := by
  unfold Reading.step at h
  cases hdigit : digitValue? c with
  | none =>
    rw [hdigit] at h
    cases h
  | some d =>
    rw [hdigit] at h
    dsimp only at h
    split at h
    · obtain ⟨hsound, hadvanced⟩ := hr.insert h
      exact ⟨hsound, hadvanced, rfl⟩
    · cases h
      have hplace := hr.place
      exact ⟨⟨hr.plain, hr.point, Nat.le_add_left _ _⟩, Or.inr (by dsimp only; omega), rfl⟩

theorem Reading.Sound.foldlM {cs : List Char} (hr : r.Sound plain)
    (h : cs.foldlM Reading.step r = some r') :
    r'.Sound plain ∧ (∀ c ∈ cs, (digitValue? c).isSome = true) ∧ (cs ≠ [] → r'.Advanced) := by
  induction cs generalizing r with
  | nil =>
    cases h
    exact ⟨hr, by simp, by simp⟩
  | cons c cs ih =>
    rw [List.foldlM_cons] at h
    obtain ⟨next, hnext, hrest⟩ := Option.bind_eq_some_iff.mp h
    obtain ⟨hsound, hadvanced, hdigit⟩ := hr.step hnext
    obtain ⟨hlast, hdigits, hmore⟩ := ih hsound hrest
    refine ⟨hlast, List.forall_mem_cons.mpr ⟨hdigit, hdigits⟩, fun _ ↦ ?_⟩
    by_cases hnil : cs = []
    · rw [hnil] at hrest
      cases hrest
      exact hadvanced
    · exact hmore hnil

theorem decode?_eq_bind (cs : List Char) : decode? cs =
    ((ServerAddress.afterLast '-' cs).foldlM Reading.step (Reading.start
      (cs.take (cs.length - (ServerAddress.afterLast '-' cs).length - 1)))).bind fun r ↦
        if r.numeral.place = 36 then some r.text else none := by
  unfold decode? ServerAddress.afterLast
  dsimp only
  split
  · next hread => rw [hread, Option.bind_none]
  · next hread => rw [hread, Option.bind_some]

/-- The parts of a text in plain form: what stands before the last hyphen, and the digits. -/
theorem decode?_eq_some {cs : List Char} {points : List Nat} (h : decode? cs = some points) :
    ∃ plain digits, (cs = plain ++ '-' :: digits ∨ plain = [] ∧ cs = digits) ∧ '-' ∉ digits ∧
      (∀ c ∈ plain, c.toNat ∈ points) ∧ (∀ c ∈ digits, (digitValue? c).isSome = true) ∧
      (digits ≠ [] → ∃ n ∈ points, 128 ≤ n) := by
  -- The digits are what follows the last hyphen.
  have hcut : ∃ plain, cs.take (cs.length - (ServerAddress.afterLast '-' cs).length - 1) = plain ∧
      (cs = plain ++ '-' :: ServerAddress.afterLast '-' cs ∨
        plain = [] ∧ cs = ServerAddress.afterLast '-' cs) ∧
      '-' ∉ ServerAddress.afterLast '-' cs := by
    by_cases hmark : '-' ∈ cs
    · obtain ⟨front, hcs, hnone⟩ := ServerAddress.exists_afterLast hmark
      refine ⟨front, ?_, Or.inl hcs, hnone⟩
      have hlength := congrArg List.length hcs
      rw [List.length_append, List.length_cons] at hlength
      rw [show cs.length - (ServerAddress.afterLast '-' cs).length - 1 = front.length by omega]
      nth_rewrite 1 [hcs]
      exact List.take_left
    · have hself := ServerAddress.afterLast_of_not_mem hmark
      exact ⟨[], by simp [hself], Or.inr ⟨rfl, hself.symm⟩, hself.symm ▸ hmark⟩
  obtain ⟨plain, hplain, hcs, hnone⟩ := hcut
  rw [decode?_eq_bind, hplain] at h
  obtain ⟨r, hread, h⟩ := Option.bind_eq_some_iff.mp h
  obtain ⟨hcomplete, h⟩ := Option.ite_none_right_eq_some.mp h
  cases h
  obtain ⟨hsound, hdigits, hadvanced⟩ := (Reading.sound_start plain).foldlM hread
  refine ⟨plain, _, hcs, hnone, fun c hc ↦ hsound.plain _ (List.mem_map_of_mem hc), hdigits,
    fun hne ↦ ?_⟩
  exact (hadvanced hne).resolve_right (by omega)

end Punycode

/-! ### Labels -/

namespace HostName

open HostLiteral

/-- The plain code points of the list may stand anywhere in a name. -/
def PlainFit (points : List Nat) : Prop := ∀ n ∈ points, n < 128 → Text.isNamePoint n = true

theorem contextFits?_of_plain {n : Nat} (hplain : n < 128) (label before after : List Nat) :
    contextFits? label n before after = none := by
  unfold contextFits? isArabicFigure isEasternFigure
  simp only [Bool.and_eq_true, decide_eq_true_eq]
  split_ifs <;> first | rfl | omega

theorem plainFit_of_checkPoints {label before points : List Nat}
    (h : checkPoints label before points = .ok ()) : PlainFit points := by
  induction points generalizing before with
  | nil => exact fun n hn ↦ absurd hn List.not_mem_nil
  | cons n points ih =>
    have hrest (h : checkPoints label (n :: before) points = .ok ())
        (hn : n < 128 → Text.isNamePoint n = true) : PlainFit (n :: points) :=
      List.forall_mem_cons.mpr ⟨hn, ih h⟩
    unfold checkPoints at h
    split at h
    · next hname => exact hrest h fun _ ↦ hname
    · split at h
      · next hjoiner =>
        split at h
        · exact hrest h fun hplain ↦ by omega
        · cases h
      · by_cases hplain : n < 128
        · rw [contextFits?_of_plain hplain] at h
          cases h
        · split at h
          · exact hrest h fun hn ↦ absurd hn hplain
          · cases h
          · cases h

theorem plainFit_of_checkLabel {label : List Nat} (h : checkLabel label = .ok ()) :
    PlainFit label := by
  unfold checkLabel at h
  repeat' split at h
  all_goals first
    | cases h
    | skip
  obtain ⟨⟨⟩, hpoints, -⟩ := Except.bind_eq_ok_iff.mp h
  exact plainFit_of_checkPoints hpoints

theorem inHost_of_mem_mark {c : Char} (h : c ∈ mark) : inHost c = true := by
  have hall : mark.all inHost = true := by decide
  exact List.all_eq_true.mp hall c h

section PlainForm

variable {rest : List Char} {points : List Nat} (hread : Punycode.decode? rest = some points)

include hread

/-- The letters of a plain form may stand in a host, where the code points it is read as may stand
in a name. -/
theorem inHost_of_decode? (hfit : PlainFit points) {c : Char} (hc : c ∈ rest)
    (hplain : c.toNat < 128) : inHost c = true := by
  obtain ⟨plain, digits, hcs, -, hpoints, hdigits, -⟩ := Punycode.decode?_eq_some hread
  have hpart : c ∈ plain ∨ c = '-' ∨ c ∈ digits := by
    obtain rfl | ⟨rfl, rfl⟩ := hcs
    · exact (List.mem_append.mp hc).imp_right List.mem_cons.mp
    · exact Or.inr (Or.inr hc)
  obtain hc | rfl | hc := hpart
  · exact inHost_of_isNamePoint hplain (hfit _ (hpoints c hc) hplain)
  · decide
  · exact Punycode.inHost_of_digitValue? (hdigits c hc)

/-- A plain form that ends with no hyphen ends with a digit, so it is read as a label that is not
plain. -/
theorem exists_foreign_of_decode? (hne : rest ≠ []) (hlast : rest.getLast? ≠ some '-') :
    ∃ n ∈ points, 128 ≤ n := by
  obtain ⟨plain, digits, hcs, -, -, -, hforeign⟩ := Punycode.decode?_eq_some hread
  refine hforeign ?_
  rintro rfl
  obtain rfl | ⟨rfl, rfl⟩ := hcs
  · exact hlast List.getLast?_concat
  · exact hne rfl

end PlainForm

/-- What is read back from a label in plain letters: they may stand in a host, and so may the plain
code points. A label in plain form is read as one that is not plain. -/
theorem decodeLabel_eq_ok {label : List Char} {points : List Nat}
    (h : decodeLabel label = .ok points) :
    PlainFit points ∧ (∀ c ∈ label, c.toNat < 128 → inHost c = true) ∧
      (mark <+: label.map Char.toLower → ∃ n ∈ points, 128 ≤ n) := by
  -- It is enough to know the letters in lower case.
  have hlower (hchars : ∀ c ∈ label.map Char.toLower, c.toNat < 128 → inHost c = true) :
      ∀ c ∈ label, c.toNat < 128 → inHost c = true := by
    intro c hc hplain
    have hsmall := Text.forall_plain (p := fun d ↦ d.toLower.toNat < 128) (by decide +kernel) c
      hplain
    exact inHost_of_toLower hplain (hchars _ (List.mem_map_of_mem hc) hsmall)
  unfold decodeLabel at h
  dsimp only at h
  split at h
  · next hmark =>
    obtain ⟨rest, hrest⟩ := List.isPrefixOf_iff_prefix.mp hmark
    rw [← hrest, List.drop_left] at h
    split at h
    · cases h
    · next hne =>
      split at h
      · cases h
      · next hlast =>
        split at h
        · cases h
        · next found hread =>
          obtain ⟨⟨⟩, hcheck, h⟩ := Except.bind_eq_ok_iff.mp h
          cases h
          have hfit := plainFit_of_checkLabel hcheck
          refine ⟨hfit, hlower fun c hc hsmall ↦ ?_, fun _ ↦ ?_⟩
          · rw [← hrest] at hc
            obtain hc | hc := List.mem_append.mp hc
            · exact inHost_of_mem_mark hc
            · exact inHost_of_decode? hread hfit hc hsmall
          · refine exists_foreign_of_decode? hread (fun hnil ↦ hne ?_) hlast
            exact List.isEmpty_iff.mpr hnil
  · next hmark =>
    obtain ⟨⟨⟩, hcheck, h⟩ := Except.bind_eq_ok_iff.mp h
    cases h
    have hfit := plainFit_of_checkLabel hcheck
    refine ⟨hfit, hlower fun c hc hsmall ↦ ?_, fun hprefix ↦ ?_⟩
    · exact inHost_of_isNamePoint hsmall (hfit _ (List.mem_map_of_mem hc) hsmall)
    · exact absurd (List.isPrefixOf_iff_prefix.mpr hprefix) hmark

theorem inHost_of_encodeLabel {label sent : List Char} (h : encodeLabel label = .ok sent) :
    ∀ c ∈ sent, inHost c = true := by
  unfold encodeLabel at h
  split at h
  · next hplain =>
    obtain ⟨points, hread, h⟩ := Except.bind_eq_ok_iff.mp h
    split at h
    · cases h
      exact fun c hc ↦ (decodeLabel_eq_ok hread).2.1 c hc
        (of_decide_eq_true (List.all_eq_true.mp hplain c hc))
    · cases h
  · obtain ⟨⟨⟩, hcheck, h⟩ := Except.bind_eq_ok_iff.mp h
    dsimp only at h
    split at h
    · cases h
      intro c hc
      obtain hc | hc := List.mem_append.mp hc
      · exact inHost_of_mem_mark hc
      · refine Punycode.inHost_of_encode (fun d hd hplain ↦ ?_) c hc
        exact inHost_of_isNamePoint hplain
          (plainFit_of_checkLabel hcheck _ (List.mem_map_of_mem hd) hplain)
    · cases h

/-! ### Names -/

/-- An international name is sent in characters that a host may hold. -/
theorem inHost_of_encode {name sent : List Char} (h : encode name = .ok sent) :
    ∀ c ∈ sent, inHost c = true := by
  unfold encode at h
  obtain ⟨⟨labels, isClosed⟩, -, h⟩ := Except.bind_eq_ok_iff.mp h
  obtain ⟨parts, hparts, h⟩ := Except.bind_eq_ok_iff.mp h
  obtain ⟨-, h⟩ | ⟨-, h⟩ := ite_eq_iff.mp h
  · cases h
    intro c hc
    obtain hc | hc := List.mem_append.mp hc
    · obtain rfl | ⟨part, hpart, hc⟩ := mem_intercalate hc
      · decide
      · obtain ⟨label, -, hlabel⟩ := (Except.mem_of_mapM hparts).1 part hpart
        exact inHost_of_encodeLabel hlabel c hc
    · split at hc
      · rw [List.mem_singleton.mp hc]
        decide
      · exact absurd hc List.not_mem_nil
  · cases h

/-- A name in plain form begins with a label in plain form. -/
theorem exists_marked_label {name : List Char} {found : List (List Char)} {isClosed : Bool}
    (hmark : mark <+: name) (h : labels name = .ok (found, isClosed)) :
    ∃ label ∈ found, mark <+: label.map Char.toLower := by
  obtain ⟨rest, rfl⟩ := hmark
  have hdots : (mark ++ rest).map (fun c ↦ if isDot c then '.' else c) =
      mark ++ rest.map (fun c ↦ if isDot c then '.' else c) := by
    rw [List.map_append]
    congr 1
  have hnone : '.' ∉ mark := by decide
  obtain ⟨first, more, -, hparts⟩ :=
    splitAt_append hnone (rest.map (fun c ↦ if isDot c then '.' else c))
  have hfirst : mark <+: (mark ++ first).map Char.toLower := by
    rw [List.map_append]
    exact List.prefix_append _ _
  unfold labels at h
  dsimp only at h
  rw [hdots, hparts] at h
  repeat' split at h
  · cases h
  · cases h
  · next hlast =>
    cases h
    cases more with
    | nil => simp [mark] at hlast
    | cons next more => exact ⟨_, List.mem_cons_self, hfirst⟩
  · cases h
    exact ⟨_, List.mem_cons_self, hfirst⟩

/-- A name that is read back has no colons, and a name in plain form is read back as one that is not
plain. -/
theorem decode_eq_ok {name : List Char} {points : List Nat} (h : decode name = .ok points) :
    ':'.toNat ∉ points ∧ (mark <+: name → ∃ n ∈ points, 128 ≤ n) := by
  unfold decode at h
  obtain ⟨⟨found, isClosed⟩, hlabels, h⟩ := Except.bind_eq_ok_iff.mp h
  obtain ⟨parts, hparts, h⟩ := Except.bind_eq_ok_iff.mp h
  cases h
  constructor
  · intro hcolon
    obtain hcolon | hcolon := List.mem_append.mp hcolon
    · obtain hdot | ⟨part, hpart, hcolon⟩ := mem_intercalate hcolon
      · exact absurd hdot (by decide)
      · obtain ⟨label, -, hlabel⟩ := (Except.mem_of_mapM hparts).1 part hpart
        have hname := (decodeLabel_eq_ok hlabel).1 _ hcolon (by decide)
        exact absurd (plain_of_isNamePoint (by decide) hname) (by decide)
    · split at hcolon
      · exact absurd (List.mem_singleton.mp hcolon) (by decide)
      · exact absurd hcolon List.not_mem_nil
  · intro hmark
    obtain ⟨label, hlabel, hmarked⟩ := exists_marked_label hmark hlabels
    obtain ⟨part, hpart, hread⟩ := (Except.mem_of_mapM hparts).2 label hlabel
    obtain ⟨n, hn, hforeign⟩ := (decodeLabel_eq_ok hread).2.2 hmarked
    exact ⟨n, List.mem_append_left _ (subset_intercalate hpart hn), hforeign⟩

end HostName

/-! ### Hosts as they are sent -/

namespace Url

open ServerAddress

theorem plain_of_inHost {c : Char} (h : inHost c = true) : c.toNat < 128 := by
  unfold inHost isUnreserved at h
  simp only [Bool.or_eq_true, Bool.and_eq_true, decide_eq_true_eq, List.contains_iff_mem] at h
  obtain (((((((h | h) | h) | rfl) | rfl) | rfl) | rfl) | h) := h
  · have hhigh : c.toNat ≤ 122 := h.2
    omega
  · have hhigh : c.toNat ≤ 90 := h.2
    omega
  · have hhigh : c.toNat ≤ 57 := h.2
    omega
  · decide
  · decide
  · decide
  · decide
  · have hall : "!$&'()*+,;=\"\x60\x7b\x7d%|\\".toList.all (·.toNat < 128) := by decide
    exact of_decide_eq_true (List.all_eq_true.mp hall c h)

/-- A host is sent in colon form, as it was written, or in characters that are sent as they are. -/
theorem sentHost_cases {name host : List Char} (h : sentHost name = .ok host) :
    HostLiteral.isColonForm host = true ∧ host ⊆ name ∨ ∀ c ∈ host, inHost c = true := by
  unfold sentHost at h
  split at h
  · cases h
    exact Or.inr fun _ hc ↦ absurd hc List.not_mem_nil
  · split at h
    · split at h
      · next hfour =>
        cases h
        refine Or.inr fun c hc ↦ ?_
        obtain rfl | hdigit := HostLiteral.mem_of_isFourPart hfour hc
        · decide
        · exact inHost_of_isDigit hdigit
      · cases h
    · split at h
      · dsimp only at h
        split at h
        · next hform =>
          cases h
          exact Or.inl ⟨hform, fun c hc ↦ List.drop_subset _ _ (List.dropLast_subset _ hc)⟩
        · cases h
      · split at h
        · cases h
          exact Or.inr fun c hc ↦ (mem_escape hc).elim id inHost_of_mem_escapeChars
        · split at h
          · next hsent =>
            cases h
            exact Or.inr (HostName.inHost_of_encode hsent)
          · cases h

/-- The port in an authority. -/
def portText (u : Url) : List Char :=
  match u.port with
  | some n => ':' :: (Number.textOfInt n).toList
  | none => []

theorem server_eq (u : Url) : u.server = u.hostText ++ u.portText := rfl

theorem of_mem_portText {u : Url} {c : Char} (h : c ∈ u.portText) :
    c = ':' ∨ c = '-' ∨ Number.isDigit c = true := by
  unfold portText at h
  split at h
  · exact (List.mem_cons.mp h).imp_right Number.isDigit_of_mem_textOfInt
  · exact absurd h List.not_mem_nil

/-- The host can be read back from the plain letters in which it is sent. -/
def Readable (u : Url) : Prop := ∃ points, u.readHost = .ok points

/-- The host is written in plain characters, so that a request can name the server. -/
def Nameable (u : Url) : Prop := ∀ c ∈ u.host, c.toNat < 128

theorem nameable_iff {u : Url} : u.Nameable ↔ (u.host.all fun c ↦ c.toNat < 128) = true := by
  simp [Nameable]

/-- A request can be made for the address. -/
structure Sendable (u : Url) : Prop where
  readable : u.Readable
  nameable : u.Nameable

/-- A server is named by its host, in square brackets or not, and a port that is plain. -/
theorem forall_mem_server_iff (u : Url) : (∀ c ∈ u.server, c.toNat < 128) ↔ u.Nameable := by
  have hport : ∀ c ∈ u.portText, c.toNat < 128 := by
    intro c hc
    obtain rfl | rfl | hdigit := of_mem_portText hc
    · decide
    · decide
    · exact plain_of_inHost (inHost_of_isDigit hdigit)
  rw [server_eq, List.forall_mem_append, and_iff_left hport]
  unfold hostText
  split
  · rw [List.forall_mem_cons, List.forall_mem_append, List.forall_mem_singleton]
    exact (and_iff_right (by decide)).trans (and_iff_left (by decide))
  · rfl

/-- The host is one that is sent for a name. -/
def Sent (u : Url) : Prop := ∃ name, sentHost name = .ok u.host

/-- The host begins with a label in plain form, so it is read back. -/
def IsMarked (u : Url) : Prop := HostName.mark <+: u.host

/-- Two addresses have the same host: it is sent in the same letters, or both are in plain form and
are read back as the same name. -/
def SameHost (u v : Url) : Prop :=
  u.host = v.host ∨ u.IsMarked ∧ v.IsMarked ∧ u.hostName = v.hostName

instance (u : Url) : Decidable u.IsMarked :=
  inferInstanceAs (Decidable (HostName.mark <+: u.host))

variable {u v w : Url}

theorem readHost_of_not_isMarked (h : ¬ u.IsMarked) :
    u.readHost = .ok (u.host.map Char.toNat) :=
  if_neg fun hprefix ↦ h (List.isPrefixOf_iff_prefix.mp hprefix)

theorem readable_of_not_isMarked (h : ¬ u.IsMarked) : u.Readable :=
  ⟨_, readHost_of_not_isMarked h⟩

theorem hostName_of_not_isMarked (h : ¬ u.IsMarked) : u.hostName = u.host := by
  unfold hostName
  rw [readHost_of_not_isMarked h]
  simp [Function.comp_def]

/-- A host that is read back cannot be taken for one that is sent as it is. -/
theorem hostName_of_isMarked (h : u.IsMarked) : u.hostName = u.host ∨
    ':' ∉ u.hostName ∧ ∃ c ∈ u.hostName, inHost c = false := by
  have hread : u.readHost = HostName.decode u.host :=
    if_pos (List.isPrefixOf_iff_prefix.mpr h)
  unfold hostName
  rw [hread]
  cases hdecode : HostName.decode u.host with
  | error fault => exact Or.inl rfl
  | ok points =>
    obtain ⟨hcolon, hforeign⟩ := HostName.decode_eq_ok hdecode
    -- Numbers that are no code points of characters stand for the null character.
    have hcode (n : Nat) : (Char.ofNat n).toNat = n ∨ Char.ofNat n = Char.ofNat 0 := by
      by_cases hvalid : n.isValidChar
      · exact Or.inl (Text.toNat_ofNat hvalid)
      · exact Or.inr (dif_neg hvalid)
    refine Or.inr ⟨fun hmem ↦ ?_, ?_⟩
    · obtain ⟨n, hn, hchar⟩ := List.mem_map.mp hmem
      obtain hn' | hnull := hcode n
      · rw [hchar] at hn'
        exact hcolon (hn' ▸ hn)
      · exact absurd (hchar.symm.trans hnull) (by decide)
    · obtain ⟨n, hn, hlarge⟩ := hforeign h
      refine ⟨Char.ofNat n, List.mem_map_of_mem hn, Bool.eq_false_iff.mpr fun hin ↦ ?_⟩
      obtain hn' | hnull := hcode n
      · have hplain := plain_of_inHost hin
        omega
      · rw [hnull] at hin
        exact absurd hin (by decide)

theorem hostName_ne (hu : u.IsMarked) (hv : v.Sent) (hv' : ¬ v.IsMarked) :
    u.hostName ≠ v.hostName := by
  intro h
  obtain ⟨name, hsent⟩ := hv
  rw [hostName_of_not_isMarked hv'] at h
  obtain hraw | ⟨hcolon, c, hc, hforeign⟩ := hostName_of_isMarked hu
  · have hhost : u.host = v.host := hraw.symm.trans h
    unfold IsMarked at hu hv'
    exact hv' (hhost ▸ hu)
  · rw [h] at hcolon hc
    obtain ⟨hform, -⟩ | hchars := sentHost_cases hsent
    · exact hcolon (List.takeWhile_subset _ (HostLiteral.colon_mem_of_isColonForm hform))
    · cases hforeign.symm.trans (hchars c hc)

/-- Two hosts that are read as the same name are sent as the same, or both are in plain form. -/
theorem sameHost_of_hostName_eq (hu : u.Sent) (hv : v.Sent) (h : u.hostName = v.hostName) :
    u.SameHost v := by
  by_cases hu' : u.IsMarked
  · by_cases hv' : v.IsMarked
    · exact Or.inr ⟨hu', hv', h⟩
    · exact (hostName_ne hu' hv hv' h).elim
  · by_cases hv' : v.IsMarked
    · exact (hostName_ne hv' hu hu' h.symm).elim
    · rw [hostName_of_not_isMarked hu', hostName_of_not_isMarked hv'] at h
      exact Or.inl h

/-- There are several plain forms of one name. -/
example : HostName.decode "xn--tda".toList = .ok [0xfc] ∧
    HostName.decode "xn---tda".toList = .ok [0xfc] := by
  decide +kernel

theorem SameHost.refl (u : Url) : u.SameHost u := Or.inl rfl

theorem SameHost.trans (h : u.SameHost v) (h' : v.SameHost w) : u.SameHost w := by
  unfold SameHost IsMarked hostName readHost at *
  obtain heq | ⟨hu, hv, hname⟩ := h
  · rwa [heq]
  · obtain heq | ⟨-, hw, hname'⟩ := h'
    · rw [← heq]
      exact Or.inr ⟨hu, hv, hname⟩
    · exact Or.inr ⟨hu, hw, hname.trans hname'⟩

theorem IsMarked.not_isLocal (h : u.IsMarked) : ¬ IsLocal u.host := by
  intro hlocal
  unfold IsMarked at h
  obtain hword | hword | hword := isLocal_iff.mp hlocal <;> rw [hword] at h <;>
    exact absurd h (by decide)

theorem SameHost.isLocal_iff (h : u.SameHost v) : IsLocal u.host ↔ IsLocal v.host := by
  obtain heq | ⟨hu, hv, -⟩ := h
  · rw [heq]
  · exact iff_of_false hu.not_isLocal hv.not_isLocal

end Url

end FormCatalog
