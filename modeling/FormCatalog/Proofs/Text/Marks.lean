import FormCatalog.Web.Url
import FormCatalog.Web.ServerAddress
import Mathlib.Data.List.DropRight
import Mathlib.Data.List.TakeDrop
import Mathlib.Data.List.TakeWhile

/-!
# Cutting texts at marks

A text is cut at the first of its marks (`span_append`, `cut?_append`), at the last
(`afterLast_append`) or at every one (`mem_splitAt`). The lower case of a text that is plain, in the
first 128 characters, is told letter by letter: what has no letters in lower case has not been
changed at all (`lower_eq_self_of_no_letter`).
-/

set_option autoImplicit false
set_option relaxedAutoImplicit false

namespace FormCatalog

namespace Text

/-! ### The first mark -/

theorem ofList_eq_iff {cs : List Char} {word : String} :
    String.ofList cs = word ↔ cs = word.toList := by
  rw [← String.toList_inj, String.toList_ofList]

theorem forall_ne_of_not_mem {mark : Char} {cs : List Char} (h : mark ∉ cs) :
    ∀ c ∈ cs, decide (c ≠ mark) = true :=
  fun _ hc ↦ decide_eq_true fun heq ↦ h (heq ▸ hc)

theorem takeWhile_of_not_mem {mark : Char} {cs : List Char} (h : mark ∉ cs) :
    cs.takeWhile (· ≠ mark) = cs :=
  List.takeWhile_eq_self_iff.mpr (forall_ne_of_not_mem h)

theorem span_of_not_mem {mark : Char} {cs : List Char} (h : mark ∉ cs) :
    cs.span (· ≠ mark) = (cs, []) := by
  rw [List.span_eq_takeWhile_dropWhile, takeWhile_of_not_mem h,
    List.dropWhile_eq_nil_iff.mpr (forall_ne_of_not_mem h)]

theorem span_append {mark : Char} {front back : List Char} (h : mark ∉ front) :
    (front ++ mark :: back).span (· ≠ mark) = (front, mark :: back) := by
  rw [List.span_eq_takeWhile_dropWhile, List.takeWhile_append_of_pos (forall_ne_of_not_mem h),
    List.dropWhile_append_of_pos (forall_ne_of_not_mem h)]
  simp

/-! ### Either end -/

theorem dropTrailing_prefix (p : Char → Bool) (cs : List Char) : dropTrailing p cs <+: cs :=
  List.rdropWhile_prefix p cs

theorem dropTrailing_dropTrailing (p : Char → Bool) (cs : List Char) :
    dropTrailing p (dropTrailing p cs) = dropTrailing p cs :=
  List.rdropWhile_idempotent p cs

/-- What is left does not end with a character that is dropped. -/
theorem getLast?_dropTrailing {p : Char → Bool} {cs : List Char} :
    ∀ c ∈ (dropTrailing p cs).getLast?, p c = false := by
  intro c hc
  have hhead := List.head?_dropWhile_not p cs.reverse
  unfold dropTrailing at hc
  rw [List.getLast?_reverse] at hc
  rwa [hc] at hhead

/-- A text is what is left of it and the characters that are dropped. -/
theorem exists_eq_dropTrailing_append (p : Char → Bool) (cs : List Char) :
    ∃ back, cs = dropTrailing p cs ++ back ∧ ∀ c ∈ back, p c = true := by
  refine ⟨(cs.reverse.takeWhile p).reverse, ?_, fun c hc ↦ ?_⟩
  · unfold dropTrailing
    rw [← List.reverse_append, List.takeWhile_append_dropWhile, List.reverse_reverse]
  · exact List.mem_takeWhile_imp (List.mem_reverse.mp hc)

theorem dropTrailing_append {p : Char → Bool} {cs back : List Char}
    (hcs : ∀ c ∈ cs.getLast?, p c = false) (hback : ∀ c ∈ back, p c = true) :
    dropTrailing p (cs ++ back) = cs := by
  have hall : ∀ c ∈ back.reverse, p c = true := fun c hc ↦ hback c (List.mem_reverse.mp hc)
  unfold dropTrailing
  rw [List.reverse_append, List.dropWhile_append_of_pos hall]
  cases hreverse : cs.reverse with
  | nil => rw [List.reverse_eq_nil_iff.mp hreverse]; rfl
  | cons c rest =>
    have hlast : cs.getLast? = some c := by rw [← List.head?_reverse, hreverse]; rfl
    rw [List.dropWhile_cons_of_neg (by simp [hcs c hlast]), ← hreverse, List.reverse_reverse]

theorem dropTrailing_eq_self_iff {p : Char → Bool} {cs : List Char} :
    dropTrailing p cs = cs ↔ ∀ c ∈ cs.getLast?, p c = false := by
  constructor
  · intro h
    rw [← h]
    exact getLast?_dropTrailing
  · intro h
    simpa using @dropTrailing_append p cs [] h (by simp)

end Text

/-! ### The last mark -/

namespace ServerAddress

theorem afterLast_of_not_mem {mark : Char} {cs : List Char} (h : mark ∉ cs) :
    afterLast mark cs = cs := by
  have hall : ∀ c ∈ cs.reverse, decide (c ≠ mark) = true :=
    fun c hc ↦ decide_eq_true fun heq ↦ h (heq ▸ List.mem_reverse.mp hc)
  unfold afterLast
  rw [List.takeWhile_eq_self_iff.mpr hall, List.reverse_reverse]

theorem mem_of_mem_afterLast {mark c : Char} {cs : List Char} (h : c ∈ afterLast mark cs) :
    c ∈ cs :=
  List.mem_reverse.mp (List.takeWhile_subset _ (List.mem_reverse.mp h))

theorem afterLast_append {mark : Char} {front back : List Char} (h : mark ∉ back) :
    afterLast mark (front ++ mark :: back) = back := by
  have hall : ∀ c ∈ back.reverse, decide (c ≠ mark) = true :=
    fun c hc ↦ decide_eq_true fun heq ↦ h (heq ▸ List.mem_reverse.mp hc)
  unfold afterLast
  rw [List.reverse_append, List.reverse_cons, List.append_assoc,
    List.takeWhile_append_of_pos hall]
  simp

/-- A text with a mark in it has a last one. -/
theorem exists_afterLast {mark : Char} {cs : List Char} (h : mark ∈ cs) :
    ∃ front, cs = front ++ mark :: afterLast mark cs ∧ mark ∉ afterLast mark cs := by
  obtain ⟨back, front, hcs, hback⟩ := List.eq_append_cons_of_mem (List.mem_reverse.mpr h)
  have hsplit : cs = front.reverse ++ mark :: back.reverse := by
    rw [← List.reverse_reverse cs, hcs]
    simp
  have hnone : mark ∉ back.reverse := fun hmem ↦ hback (List.mem_reverse.mp hmem)
  refine ⟨front.reverse, ?_, ?_⟩
  · rw [hsplit, afterLast_append hnone]
  · rw [hsplit, afterLast_append hnone]
    exact hnone

theorem cut?_of_not_mem {mark : Char} {cs : List Char} (h : mark ∉ cs) : cut? mark cs = none := by
  unfold cut?
  rw [Text.span_of_not_mem h]

theorem cut?_append {mark : Char} {front back : List Char} (h : mark ∉ front) :
    cut? mark (front ++ mark :: back) = some (front, back) := by
  unfold cut?
  rw [Text.span_append h]

end ServerAddress

/-! ### Every mark -/

namespace HostLiteral

theorem splitAt_cons_self (mark : Char) (cs : List Char) :
    splitAt mark (mark :: cs) = [] :: splitAt mark cs :=
  if_pos rfl

theorem splitAt_cons_of_ne {mark c : Char} {cs : List Char} (h : c ≠ mark) :
    splitAt mark (c :: cs) =
      match splitAt mark cs with
      | p :: rest => (c :: p) :: rest
      | [] => [[c]] :=
  if_neg h

/-- A character of a text is the mark, or in one of the pieces between the marks. -/
theorem mem_splitAt (mark : Char) {c : Char} {cs : List Char} (hc : c ∈ cs) :
    c = mark ∨ ∃ p ∈ splitAt mark cs, c ∈ p := by
  induction cs with
  | nil => exact absurd hc List.not_mem_nil
  | cons d rest ih =>
    by_cases hd : d = mark
    · subst hd
      rw [splitAt_cons_self]
      obtain rfl | hrest := List.mem_cons.mp hc
      · exact Or.inl rfl
      · exact (ih hrest).imp_right fun ⟨p, hp, hcp⟩ ↦ ⟨p, List.mem_cons_of_mem _ hp, hcp⟩
    · rw [splitAt_cons_of_ne hd]
      cases hpieces : splitAt mark rest with
      | nil =>
        rw [hpieces] at ih
        simp only [List.not_mem_nil, false_and, exists_false, or_false] at ih
        obtain rfl | hrest := List.mem_cons.mp hc
        · exact Or.inr ⟨[c], by simp⟩
        · exact Or.inl (ih hrest)
      | cons piece more =>
        rw [hpieces] at ih
        obtain rfl | hrest := List.mem_cons.mp hc
        · exact Or.inr ⟨c :: piece, List.mem_cons_self, List.mem_cons_self⟩
        · refine (ih hrest).imp_right fun ⟨p, hp, hcp⟩ ↦ ?_
          obtain rfl | hmore := List.mem_cons.mp hp
          · exact ⟨d :: p, List.mem_cons_self, List.mem_cons_of_mem d hcp⟩
          · exact ⟨p, List.mem_cons_of_mem _ hmore, hcp⟩

/-- A text without the mark is one piece. -/
theorem splitAt_of_not_mem {mark : Char} {cs : List Char} (h : mark ∉ cs) :
    splitAt mark cs = [cs] := by
  induction cs with
  | nil => rfl
  | cons d rest ih =>
    obtain ⟨hd, hrest⟩ := not_or.mp (fun hor ↦ h (List.mem_cons.mpr hor))
    rw [splitAt_cons_of_ne (Ne.symm hd), ih hrest]

end HostLiteral

/-! ### Lower case -/

namespace Text

/-- A plain upper-case letter. -/
def IsUpper (c : Char) : Prop := 65 ≤ c.toNat ∧ c.toNat ≤ 90

/-- A plain lower-case letter. -/
def IsLower (c : Char) : Prop := 97 ≤ c.toNat ∧ c.toNat ≤ 122

instance (c : Char) : Decidable (IsUpper c) :=
  inferInstanceAs (Decidable (65 ≤ c.toNat ∧ c.toNat ≤ 90))

instance (c : Char) : Decidable (IsLower c) :=
  inferInstanceAs (Decidable (97 ≤ c.toNat ∧ c.toNat ≤ 122))

/-- An upper-case letter becomes the lower-case one that is 32 places on. -/
theorem lowerChar_of_isUpper {c : Char} (h : IsUpper c) :
    lowerChar c = [Char.ofNat (c.toNat + 32)] := by
  have hplain : c.toNat < 128 := Nat.lt_of_le_of_lt h.2 (by decide)
  unfold lowerChar
  dsimp only
  rw [if_pos hplain]
  exact if_pos h

theorem lowerChar_of_not_isUpper {c : Char} (hplain : c.toNat < 128) (h : ¬ IsUpper c) :
    lowerChar c = [c] := by
  unfold lowerChar
  dsimp only
  rw [if_pos hplain]
  exact if_neg h

theorem plain_of_isDigit {c : Char} (h : Number.isDigit c = true) :
    c.toNat < 128 ∧ ¬ IsUpper c := by
  unfold Number.isDigit at h
  simp only [Bool.and_eq_true, decide_eq_true_eq] at h
  have hhigh : c.toNat ≤ 57 := h.2
  refine ⟨by omega, fun hupper ↦ ?_⟩
  have hlow : 65 ≤ c.toNat := hupper.1
  omega

theorem plain_of_hexValue? {c : Char} (h : (Json.hexValue? c).isSome = true) : c.toNat < 128 := by
  unfold Json.hexValue? at h
  split at h
  · next hc =>
    have hhigh : c.toNat ≤ 57 := hc.2
    omega
  · split at h
    · next hc =>
      have hhigh : c.toNat ≤ 102 := hc.2
      omega
    · split at h
      · next hc =>
        have hhigh : c.toNat ≤ 70 := hc.2
        omega
      · cases h

/-- What holds of the first 128 characters, one by one, holds of plain characters. -/
theorem forall_plain {p : Char → Prop} (hall : ∀ n < 128, p (Char.ofNat n)) (c : Char)
    (hplain : c.toNat < 128) : p c := by
  have h := hall c.toNat hplain
  rwa [Char.ofNat_toNat] at h

theorem ne_capitalSigma {c : Char} (hplain : c.toNat < 128) : c ≠ capitalSigma := by
  rintro rfl
  exact absurd hplain (by decide)

/-- Where there is no capital sigma, lower case goes character by character. -/
theorem lower_eq_flatMap {cs : List Char} (h : ∀ c ∈ cs, c ≠ capitalSigma) :
    lower cs = cs.flatMap lowerChar := by
  unfold lower
  generalize ([] : List Char) = before
  induction cs generalizing before with
  | nil => rfl
  | cons c rest ih =>
    obtain ⟨hc, hrest⟩ := List.forall_mem_cons.mp h
    unfold lowerAfter
    rw [if_neg hc, ih hrest, List.flatMap_cons]

theorem lower_of_plain {cs : List Char} (h : ∀ c ∈ cs, c.toNat < 128) :
    lower cs = cs.flatMap lowerChar :=
  lower_eq_flatMap fun c hc ↦ ne_capitalSigma (h c hc)

/-- A text in lower case holds the lower-case forms of its characters, sigmas apart. -/
theorem mem_lower_of_mem_lowerChar {cs : List Char} {c d : Char} (hc : c ∈ cs)
    (hsigma : c ≠ capitalSigma) (hd : d ∈ lowerChar c) : d ∈ lower cs := by
  unfold lower
  generalize ([] : List Char) = before
  induction cs generalizing before with
  | nil => exact absurd hc List.not_mem_nil
  | cons first rest ih =>
    unfold lowerAfter
    obtain rfl | hc := List.mem_cons.mp hc
    · rw [if_neg hsigma]
      exact List.mem_append_left _ hd
    · exact List.mem_append_right _ (ih hc (first :: before))

/-- Lower case leaves a text alone that is plain and has no upper-case letters. -/
theorem lower_eq_self {cs : List Char} (h : ∀ c ∈ cs, c.toNat < 128 ∧ ¬ IsUpper c) :
    lower cs = cs := by
  rw [lower_of_plain fun c hc ↦ (h c hc).1]
  induction cs with
  | nil => rfl
  | cons c rest ih =>
    obtain ⟨⟨hplain, hupper⟩, hrest⟩ := List.forall_mem_cons.mp h
    rw [List.flatMap_cons, lowerChar_of_not_isUpper hplain hupper, ih hrest]
    rfl

/-- What is no upper-case letter of a plain text stays in lower case. -/
theorem mem_lower {cs : List Char} {c : Char} (hc : c ∈ cs) (hplain : c.toNat < 128)
    (h : ¬ IsUpper c) : c ∈ lower cs := by
  refine mem_lower_of_mem_lowerChar hc (ne_capitalSigma hplain) ?_
  rw [lowerChar_of_not_isUpper hplain h]
  exact List.mem_cons_self

theorem toNat_ofNat {n : Nat} (hvalid : n.isValidChar) : (Char.ofNat n).toNat = n := by
  unfold Char.ofNat
  rw [dif_pos hvalid]
  rfl

/-- The lower case of an upper-case letter is a lower-case one. -/
theorem exists_mem_lowerChar {c : Char} (h : IsUpper c) : ∃ d ∈ lowerChar c, IsLower d := by
  refine ⟨Char.ofNat (c.toNat + 32), ?_, ?_⟩
  · rw [lowerChar_of_isUpper h]
    exact List.mem_cons_self
  · obtain ⟨hlow, hhigh⟩ := h
    have hvalid : (c.toNat + 32).isValidChar := Or.inl (by omega)
    unfold IsLower
    rw [toNat_ofNat hvalid]
    omega

/-- A plain text whose lower case has no letters is in lower case. -/
theorem lower_eq_self_of_no_letter {cs : List Char} (hplain : ∀ c ∈ cs, c.toNat < 128)
    (h : ∀ d ∈ lower cs, ¬ IsLower d) : lower cs = cs := by
  refine lower_eq_self fun c hc ↦ ⟨hplain c hc, fun hupper ↦ ?_⟩
  obtain ⟨d, hd, hletter⟩ := exists_mem_lowerChar hupper
  exact h d (mem_lower_of_mem_lowerChar hc (ne_capitalSigma (hplain c hc)) hd) hletter

end Text

end FormCatalog
