import FormCatalog.Number.Decimal
import FormCatalog.Number.Digits
import FormCatalog.Proofs.Text.Marks
import Mathlib.Algebra.Ring.Nat

/-!
# Written numbers

A natural number is read back from its digits (`natOfDigits_digitsOf`), and an integer from its text
by the reader that takes digits of any script (`anyInt?_textOfInt`). That reader gives up on more
than `digitLimit` digits, but no integer that it has read has more (`length_digitsOf_of_anyInt?`).
-/

set_option autoImplicit false
set_option relaxedAutoImplicit false

namespace FormCatalog.Number

/-! ### Digits of a natural number -/

theorem isDigit_of_mem_digitsOf {n : Nat} : ∀ c ∈ digitsOf n, isDigit c = true := by
  intro c hc
  have hdigit := Nat.isDigit_of_mem_toDigits (by decide) (by decide) hc
  unfold Char.isDigit at hdigit
  unfold isDigit
  simpa [Char.le_def, UInt32.le_iff_toNat_le] using hdigit

/-- The text of an integer has digits, and perhaps a minus sign before them. -/
theorem isDigit_of_mem_textOfInt {n : Int} {c : Char} (h : c ∈ (textOfInt n).toList) :
    c = '-' ∨ isDigit c = true := by
  cases n with
  | ofNat k =>
    unfold textOfInt at h
    rw [String.toList_ofList] at h
    exact Or.inr (isDigit_of_mem_digitsOf c h)
  | negSucc k =>
    unfold textOfInt at h
    rw [String.toList_ofList] at h
    exact (List.mem_cons.mp h).imp_right (isDigit_of_mem_digitsOf c)

theorem natOfDigits_digitsOf (n : Nat) : natOfDigits (digitsOf n) = n :=
  Nat.ofDigitChars_toDigits (by decide) (by decide)

/-- Only zero is written with a zero in front. -/
theorem head?_digitsOf {n : Nat} (h : 0 < n) : (digitsOf n).head? ≠ some '0' := by
  induction n using Nat.strongRecOn with
  | ind n ih =>
    unfold digitsOf at ih ⊢
    rw [Nat.toDigits_eq_if (by decide)]
    split
    · rename_i hsmall
      have hdigit : ∀ n < 10, 0 < n → [n.digitChar].head? ≠ some '0' := by decide
      exact hdigit n hsmall h
    · rw [List.head?_append, List.head?_eq_some_head Nat.toDigits_ne_nil, Option.some_or,
        ← List.head?_eq_some_head]
      exact ih (n / 10) (by omega) (by omega)

/-! ### Integers in the digits of any script -/

theorem digit_bounds {c : Char} (h : isDigit c = true) : 48 ≤ c.toNat ∧ c.toNat ≤ 57 := by
  unfold isDigit at h
  simp only [Bool.and_eq_true, decide_eq_true_eq] at h
  exact h

theorem anyDigit?_of_isDigit {c : Char} (h : isDigit c = true) :
    anyDigit? c = some (digitValue c) := by
  obtain ⟨hlow, hhigh⟩ := digit_bounds h
  unfold anyDigit? zeros
  rw [List.find?_cons_of_pos]
  · rfl
  · simp only [Bool.and_eq_true, decide_eq_true_eq]
    omega

theorem anyDigit?_lt {c : Char} {d : Nat} (h : anyDigit? c = some d) : d < 10 := by
  unfold anyDigit? at h
  obtain ⟨z, hz, rfl⟩ := Option.map_eq_some_iff.mp h
  have hfits := List.find?_some hz
  simp only [Bool.and_eq_true, decide_eq_true_eq] at hfits
  omega

theorem ne_of_isDigit {c mark : Char} (h : isDigit c = true) (hmark : isDigit mark = false) :
    c ≠ mark := by
  rintro rfl
  rw [hmark] at h
  cases h

theorem digitsValue?_of_digits {digits : List Char} (h : ∀ c ∈ digits, isDigit c = true)
    (value : Nat) :
    digitsValue? value true digits =
      some (digits.foldl (fun n c ↦ 10 * n + digitValue c) value) := by
  induction digits generalizing value with
  | nil => rfl
  | cons c digits ih =>
    obtain ⟨hc, hdigits⟩ := List.forall_mem_cons.mp h
    unfold digitsValue?
    rw [if_neg (ne_of_isDigit hc rfl), anyDigit?_of_isDigit hc]
    exact ih hdigits _

theorem digitsValue?_digitsOf (n : Nat) : digitsValue? 0 false (digitsOf n) = some n := by
  have hdigits := isDigit_of_mem_digitsOf (n := n)
  have hvalue := natOfDigits_digitsOf n
  obtain ⟨c, rest, heq⟩ := List.exists_cons_of_ne_nil (Nat.toDigits_ne_nil (n := n) (b := 10))
  change digitsOf n = c :: rest at heq
  rw [heq] at hdigits hvalue ⊢
  obtain ⟨hc, hrest⟩ := List.forall_mem_cons.mp hdigits
  unfold digitsValue?
  rw [if_neg (ne_of_isDigit hc rfl), anyDigit?_of_isDigit hc]
  dsimp only
  rw [digitsValue?_of_digits hrest]
  exact congrArg some hvalue

/-- What is read from digits has no more of them. -/
theorem digitsValue?_lt {value n : Nat} {after : Bool} {cs : List Char}
    (h : digitsValue? value after cs = some n) :
    n < (value + 1) * 10 ^ cs.countP (· ≠ '_') := by
  induction cs generalizing value after with
  | nil =>
    unfold digitsValue? at h
    obtain ⟨-, h⟩ := Option.ite_none_right_eq_some.mp h
    cases h
    simp
  | cons c cs ih =>
    unfold digitsValue? at h
    split at h
    · next hmark =>
      obtain ⟨-, h⟩ := Option.ite_none_right_eq_some.mp h
      rw [List.countP_cons_of_neg (by simpa using hmark)]
      exact ih h
    · next hmark =>
      cases hdigit : anyDigit? c with
      | none =>
        rw [hdigit] at h
        cases h
      | some d =>
        rw [hdigit] at h
        have hlt := anyDigit?_lt hdigit
        rw [List.countP_cons_of_pos (by simpa using hmark)]
        calc n < (10 * value + d + 1) * 10 ^ cs.countP (· ≠ '_') := ih h
          _ ≤ (10 * (value + 1)) * 10 ^ cs.countP (· ≠ '_') :=
            Nat.mul_le_mul_right _ (by omega)
          _ = (value + 1) * 10 ^ (cs.countP (· ≠ '_') + 1) := by
            rw [Nat.pow_succ, Nat.mul_comm 10, Nat.mul_assoc, Nat.mul_comm 10]

/-- Whether a text begins with a minus sign, and the text after a sign. -/
def splitSign : List Char → Bool × List Char
  | '-' :: rest => (true, rest)
  | '+' :: rest => (false, rest)
  | rest => (false, rest)

/-- The integer of a sign and a natural number. -/
def signed (negative : Bool) (n : Nat) : Int := if negative then -n else n

theorem anyInt?_eq (cs : List Char) : anyInt? cs =
    if (splitSign (Text.trim Text.isBlank cs)).2.countP (· ≠ '_') > digitLimit then none
    else (digitsValue? 0 false (splitSign (Text.trim Text.isBlank cs)).2).map
      (signed (splitSign (Text.trim Text.isBlank cs)).1) := by
  change (if (splitSign (Text.trim Text.isBlank cs)).2.countP (· ≠ '_') > digitLimit then none
    else _) = _
  congr 1
  change Option.map (fun n : Int ↦ if (splitSign (Text.trim Text.isBlank cs)).1 then -n else n)
    (digitsValue? 0 false (splitSign (Text.trim Text.isBlank cs)).2 >>= fun n ↦ pure (n : Int)) = _
  cases digitsValue? 0 false (splitSign (Text.trim Text.isBlank cs)).2 <;> rfl

/-- An integer that was read can be written with no more digits than the reader takes. -/
theorem length_digitsOf_of_anyInt? {cs : List Char} {n : Int} (h : anyInt? cs = some n) :
    (digitsOf n.natAbs).length ≤ digitLimit := by
  rw [anyInt?_eq] at h
  obtain ⟨hcount, h⟩ := Option.ite_none_left_eq_some.mp h
  obtain ⟨k, hk, rfl⟩ := Option.map_eq_some_iff.mp h
  have hlt := digitsValue?_lt hk
  have habs (negative : Bool) : (signed negative k).natAbs = k := by
    cases negative <;> simp [signed]
  rw [Nat.zero_add, Nat.one_mul] at hlt
  rw [habs]
  exact (Nat.length_toDigits_le_iff (by decide) (by decide)).mpr
    (hlt.trans_le (Nat.pow_le_pow_right (by decide) (Nat.le_of_not_lt hcount)))

theorem trim_eq_self {cs : List Char} (h : ∀ c ∈ cs, Text.isBlank c = false) :
    Text.trim Text.isBlank cs = cs := by
  have hfront : cs.dropWhile Text.isBlank = cs := by
    cases cs with
    | nil => rfl
    | cons c cs => exact List.dropWhile_cons_of_neg (by simp [h c List.mem_cons_self])
  unfold Text.trim
  rw [hfront, Text.dropTrailing_eq_self_iff]
  exact fun c hc ↦ h c (List.mem_of_getLast? hc)

theorem isBlank_of_isDigit {c : Char} (h : isDigit c = true) : Text.isBlank c = false := by
  obtain ⟨hlow, hhigh⟩ := digit_bounds h
  have hall := Text.forall_plain
    (p := fun d ↦ 48 ≤ d.toNat → d.toNat ≤ 57 → Text.isBlank d = false) (by decide +kernel)
  exact hall c (by omega) hlow hhigh

/-- An integer is read back from its text, unless it has too many digits. -/
theorem anyInt?_textOfInt {n : Int} (h : (digitsOf n.natAbs).length ≤ digitLimit) :
    anyInt? (textOfInt n).toList = some n := by
  have hblank {k : Nat} : ∀ c ∈ digitsOf k, Text.isBlank c = false :=
    fun c hc ↦ isBlank_of_isDigit (isDigit_of_mem_digitsOf c hc)
  have hread {text : List Char} {negative : Bool} {k : Nat}
      (hk : (digitsOf k).length ≤ digitLimit) (hblank : ∀ c ∈ text, Text.isBlank c = false)
      (hsign : splitSign text = (negative, digitsOf k)) :
      anyInt? text = some (signed negative k) := by
    rw [anyInt?_eq, trim_eq_self hblank, hsign,
      if_neg (Nat.not_lt.mpr (List.countP_le_length.trans hk)), digitsValue?_digitsOf]
    rfl
  cases n with
  | ofNat k =>
    obtain ⟨c, rest, heq⟩ := List.exists_cons_of_ne_nil (Nat.toDigits_ne_nil (n := k) (b := 10))
    change digitsOf k = c :: rest at heq
    have hc : isDigit c = true := isDigit_of_mem_digitsOf (n := k) c (heq ▸ List.mem_cons_self)
    have hsign : splitSign (digitsOf k) = (false, digitsOf k) := by
      rw [heq]
      unfold splitSign
      split
      · next hminus => exact absurd (List.cons.inj hminus).1 (ne_of_isDigit hc rfl)
      · next hplus => exact absurd (List.cons.inj hplus).1 (ne_of_isDigit hc rfl)
      · rfl
    unfold textOfInt
    rw [String.toList_ofList]
    exact hread h hblank hsign
  | negSucc k =>
    unfold textOfInt
    rw [String.toList_ofList]
    exact @hread ('-' :: digitsOf (k + 1)) true (k + 1) h
      (List.forall_mem_cons.mpr ⟨by decide, hblank⟩) rfl

end FormCatalog.Number
