import FormCatalog.Proofs.Json.Grammar

/-!
# What the reader takes

Whatever is written within the limits is read, and read as what is written. So the reader takes
exactly the texts of `IsReadable` (`ofText?_eq_some_iff`) and exactly their encodings
(`ofBytes?_eq_some_iff`).

The grammar lets a number end before the last of its digits, while the reader goes on to the end.
The two agree because of what comes after: a value in a text is followed by a blank, a comma, a
closing bracket or nothing (`Follows`), and none of these goes on with a number. The fuel of the
reader is the length of the text, which no production makes longer.
-/

set_option autoImplicit false
set_option relaxedAutoImplicit false

namespace FormCatalog.Json

open Number

variable {text rest : List Char}

/-! ### What comes after a value -/

/-- What may come after a value: nothing, a blank, a comma or a closing bracket. -/
def Follows (rest : List Char) : Prop :=
  ∀ c ∈ rest.head?, c ∈ [' ', '\t', '\n', '\r', ',', ']', '\x7d']

/-- No digit comes first. -/
def EndsDigits (rest : List Char) : Prop :=
  ∀ c ∈ rest.head?, isDigit c = false

/-- What may come after the digits of a fraction: no digit, and no point. -/
def EndsFraction (rest : List Char) : Prop :=
  ∀ c ∈ rest.head?, isDigit c = false ∧ c ≠ '.'

theorem Follows.endsFraction (h : Follows rest) : EndsFraction rest := by
  have hall : ∀ c ∈ [' ', '\t', '\n', '\r', ',', ']', '\x7d'], isDigit c = false ∧ c ≠ '.' := by
    simp [isDigit]
  exact fun c hc ↦ hall c (h c hc)

theorem Follows.not_mark (h : Follows rest) : ∀ c ∈ rest.head?, ¬ (c = 'e' ∨ c = 'E') := by
  have hall : ∀ c ∈ [' ', '\t', '\n', '\r', ',', ']', '\x7d'], ¬ (c = 'e' ∨ c = 'E') := by
    simp
  exact fun c hc ↦ hall c (h c hc)

theorem EndsFraction.endsDigits (h : EndsFraction rest) : EndsDigits rest :=
  fun c hc ↦ (h c hc).1

/-- Blanks and then one of the characters that may follow a value may follow it. -/
theorem follows_of_blanks {c : Char} (h : Blanks text (c :: rest))
    (hc : c ∈ [',', ']', '\x7d']) : Follows text := by
  intro d hd
  cases h with
  | none =>
    obtain rfl := Option.some.inj hd
    exact List.mem_append_right [' ', '\t', '\n', '\r'] hc
  | cons hblank _ =>
    obtain rfl := Option.some.inj hd
    simp only [isBlank, Bool.or_eq_true, decide_eq_true_eq] at hblank
    obtain ((rfl | rfl) | rfl) | rfl := hblank <;> decide

/-- Blanks up to the end may follow a value. -/
theorem follows_of_blanks_nil (h : Blanks rest []) : Follows rest := by
  intro d hd
  cases h with
  | none => cases hd
  | cons hblank _ =>
    obtain rfl := Option.some.inj hd
    simp only [isBlank, Bool.or_eq_true, decide_eq_true_eq] at hblank
    obtain ((rfl | rfl) | rfl) | rfl := hblank <;> decide

/-! ### What is left -/

theorem Blanks.suffix (h : Blanks text rest) : rest <:+ text := by
  induction h with
  | none => exact List.suffix_rfl
  | cons _ _ ih => exact ih.trans (List.suffix_cons _ _)

theorem Blanks.suffix_of_mark {c : Char} (h : Blanks text (c :: rest)) : rest <:+ text :=
  (List.suffix_cons c rest).trans h.suffix

theorem HexUnit.suffix {n : Nat} (h : HexUnit text n rest) : rest <:+ text := by
  cases h with
  | @digits a b c d => exact ⟨[a, b, c, d], rfl⟩

theorem Escape.suffix {c : Char} (h : Escape text c rest) : rest <:+ text := by
  cases h with
  | unit h _ => exact h.suffix.trans (List.suffix_cons _ _)
  | pair hhigh hlow _ _ =>
    have hmark := hlow.suffix.trans ((List.suffix_cons 'u' _).trans (List.suffix_cons '\\' _))
    exact (hmark.trans hhigh.suffix).trans (List.suffix_cons _ _)
  | _ => exact List.suffix_cons _ _

theorem Chars.suffix {cs : List Char} (h : Chars text cs rest) : rest <:+ text := by
  induction h with
  | close => exact List.suffix_cons _ _
  | plain _ _ _ _ ih => exact ih.trans (List.suffix_cons _ _)
  | escape hescape _ ih => exact (ih.trans hescape.suffix).trans (List.suffix_cons _ _)

theorem Fraction.suffix {digits : List Char} (h : Fraction text digits rest) :
    rest <:+ text := by
  cases h with
  | none => exact List.suffix_rfl
  | some => exact (List.suffix_append _ _).trans (List.suffix_cons _ _)

theorem Power.suffix {power : Option Int} (h : Power text power rest) : rest <:+ text := by
  cases h with
  | none => exact List.suffix_rfl
  | some => exact (List.suffix_append _ _).trans (List.suffix_cons _ _)

theorem WritesNumber.suffix {n : Numeral} (h : WritesNumber text n rest) : rest <:+ text := by
  cases h with
  | decimal _ _ hfraction hpower _ =>
    exact (hpower.suffix.trans hfraction.suffix).trans (List.suffix_append _ _)
  | _ => exact List.suffix_append _ _

theorem Writes.suffix_of_flat {v : Json} (hflat : Flat v) (h : Writes text v rest) :
    rest <:+ text := by
  cases h with
  | number => exact hflat.elim
  | string h => exact h.suffix.trans (List.suffix_cons _ _)
  | emptyArray h => exact h.suffix_of_mark.trans (List.suffix_cons _ _)
  | array _ h =>
    obtain rfl := hflat
    cases h
  | emptyObject h => exact h.suffix_of_mark.trans (List.suffix_cons _ _)
  | object _ h =>
    obtain rfl := hflat
    cases h
  | _ => exact List.suffix_append _ _

section Nesting

variable {value : List Char → Json → List Char → Prop}

theorem ItemsOf.suffix (hvalue : ∀ text v rest, value text v rest → rest <:+ text)
    {items : List Json} (h : ItemsOf value text items rest) : rest <:+ text := by
  induction h with
  | last hv hclose => exact hclose.suffix_of_mark.trans (hvalue _ _ _ hv)
  | more hv hcomma hblanks _ ih =>
    exact ((ih.trans hblanks.suffix).trans hcomma.suffix_of_mark).trans (hvalue _ _ _ hv)

theorem MembersOf.suffix (hvalue : ∀ text v rest, value text v rest → rest <:+ text)
    {members : List (String × Json)} (h : MembersOf value text members rest) :
    rest <:+ text := by
  induction h with
  | last hkey hcolon hblanks hv hclose =>
    have hstart := hblanks.suffix.trans hcolon.suffix_of_mark
    have hafter := hclose.suffix_of_mark.trans (hvalue _ _ _ hv)
    exact ((hafter.trans hstart).trans hkey.suffix).trans (List.suffix_cons _ _)
  | more hkey hcolon hblanks hv hcomma hnext _ ih =>
    have hstart := hblanks.suffix.trans hcolon.suffix_of_mark
    have hafter := ((ih.trans hnext.suffix).trans hcomma.suffix_of_mark).trans (hvalue _ _ _ hv)
    exact ((hafter.trans hstart).trans hkey.suffix).trans (List.suffix_cons _ _)

theorem WritesLayer.suffix (hvalue : ∀ text v rest, value text v rest → rest <:+ text)
    {v : Json} (h : WritesLayer value text v rest) : rest <:+ text := by
  cases h with
  | flat hflat h => exact h.suffix_of_flat hflat
  | number _ h => exact h.suffix
  | array hblanks h =>
    exact ((h.suffix hvalue).trans hblanks.suffix).trans (List.suffix_cons _ _)
  | object hblanks h =>
    exact ((h.suffix hvalue).trans hblanks.suffix).trans (List.suffix_cons _ _)

end Nesting

theorem WritesWithin.suffix {depth : Nat} {v : Json} (h : WritesWithin depth text v rest) :
    rest <:+ text := by
  induction depth generalizing text v rest with
  | zero => exact WritesLayer.suffix (fun _ _ _ hfalse ↦ hfalse.elim) h
  | succ depth ih => exact WritesLayer.suffix (fun _ _ _ hv ↦ ih hv) h

/-! ### Blanks, words and strings -/

theorem skipBlanks_eq (h : Blanks text rest) (hrest : ∀ c ∈ rest.head?, isBlank c = false) :
    skipBlanks text = rest := by
  unfold skipBlanks
  induction h with
  | none rest =>
    cases rest with
    | nil => rfl
    | cons c cs => exact List.dropWhile_cons_of_neg (by simp [hrest c rfl])
  | cons hc _ ih =>
    rw [List.dropWhile_cons_of_pos hc]
    exact ih hrest

theorem skipBlanks_mark {c : Char} (h : Blanks text (c :: rest)) (hc : isBlank c = false) :
    skipBlanks text = c :: rest := by
  refine skipBlanks_eq h fun d hd ↦ ?_
  obtain rfl := Option.some.inj hd
  exact hc

theorem afterWord?_append (word rest : List Char) : afterWord? word (word ++ rest) = some rest := by
  induction word with
  | nil => rfl
  | cons w ws ih =>
    rw [List.cons_append, afterWord?, if_pos rfl]
    exact ih

theorem hexUnit?_eq {n : Nat} (h : HexUnit text n rest) : hexUnit? text = some (n, rest) := by
  cases h with
  | digits rest ha hb hc hd => simp [hexUnit?, ha, hb, hc, hd]

theorem escape?_eq {c : Char} (h : Escape text c rest) : escape? text = some (c, rest) := by
  cases h with
  | unit h hsurrogate =>
    change unicodeEscape? _ = _
    rw [unicodeEscape?, hexUnit?_eq h]
    dsimp only [Option.bind_eq_bind, Option.bind_some]
    rw [if_neg (by omega), if_neg (by omega)]
  | pair hhigh hlow hhighRange hlowRange =>
    change unicodeEscape? _ = _
    rw [unicodeEscape?, hexUnit?_eq hhigh]
    simp only [Option.bind_eq_bind, Option.bind_some, hhighRange, hexUnit?_eq hlow, hlowRange,
      and_self, if_true]
  | _ => rfl

/-- The characters of a string are read, if there is fuel for all that is ahead. -/
theorem stringTail_eq {cs : List Char} (h : Chars text cs rest) {fuel : Nat}
    (hfuel : text.length ≤ fuel) (done : List Char) :
    stringTail fuel done text = some (String.ofList (done.reverse ++ cs), rest) := by
  induction h generalizing fuel done with
  | close rest =>
    obtain ⟨fuel, rfl⟩ := Nat.exists_eq_add_of_lt hfuel
    rw [List.append_nil]
    rfl
  | plain hquote hbackslash hcontrol _ ih =>
    obtain _ | fuel := fuel
    · cases hfuel
    · unfold stringTail
      split
      · contradiction
      · rename_i heq
        cases heq
        contradiction
      · rename_i heq
        cases heq
        contradiction
      · rename_i heq
        cases heq
        rw [if_neg (Nat.not_lt.mpr hcontrol), ih (Nat.le_of_succ_le_succ hfuel), List.reverse_cons,
          List.append_assoc]
        rfl
  | escape hescape _ ih =>
    obtain _ | fuel := fuel
    · cases hfuel
    · have hmiddle := hescape.suffix.length_le.trans (Nat.le_of_succ_le_succ hfuel)
      simp only [stringTail, escape?_eq hescape]
      rw [ih hmiddle, List.reverse_cons, List.append_assoc]
      rfl

/-! ### Numbers -/

theorem spanDigits_append {digits : List Char} (hdigits : ∀ c ∈ digits, isDigit c = true)
    (hrest : EndsDigits rest) : spanDigits (digits ++ rest) = (digits, rest) := by
  unfold spanDigits
  rw [List.span_eq_takeWhile_dropWhile, List.takeWhile_append_of_pos hdigits,
    List.dropWhile_append_of_pos hdigits]
  cases rest with
  | nil => simp
  | cons c cs => simp [hrest c rfl]

theorem fraction?_eq {digits : List Char} (h : Fraction text digits rest)
    (hrest : EndsFraction rest) : fraction? text = some (digits, rest) := by
  cases h with
  | none =>
    unfold fraction?
    split
    · exact absurd rfl (hrest '.' rfl).2
    · rfl
  | some rest hne hdigits =>
    simp only [fraction?, spanDigits_append hdigits hrest.endsDigits]
    rw [if_neg (by simpa using hne)]

theorem exponentPart_eq {mark : Char} {sign digits : List Char}
    (hmark : mark = 'e' ∨ mark = 'E') (hsign : sign = [] ∨ sign = ['+'] ∨ sign = ['-'])
    (hne : digits ≠ []) (hdigits : ∀ c ∈ digits, isDigit c = true) (hrest : EndsDigits rest) :
    exponentPart (mark :: (sign ++ digits ++ rest)) =
      some (if sign = ['-'] then -(natOfDigits digits : Int) else natOfDigits digits, rest) := by
  have hspan := spanDigits_append hdigits hrest
  have hempty : digits.isEmpty = false := by simpa using hne
  unfold exponentPart
  dsimp only
  rw [if_pos hmark]
  obtain rfl | rfl | rfl := hsign
  · obtain ⟨d, ds, rfl⟩ := List.exists_cons_of_ne_nil hne
    have hminus : d ≠ '-' := fun heq ↦ absurd (heq ▸ hdigits d List.mem_cons_self) (by decide)
    have hplus : d ≠ '+' := fun heq ↦ absurd (heq ▸ hdigits d List.mem_cons_self) (by decide)
    rw [List.cons_append] at hspan
    rw [List.nil_append, List.cons_append]
    split
    · rename_i heq
      exact absurd (List.cons.inj heq).1 hminus
    · rename_i heq
      exact absurd (List.cons.inj heq).1 hplus
    · simp [hspan]
  · simp [hspan, hempty]
  · simp [hspan, hempty]

theorem power?_eq {power : Option Int} (h : Power text power rest) (hrest : Follows rest) :
    power? text = some (power, rest) := by
  cases h with
  | none =>
    unfold power?
    split
    · rw [if_neg (hrest.not_mark _ rfl)]
    · rfl
  | some rest hmark hsign hne hdigits =>
    unfold power?
    dsimp only
    rw [if_pos hmark, exponentPart_eq hmark hsign hne hdigits hrest.endsFraction.endsDigits]
    rfl

theorem Power.endsFraction {power : Option Int} (h : Power text power rest)
    (hrest : Follows rest) : EndsFraction text := by
  cases h with
  | none => exact hrest.endsFraction
  | some rest hmark _ _ _ =>
    intro c hc
    obtain rfl := Option.some.inj hc
    obtain rfl | rfl := hmark <;> decide

theorem Fraction.endsDigits {digits : List Char} (h : Fraction text digits rest)
    (hrest : EndsFraction rest) : EndsDigits text := by
  cases h with
  | none => exact hrest.endsDigits
  | some rest _ _ =>
    intro c hc
    obtain rfl := Option.some.inj hc
    decide

theorem WholePart.exists_cons {whole : List Char} (h : WholePart whole) :
    ∃ d ds, whole = d :: ds ∧ isDigit d = true := by
  obtain ⟨d, ds, rfl⟩ := List.exists_cons_of_ne_nil h.nonempty
  exact ⟨d, ds, rfl, h.areDigits d List.mem_cons_self⟩

theorem wholePart_signed (negative : Bool) {whole : List Char} (h : WholePart whole)
    (htext : EndsDigits text) :
    wholePart (signText negative ++ whole ++ text) = signText negative ++ whole := by
  have hspan := spanDigits_append h.areDigits htext
  unfold spanDigits at hspan
  rw [List.span_eq_takeWhile_dropWhile, Prod.mk.injEq] at hspan
  cases negative with
  | true => exact congrArg ('-' :: ·) hspan.1
  | false =>
    obtain ⟨d, ds, rfl, hd⟩ := h.exists_cons
    change wholePart (d :: ds ++ text) = d :: ds
    unfold wholePart
    split
    · rename_i heq
      exact absurd ((List.cons.inj heq).1 ▸ hd) (by decide)
    · exact hspan.1

/-- A number with a whole part is the unsigned reader's. -/
theorem number?_signed (negative : Bool) {whole : List Char} (h : WholePart whole)
    (text : List Char) :
    number? (signText negative ++ whole ++ text) = unsigned? negative (whole ++ text) := by
  obtain ⟨d, ds, rfl, hd⟩ := h.exists_cons
  have hne (c : Char) (hc : isDigit c = false) : d ≠ c :=
    fun heq ↦ absurd (heq ▸ hd) (by simp [hc])
  have hminus := hne '-' rfl
  have hi := hne 'I' rfl
  have hn := hne 'N' rfl
  cases negative with
  | true =>
    change number? ('-' :: d :: (ds ++ text)) = _
    unfold number?
    split <;> simp_all
  | false =>
    change number? (d :: (ds ++ text)) = _
    unfold number?
    split <;> simp_all

/-- What comes after the whole part of a number is read to its end. -/
theorem unsigned?_eq (negative : Bool) {whole digits middle : List Char} {power : Option Int}
    (h : WholePart whole) (hlimit : (signText negative ++ whole).length ≤ wholePartLimit)
    (hfraction : Fraction text digits middle) (hpower : Power middle power rest)
    (hrest : Follows rest) :
    unsigned? negative (whole ++ text) =
      match digits, power with
      | [], none => some (.integer
          (if negative then -(natOfDigits whole : Int) else natOfDigits whole), rest)
      | _, _ => some (.decimal ⟨negative, natOfDigits (whole ++ digits),
          power.getD 0 - digits.length⟩, rest) := by
  have hends := hpower.endsFraction hrest
  have hsigned : ¬ (if negative then whole.length + 1 else whole.length) > wholePartLimit := by
    rw [List.length_append] at hlimit
    cases negative <;> simp [signText] at hlimit ⊢ <;> omega
  have hempty : ¬ whole.isEmpty = true := by simpa using h.nonempty
  have hleading : ¬ (whole.length > 1 ∧ whole.head? = some '0') :=
    fun hboth ↦ h.leading hboth.1 hboth.2
  unfold unsigned?
  rw [spanDigits_append h.areDigits (hfraction.endsDigits hends)]
  dsimp only
  rw [if_neg (not_or.mpr ⟨hempty, not_or.mpr ⟨hsigned, hleading⟩⟩), fraction?_eq hfraction hends]
  dsimp only [Option.bind_eq_bind, Option.bind_some]
  rw [power?_eq hpower hrest]
  dsimp only [Option.bind_some]
  split <;> simp_all

/-- A number within the limit is read to its end. -/
theorem number?_eq {n : Numeral} (h : WritesNumber text n rest)
    (hlimit : (wholePart text).length ≤ wholePartLimit) (hrest : Follows rest) :
    number? text = some (n, rest) := by
  cases h with
  | integer negative rest hwhole =>
    rw [wholePart_signed negative hwhole hrest.endsFraction.endsDigits] at hlimit
    rw [number?_signed negative hwhole,
      unsigned?_eq negative hwhole hlimit (.none rest) (.none rest) hrest]
  | decimal negative hwhole hfraction hpower hmore =>
    have htext := hfraction.endsDigits (hpower.endsFraction hrest)
    rw [wholePart_signed negative hwhole htext] at hlimit
    rw [number?_signed negative hwhole,
      unsigned?_eq negative hwhole hlimit hfraction hpower hrest]
    split
    · exact absurd rfl (hmore rfl)
    · rfl
  | infinite negative rest =>
    cases negative with
    | true =>
      change (afterWord? "nfinity".toList ("nfinity".toList ++ rest)).map _ = _
      rw [afterWord?_append]
      rfl
    | false =>
      change (afterWord? "nfinity".toList ("nfinity".toList ++ rest)).map _ = _
      rw [afterWord?_append]
      rfl
  | notANumber rest =>
    change (afterWord? "aN".toList ("aN".toList ++ rest)).map _ = _
    rw [afterWord?_append]
    rfl

/-! ### Values -/

/-- A text that goes on with something that is neither a blank nor a closing bracket. -/
def Begins (text : List Char) : Prop :=
  ∃ c cs, text = c :: cs ∧ isBlank c = false ∧ c ≠ ']'

theorem skipBlanks_begins (h : Blanks text rest) (hrest : Begins rest) :
    skipBlanks text = rest := by
  obtain ⟨c, cs, rfl, hc, -⟩ := hrest
  exact skipBlanks_mark h hc

/-- One of the characters that a number begins with. -/
def startsNumber (c : Char) : Bool := isDigit c || c = '-' || c = 'I' || c = 'N'

theorem WritesNumber.exists_cons {n : Numeral} (h : WritesNumber text n rest) :
    ∃ c cs, text = c :: cs ∧ startsNumber c = true := by
  have hsigned (negative : Bool) {whole : List Char} (hwhole : WholePart whole)
      (after : List Char) :
      ∃ c cs, signText negative ++ whole ++ after = c :: cs ∧ startsNumber c = true := by
    obtain ⟨d, ds, rfl, hd⟩ := hwhole.exists_cons
    cases negative with
    | true => exact ⟨'-', _, rfl, rfl⟩
    | false => exact ⟨d, _, rfl, by simp [startsNumber, hd]⟩
  cases h with
  | integer negative rest hwhole => exact hsigned negative hwhole rest
  | decimal negative hwhole _ _ _ => exact hsigned negative hwhole _
  | infinite negative rest => cases negative <;> exact ⟨_, _, rfl, rfl⟩
  | notANumber rest => exact ⟨_, _, rfl, rfl⟩

theorem Writes.begins_of_flat {v : Json} (hflat : Flat v) (h : Writes text v rest) :
    Begins text := by
  cases h with
  | number => exact hflat.elim
  | array _ h =>
    obtain rfl := hflat
    cases h
  | object _ h =>
    obtain rfl := hflat
    cases h
  | _ => exact ⟨_, _, rfl, by decide, by decide⟩

theorem WritesLayer.begins {inner : List Char → Json → List Char → Prop} {v : Json}
    (h : WritesLayer inner text v rest) : Begins text := by
  cases h with
  | flat hflat h => exact h.begins_of_flat hflat
  | number _ h =>
    obtain ⟨c, cs, rfl, hc⟩ := h.exists_cons
    have hall : ∀ d ∈ [' ', '\t', '\n', '\r', ']'], startsNumber d = false := by
      simp [startsNumber, isDigit]
    have hne : ∀ d ∈ [' ', '\t', '\n', '\r', ']'], c ≠ d :=
      fun d hd heq ↦ absurd (heq ▸ hc) (by simp [hall d hd])
    exact ⟨c, cs, rfl, by simp [isBlank, hne], hne ']' (by decide)⟩
  | array => exact ⟨_, _, rfl, by decide, by decide⟩
  | object => exact ⟨_, _, rfl, by decide, by decide⟩

theorem WritesWithin.begins {depth : Nat} {v : Json} (h : WritesWithin depth text v rest) :
    Begins text := by
  cases depth <;> exact WritesLayer.begins h

theorem ItemsOf.begins {depth : Nat} {items : List Json}
    (h : ItemsOf (WritesWithin depth) text items rest) : Begins text := by
  cases h with
  | last hv _ => exact hv.begins
  | more hv _ _ _ => exact hv.begins

theorem MembersOf.begins {value : List Char → Json → List Char → Prop}
    {members : List (String × Json)} (h : MembersOf value text members rest) : Begins text := by
  cases h <;> exact ⟨_, _, rfl, by decide, by decide⟩

section Reading

variable {size depth : Nat}

theorem value?_of_flat {v : Json} (hflat : Flat v) (h : Writes text v rest)
    (hsize : text.length ≤ size) : value? size depth text = some (v, rest) := by
  unfold value?
  cases h with
  | null rest =>
    change (afterWord? "ull".toList ("ull".toList ++ rest)).map _ = _
    rw [afterWord?_append]
    rfl
  | true rest =>
    change (afterWord? "rue".toList ("rue".toList ++ rest)).map _ = _
    rw [afterWord?_append]
    rfl
  | false rest =>
    change (afterWord? "alse".toList ("alse".toList ++ rest)).map _ = _
    rw [afterWord?_append]
    rfl
  | number => exact hflat.elim
  | string h =>
    change (stringTail size [] _).map _ = _
    rw [stringTail_eq h (Nat.le_of_succ_le hsize)]
    rfl
  | emptyArray h => simp only [skipBlanks_mark h (by decide)]
  | array _ h =>
    obtain rfl := hflat
    cases h
  | emptyObject h => simp only [skipBlanks_mark h (by decide)]
  | object _ h =>
    obtain rfl := hflat
    cases h

theorem value?_of_number {n : Numeral} (h : WritesNumber text n rest)
    (hlimit : (wholePart text).length ≤ wholePartLimit) (hrest : Follows rest) :
    value? size depth text = some (number n, rest) := by
  have hread := number?_eq h hlimit hrest
  obtain ⟨c, cs, rfl, hc⟩ := h.exists_cons
  unfold value?
  split
  case h_1 heq => cases heq
  case h_8 =>
    rw [hread]
    rfl
  all_goals
    rename_i heq
    cases heq
    exact absurd hc (by decide)

variable
  (hread : ∀ {text rest : List Char} {v : Json}, WritesWithin depth text v rest →
    text.length ≤ size → Follows rest → value? size depth text = some (v, rest))

include hread

/-- The items of an array are read, if there is fuel for all that is ahead. -/
theorem itemsTail_eq {items : List Json} (h : ItemsOf (WritesWithin depth) text items rest)
    (hsize : text.length ≤ size) {fuel : Nat} (hfuel : text.length ≤ fuel) (done : List Json) :
    itemsTail (value? size depth) fuel done text = some (done.reverse ++ items, rest) := by
  induction h generalizing fuel done with
  | last hv hclose =>
    obtain ⟨c, cs, rfl, -⟩ := hv.begins
    obtain ⟨fuel, rfl⟩ := Nat.exists_eq_add_of_lt hfuel
    unfold itemsTail
    rw [hread hv hsize (follows_of_blanks hclose (by decide))]
    simp only [skipBlanks_mark hclose (by decide), List.reverse_cons]
  | more hv hcomma hblanks hnext ih =>
    have hmiddle := hcomma.suffix.length_le.trans hv.suffix.length_le
    have hshorter := hblanks.suffix.length_le
    rw [List.length_cons] at hmiddle
    obtain ⟨c, cs, rfl, -⟩ := hv.begins
    obtain ⟨fuel, rfl⟩ := Nat.exists_eq_add_of_lt hfuel
    unfold itemsTail
    rw [hread hv hsize (follows_of_blanks hcomma (by decide))]
    simp only [skipBlanks_mark hcomma (by decide), skipBlanks_begins hblanks hnext.begins]
    rw [ih (by omega) (by omega), List.reverse_cons, List.append_assoc]
    rfl

/-- The members of an object are read, if there is fuel for all that is ahead. -/
theorem membersTail_eq {members : List (String × Json)}
    (h : MembersOf (WritesWithin depth) text members rest) (hsize : text.length ≤ size)
    {fuel : Nat} (hfuel : text.length ≤ fuel) (done : List (String × Json)) :
    membersTail (value? size depth) size fuel done text =
      some (done.reverse ++ members, rest) := by
  induction h generalizing fuel done with
  | last hkey hcolon hblanks hv hclose =>
    have hstart := (hblanks.suffix.trans hcolon.suffix_of_mark).length_le
    have hafterKey := hkey.suffix.length_le
    obtain ⟨fuel, rfl⟩ := Nat.exists_eq_add_of_lt hfuel
    rw [List.length_cons] at hsize
    unfold membersTail
    simp only [stringTail_eq hkey (Nat.le_of_succ_le hsize), skipBlanks_mark hcolon (by decide),
      skipBlanks_begins hblanks hv.begins]
    rw [hread hv (by omega) (follows_of_blanks hclose (by decide))]
    simp only [skipBlanks_mark hclose (by decide), List.reverse_cons, List.reverse_nil,
      List.nil_append]
  | more hkey hcolon hblanks hv hcomma hnext hmembers ih =>
    have hstart := (hblanks.suffix.trans hcolon.suffix_of_mark).length_le
    have hafterKey := hkey.suffix.length_le
    have hmiddle := (hnext.suffix.trans hcomma.suffix_of_mark).length_le.trans hv.suffix.length_le
    obtain ⟨fuel, rfl⟩ := Nat.exists_eq_add_of_lt hfuel
    rw [List.length_cons] at hsize
    unfold membersTail
    simp only [stringTail_eq hkey (Nat.le_of_succ_le hsize), skipBlanks_mark hcolon (by decide),
      skipBlanks_begins hblanks hv.begins]
    rw [hread hv (by omega) (follows_of_blanks hcomma (by decide))]
    simp only [skipBlanks_mark hcomma (by decide), skipBlanks_begins hnext hmembers.begins]
    rw [ih (by omega) (by omega), List.reverse_cons, List.append_assoc]
    rfl

theorem value?_of_itemsOf {inside : List Char} {items : List Json} (hblanks : Blanks text inside)
    (h : ItemsOf (WritesWithin depth) inside items rest) (hsize : text.length ≤ size) :
    value? size (depth + 1) ('[' :: text) = some (array items, rest) := by
  have hinside := hblanks.suffix.length_le.trans hsize
  have hitems := itemsTail_eq hread h hinside hinside []
  have hskip := skipBlanks_begins hblanks h.begins
  obtain ⟨c, cs, rfl, -, hc⟩ := h.begins
  unfold value?
  simp only [hskip]
  split
  · rename_i heq
    exact absurd (List.cons.inj heq).1 hc
  · rw [hitems]
    rfl

theorem value?_of_membersOf {inside : List Char} {members : List (String × Json)}
    (hblanks : Blanks text inside) (h : MembersOf (WritesWithin depth) inside members rest)
    (hsize : text.length ≤ size) :
    value? size (depth + 1) ('\x7b' :: text) = some (object members, rest) := by
  have hinside := hblanks.suffix.length_le.trans hsize
  have hmembers := membersTail_eq hread h hinside hinside []
  have hskip := skipBlanks_begins hblanks h.begins
  unfold value?
  simp only [hskip]
  split
  · cases h
  · rw [hmembers]
    rfl

end Reading

/-- What is written within the limits is read, up to what comes after it. -/
theorem value?_of_writesWithin {size depth : Nat} {v : Json}
    (h : WritesWithin depth text v rest) (hsize : text.length ≤ size) (hrest : Follows rest) :
    value? size depth text = some (v, rest) := by
  induction depth generalizing text rest v with
  | zero =>
    cases h with
    | flat hflat h => exact value?_of_flat hflat h hsize
    | number hlimit h => exact value?_of_number h hlimit hrest
    | array _ h =>
      cases h with
      | last hv _ => exact hv.elim
      | more hv _ _ _ => exact hv.elim
    | object _ h =>
      cases h with
      | last _ _ _ hv _ => exact hv.elim
      | more _ _ _ hv _ _ _ => exact hv.elim
  | succ depth ih =>
    cases h with
    | flat hflat h => exact value?_of_flat hflat h hsize
    | number hlimit h => exact value?_of_number h hlimit hrest
    | array hblanks h => exact value?_of_itemsOf ih hblanks h (Nat.le_of_succ_le hsize)
    | object hblanks h => exact value?_of_membersOf ih hblanks h (Nat.le_of_succ_le hsize)

/-- The reader takes exactly the texts that write a value within the limits. -/
theorem ofText?_eq_some_iff {v : Json} : ofText? text = some v ↔ IsReadable text v := by
  constructor
  · exact isReadable_of_ofText?
  · rintro ⟨start, rest, hblanks, hv, hrest⟩
    have hlength := hblanks.suffix.length_le
    unfold ofText?
    rw [skipBlanks_begins hblanks hv.begins,
      value?_of_writesWithin hv (Nat.le_succ_of_le hlength) (follows_of_blanks_nil hrest)]
    dsimp only
    rw [skipBlanks_eq hrest (by simp)]
    rfl

end FormCatalog.Json

namespace FormCatalog

theorem Bytes.toText?_ofText (text : String) : (Bytes.ofText text).toText? = some text := by
  have hbytes : (⟨(ofText text).toArray⟩ : ByteArray) = text.toUTF8 := by simp [ofText]
  unfold toText? String.fromUTF8?
  rw [hbytes]
  exact dif_pos text.isValidUTF8

/-- The reader takes exactly the encodings of such texts. -/
theorem Json.ofBytes?_eq_some_iff {bs : Bytes} {v : Json} :
    ofBytes? bs = some v ↔ ∃ text, bs = Bytes.ofText text ∧ IsReadable text.toList v := by
  constructor
  · exact isReadable_of_ofBytes?
  · rintro ⟨text, rfl, htext⟩
    unfold ofBytes?
    rw [Bytes.toText?_ofText]
    exact ofText?_eq_some_iff.mpr htext

end FormCatalog
