import FormCatalog.Json.Parser
import Mathlib.Data.List.TakeDrop
import Mathlib.Data.List.TakeWhile

/-!
# The grammar of JSON texts

What it is for a text to write a value, without a word of how it is read. `Writes text v rest` says
that a text begins with a written `v` and goes on with `rest`; the productions below it (blanks,
characters of a string, numbers, items, members) have the same shape. Beside the standard's grammar
there are the three named numbers.

The reader has two limits, one on nesting and one on the whole part of a number. What is written
within them is `WritesWithin`, for a whole text `IsReadable`. Whatever the reader accepts is written
so: `writesWithin_of_value?` for a value with something after it, `isReadable_of_ofText?` for a
whole text and `isReadable_of_ofBytes?` for its UTF-8 encoding.
-/

set_option autoImplicit false
set_option relaxedAutoImplicit false

namespace FormCatalog.Json

open Number

/-! ### The grammar -/

/-- Any number of blanks. -/
inductive Blanks : List Char → List Char → Prop
  | none (rest : List Char) : Blanks rest rest
  | cons {c : Char} {text rest : List Char} (hc : isBlank c = true) (h : Blanks text rest) :
      Blanks (c :: text) rest

/-- Four hexadecimal digits and the number they write. -/
inductive HexUnit : List Char → Nat → List Char → Prop
  | digits {a b c d : Char} {w x y z : Nat} (rest : List Char) (ha : hexValue? a = some w)
      (hb : hexValue? b = some x) (hc : hexValue? c = some y) (hd : hexValue? d = some z) :
      HexUnit (a :: b :: c :: d :: rest) (((w * 16 + x) * 16 + y) * 16 + z) rest

/-- What may follow a backslash, and the character it stands for. -/
inductive Escape : List Char → Char → List Char → Prop
  | quote (rest : List Char) : Escape ('"' :: rest) '"' rest
  | backslash (rest : List Char) : Escape ('\\' :: rest) '\\' rest
  | slash (rest : List Char) : Escape ('/' :: rest) '/' rest
  | backspace (rest : List Char) : Escape ('b' :: rest) (Char.ofNat 8) rest
  | formFeed (rest : List Char) : Escape ('f' :: rest) (Char.ofNat 12) rest
  | newline (rest : List Char) : Escape ('n' :: rest) '\n' rest
  | carriageReturn (rest : List Char) : Escape ('r' :: rest) '\r' rest
  | tab (rest : List Char) : Escape ('t' :: rest) '\t' rest
  | unit {text rest : List Char} {n : Nat} (h : HexUnit text n rest)
      (hsurrogate : ¬ (0xD800 ≤ n ∧ n < 0xE000)) : Escape ('u' :: text) (Char.ofNat n) rest
  | pair {text middle rest : List Char} {high low : Nat}
      (hhigh : HexUnit text high ('\\' :: 'u' :: middle)) (hlow : HexUnit middle low rest)
      (hhighRange : 0xD800 ≤ high ∧ high < 0xDC00) (hlowRange : 0xDC00 ≤ low ∧ low < 0xE000) :
      Escape ('u' :: text)
        (Char.ofNat (0x10000 + (high - 0xD800) * 0x400 + (low - 0xDC00))) rest

/-- The characters of a string, up to and with the closing quote. -/
inductive Chars : List Char → List Char → List Char → Prop
  | close (rest : List Char) : Chars ('"' :: rest) [] rest
  | plain {c : Char} {text cs rest : List Char} (hquote : c ≠ '"') (hbackslash : c ≠ '\\')
      (hcontrol : 0x20 ≤ c.toNat) (h : Chars text cs rest) : Chars (c :: text) (c :: cs) rest
  | escape {c : Char} {text middle cs rest : List Char} (hescape : Escape text c middle)
      (h : Chars middle cs rest) : Chars ('\\' :: text) (c :: cs) rest

/-- The digits before a point: at least one, and no zero before others. -/
structure WholePart (digits : List Char) : Prop where
  nonempty : digits ≠ []
  areDigits : ∀ c ∈ digits, isDigit c = true
  leading : 1 < digits.length → digits.head? ≠ some '0'

/-- A fraction and its digits, or nothing. -/
inductive Fraction : List Char → List Char → List Char → Prop
  | none (rest : List Char) : Fraction rest [] rest
  | some {digits : List Char} (rest : List Char) (hne : digits ≠ [])
      (hdigits : ∀ c ∈ digits, isDigit c = true) : Fraction ('.' :: (digits ++ rest)) digits rest

/-- A power of ten, or nothing. -/
inductive Power : List Char → Option Int → List Char → Prop
  | none (rest : List Char) : Power rest none rest
  | some {mark : Char} {sign digits : List Char} (rest : List Char)
      (hmark : mark = 'e' ∨ mark = 'E') (hsign : sign = [] ∨ sign = ['+'] ∨ sign = ['-'])
      (hne : digits ≠ []) (hdigits : ∀ c ∈ digits, isDigit c = true) :
      Power (mark :: (sign ++ digits ++ rest))
        (some (if sign = ['-'] then -(natOfDigits digits : Int) else natOfDigits digits)) rest

/-- The sign of a number. -/
def signText (negative : Bool) : List Char := if negative then ['-'] else []

/-- A number: an integer, one with a fraction or a power, or a named one. -/
inductive WritesNumber : List Char → Numeral → List Char → Prop
  | integer (negative : Bool) {whole : List Char} (rest : List Char) (hwhole : WholePart whole) :
      WritesNumber (signText negative ++ whole ++ rest)
        (.integer (if negative then -(natOfDigits whole : Int) else natOfDigits whole)) rest
  | decimal (negative : Bool) {whole digits text middle rest : List Char} {power : Option Int}
      (hwhole : WholePart whole) (hfraction : Fraction text digits middle)
      (hpower : Power middle power rest) (hmore : digits = [] → power ≠ none) :
      WritesNumber (signText negative ++ whole ++ text)
        (.decimal ⟨negative, natOfDigits (whole ++ digits), power.getD 0 - digits.length⟩) rest
  | infinite (negative : Bool) (rest : List Char) :
      WritesNumber (signText negative ++ "Infinity".toList ++ rest) (.infinite negative) rest
  | notANumber (rest : List Char) : WritesNumber ("NaN".toList ++ rest) .notANumber rest

mutual

/-- A value. -/
inductive Writes : List Char → Json → List Char → Prop
  | null (rest : List Char) : Writes ("null".toList ++ rest) null rest
  | true (rest : List Char) : Writes ("true".toList ++ rest) (bool true) rest
  | false (rest : List Char) : Writes ("false".toList ++ rest) (bool false) rest
  | number {text rest : List Char} {n : Numeral} (h : WritesNumber text n rest) :
      Writes text (number n) rest
  | string {text cs rest : List Char} (h : Chars text cs rest) :
      Writes ('"' :: text) (string (String.ofList cs)) rest
  | emptyArray {text rest : List Char} (h : Blanks text (']' :: rest)) :
      Writes ('[' :: text) (array []) rest
  | array {text inside rest : List Char} {items : List Json} (hblanks : Blanks text inside)
      (h : WritesItems inside items rest) : Writes ('[' :: text) (array items) rest
  | emptyObject {text rest : List Char} (h : Blanks text ('\x7d' :: rest)) :
      Writes ('\x7b' :: text) (object []) rest
  | object {text inside rest : List Char} {members : List (String × Json)}
      (hblanks : Blanks text inside) (h : WritesMembers inside members rest) :
      Writes ('\x7b' :: text) (object members) rest

/-- The items of an array, up to and with the closing bracket. -/
inductive WritesItems : List Char → List Json → List Char → Prop
  | last {text after rest : List Char} {v : Json} (hv : Writes text v after)
      (hclose : Blanks after (']' :: rest)) : WritesItems text [v] rest
  | more {text after middle next rest : List Char} {v : Json} {vs : List Json}
      (hv : Writes text v after) (hcomma : Blanks after (',' :: middle))
      (hblanks : Blanks middle next) (h : WritesItems next vs rest) :
      WritesItems text (v :: vs) rest

/-- The members of an object, up to and with the closing brace. -/
inductive WritesMembers : List Char → List (String × Json) → List Char → Prop
  | last {text afterKey colon value after rest key : List Char} {v : Json}
      (hkey : Chars text key afterKey) (hcolon : Blanks afterKey (':' :: colon))
      (hblanks : Blanks colon value) (hv : Writes value v after)
      (hclose : Blanks after ('\x7d' :: rest)) :
      WritesMembers ('"' :: text) [(String.ofList key, v)] rest
  | more {text afterKey colon value after middle next rest key : List Char} {v : Json}
      {members : List (String × Json)}
      (hkey : Chars text key afterKey) (hcolon : Blanks afterKey (':' :: colon))
      (hblanks : Blanks colon value) (hv : Writes value v after)
      (hcomma : Blanks after (',' :: middle)) (hnext : Blanks middle next)
      (h : WritesMembers next members rest) :
      WritesMembers ('"' :: text) ((String.ofList key, v) :: members) rest

end

/-- A text that writes a value, with nothing but blanks around it. -/
def IsText (text : List Char) (v : Json) : Prop :=
  ∃ start rest, Blanks text start ∧ Writes start v rest ∧ Blanks rest []

/-! ### Limits -/

section Nesting

variable (value : List Char → Json → List Char → Prop)

/-- The items of an array, up to and with the closing bracket, when `value` says how each is
written. -/
inductive ItemsOf : List Char → List Json → List Char → Prop
  | last {text after rest : List Char} {v : Json} (hv : value text v after)
      (hclose : Blanks after (']' :: rest)) : ItemsOf text [v] rest
  | more {text after middle next rest : List Char} {v : Json} {vs : List Json}
      (hv : value text v after) (hcomma : Blanks after (',' :: middle))
      (hblanks : Blanks middle next) (h : ItemsOf next vs rest) : ItemsOf text (v :: vs) rest

/-- The members of an object, up to and with the closing brace, when `value` says how the value of
each is written. -/
inductive MembersOf : List Char → List (String × Json) → List Char → Prop
  | last {text afterKey colon start after rest key : List Char} {v : Json}
      (hkey : Chars text key afterKey) (hcolon : Blanks afterKey (':' :: colon))
      (hblanks : Blanks colon start) (hv : value start v after)
      (hclose : Blanks after ('\x7d' :: rest)) :
      MembersOf ('"' :: text) [(String.ofList key, v)] rest
  | more {text afterKey colon start after middle next rest key : List Char} {v : Json}
      {members : List (String × Json)}
      (hkey : Chars text key afterKey) (hcolon : Blanks afterKey (':' :: colon))
      (hblanks : Blanks colon start) (hv : value start v after)
      (hcomma : Blanks after (',' :: middle)) (hnext : Blanks middle next)
      (h : MembersOf next members rest) :
      MembersOf ('"' :: text) ((String.ofList key, v) :: members) rest

end Nesting

/-- Neither a number nor an array or object that holds something. -/
def Flat : Json → Prop
  | number _ => False
  | array items => items = []
  | object members => members = []
  | _ => True

/-- The sign and the digits that a number begins with. -/
def wholePart : List Char → List Char
  | '-' :: cs => '-' :: cs.takeWhile isDigit
  | cs => cs.takeWhile isDigit

/-- A value in which no number has too long a whole part, when `inner` says how what an array or
object holds is written. -/
inductive WritesLayer (inner : List Char → Json → List Char → Prop) :
    List Char → Json → List Char → Prop
  | flat {text rest : List Char} {v : Json} (hflat : Flat v) (h : Writes text v rest) :
      WritesLayer inner text v rest
  | number {text rest : List Char} {n : Numeral}
      (hlimit : (wholePart text).length ≤ wholePartLimit) (h : WritesNumber text n rest) :
      WritesLayer inner text (number n) rest
  | array {text inside rest : List Char} {items : List Json} (hblanks : Blanks text inside)
      (h : ItemsOf inner inside items rest) : WritesLayer inner ('[' :: text) (array items) rest
  | object {text inside rest : List Char} {members : List (String × Json)}
      (hblanks : Blanks text inside) (h : MembersOf inner inside members rest) :
      WritesLayer inner ('\x7b' :: text) (object members) rest

/-- A value within the limit for numbers, in which arrays and objects that hold something nest at
most `depth` deep. -/
def WritesWithin : Nat → List Char → Json → List Char → Prop
  | 0 => WritesLayer fun _ _ _ ↦ False
  | depth + 1 => WritesLayer (WritesWithin depth)

/-- A text that writes a value within the limits, with nothing but blanks around it. -/
def IsReadable (text : List Char) (v : Json) : Prop :=
  ∃ start rest, Blanks text start ∧ WritesWithin depthLimit start v rest ∧ Blanks rest []

namespace WritesWithin

variable {depth : Nat} {text rest : List Char} {v : Json}

theorem flat (hflat : Flat v) (h : Writes text v rest) : WritesWithin depth text v rest := by
  cases depth <;> exact WritesLayer.flat hflat h

theorem number {n : Numeral} (hlimit : (wholePart text).length ≤ wholePartLimit)
    (h : WritesNumber text n rest) : WritesWithin depth text (number n) rest := by
  cases depth <;> exact WritesLayer.number hlimit h

end WritesWithin

section Nesting

variable {value : List Char → Json → List Char → Prop}

theorem ItemsOf.writes (hvalue : ∀ text v rest, value text v rest → Writes text v rest)
    {text rest : List Char} {items : List Json} (h : ItemsOf value text items rest) :
    WritesItems text items rest := by
  induction h with
  | last hv hclose => exact .last (hvalue _ _ _ hv) hclose
  | more hv hcomma hblanks _ ih => exact .more (hvalue _ _ _ hv) hcomma hblanks ih

theorem MembersOf.writes (hvalue : ∀ text v rest, value text v rest → Writes text v rest)
    {text rest : List Char} {members : List (String × Json)}
    (h : MembersOf value text members rest) : WritesMembers text members rest := by
  induction h with
  | last hkey hcolon hblanks hv hclose =>
    exact .last hkey hcolon hblanks (hvalue _ _ _ hv) hclose
  | more hkey hcolon hblanks hv hcomma hnext _ ih =>
    exact .more hkey hcolon hblanks (hvalue _ _ _ hv) hcomma hnext ih

theorem WritesLayer.writes (hvalue : ∀ text v rest, value text v rest → Writes text v rest)
    {text rest : List Char} {v : Json} (h : WritesLayer value text v rest) :
    Writes text v rest := by
  cases h with
  | flat _ h => exact h
  | number _ h => exact .number h
  | array hblanks h => exact .array hblanks (h.writes hvalue)
  | object hblanks h => exact .object hblanks (h.writes hvalue)

end Nesting

/-- What is written within the limits is written. -/
theorem WritesWithin.writes {depth : Nat} {text rest : List Char} {v : Json}
    (h : WritesWithin depth text v rest) : Writes text v rest := by
  induction depth generalizing text v rest with
  | zero => exact WritesLayer.writes (fun _ _ _ hfalse ↦ hfalse.elim) h
  | succ depth ih => exact WritesLayer.writes (fun _ _ _ hv ↦ ih hv) h

theorem IsReadable.isText {text : List Char} {v : Json} (h : IsReadable text v) :
    IsText text v := by
  obtain ⟨start, rest, hblanks, hv, hrest⟩ := h
  exact ⟨start, rest, hblanks, hv.writes, hrest⟩

/-! ### What the reader accepts -/

theorem blanks_skipBlanks (cs : List Char) : Blanks cs (skipBlanks cs) := by
  induction cs with
  | nil => exact .none []
  | cons c cs ih =>
    unfold skipBlanks at ih ⊢
    by_cases hc : isBlank c = true
    · rw [List.dropWhile_cons_of_pos hc]
      exact .cons hc ih
    · rw [List.dropWhile_cons_of_neg hc]
      exact .none _

theorem eq_append_of_afterWord? {word cs rest : List Char} (h : afterWord? word cs = some rest) :
    cs = word ++ rest := by
  induction word generalizing cs with
  | nil =>
    cases h
    rfl
  | cons w ws ih =>
    cases cs with
    | nil => cases h
    | cons c cs =>
      unfold afterWord? at h
      split at h
      · rename_i heq
        rw [heq, ih h]
        rfl
      · cases h

theorem hexUnit_of_hexUnit? {cs rest : List Char} {n : Nat} (h : hexUnit? cs = some (n, rest)) :
    HexUnit cs n rest := by
  unfold hexUnit? at h
  split at h
  · rename_i a b c d tail
    simp only [Option.bind_eq_bind, Option.bind_eq_some_iff, Option.some.injEq,
      Prod.mk.injEq] at h
    obtain ⟨w, ha, x, hb, y, hc, z, hd, rfl, rfl⟩ := h
    exact .digits _ ha hb hc hd
  · cases h

theorem escape_of_unicodeEscape? {cs rest : List Char} {c : Char}
    (h : unicodeEscape? cs = some (c, rest)) : Escape ('u' :: cs) c rest := by
  unfold unicodeEscape? at h
  rw [Option.bind_eq_bind, Option.bind_eq_some_iff] at h
  obtain ⟨⟨unit, after⟩, hunit, h⟩ := h
  have hunit := hexUnit_of_hexUnit? hunit
  dsimp only at h
  split at h
  · rename_i hhigh
    split at h
    · rw [Option.bind_eq_some_iff] at h
      obtain ⟨⟨low, middle⟩, hlow, h⟩ := h
      dsimp only at h
      split at h
      · simp only [Option.some.injEq, Prod.mk.injEq] at h
        obtain ⟨rfl, rfl⟩ := h
        exact .pair hunit (hexUnit_of_hexUnit? hlow) hhigh ‹_›
      · cases h
    · cases h
  · rename_i hhigh
    split at h
    · cases h
    · cases h
      exact .unit hunit (by omega)

theorem escape_of_escape? {cs rest : List Char} {c : Char} (h : escape? cs = some (c, rest)) :
    Escape cs c rest := by
  unfold escape? at h
  split at h
  case h_9 => exact escape_of_unicodeEscape? h
  case h_10 => cases h
  all_goals
    cases h
    constructor

theorem chars_of_stringTail {fuel : Nat} {done cs rest : List Char} {s : String}
    (h : stringTail fuel done cs = some (s, rest)) :
    ∃ chars, Chars cs chars rest ∧ s = String.ofList (done.reverse ++ chars) := by
  induction fuel generalizing done cs with
  | zero => cases h
  | succ fuel ih =>
    unfold stringTail at h
    split at h
    · cases h
    · cases h
      exact ⟨[], .close _, by rw [List.append_nil]⟩
    · rename_i after
      split at h
      · rename_i c middle hescape
        obtain ⟨chars, hchars, hs⟩ := ih h
        refine ⟨c :: chars, .escape (escape_of_escape? hescape) hchars, ?_⟩
        rw [hs, List.reverse_cons, List.append_assoc]
        rfl
      · cases h
    · rename_i c after hquote hbackslash
      split at h
      · cases h
      · rename_i hcontrol
        obtain ⟨chars, hchars, hs⟩ := ih h
        refine ⟨c :: chars, .plain ?_ ?_ (Nat.le_of_not_lt hcontrol) hchars, ?_⟩
        · rintro rfl
          exact hquote rfl
        · rintro rfl
          exact hbackslash rfl
        · rw [hs, List.reverse_cons, List.append_assoc]
          rfl

theorem eq_append_of_spanDigits {cs digits rest : List Char}
    (h : spanDigits cs = (digits, rest)) :
    cs = digits ++ rest ∧ ∀ c ∈ digits, isDigit c = true := by
  unfold spanDigits at h
  rw [List.span_eq_takeWhile_dropWhile] at h
  cases h
  exact ⟨(List.takeWhile_append_dropWhile).symm, fun c hc ↦ List.mem_takeWhile_imp hc⟩

theorem fraction_of_fraction? {cs digits rest : List Char}
    (h : fraction? cs = some (digits, rest)) : Fraction cs digits rest := by
  unfold fraction? at h
  split at h
  · rename_i tail
    cases hspan : spanDigits tail with
    | mk ds after =>
      obtain ⟨hcs, hdigits⟩ := eq_append_of_spanDigits hspan
      rw [hspan] at h
      dsimp only at h
      split at h
      · cases h
      · rename_i hne
        cases h
        rw [hcs]
        exact .some _ (by simpa using hne) hdigits
  · cases h
    exact .none _

theorem power_of_exponentPart {mark : Char} {text rest : List Char} {n : Int}
    (h : exponentPart (mark :: text) = some (n, rest)) : Power (mark :: text) (some n) rest := by
  have hread (sign digitsText : List Char) (hmark : mark = 'e' ∨ mark = 'E')
      (hsign : sign = [] ∨ sign = ['+'] ∨ sign = ['-'])
      (h : (if (spanDigits digitsText).1.isEmpty = true then none else
        some (if sign = ['-'] then -(natOfDigits (spanDigits digitsText).1 : Int)
          else natOfDigits (spanDigits digitsText).1, (spanDigits digitsText).2)) =
            some (n, rest)) :
      Power (mark :: (sign ++ digitsText)) (some n) rest := by
    cases hspan : spanDigits digitsText with
    | mk digits after =>
      obtain ⟨rfl, hdigits⟩ := eq_append_of_spanDigits hspan
      rw [hspan] at h
      dsimp only at h
      split at h
      · cases h
      · rename_i hne
        cases h
        rw [← List.append_assoc]
        exact .some _ hmark hsign (by simpa using hne) hdigits
  unfold exponentPart at h
  dsimp only at h
  split at h
  · rename_i hmark
    split at h
    · exact hread ['-'] _ hmark (Or.inr (Or.inr rfl)) h
    · exact hread ['+'] _ hmark (Or.inr (Or.inl rfl)) h
    · exact hread [] _ hmark (Or.inl rfl) h
  · cases h

theorem power_of_power? {cs rest : List Char} {power : Option Int}
    (h : power? cs = some (power, rest)) : Power cs power rest := by
  unfold power? at h
  split at h
  · split at h
    · rw [Option.map_eq_some_iff] at h
      obtain ⟨⟨n, after⟩, hpart, h⟩ := h
      cases h
      exact power_of_exponentPart hpart
    · cases h
      exact .none _
  · cases h
    exact .none _

theorem writesNumber_of_unsigned? {negative : Bool} {cs rest : List Char} {n : Numeral}
    (h : unsigned? negative cs = some (n, rest)) :
    WritesNumber (signText negative ++ cs) n rest := by
  unfold unsigned? at h
  cases hspan : spanDigits cs with
  | mk whole after =>
    obtain ⟨rfl, hdigits⟩ := eq_append_of_spanDigits hspan
    rw [hspan] at h
    dsimp only at h
    rw [Option.ite_none_left_eq_some, not_or, not_or, not_and] at h
    obtain ⟨⟨hne, -, hleading⟩, h⟩ := h
    have hwhole : WholePart whole := ⟨by simpa using hne, hdigits, hleading⟩
    simp only [Option.bind_eq_bind, Option.bind_eq_some_iff, Prod.exists] at h
    obtain ⟨digits, middle, hfraction, power, last, hpower, h⟩ := h
    have hfraction := fraction_of_fraction? hfraction
    have hpower := power_of_power? hpower
    rw [← List.append_assoc]
    split at h
    · cases h
      cases hpower
      cases hfraction with
      | none => exact .integer negative _ hwhole
      | some _ hdigit => exact absurd rfl hdigit
    · rename_i hmore
      cases h
      exact .decimal negative hwhole hfraction hpower hmore

theorem writesNumber_of_number? {cs rest : List Char} {n : Numeral}
    (h : number? cs = some (n, rest)) : WritesNumber cs n rest := by
  have hword (negative : Bool) (tail : List Char) (n : Numeral)
      (hread : (afterWord? "nfinity".toList tail).map (fun r ↦ (Numeral.infinite negative, r)) =
        some (n, rest)) : WritesNumber (signText negative ++ 'I' :: tail) n rest := by
    obtain ⟨r, hr, heq⟩ := Option.map_eq_some_iff.mp hread
    cases heq
    have hwritten : WritesNumber (signText negative ++ "Infinity".toList ++ rest)
        (.infinite negative) rest := .infinite negative rest
    rw [List.append_assoc] at hwritten
    rwa [eq_append_of_afterWord? hr]
  unfold number? at h
  split at h
  · exact hword true _ n h
  · exact writesNumber_of_unsigned? h
  · exact hword false _ n h
  · obtain ⟨r, hr, heq⟩ := Option.map_eq_some_iff.mp h
    cases heq
    rw [eq_append_of_afterWord? hr]
    exact .notANumber _
  · exact writesNumber_of_unsigned? h

theorem length_of_unsigned? {negative : Bool} {cs rest : List Char} {n : Numeral}
    (h : unsigned? negative cs = some (n, rest)) :
    (if negative then (cs.takeWhile isDigit).length + 1 else (cs.takeWhile isDigit).length) ≤
      wholePartLimit := by
  unfold unsigned? spanDigits at h
  rw [List.span_eq_takeWhile_dropWhile] at h
  dsimp only at h
  rw [Option.ite_none_left_eq_some, not_or, not_or] at h
  exact Nat.le_of_not_lt h.1.2.1

/-- What is read as a number has a whole part within the limit. -/
theorem length_wholePart_of_number? {cs rest : List Char} {n : Numeral}
    (h : number? cs = some (n, rest)) : (wholePart cs).length ≤ wholePartLimit := by
  unfold number? at h
  split at h
  · change ['-'].length ≤ wholePartLimit
    decide
  · exact length_of_unsigned? h
  · exact Nat.zero_le _
  · exact Nat.zero_le _
  · rename_i hminus _ _
    have hunsigned := length_of_unsigned? h
    unfold wholePart
    split
    · exact absurd rfl (hminus _)
    · exact hunsigned

section Nesting

variable {item : List Char → Option (Json × List Char)}
  {value : List Char → Json → List Char → Prop}

/-- The items of an array, if the reader of an item is right. -/
theorem itemsOf_of_itemsTail
    (hitem : ∀ cs v rest, item cs = some (v, rest) → value cs v rest) {fuel : Nat}
    {done items : List Json} {cs rest : List Char}
    (h : itemsTail item fuel done cs = some (items, rest)) :
    ∃ vs, ItemsOf value cs vs rest ∧ items = done.reverse ++ vs := by
  induction fuel generalizing done cs with
  | zero => cases h
  | succ fuel ih =>
    unfold itemsTail at h
    split at h
    · cases h
    · rename_i v after hv
      have hblanks := blanks_skipBlanks after
      split at h
      · rename_i middle hcomma
        rw [hcomma] at hblanks
        obtain ⟨vs, hvs, hitems⟩ := ih h
        refine ⟨v :: vs, .more (hitem _ _ _ hv) hblanks (blanks_skipBlanks _) hvs, ?_⟩
        rw [hitems, List.reverse_cons, List.append_assoc]
        rfl
      · rename_i last hclose
        rw [hclose] at hblanks
        cases h
        exact ⟨[v], .last (hitem _ _ _ hv) hblanks, by rw [List.reverse_cons]⟩
      · cases h

/-- The members of an object, if the reader of a value is right. -/
theorem membersOf_of_membersTail
    (hitem : ∀ cs v rest, item cs = some (v, rest) → value cs v rest) {size fuel : Nat}
    {done members : List (String × Json)} {cs rest : List Char}
    (h : membersTail item size fuel done cs = some (members, rest)) :
    ∃ ms, MembersOf value cs ms rest ∧ members = done.reverse ++ ms := by
  induction fuel generalizing done cs with
  | zero => cases h
  | succ fuel ih =>
    unfold membersTail at h
    split at h
    · split at h
      · cases h
      · rename_i key afterKey hkey
        obtain ⟨chars, hchars, rfl⟩ := chars_of_stringTail hkey
        rw [List.reverse_nil, List.nil_append] at h
        have hcolon := blanks_skipBlanks afterKey
        split at h
        · rename_i colon heq
          rw [heq] at hcolon
          split at h
          · cases h
          · rename_i v after hv
            have hblanks := blanks_skipBlanks after
            split at h
            · rename_i middle hcomma
              rw [hcomma] at hblanks
              obtain ⟨ms, hms, hmembers⟩ := ih h
              refine ⟨(String.ofList chars, v) :: ms, .more hchars hcolon (blanks_skipBlanks _)
                (hitem _ _ _ hv) hblanks (blanks_skipBlanks _) hms, ?_⟩
              rw [hmembers, List.reverse_cons, List.append_assoc]
              rfl
            · rename_i last hclose
              rw [hclose] at hblanks
              cases h
              exact ⟨[(String.ofList chars, v)], .last hchars hcolon (blanks_skipBlanks _)
                (hitem _ _ _ hv) hblanks, by rw [List.reverse_cons]⟩
            · cases h
        · cases h
    · cases h

end Nesting

/-- What is read as a value is a value written within the limits. -/
theorem writesWithin_of_value? {size depth : Nat} {cs rest : List Char} {v : Json}
    (h : value? size depth cs = some (v, rest)) : WritesWithin depth cs v rest := by
  induction depth using Nat.strongRecOn generalizing cs v rest with
  | ind depth ih =>
    have hinner (d : Nat) (hd : d < depth) (cs : List Char) (v : Json) (rest : List Char)
        (hv : value? size d cs = some (v, rest)) : WritesWithin d cs v rest := ih d hd hv
    unfold value? at h
    split at h
    · cases h
    · obtain ⟨⟨s, r⟩, hs, heq⟩ := Option.map_eq_some_iff.mp h
      cases heq
      obtain ⟨chars, hchars, rfl⟩ := chars_of_stringTail hs
      exact .flat trivial (.string hchars)
    · rename_i text
      have hblanks := blanks_skipBlanks text
      split at h
      · rename_i after hclose
        rw [hclose] at hblanks
        cases h
        exact .flat rfl (.emptyArray hblanks)
      · split at h
        · cases h
        · rename_i depth
          obtain ⟨⟨items, r⟩, hitems, heq⟩ := Option.map_eq_some_iff.mp h
          cases heq
          obtain ⟨vs, hvs, hall⟩ := itemsOf_of_itemsTail (hinner depth (Nat.lt_succ_self _)) hitems
          cases hall
          exact WritesLayer.array hblanks hvs
    · rename_i text
      have hblanks := blanks_skipBlanks text
      split at h
      · rename_i after hclose
        rw [hclose] at hblanks
        cases h
        exact .flat rfl (.emptyObject hblanks)
      · split at h
        · cases h
        · rename_i depth
          obtain ⟨⟨members, r⟩, hmembers, heq⟩ := Option.map_eq_some_iff.mp h
          cases heq
          obtain ⟨ms, hms, hall⟩ :=
            membersOf_of_membersTail (hinner depth (Nat.lt_succ_self _)) hmembers
          cases hall
          exact WritesLayer.object hblanks hms
    · obtain ⟨r, hr, heq⟩ := Option.map_eq_some_iff.mp h
      cases heq
      rw [eq_append_of_afterWord? hr]
      exact .flat trivial (.true _)
    · obtain ⟨r, hr, heq⟩ := Option.map_eq_some_iff.mp h
      cases heq
      rw [eq_append_of_afterWord? hr]
      exact .flat trivial (.false _)
    · obtain ⟨r, hr, heq⟩ := Option.map_eq_some_iff.mp h
      cases heq
      rw [eq_append_of_afterWord? hr]
      exact .flat trivial (.null _)
    · obtain ⟨⟨n, r⟩, hn, heq⟩ := Option.map_eq_some_iff.mp h
      cases heq
      exact .number (length_wholePart_of_number? hn) (writesNumber_of_number? hn)

/-- What is read from a whole text is written there within the limits. -/
theorem isReadable_of_ofText? {text : List Char} {v : Json} (h : ofText? text = some v) :
    IsReadable text v := by
  unfold ofText? at h
  split at h
  · rename_i read rest hread
    split at h
    · rename_i hend
      cases h
      have hrest := blanks_skipBlanks rest
      rw [List.isEmpty_iff.mp hend] at hrest
      exact ⟨_, rest, blanks_skipBlanks text, writesWithin_of_value? hread, hrest⟩
    · cases h
  · cases h

end FormCatalog.Json

namespace FormCatalog

/-- Bytes that are read as a text are its encoding. -/
theorem Bytes.eq_ofText_of_toText? {bs : Bytes} {text : String} (h : bs.toText? = some text) :
    bs = Bytes.ofText text := by
  unfold toText? String.fromUTF8? at h
  split at h
  · cases h
    rfl
  · cases h

/-- What is read from bytes is written within the limits in the text that they encode. -/
theorem Json.isReadable_of_ofBytes? {bs : Bytes} {v : Json} (h : ofBytes? bs = some v) :
    ∃ text, bs = Bytes.ofText text ∧ IsReadable text.toList v := by
  unfold ofBytes? at h
  split at h
  · rename_i text htext
    exact ⟨text, Bytes.eq_ofText_of_toText? htext, isReadable_of_ofText? h⟩
  · cases h

end FormCatalog
