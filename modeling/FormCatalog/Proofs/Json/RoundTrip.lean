import FormCatalog.Json.Printer
import FormCatalog.Proofs.Json.Completeness
import FormCatalog.Proofs.Number.Digits

/-!
# What is printed is read back

`Json.render` writes a value in one of the ways the grammar has for it. So every value that the
limits of the reader leave room for (`Fits`) is read back from its text, whatever its strings hold
(`ofText?_render`).
-/

set_option autoImplicit false
set_option relaxedAutoImplicit false

namespace FormCatalog

namespace Json

open Number

theorem wholePart_digitsOf (n : Nat) : WholePart (digitsOf n) where
  nonempty := Nat.toDigits_ne_nil
  areDigits := isDigit_of_mem_digitsOf
  leading hlength := by
    obtain rfl | hpos := Nat.eq_zero_or_pos n
    · exact absurd hlength (by decide)
    · exact head?_digitsOf hpos

/-! ### Strings -/

variable {rest : List Char}

theorem hexValue?_hexChar {n : Nat} (h : n < 16) : hexValue? (hexChar n) = some n := by
  have hdigit : ∀ n < 16, hexValue? (hexChar n) = some n := by decide
  exact hdigit n h

/-- The escape of a unit is read as the unit. -/
theorem hexUnit_unitEscape {n : Nat} (h : n < 0x10000) (rest : List Char) :
    ∃ digits, unitEscape n ++ rest = '\\' :: 'u' :: digits ∧ HexUnit digits n rest := by
  have hvalue := HexUnit.digits rest
    (hexValue?_hexChar (Nat.mod_lt (n / 4096) (by decide)))
    (hexValue?_hexChar (Nat.mod_lt (n / 256) (by decide)))
    (hexValue?_hexChar (Nat.mod_lt (n / 16) (by decide)))
    (hexValue?_hexChar (Nat.mod_lt n (by decide)))
  have hsum : ((n / 4096 % 16 * 16 + n / 256 % 16) * 16 + n / 16 % 16) * 16 + n % 16 = n := by
    omega
  rw [hsum] at hvalue
  exact ⟨_, rfl, hvalue⟩

theorem chars_charText {cs text : List Char} (c : Char) (h : Chars text cs rest) :
    Chars (charText c ++ text) (c :: cs) rest := by
  unfold charText
  split_ifs with hquote hbackslash hnewline hreturn htab hcontrol
  · subst hquote
    exact .escape (.quote _) h
  · subst hbackslash
    exact .escape (.backslash _) h
  · subst hnewline
    exact .escape (.newline _) h
  · subst hreturn
    exact .escape (.carriageReturn _) h
  · subst htab
    exact .escape (.tab _) h
  · obtain ⟨digits, hdigits, hunit⟩ := hexUnit_unitEscape (by omega : c.toNat < 0x10000) text
    rw [hdigits]
    have hescape := Escape.unit hunit (by omega)
    rw [Char.ofNat_toNat] at hescape
    exact .escape hescape h
  · exact .plain hquote hbackslash (Nat.le_of_not_lt hcontrol) h

theorem chars_flatMap_charText (cs rest : List Char) :
    Chars (cs.flatMap charText ++ '"' :: rest) cs rest := by
  induction cs with
  | nil => exact .close rest
  | cons c cs ih =>
    rw [List.flatMap_cons, List.append_assoc]
    exact chars_charText c ih

theorem stringText_append (s : String) (rest : List Char) :
    stringText s ++ rest = '"' :: (s.toList.flatMap charText ++ '"' :: rest) := by
  simp [stringText]

theorem writes_stringText (s : String) (rest : List Char) :
    Writes (stringText s ++ rest) (string s) rest := by
  have hwrites := Writes.string (chars_flatMap_charText s.toList rest)
  rwa [String.ofList_toList, ← stringText_append] at hwrites

/-! ### Numbers -/

theorem power_textOfInt (n : Int) (rest : List Char) :
    Power ('e' :: ((textOfInt n).toList ++ rest)) (some n) rest := by
  have hpower (sign : List Char) (hsign : sign = [] ∨ sign = ['+'] ∨ sign = ['-']) (k : Nat) :=
    Power.some rest (Or.inl rfl : 'e' = 'e' ∨ 'e' = 'E') hsign (wholePart_digitsOf k).nonempty
      (wholePart_digitsOf k).areDigits
  cases n with
  | ofNat k =>
    have hwritten := hpower [] (Or.inl rfl) k
    rw [natOfDigits_digitsOf] at hwritten
    simpa [textOfInt] using hwritten
  | negSucc k =>
    have hwritten := hpower ['-'] (Or.inr (Or.inr rfl)) (k + 1)
    rw [natOfDigits_digitsOf] at hwritten
    simpa [textOfInt, Int.negSucc_eq] using hwritten

theorem writesNumber_numeralText (n : Numeral) (rest : List Char) :
    WritesNumber (numeralText n ++ rest) n rest := by
  cases n with
  | integer n =>
    cases n with
    | ofNat k =>
      have hnumber := WritesNumber.integer false rest (wholePart_digitsOf k)
      rw [natOfDigits_digitsOf] at hnumber
      simpa [numeralText, textOfInt, signText] using hnumber
    | negSucc k =>
      have hnumber := WritesNumber.integer true rest (wholePart_digitsOf (k + 1))
      rw [natOfDigits_digitsOf] at hnumber
      simpa [numeralText, textOfInt, signText, Int.negSucc_eq] using hnumber
  | decimal d =>
    have hnumber := WritesNumber.decimal d.negative (wholePart_digitsOf d.coefficient) (.none _)
      (power_textOfInt d.exponent rest) (by simp)
    rw [List.append_nil, natOfDigits_digitsOf] at hnumber
    simpa [numeralText, signText] using hnumber
  | infinite negative =>
    cases negative with
    | true => exact .infinite true rest
    | false => exact .infinite false rest
  | notANumber => exact .notANumber rest

/-- The whole part of a number is the same whatever comes after the number. -/
theorem wholePart_append {text : List Char} (hne : text ≠ []) (hrest : EndsDigits rest) :
    wholePart (text ++ rest) = wholePart text := by
  have hstop : rest.takeWhile isDigit = [] := by
    cases rest with
    | nil => rfl
    | cons c cs => exact List.takeWhile_cons_of_neg (by simp [hrest c rfl])
  have htake (cs : List Char) : (cs ++ rest).takeWhile isDigit = cs.takeWhile isDigit := by
    induction cs with
    | nil => exact hstop
    | cons c cs ih =>
      rw [List.cons_append, List.takeWhile_cons, List.takeWhile_cons, ih]
  obtain ⟨c, cs, rfl⟩ := List.exists_cons_of_ne_nil hne
  by_cases hminus : c = '-'
  · subst hminus
    exact congrArg ('-' :: ·) (htake cs)
  · unfold wholePart
    split
    · rename_i heq
      exact absurd (List.cons.inj heq).1 hminus
    · split
      · rename_i heq
        exact absurd (List.cons.inj heq).1 hminus
      · exact htake (c :: cs)

/-! ### Values -/

section Nesting

variable (inner : Json → Prop)

/-- A value that fits when `inner` says what may be held by an array or an object. -/
def FitsLayer : Json → Prop
  | number n => (wholePart (numeralText n)).length ≤ wholePartLimit
  | array items => ∀ v ∈ items, inner v
  | object members => ∀ m ∈ members, inner m.2
  | _ => True

end Nesting

/-- A value whose numbers have short enough whole parts and in which arrays and objects that hold
something nest at most `depth` deep. -/
def Fits : Nat → Json → Prop
  | 0 => FitsLayer fun _ ↦ False
  | depth + 1 => FitsLayer (Fits depth)

section Nesting

variable {value : List Char → Json → List Char → Prop} {inner : Json → Prop}
  (hvalue : ∀ v rest, inner v → Follows rest → value (valueText v ++ rest) v rest)

include hvalue

theorem itemsOf_itemsText {v : Json} {items : List Json} (h : ∀ w ∈ v :: items, inner w)
    (rest : List Char) :
    ItemsOf value (itemsText (v :: items) ++ ']' :: rest) (v :: items) rest := by
  induction items generalizing v with
  | nil =>
    exact .last (hvalue v _ (h v List.mem_cons_self) (by simp [Follows])) (.none _)
  | cons w items ih =>
    have hv := hvalue v (',' :: (itemsText (w :: items) ++ ']' :: rest))
      (h v List.mem_cons_self) (by simp [Follows])
    unfold itemsText
    rw [List.append_assoc]
    exact .more hv (.none _) (.none _) (ih fun w hw ↦ h w (List.mem_cons_of_mem v hw))

theorem membersOf_membersText {m : String × Json} {members : List (String × Json)}
    (h : ∀ n ∈ m :: members, inner n.2) (rest : List Char) :
    MembersOf value (membersText (m :: members) ++ '\x7d' :: rest) (m :: members) rest := by
  induction members generalizing m with
  | nil =>
    obtain ⟨key, v⟩ := m
    have hv := hvalue v ('\x7d' :: rest) (h _ List.mem_cons_self) (by simp [Follows])
    have hmember := MembersOf.last (chars_flatMap_charText key.toList _) (.none _) (.none _) hv
      (.none _)
    rw [String.ofList_toList, ← stringText_append] at hmember
    simpa [membersText] using hmember
  | cons n members ih =>
    obtain ⟨key, v⟩ := m
    have hv := hvalue v (',' :: (membersText (n :: members) ++ '\x7d' :: rest))
      (h _ List.mem_cons_self) (by simp [Follows])
    have hmember := MembersOf.more (chars_flatMap_charText key.toList _) (.none _) (.none _) hv
      (.none _) (.none _) (ih fun n hn ↦ h n (List.mem_cons_of_mem _ hn))
    rw [String.ofList_toList, ← stringText_append] at hmember
    simpa [membersText] using hmember

theorem writesLayer_valueText {v : Json} (h : FitsLayer inner v) (hrest : Follows rest) :
    WritesLayer value (valueText v ++ rest) v rest := by
  cases v with
  | null => exact .flat trivial (.null rest)
  | bool b =>
    cases b with
    | true => exact .flat trivial (.true rest)
    | false => exact .flat trivial (.false rest)
  | number n =>
    have hwritten := writesNumber_numeralText n []
    have hne : numeralText n ≠ [] := by
      obtain ⟨c, cs, heq, -⟩ := hwritten.exists_cons
      rw [List.append_nil] at heq
      exact heq ▸ List.cons_ne_nil c cs
    refine .number ?_ (writesNumber_numeralText n rest)
    exact (wholePart_append hne hrest.endsFraction.endsDigits) ▸ h
  | string s => exact .flat trivial (writes_stringText s rest)
  | array items =>
    cases items with
    | nil => exact .flat rfl (.emptyArray (.none _))
    | cons v items =>
      have hitems := WritesLayer.array (.none _) (itemsOf_itemsText hvalue h rest)
      simpa [valueText] using hitems
  | object members =>
    cases members with
    | nil => exact .flat rfl (.emptyObject (.none _))
    | cons m members =>
      have hmembers :=
        WritesLayer.object (.none _) (membersOf_membersText hvalue h rest)
      simpa [valueText] using hmembers

end Nesting

/-- The text of a value that fits writes the value within the limits. -/
theorem writesWithin_valueText {depth : Nat} {v : Json} (h : Fits depth v)
    (hrest : Follows rest) : WritesWithin depth (valueText v ++ rest) v rest := by
  induction depth generalizing v rest with
  | zero => exact writesLayer_valueText (fun _ _ hfalse _ ↦ hfalse) h hrest
  | succ depth ih => exact writesLayer_valueText (fun _ _ hv hrest ↦ ih hv hrest) h hrest

theorem isReadable_render {v : Json} (h : Fits depthLimit v) :
    IsReadable (render v).toList v := by
  have hwritten : WritesWithin depthLimit (valueText v ++ []) v [] :=
    writesWithin_valueText h (by simp [Follows])
  rw [List.append_nil] at hwritten
  unfold render
  rw [String.toList_ofList]
  exact ⟨_, [], .none _, hwritten, .none []⟩

/-- A printed value is read back, if it is within the limits. -/
theorem ofText?_render {v : Json} (h : Fits depthLimit v) : ofText? (render v).toList = some v :=
  ofText?_eq_some_iff.mpr (isReadable_render h)

end Json

end FormCatalog
