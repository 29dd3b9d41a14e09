import FormCatalog.Json.Value
import FormCatalog.Digest.Bytes

/-!
Reading JSON texts.

The grammar is the strict one: blanks are the four of the standard, numbers have no leading zeros,
strings hold no raw control characters and no unpaired surrogates, and nothing may follow the value.
Three named numbers, `NaN`, `Infinity` and `-Infinity`, are also read. Two limits apply: arrays and
objects that hold something nest at most 200 deep, and the whole part of a number has at most 4300
characters. `Json.ofText?` reads a text and `Json.ofBytes?` reads its UTF-8 encoding.

Each reader takes the characters ahead and gives back what it read together with what is left.
-/

set_option autoImplicit false
set_option relaxedAutoImplicit false

namespace FormCatalog.Json

open Number

/-- How deep arrays and objects that hold something may nest. -/
def depthLimit : Nat := 200

/-- How many characters the whole part of a number may have, its sign included. -/
def wholePartLimit : Nat := 4300

/-- One of the four blanks. -/
def isBlank (c : Char) : Bool := c = ' ' || c = '\t' || c = '\n' || c = '\r'

/-- Skips blanks. -/
def skipBlanks (cs : List Char) : List Char := cs.dropWhile isBlank

/-- The rest of the text after a given beginning. -/
def afterWord? : List Char → List Char → Option (List Char)
  | [], cs => some cs
  | w :: ws, c :: cs => if w = c then afterWord? ws cs else none
  | _ :: _, [] => none

/-- The value of a hexadecimal digit of either case. -/
def hexValue? (c : Char) : Option Nat :=
  if '0' ≤ c ∧ c ≤ '9' then some (c.toNat - 48)
  else if 'a' ≤ c ∧ c ≤ 'f' then some (c.toNat - 87)
  else if 'A' ≤ c ∧ c ≤ 'F' then some (c.toNat - 55)
  else none

/-- Four hexadecimal digits. -/
def hexUnit? : List Char → Option (Nat × List Char)
  | a :: b :: c :: d :: rest => do
    let a ← hexValue? a
    let b ← hexValue? b
    let c ← hexValue? c
    let d ← hexValue? d
    some (((a * 16 + b) * 16 + c) * 16 + d, rest)
  | _ => none

/-- The character of a `\u` escape whose mark has been read: one unit, or a pair of surrogates
written as two escapes. -/
def unicodeEscape? (cs : List Char) : Option (Char × List Char) := do
  let (unit, rest) ← hexUnit? cs
  if 0xD800 ≤ unit ∧ unit < 0xDC00 then
    match rest with
    | '\\' :: 'u' :: rest =>
      let (low, rest) ← hexUnit? rest
      if 0xDC00 ≤ low ∧ low < 0xE000 then
        some (Char.ofNat (0x10000 + (unit - 0xD800) * 0x400 + (low - 0xDC00)), rest)
      else none
    | _ => none
  else if 0xDC00 ≤ unit ∧ unit < 0xE000 then none
  else some (Char.ofNat unit, rest)

/-- The character of an escape whose backslash has been read. -/
def escape? : List Char → Option (Char × List Char)
  | '"' :: rest => some ('"', rest)
  | '\\' :: rest => some ('\\', rest)
  | '/' :: rest => some ('/', rest)
  | 'b' :: rest => some (Char.ofNat 8, rest)
  | 'f' :: rest => some (Char.ofNat 12, rest)
  | 'n' :: rest => some ('\n', rest)
  | 'r' :: rest => some ('\r', rest)
  | 't' :: rest => some ('\t', rest)
  | 'u' :: rest => unicodeEscape? rest
  | _ => none

/-- The rest of a string whose opening quote has been read. `fuel` bounds the characters. -/
def stringTail : Nat → List Char → List Char → Option (String × List Char)
  | 0, _, _ => none
  | fuel + 1, done, cs =>
    match cs with
    | [] => none
    | '"' :: rest => some (String.ofList done.reverse, rest)
    | '\\' :: rest =>
      match escape? rest with
      | some (c, rest) => stringTail fuel (c :: done) rest
      | none => none
    | c :: rest => if c.toNat < 0x20 then none else stringTail fuel (c :: done) rest

/-- The fraction of a number, if one begins here: a point and at least one digit. `none` when a
point stands without digits. -/
def fraction? : List Char → Option (List Char × List Char)
  | '.' :: rest =>
    let (digits, rest) := spanDigits rest
    if digits.isEmpty then none else some (digits, rest)
  | cs => some ([], cs)

/-- The power of ten of a number, if one is given here. `none` when a mark stands without one. -/
def power? (cs : List Char) : Option (Option Int × List Char) :=
  match cs with
  | c :: _ =>
    if c = 'e' ∨ c = 'E' then (exponentPart cs).map fun (p, rest) ↦ (some p, rest)
    else some (none, cs)
  | [] => some (none, cs)

/-- An unsigned number: digits without a needless leading zero, then perhaps a fraction and a
power. -/
def unsigned? (negative : Bool) (cs : List Char) : Option (Numeral × List Char) := do
  let (whole, rest) := spanDigits cs
  let signed := if negative then whole.length + 1 else whole.length
  if whole.isEmpty ∨ signed > wholePartLimit ∨ (whole.length > 1 ∧ whole.head? = some '0') then none
  else
    let (fraction, after) ← fraction? rest
    let (power, last) ← power? after
    match fraction, power with
    | [], none =>
      let n := natOfDigits whole
      some (.integer (if negative then -(n : Int) else n), last)
    | _, _ => some (.decimal ⟨negative, natOfDigits (whole ++ fraction),
        power.getD 0 - fraction.length⟩, last)

/-- A number or one of the named numbers. -/
def number? : List Char → Option (Numeral × List Char)
  | '-' :: 'I' :: rest => (afterWord? "nfinity".toList rest).map fun r ↦ (.infinite true, r)
  | '-' :: rest => unsigned? true rest
  | 'I' :: rest => (afterWord? "nfinity".toList rest).map fun r ↦ (.infinite false, r)
  | 'N' :: rest => (afterWord? "aN".toList rest).map fun r ↦ (.notANumber, r)
  | cs => unsigned? false cs

/-- The items of an array whose first item begins here, up to the closing bracket. -/
def itemsTail (item : List Char → Option (Json × List Char)) :
    Nat → List Json → List Char → Option (List Json × List Char)
  | 0, _, _ => none
  | fuel + 1, done, cs =>
    match item cs with
    | none => none
    | some (v, rest) =>
      match skipBlanks rest with
      | ',' :: rest => itemsTail item fuel (v :: done) (skipBlanks rest)
      | ']' :: rest => some ((v :: done).reverse, rest)
      | _ => none

/-- The members of an object whose first key begins here, up to the closing brace. -/
def membersTail (item : List Char → Option (Json × List Char)) (size : Nat) :
    Nat → List (String × Json) → List Char → Option (List (String × Json) × List Char)
  | 0, _, _ => none
  | fuel + 1, done, cs =>
    match cs with
    | '"' :: rest =>
      match stringTail size [] rest with
      | none => none
      | some (key, rest) =>
        match skipBlanks rest with
        | ':' :: rest =>
          match item (skipBlanks rest) with
          | none => none
          | some (v, rest) =>
            match skipBlanks rest with
            | ',' :: rest => membersTail item size fuel ((key, v) :: done) (skipBlanks rest)
            | '\x7d' :: rest => some (((key, v) :: done).reverse, rest)
            | _ => none
        | _ => none
    | _ => none

/-- A value that begins here. `size` bounds the characters ahead, and `depth` how deep arrays and
objects that hold something may still nest. -/
def value? (size : Nat) : Nat → List Char → Option (Json × List Char)
  | depth, cs =>
    match cs with
    | [] => none
    | '"' :: rest => (stringTail size [] rest).map fun (s, r) ↦ (string s, r)
    | '[' :: rest =>
      match skipBlanks rest with
      | ']' :: rest => some (array [], rest)
      | inside =>
        match depth with
        | 0 => none
        | depth + 1 =>
          (itemsTail (value? size depth) size [] inside).map fun (vs, r) ↦ (array vs, r)
    | '\x7b' :: rest =>
      match skipBlanks rest with
      | '\x7d' :: rest => some (object [], rest)
      | inside =>
        match depth with
        | 0 => none
        | depth + 1 =>
          (membersTail (value? size depth) size size [] inside).map fun (ms, r) ↦ (object ms, r)
    | 't' :: rest => (afterWord? "rue".toList rest).map fun r ↦ (bool true, r)
    | 'f' :: rest => (afterWord? "alse".toList rest).map fun r ↦ (bool false, r)
    | 'n' :: rest => (afterWord? "ull".toList rest).map fun r ↦ (null, r)
    | _ => (number? cs).map fun (n, r) ↦ (number n, r)

/-- The value that a text writes, with nothing but blanks around it. -/
def ofText? (cs : List Char) : Option Json :=
  match value? (cs.length + 1) depthLimit (skipBlanks cs) with
  | some (v, rest) => if (skipBlanks rest).isEmpty then some v else none
  | none => none

/-- The value that the UTF-8 encoding of a text writes. -/
def ofBytes? (bs : Bytes) : Option Json :=
  match Bytes.toText? bs with
  | some s => ofText? s.toList
  | none => none

end FormCatalog.Json
