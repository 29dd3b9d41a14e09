import FormCatalog.Text.Blank

/-!
Integers in the digits of any script.

Every set of decimal digits is a row of ten code points from its zero on. An integer may have blanks
around it, a sign in front, and single underscores between its digits.
-/

set_option autoImplicit false
set_option relaxedAutoImplicit false

namespace FormCatalog.Number

/-- The zeros of all sets of decimal digits. -/
def zeros : List Nat := [
  0x30, 0x660, 0x6f0, 0x7c0, 0x966, 0x9e6, 0xa66, 0xae6, 0xb66, 0xbe6, 0xc66, 0xce6, 0xd66, 0xde6,
  0xe50, 0xed0, 0xf20, 0x1040, 0x1090, 0x17e0, 0x1810, 0x1946, 0x19d0, 0x1a80, 0x1a90, 0x1b50,
  0x1bb0, 0x1c40, 0x1c50, 0xa620, 0xa8d0, 0xa900, 0xa9d0, 0xa9f0, 0xaa50, 0xabf0, 0xff10, 0x104a0,
  0x10d30, 0x11066, 0x110f0, 0x11136, 0x111d0, 0x112f0, 0x11450, 0x114d0, 0x11650, 0x116c0,
  0x11730, 0x118e0, 0x11950, 0x11c50, 0x11d50, 0x11da0, 0x16a60, 0x16ac0, 0x16b50, 0x1d7ce,
  0x1d7d8, 0x1d7e2, 0x1d7ec, 0x1d7f6, 0x1e140, 0x1e2f0, 0x1e950, 0x1fbf0]

/-- The value of a digit of any script. -/
def anyDigit? (c : Char) : Option Nat :=
  (zeros.find? fun z ↦ z ≤ c.toNat && c.toNat < z + 10).map fun z ↦ c.toNat - z

/-- Reads digits with single underscores between them. `afterDigit` tells whether the character
before was a digit. -/
def digitsValue? (value : Nat) (afterDigit : Bool) : List Char → Option Nat
  | [] => if afterDigit then some value else none
  | c :: rest =>
    if c = '_' then if afterDigit then digitsValue? value false rest else none
    else
      match anyDigit? c with
      | some d => digitsValue? (10 * value + d) true rest
      | none => none

/-- The most digits that an integer may have. -/
def digitLimit : Nat := 4300

/-- The integer that a text writes. -/
def anyInt? (cs : List Char) : Option Int :=
  let cs := Text.trim Text.isBlank cs
  let (negative, digits) : Bool × List Char := match cs with
    | '-' :: rest => (true, rest)
    | '+' :: rest => (false, rest)
    | rest => (false, rest)
  if digits.countP (· ≠ '_') > digitLimit then none
  else (digitsValue? 0 false digits).map fun n ↦ if negative then -(n : Int) else n

end FormCatalog.Number
