/-!
Decimal numbers as they are written, and digits of naturals.

A `Decimal` is a sign, a natural number and a power of ten: what a written number says before
anything is rounded. `digitsOf` writes a natural number without leading zeros and `natOfDigits?`
reads one back.
-/

set_option autoImplicit false
set_option relaxedAutoImplicit false

namespace FormCatalog.Number

/-- Plus or minus `coefficient` times ten to the `exponent`. -/
structure Decimal where
  negative : Bool
  coefficient : Nat
  exponent : Int
  deriving DecidableEq, Repr

/-- A decimal digit. -/
def isDigit (c : Char) : Bool := '0' ≤ c && c ≤ '9'

/-- The value of a digit. -/
def digitValue (c : Char) : Nat := c.toNat - 48

/-- The digit of a value below ten. -/
def digitChar (n : Nat) : Char := Char.ofNat (48 + n)

/-- The number that a row of digits writes. -/
def natOfDigits (cs : List Char) : Nat :=
  cs.foldl (fun n c ↦ 10 * n + digitValue c) 0

/-- The number written by a text that is one or more digits and nothing else. -/
def natOfDigits? (cs : List Char) : Option Nat :=
  if cs.isEmpty || !cs.all isDigit then none else some (natOfDigits cs)

/-- The digits of a number, the most significant first; zero has one digit. -/
def digitsOf (n : Nat) : List Char := Nat.toDigits 10 n

/-- An integer in decimal, with a minus sign when it is negative. -/
def textOfInt : Int → String
  | .ofNat n => String.ofList (digitsOf n)
  | .negSucc n => String.ofList ('-' :: digitsOf (n + 1))

/-- A natural number in decimal. -/
def textOfNat (n : Nat) : String := String.ofList (digitsOf n)

/-- Splits a text into the row of digits it begins with and the rest. -/
def spanDigits (cs : List Char) : List Char × List Char :=
  cs.span isDigit

/-- An exponent mark with its power, if the text begins with one: `e` or `E`, an optional sign, and
at least one digit. -/
def exponentPart (cs : List Char) : Option (Int × List Char) :=
  match cs with
  | c :: rest =>
    if c = 'e' ∨ c = 'E' then
      let (negative, rest) := match rest with
        | '-' :: r => (true, r)
        | '+' :: r => (false, r)
        | r => (false, r)
      let (digits, rest) := spanDigits rest
      if digits.isEmpty then none
      else
        let n := natOfDigits digits
        some (if negative then -(n : Int) else n, rest)
    else none
  | [] => none

end FormCatalog.Number
