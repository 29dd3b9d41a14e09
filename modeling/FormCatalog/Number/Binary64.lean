import FormCatalog.Number.Decimal

/-!
Binary floating-point numbers with 53 bits of precision, as exact values.

A finite number is a sign, a mantissa below 2^53 and a power of two. `ofRatio` rounds a quotient of
naturals to the nearest such number, an exact half going to the even mantissa, and `ofDecimal` reads
a written number that way. Two texts are written: `shortest`, the fewest digits that read back as
the same number, and `wholeText`, the nearest whole number.
-/

set_option autoImplicit false
set_option relaxedAutoImplicit false

namespace FormCatalog.Number

/-- A number of 53 bits, an infinity, or no number. -/
inductive Binary64 where
  /-- Plus or minus `mantissa` times two to the `exponent`. -/
  | finite (negative : Bool) (mantissa : Nat) (exponent : Int)
  | infinite (negative : Bool)
  | notANumber
  deriving DecidableEq, Repr

namespace Binary64

/-- The smallest power of two in use. -/
def minExponent : Int := -1074

/-- The largest power of two in use. -/
def maxExponent : Int := 971

/-- The quotient rounded to a whole number, an exact half going to the even neighbour. -/
def roundDiv (num den : Nat) : Nat :=
  let q := num / den
  let r := num % den
  if 2 * r > den ∨ (2 * r = den ∧ q % 2 = 1) then q + 1 else q

/-- Multiplies one side of a quotient by a power of two. -/
def scale (num den : Nat) (exponent : Int) : Nat × Nat :=
  if exponent ≥ 0 then (num * Nat.pow 2 exponent.toNat, den)
  else (num, den * Nat.pow 2 (-exponent).toNat)

/-- The power of two that leaves 53 bits before the point of a quotient, or the smallest one. -/
def exponentFor (num den : Nat) : Int :=
  let guess : Int := (Nat.log2 num : Int) - Nat.log2 den - 52
  let (n, d) := scale num den (-guess)
  let e := if n < d * Nat.pow 2 52 then guess - 1 else guess
  if e < minExponent then minExponent else e

/-- The nearest number to a quotient of naturals, `den` not zero. -/
def ofRatio (negative : Bool) (num den : Nat) : Binary64 :=
  if num = 0 then finite negative 0 minExponent
  else
    let e := exponentFor num den
    let (n, d) := scale num den (-e)
    let m := roundDiv n d
    let (m, e) := if m = Nat.pow 2 53 then (Nat.pow 2 52, e + 1) else (m, e)
    if e > maxExponent then infinite negative else finite negative m e

/-- The nearest number to a written one. Powers of ten far outside the range are not multiplied
out: past ten to the 400 every number is infinite, below ten to the -400 every number is zero. -/
def ofDecimal (d : Decimal) : Binary64 :=
  if d.coefficient = 0 then finite d.negative 0 minExponent
  else
    let size : Int := (digitsOf d.coefficient).length + d.exponent
    if size > 400 then infinite d.negative
    else if size < -400 then finite d.negative 0 minExponent
    else if d.exponent ≥ 0 then ofRatio d.negative (d.coefficient * Nat.pow 10 d.exponent.toNat) 1
    else ofRatio d.negative d.coefficient (Nat.pow 10 (-d.exponent).toNat)

/-- The nearest number to an integer. -/
def ofInt (n : Int) : Binary64 := ofRatio (n < 0) n.natAbs 1

/-- Whether the number is zero or less; what is not a number is neither that nor more. -/
def isZeroOrLess : Binary64 → Bool
  | finite negative m _ => negative || m = 0
  | infinite negative => negative
  | notANumber => false

/-- The integer equal to the number, if there is one. -/
def toInt? : Binary64 → Option Int
  | finite negative m e =>
    let (n, d) := scale m 1 e
    if n % d = 0 then some (if negative then -((n / d : Nat) : Int) else ((n / d : Nat) : Int))
    else none
  | _ => none

/-- The size of the number as a quotient of naturals. -/
def ratio (m : Nat) (e : Int) : Nat × Nat := scale m 1 e

/-- The place of the leading digit: the least `p` with the quotient below ten to the `p`. -/
def leadingPlace (num den : Nat) : Int :=
  if num ≥ den then (digitsOf (num / den)).length
  else 1 - (digitsOf ((den - 1) / num)).length

/-- The digits `d` (a natural) and power `k` such that `d` times ten to the `k`, of `count` digits,
reads back as the number and is the nearest such to it. -/
def candidate? (m : Nat) (e : Int) (place : Int) (count : Nat) : Option (Nat × Int) :=
  let k : Int := place - count
  -- all sizes below are multiplied by a quarter of the last bit and by the powers of ten in play
  let up := if k ≥ 0 then Nat.pow 10 k.toNat else 1
  let down := if k ≥ 0 then 1 else Nat.pow 10 (-k).toNat
  let (vn, vd) := ratio m e
  let value := 4 * vn * down
  let unit := 4 * up * vd
  let (bn, _) := ratio 1 e
  let halfUp := 2 * bn * down
  let halfDown := if m = Nat.pow 2 52 ∧ e > minExponent then bn * down else halfUp
  let low := value / unit
  let inside (d : Nat) : Bool :=
    let x := d * unit
    if m % 2 = 0 then value ≤ x + halfDown && x ≤ value + halfUp
    else value < x + halfDown && x < value + halfUp
  let below := value - low * unit
  let above := (low + 1) * unit - value
  match inside low, inside (low + 1) with
  | true, true =>
    if below < above then some (low, k)
    else if above < below then some (low + 1, k)
    else some (if low % 2 = 0 then low else low + 1, k)
  | true, false => some (low, k)
  | false, true => some (low + 1, k)
  | false, false => none

/-- The fewest digits that read back as the number `m` times two to the `e`, and their power. -/
def shortestDigits (m : Nat) (e : Int) : Nat × Int :=
  let (n, d) := ratio m e
  let place := leadingPlace n d
  ((List.range 17).findSome? fun i ↦ candidate? m e place (i + 1)).getD (0, 0)

/-- Drops trailing zeros from a row of digits, counting them. -/
def dropZeros (cs : List Char) : List Char × Nat :=
  let kept := (cs.reverse.dropWhile (· = '0')).reverse
  (kept, cs.length - kept.length)

/-- Writes digits with a point: positional from ten to the -4 up to below ten to the 16, otherwise
with one digit before the point and an exponent of two digits or more. A whole number keeps `.0`. -/
def layout (digits : List Char) (place : Int) : List Char :=
  if place > -4 ∧ place ≤ 16 then
    if place ≤ 0 then "0.".toList ++ List.replicate (-place).toNat '0' ++ digits
    else if digits.length ≤ place.toNat then
      digits ++ List.replicate (place.toNat - digits.length) '0' ++ ".0".toList
    else digits.take place.toNat ++ '.' :: digits.drop place.toNat
  else
    let e := place - 1
    let size := digitsOf e.natAbs
    let size := if size.length < 2 then '0' :: size else size
    digits.take 1 ++ (if digits.length > 1 then '.' :: digits.drop 1 else [])
      ++ 'e' :: (if e < 0 then '-' else '+') :: size

/-- The text with the fewest digits that reads back as the same number. -/
def shortest : Binary64 → String
  | notANumber => "nan"
  | infinite negative => if negative then "-inf" else "inf"
  | finite negative m e =>
    let sign := if negative then ['-'] else []
    if m = 0 then String.ofList (sign ++ "0.0".toList)
    else
      let (d, k) := shortestDigits m e
      let all := digitsOf d
      let (kept, _) := dropZeros all
      String.ofList (sign ++ layout kept (all.length + k))

/-- The nearest whole number, an exact half going to the even one; a negative number that rounds to
zero keeps its sign. -/
def wholeText : Binary64 → String
  | notANumber => "nan"
  | infinite negative => if negative then "-inf" else "inf"
  | finite negative m e =>
    let (n, d) := ratio m e
    String.ofList ((if negative then ['-'] else []) ++ digitsOf (roundDiv n d))

end Binary64

end FormCatalog.Number
