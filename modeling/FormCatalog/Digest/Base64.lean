import FormCatalog.Digest.Bytes

/-!
Bytes in base 64: four characters for every three bytes, the last group filled up with equals signs.
-/

set_option autoImplicit false
set_option relaxedAutoImplicit false

namespace FormCatalog.Bytes

/-- A digit of base 64. -/
def base64Digit (n : Nat) : Char :=
  if n < 26 then Char.ofNat (65 + n)
  else if n < 52 then Char.ofNat (71 + n)
  else if n < 62 then Char.ofNat (n - 4)
  else if n = 62 then '+' else '/'

/-- The characters of bytes in base 64. -/
def base64Chars : Bytes → List Char
  | a :: b :: c :: rest =>
    let n := (a.toNat * 256 + b.toNat) * 256 + c.toNat
    base64Digit (n / 262144) :: base64Digit (n / 4096 % 64) :: base64Digit (n / 64 % 64)
      :: base64Digit (n % 64) :: base64Chars rest
  | [a, b] =>
    let n := (a.toNat * 256 + b.toNat) * 4
    [base64Digit (n / 4096), base64Digit (n / 64 % 64), base64Digit (n % 64), '=']
  | [a] =>
    let n := a.toNat * 16
    [base64Digit (n / 64), base64Digit (n % 64), '=', '=']
  | [] => []

/-- Bytes in base 64. -/
def base64 (bs : Bytes) : String := String.ofList (base64Chars bs)

end FormCatalog.Bytes
