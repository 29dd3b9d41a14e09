import FormCatalog.Json.Value

/-!
Writing JSON values.

`Json.render` writes a value without blanks, members in their order, with the two-character escapes
where there is one and `\u` escapes for the other control characters.
-/

set_option autoImplicit false
set_option relaxedAutoImplicit false

namespace FormCatalog.Json

open Number

/-- A digit of a `\u` escape. -/
def hexChar (n : Nat) : Char :=
  if n < 10 then Char.ofNat (48 + n) else Char.ofNat (87 + n)

/-- The `\u` escape of a unit below 2^16. -/
def unitEscape (n : Nat) : List Char :=
  ['\\', 'u', hexChar (n / 4096 % 16), hexChar (n / 256 % 16), hexChar (n / 16 % 16),
    hexChar (n % 16)]

/-- A character inside a string. -/
def charText (c : Char) : List Char :=
  if c = '"' then ['\\', '"']
  else if c = '\\' then ['\\', '\\']
  else if c = '\n' then ['\\', 'n']
  else if c = '\r' then ['\\', 'r']
  else if c = '\t' then ['\\', 't']
  else if c.toNat < 0x20 then unitEscape c.toNat
  else [c]

/-- A string in quotes. -/
def stringText (s : String) : List Char :=
  '"' :: (s.toList.flatMap charText ++ ['"'])

/-- A number. -/
def numeralText : Numeral → List Char
  | .integer n => (textOfInt n).toList
  | .decimal d =>
    (if d.negative then ['-'] else []) ++ digitsOf d.coefficient
      ++ 'e' :: (textOfInt d.exponent).toList
  | .infinite negative => (if negative then "-Infinity" else "Infinity").toList
  | .notANumber => "NaN".toList

mutual

/-- A value. -/
def valueText : Json → List Char
  | null => "null".toList
  | bool b => (if b then "true" else "false").toList
  | number n => numeralText n
  | string s => stringText s
  | array items => '[' :: (itemsText items ++ [']'])
  | object members => '\x7b' :: (membersText members ++ ['\x7d'])

/-- The items of an array, separated by commas. -/
def itemsText : List Json → List Char
  | [] => []
  | [v] => valueText v
  | v :: w :: rest => valueText v ++ ',' :: itemsText (w :: rest)

/-- The members of an object, separated by commas. -/
def membersText : List (String × Json) → List Char
  | [] => []
  | [(k, v)] => stringText k ++ ':' :: valueText v
  | (k, v) :: m :: rest => stringText k ++ ':' :: (valueText v ++ ',' :: membersText (m :: rest))

end

/-- The text of a value. -/
def render (v : Json) : String := String.ofList (valueText v)

end FormCatalog.Json
