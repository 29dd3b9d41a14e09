/-!
Bytes and how they are written down.

Content is a list of bytes. This module holds the two written forms the rest of the library needs:
lower-case hexadecimal, two digits a byte, and the UTF-8 encoding of a text together with its
decoder, which refuses every byte string that is not the encoding of some text.
-/

set_option autoImplicit false
set_option relaxedAutoImplicit false

namespace FormCatalog

/-- Content as it is sent, stored and hashed. -/
abbrev Bytes := List UInt8

namespace Bytes

/-- The sixteen lower-case digits. -/
def hexDigit (n : Nat) : Char :=
  if n < 10 then Char.ofNat (48 + n) else Char.ofNat (87 + n)

/-- Two digits, the high half first. -/
def hexOfByte (b : UInt8) : List Char :=
  [hexDigit (b.toNat / 16), hexDigit (b.toNat % 16)]

/-- Lower-case hexadecimal, two digits a byte. -/
def hex (bs : Bytes) : String :=
  String.ofList (bs.flatMap hexOfByte)

/-- The UTF-8 encoding of a text. -/
def ofText (s : String) : Bytes :=
  s.toUTF8.data.toList

/-- The text that the bytes encode in UTF-8, if they encode one. -/
def toText? (bs : Bytes) : Option String :=
  String.fromUTF8? ⟨bs.toArray⟩

theorem length_hexOfByte (b : UInt8) : (hexOfByte b).length = 2 := rfl

end Bytes

end FormCatalog
