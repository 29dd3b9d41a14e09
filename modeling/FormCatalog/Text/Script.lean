import FormCatalog.Text.Runs

/-!
Scripts.

The table lists the characters of those scripts that a rule about host names names.
-/

set_option autoImplicit false
set_option relaxedAutoImplicit false

namespace FormCatalog.Text

/-- A script that a rule names. -/
inductive Script where
  | greek
  | hebrew
  | hiragana
  | katakana
  | han
  deriving DecidableEq, Repr

/-- The runs of characters of the scripts. -/
def scriptRuns : List (Nat × Nat × Script) := [
  (0x370, 0x373, .greek), (0x375, 0x377, .greek), (0x37a, 0x37d, .greek), (0x37f, 0x37f, .greek),
  (0x384, 0x384, .greek), (0x386, 0x386, .greek), (0x388, 0x38a, .greek), (0x38c, 0x38c, .greek),
  (0x38e, 0x3a1, .greek), (0x3a3, 0x3e1, .greek), (0x3f0, 0x3ff, .greek), (0x591, 0x5c7, .hebrew),
  (0x5d0, 0x5ea, .hebrew), (0x5ef, 0x5f4, .hebrew), (0x1d26, 0x1d2a, .greek),
  (0x1d5d, 0x1d61, .greek), (0x1d66, 0x1d6a, .greek), (0x1dbf, 0x1dbf, .greek),
  (0x1f00, 0x1f15, .greek), (0x1f18, 0x1f1d, .greek), (0x1f20, 0x1f45, .greek),
  (0x1f48, 0x1f4d, .greek), (0x1f50, 0x1f57, .greek), (0x1f59, 0x1f59, .greek),
  (0x1f5b, 0x1f5b, .greek), (0x1f5d, 0x1f5d, .greek), (0x1f5f, 0x1f7d, .greek),
  (0x1f80, 0x1fb4, .greek), (0x1fb6, 0x1fc4, .greek), (0x1fc6, 0x1fd3, .greek),
  (0x1fd6, 0x1fdb, .greek), (0x1fdd, 0x1fef, .greek), (0x1ff2, 0x1ff4, .greek),
  (0x1ff6, 0x1ffe, .greek), (0x2126, 0x2126, .greek), (0x2e80, 0x2e99, .han),
  (0x2e9b, 0x2ef3, .han), (0x2f00, 0x2fd5, .han), (0x3005, 0x3005, .han), (0x3007, 0x3007, .han),
  (0x3021, 0x3029, .han), (0x3038, 0x303b, .han), (0x3041, 0x3096, .hiragana),
  (0x309d, 0x309f, .hiragana), (0x30a1, 0x30fa, .katakana), (0x30fd, 0x30ff, .katakana),
  (0x31f0, 0x31ff, .katakana), (0x32d0, 0x32fe, .katakana), (0x3300, 0x3357, .katakana),
  (0x3400, 0x4dbf, .han), (0x4e00, 0x9fff, .han), (0xab65, 0xab65, .greek), (0xf900, 0xfa6d, .han),
  (0xfa70, 0xfad9, .han), (0xfb1d, 0xfb36, .hebrew), (0xfb38, 0xfb3c, .hebrew),
  (0xfb3e, 0xfb3e, .hebrew), (0xfb40, 0xfb41, .hebrew), (0xfb43, 0xfb44, .hebrew),
  (0xfb46, 0xfb4f, .hebrew), (0xff66, 0xff6f, .katakana), (0xff71, 0xff9d, .katakana),
  (0x10140, 0x1018e, .greek), (0x101a0, 0x101a0, .greek), (0x16fe2, 0x16fe3, .han),
  (0x16ff0, 0x16ff6, .han), (0x1aff0, 0x1aff3, .katakana), (0x1aff5, 0x1affb, .katakana),
  (0x1affd, 0x1affe, .katakana), (0x1b000, 0x1b000, .katakana), (0x1b001, 0x1b11f, .hiragana),
  (0x1b120, 0x1b122, .katakana), (0x1b132, 0x1b132, .hiragana), (0x1b150, 0x1b152, .hiragana),
  (0x1b155, 0x1b155, .katakana), (0x1b164, 0x1b167, .katakana), (0x1d200, 0x1d245, .greek),
  (0x1f200, 0x1f200, .hiragana), (0x20000, 0x2a6df, .han), (0x2a700, 0x2b81d, .han),
  (0x2b820, 0x2cead, .han), (0x2ceb0, 0x2ebe0, .han), (0x2ebf0, 0x2ee5d, .han),
  (0x2f800, 0x2fa1d, .han), (0x30000, 0x3134a, .han), (0x31350, 0x33479, .han)]

/-- The script of a character. -/
def script? (n : Nat) : Option Script := runValue? scriptRuns n

end FormCatalog.Text
