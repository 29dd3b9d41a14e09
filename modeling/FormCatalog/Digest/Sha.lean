import FormCatalog.Digest.Bytes

/-!
The SHA-1, SHA-256 and SHA-512 digests.

All three pad a message to whole blocks, fold the blocks into a chain of words and write the chain
out, the most significant byte first. They differ in the word, the chain and the step, which are
given here side by side.
-/

set_option autoImplicit false
set_option relaxedAutoImplicit false

namespace FormCatalog.Digest.Sha

/-- The `n` lowest bytes of a number, the most significant first. -/
def highBytes (n v : Nat) : Bytes :=
  (List.range n).reverse.map fun i ↦ UInt8.ofNat (v / Nat.pow 256 i % 256)

/-- A number from its bytes, the most significant first. -/
def natOfBytes (bs : Bytes) : Nat :=
  bs.foldl (fun n b ↦ 256 * n + b.toNat) 0

/-- What follows a message: a one bit, zeros, and the length in bits in the last `field` bytes of
a block of `block` bytes. -/
def padding (block field length : Nat) : Bytes :=
  0x80 :: (List.replicate ((2 * block - 1 - field - length % block) % block) 0
    ++ highBytes field (8 * length))

/-- Folds every whole block of `size` bytes into the chain. -/
def absorbAll {Chain : Type} (absorb : Chain → Bytes → Chain) (size : Nat) (s : Chain)
    (bs : Bytes) : Chain :=
  if _h : size ≠ 0 ∧ (bs.take size).length = size then
    absorbAll absorb size (absorb s (bs.take size)) (bs.drop size)
  else s
termination_by bs.length
decreasing_by simp_all; omega

/-! ### 32-bit words -/

/-- The sixteen 32-bit words of a 64-byte block. -/
def words32 (block : Bytes) : List UInt32 :=
  (List.range 16).map fun i ↦ UInt32.ofNat (natOfBytes ((block.drop (4 * i)).take 4))

/-- Turns a 32-bit word left. -/
def rotateLeft32 (x n : UInt32) : UInt32 := (x <<< n) ||| (x >>> (32 - n))

/-- Turns a 32-bit word right. -/
def rotateRight32 (x n : UInt32) : UInt32 := (x >>> n) ||| (x <<< (32 - n))

/-- A chain of 32-bit words written out. -/
def bytes32 (chain : List UInt32) : Bytes :=
  chain.flatMap fun w ↦ highBytes 4 w.toNat

/-- The eighty words that the steps of a SHA-1 block use. -/
def schedule1 (block : Bytes) : Array UInt32 :=
  (List.range 64).foldl (fun w i ↦
    let word (k : Nat) : UInt32 := w.getD (i + k) 0
    w.push (rotateLeft32 (word 13 ^^^ word 8 ^^^ word 2 ^^^ word 0) 1)) (words32 block).toArray

/-- The five words of a SHA-1 chain. -/
abbrev Chain1 := UInt32 × UInt32 × UInt32 × UInt32 × UInt32

/-- One of the eighty steps of a SHA-1 block. -/
def step1 (w : Array UInt32) : Chain1 → Nat → Chain1
  | (a, b, c, d, e), i =>
    let (f, k) : UInt32 × UInt32 :=
      if i < 20 then ((b &&& c) ||| (~~~b &&& d), 0x5a827999)
      else if i < 40 then (b ^^^ c ^^^ d, 0x6ed9eba1)
      else if i < 60 then ((b &&& c) ||| (b &&& d) ||| (c &&& d), 0x8f1bbcdc)
      else (b ^^^ c ^^^ d, 0xca62c1d6)
    (rotateLeft32 a 5 + f + e + k + w.getD i 0, a, rotateLeft32 b 30, c, d)

/-- Folds a 64-byte block into a SHA-1 chain. -/
def absorb1 (s : Chain1) (block : Bytes) : Chain1 :=
  let (a, b, c, d, e) := s
  let (a', b', c', d', e') := (List.range 80).foldl (step1 (schedule1 block)) s
  (a + a', b + b', c + c', d + d', e + e')

/-- The SHA-1 digest. -/
def sha1 (message : Bytes) : Bytes :=
  let (a, b, c, d, e) := absorbAll absorb1 64
    (0x67452301, 0xefcdab89, 0x98badcfe, 0x10325476, 0xc3d2e1f0)
    (message ++ padding 64 8 message.length)
  bytes32 [a, b, c, d, e]

/-- The step constants of SHA-512; the upper halves of the first 64 are those of SHA-256. -/
def stepConstants : Array UInt64 := #[
  0x428a2f98d728ae22, 0x7137449123ef65cd, 0xb5c0fbcfec4d3b2f, 0xe9b5dba58189dbbc,
  0x3956c25bf348b538, 0x59f111f1b605d019, 0x923f82a4af194f9b, 0xab1c5ed5da6d8118,
  0xd807aa98a3030242, 0x12835b0145706fbe, 0x243185be4ee4b28c, 0x550c7dc3d5ffb4e2,
  0x72be5d74f27b896f, 0x80deb1fe3b1696b1, 0x9bdc06a725c71235, 0xc19bf174cf692694,
  0xe49b69c19ef14ad2, 0xefbe4786384f25e3, 0x0fc19dc68b8cd5b5, 0x240ca1cc77ac9c65,
  0x2de92c6f592b0275, 0x4a7484aa6ea6e483, 0x5cb0a9dcbd41fbd4, 0x76f988da831153b5,
  0x983e5152ee66dfab, 0xa831c66d2db43210, 0xb00327c898fb213f, 0xbf597fc7beef0ee4,
  0xc6e00bf33da88fc2, 0xd5a79147930aa725, 0x06ca6351e003826f, 0x142929670a0e6e70,
  0x27b70a8546d22ffc, 0x2e1b21385c26c926, 0x4d2c6dfc5ac42aed, 0x53380d139d95b3df,
  0x650a73548baf63de, 0x766a0abb3c77b2a8, 0x81c2c92e47edaee6, 0x92722c851482353b,
  0xa2bfe8a14cf10364, 0xa81a664bbc423001, 0xc24b8b70d0f89791, 0xc76c51a30654be30,
  0xd192e819d6ef5218, 0xd69906245565a910, 0xf40e35855771202a, 0x106aa07032bbd1b8,
  0x19a4c116b8d2d0c8, 0x1e376c085141ab53, 0x2748774cdf8eeb99, 0x34b0bcb5e19b48a8,
  0x391c0cb3c5c95a63, 0x4ed8aa4ae3418acb, 0x5b9cca4f7763e373, 0x682e6ff3d6b2b8a3,
  0x748f82ee5defb2fc, 0x78a5636f43172f60, 0x84c87814a1f0ab72, 0x8cc702081a6439ec,
  0x90befffa23631e28, 0xa4506cebde82bde9, 0xbef9a3f7b2c67915, 0xc67178f2e372532b,
  0xca273eceea26619c, 0xd186b8c721c0c207, 0xeada7dd6cde0eb1e, 0xf57d4f7fee6ed178,
  0x06f067aa72176fba, 0x0a637dc5a2c898a6, 0x113f9804bef90dae, 0x1b710b35131c471b,
  0x28db77f523047d84, 0x32caab7b40c72493, 0x3c9ebe0a15c9bebc, 0x431d67c49c100d4c,
  0x4cc5d4becb3e42b6, 0x597f299cfc657e2a, 0x5fcb6fab3ad6faec, 0x6c44198c4a475817]

/-- Eight words of either width. -/
structure Chain8 (W : Type) where
  a : W
  b : W
  c : W
  d : W
  e : W
  f : W
  g : W
  h : W

/-- One step of the eight-word digests, given the four mixed words of the chain. -/
def Chain8.step {W : Type} [Add W] (bigSigma0 bigSigma1 choose majority : W) (s : Chain8 W)
    (kw : W) : Chain8 W :=
  let t := s.h + bigSigma1 + choose + kw
  ⟨t + (bigSigma0 + majority), s.a, s.b, s.c, s.d + t, s.e, s.f, s.g⟩

/-- Adds two chains word by word. -/
def Chain8.add {W : Type} [Add W] (s t : Chain8 W) : Chain8 W :=
  ⟨s.a + t.a, s.b + t.b, s.c + t.c, s.d + t.d, s.e + t.e, s.f + t.f, s.g + t.g, s.h + t.h⟩

/-- The words in order. -/
def Chain8.toList {W : Type} (s : Chain8 W) : List W :=
  [s.a, s.b, s.c, s.d, s.e, s.f, s.g, s.h]

/-- The sixty-four words that the steps of a SHA-256 block use. -/
def schedule256 (block : Bytes) : Array UInt32 :=
  (List.range 48).foldl (fun w i ↦
    let x := w.getD (i + 1) 0
    let y := w.getD (i + 14) 0
    let s0 := rotateRight32 x 7 ^^^ rotateRight32 x 18 ^^^ (x >>> 3)
    let s1 := rotateRight32 y 17 ^^^ rotateRight32 y 19 ^^^ (y >>> 10)
    w.push (w.getD i 0 + s0 + w.getD (i + 9) 0 + s1)) (words32 block).toArray

/-- Folds a 64-byte block into a SHA-256 chain. -/
def absorb256 (s : Chain8 UInt32) (block : Bytes) : Chain8 UInt32 :=
  let w := schedule256 block
  s.add ((List.range 64).foldl (fun t i ↦
    t.step (rotateRight32 t.a 2 ^^^ rotateRight32 t.a 13 ^^^ rotateRight32 t.a 22)
      (rotateRight32 t.e 6 ^^^ rotateRight32 t.e 11 ^^^ rotateRight32 t.e 25)
      ((t.e &&& t.f) ^^^ (~~~t.e &&& t.g))
      ((t.a &&& t.b) ^^^ (t.a &&& t.c) ^^^ (t.b &&& t.c))
      ((stepConstants.getD i 0 >>> 32).toUInt32 + w.getD i 0)) s)

/-- The SHA-256 digest. -/
def sha256 (message : Bytes) : Bytes :=
  bytes32 (absorbAll absorb256 64
    ⟨0x6a09e667, 0xbb67ae85, 0x3c6ef372, 0xa54ff53a, 0x510e527f, 0x9b05688c, 0x1f83d9ab, 0x5be0cd19⟩
    (message ++ padding 64 8 message.length)).toList

/-! ### 64-bit words -/

/-- Turns a 64-bit word right. -/
def rotateRight64 (x n : UInt64) : UInt64 := (x >>> n) ||| (x <<< (64 - n))

/-- The sixteen 64-bit words of a 128-byte block. -/
def words64 (block : Bytes) : List UInt64 :=
  (List.range 16).map fun i ↦ UInt64.ofNat (natOfBytes ((block.drop (8 * i)).take 8))

/-- The eighty words that the steps of a SHA-512 block use. -/
def schedule512 (block : Bytes) : Array UInt64 :=
  (List.range 64).foldl (fun w i ↦
    let x := w.getD (i + 1) 0
    let y := w.getD (i + 14) 0
    let s0 := rotateRight64 x 1 ^^^ rotateRight64 x 8 ^^^ (x >>> 7)
    let s1 := rotateRight64 y 19 ^^^ rotateRight64 y 61 ^^^ (y >>> 6)
    w.push (w.getD i 0 + s0 + w.getD (i + 9) 0 + s1)) (words64 block).toArray

/-- Folds a 128-byte block into a SHA-512 chain. -/
def absorb512 (s : Chain8 UInt64) (block : Bytes) : Chain8 UInt64 :=
  let w := schedule512 block
  s.add ((List.range 80).foldl (fun t i ↦
    t.step (rotateRight64 t.a 28 ^^^ rotateRight64 t.a 34 ^^^ rotateRight64 t.a 39)
      (rotateRight64 t.e 14 ^^^ rotateRight64 t.e 18 ^^^ rotateRight64 t.e 41)
      ((t.e &&& t.f) ^^^ (~~~t.e &&& t.g))
      ((t.a &&& t.b) ^^^ (t.a &&& t.c) ^^^ (t.b &&& t.c))
      (stepConstants.getD i 0 + w.getD i 0)) s)

/-- The SHA-512 digest. -/
def sha512 (message : Bytes) : Bytes :=
  (absorbAll absorb512 128
    ⟨0x6a09e667f3bcc908, 0xbb67ae8584caa73b, 0x3c6ef372fe94f82b, 0xa54ff53a5f1d36f1,
      0x510e527fade682d1, 0x9b05688c2b3e6c1f, 0x1f83d9abfb41bd6b, 0x5be0cd19137e2179⟩
    (message ++ padding 128 16 message.length)).toList.flatMap fun w ↦ highBytes 8 w.toNat

end FormCatalog.Digest.Sha
