import FormCatalog.Digest.Bytes

/-!
The MD5 digest, in one piece and in pieces.

A message is padded to a whole number of 64-byte blocks and the blocks are folded, in order, into a
chain of four 32-bit words; `digest` is that fold. `Stream` takes the message in pieces of any size:
it keeps the chain of the whole blocks seen so far, the bytes still waiting for a block to fill, and
the number of bytes seen. `Stream.finish` pads what is waiting and folds the rest.
-/

set_option autoImplicit false
set_option relaxedAutoImplicit false

namespace FormCatalog.Digest.Md5

/-- The running value: four words, changed by every block. -/
structure Chain where
  a : UInt32
  b : UInt32
  c : UInt32
  d : UInt32
  deriving DecidableEq, Repr

/-- The value before any block. -/
def Chain.start : Chain := ⟨0x67452301, 0xefcdab89, 0x98badcfe, 0x10325476⟩

/-- The additive constant of each of the 64 steps. -/
def stepConstants : Array UInt32 := #[
  0xd76aa478, 0xe8c7b756, 0x242070db, 0xc1bdceee, 0xf57c0faf, 0x4787c62a, 0xa8304613, 0xfd469501,
  0x698098d8, 0x8b44f7af, 0xffff5bb1, 0x895cd7be, 0x6b901122, 0xfd987193, 0xa679438e, 0x49b40821,
  0xf61e2562, 0xc040b340, 0x265e5a51, 0xe9b6c7aa, 0xd62f105d, 0x02441453, 0xd8a1e681, 0xe7d3fbc8,
  0x21e1cde6, 0xc33707d6, 0xf4d50d87, 0x455a14ed, 0xa9e3e905, 0xfcefa3f8, 0x676f02d9, 0x8d2a4c8a,
  0xfffa3942, 0x8771f681, 0x6d9d6122, 0xfde5380c, 0xa4beea44, 0x4bdecfa9, 0xf6bb4b60, 0xbebfbc70,
  0x289b7ec6, 0xeaa127fa, 0xd4ef3085, 0x04881d05, 0xd9d4d039, 0xe6db99e5, 0x1fa27cf8, 0xc4ac5665,
  0xf4292244, 0x432aff97, 0xab9423a7, 0xfc93a039, 0x655b59c3, 0x8f0ccc92, 0xffeff47d, 0x85845dd1,
  0x6fa87e4f, 0xfe2ce6e0, 0xa3014314, 0x4e0811a1, 0xf7537e82, 0xbd3af235, 0x2ad7d2bb, 0xeb86d391]

/-- The rotation of each step: four amounts a round, used in turn. -/
def rotations : Array UInt32 :=
  #[7, 12, 17, 22, 5, 9, 14, 20, 4, 11, 16, 23, 6, 10, 15, 21]

/-- Turns a word left by fewer than 32 places. -/
def rotateLeft (x n : UInt32) : UInt32 := (x <<< n) ||| (x >>> (32 - n))

/-- A word from four bytes, the least significant first. -/
def wordOfBytes : Bytes → UInt32
  | [] => 0
  | b :: rest => b.toUInt32 ||| (wordOfBytes rest <<< 8)

/-- The sixteen words of a block. -/
def words (block : Bytes) : Array UInt32 :=
  ((List.range 16).map fun i ↦ wordOfBytes ((block.drop (4 * i)).take 4)).toArray

/-- The mixing function of a step, one for each round of sixteen. -/
def mix (step : Nat) (b c d : UInt32) : UInt32 :=
  if step < 16 then (b &&& c) ||| (~~~b &&& d)
  else if step < 32 then (d &&& b) ||| (~~~d &&& c)
  else if step < 48 then b ^^^ c ^^^ d
  else c ^^^ (b ||| ~~~d)

/-- Which of the sixteen words a step takes. -/
def wordIndex (step : Nat) : Nat :=
  if step < 16 then step
  else if step < 32 then (5 * step + 1) % 16
  else if step < 48 then (3 * step + 5) % 16
  else (7 * step) % 16

/-- One of the 64 steps of a block. -/
def Chain.step (block : Array UInt32) (s : Chain) (i : Nat) : Chain :=
  let sum := s.a + mix i s.b s.c s.d + stepConstants.getD i 0 + block.getD (wordIndex i) 0
  ⟨s.d, s.b + rotateLeft sum (rotations.getD (4 * (i / 16) + i % 4) 0), s.b, s.c⟩

/-- Folds one block of 64 bytes into the chain. -/
def Chain.absorb (s : Chain) (block : Bytes) : Chain :=
  let r := (List.range 64).foldl (Chain.step (words block)) s
  ⟨s.a + r.a, s.b + r.b, s.c + r.c, s.d + r.d⟩

/-- Folds in every whole block, and gives back the bytes of the last, unfilled one. -/
def Chain.absorbAll (s : Chain) (bs : Bytes) : Chain × Bytes :=
  if _h : (bs.take 64).length = 64 then (s.absorb (bs.take 64)).absorbAll (bs.drop 64)
  else (s, bs)
termination_by bs.length
decreasing_by simp_all; omega

/-- The `n` lowest bytes of a number, the least significant first. -/
def lowBytes : Nat → Nat → Bytes
  | 0, _ => []
  | n + 1, v => UInt8.ofNat (v % 256) :: lowBytes n (v / 256)

/-- What follows a message of the given length: a one bit, zeros up to eight bytes short of a whole
block, and the length in bits. -/
def padding (length : Nat) : Bytes :=
  0x80 :: (List.replicate ((119 - length % 64) % 64) 0 ++ lowBytes 8 (8 * length))

/-- The chain written out as sixteen bytes. -/
def Chain.bytes (s : Chain) : Bytes :=
  [s.a, s.b, s.c, s.d].flatMap fun w ↦ lowBytes 4 w.toNat

/-- The digest of a whole message. -/
def digest (message : Bytes) : Bytes :=
  (Chain.start.absorbAll (message ++ padding message.length)).1.bytes

/-! ### Messages in pieces -/

/-- A digest under way. -/
structure Stream where
  chain : Chain := Chain.start
  /-- Bytes that do not fill a block yet. -/
  waiting : Bytes := []
  /-- How many bytes have been taken in all. -/
  length : Nat := 0
  deriving DecidableEq, Repr

/-- Takes the next piece of the message. -/
def Stream.update (s : Stream) (piece : Bytes) : Stream :=
  let (chain, waiting) := s.chain.absorbAll (s.waiting ++ piece)
  ⟨chain, waiting, s.length + piece.length⟩

/-- The digest of all pieces taken. -/
def Stream.finish (s : Stream) : Bytes :=
  (s.chain.absorbAll (s.waiting ++ padding s.length)).1.bytes

/-- Cuts content into pieces of `size` bytes, the last one shorter. -/
def pieces (size : Nat) (content : Bytes) : List Bytes :=
  if _h : size = 0 ∨ content = [] then []
  else content.take size :: pieces size (content.drop size)
termination_by content.length
decreasing_by
  simp only [not_or] at _h
  have : content.length ≠ 0 := by simpa using _h.2
  simp only [List.length_drop]
  omega

/-- The digest of content read in pieces of `size` bytes. -/
def digestInPieces (size : Nat) (content : Bytes) : Bytes :=
  ((pieces size content).foldl Stream.update {}).finish

end FormCatalog.Digest.Md5
