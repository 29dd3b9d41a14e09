import FormCatalog.Catalog.ContentKey

/-!
# Digests of content in pieces

The digest of a file is made from pieces of the file, the digest of content that was received from
the content as a whole, and the two are compared with each other. They are the same
(`ContentKey.ofFile_eq_ofBytes`): folding in the whole blocks of what has come so far, and keeping
the rest for the next piece, folds in the blocks of the whole (`Chain.absorbAll_append`).
-/

set_option autoImplicit false
set_option relaxedAutoImplicit false

namespace FormCatalog

namespace Digest.Md5

theorem Chain.absorbAll_of_short {bs : Bytes} (h : bs.length < 64) (s : Chain) :
    s.absorbAll bs = (s, bs) := by
  rw [absorbAll, dif_neg]
  rw [List.length_take]
  omega

theorem Chain.absorbAll_of_block {bs : Bytes} (h : 64 ≤ bs.length) (s : Chain) :
    s.absorbAll bs = (s.absorb (bs.take 64)).absorbAll (bs.drop 64) := by
  rw [absorbAll, dif_pos]
  rw [List.length_take]
  omega

/-- Blocks are folded in one after the other, so it does not matter where the bytes are cut, as long
as what did not fill a block comes first in the rest. -/
theorem Chain.absorbAll_append (s : Chain) (bs rest : Bytes) :
    s.absorbAll (bs ++ rest) =
      (s.absorbAll bs).1.absorbAll ((s.absorbAll bs).2 ++ rest) := by
  induction s, bs using Chain.absorbAll.induct with
  | case1 s bs hblock ih =>
    have hlength : 64 ≤ bs.length := by
      rw [List.length_take] at hblock
      omega
    have hlonger : 64 ≤ (bs ++ rest).length := by
      rw [List.length_append]
      omega
    rw [absorbAll_of_block hlonger, absorbAll_of_block hlength,
      List.take_append_of_le_length hlength, List.drop_append_of_le_length hlength, ih]
  | case2 s bs hblock =>
    have hshort : bs.length < 64 := by
      rw [List.length_take] at hblock
      omega
    rw [absorbAll_of_short hshort]

/-- The digest under way once some content was taken in one piece. -/
def Stream.of (content : Bytes) : Stream where
  chain := (Chain.start.absorbAll content).1
  waiting := (Chain.start.absorbAll content).2
  length := content.length

theorem Stream.of_nil : Stream.of [] = {} := by
  unfold Stream.of
  rw [Chain.absorbAll_of_short (by simp)]
  rfl

theorem Stream.update_of (content piece : Bytes) :
    (Stream.of content).update piece = Stream.of (content ++ piece) := by
  unfold Stream.of Stream.update
  rw [Chain.absorbAll_append Chain.start content piece, List.length_append]

theorem Stream.finish_of (content : Bytes) : (Stream.of content).finish = digest content := by
  unfold Stream.finish digest Stream.of
  rw [Chain.absorbAll_append Chain.start content]

/-- However content is cut, taking the pieces one after the other takes the whole. -/
theorem Stream.foldl_update_of (content : Bytes) (cut : List Bytes) :
    cut.foldl Stream.update (Stream.of content) = Stream.of (content ++ cut.flatten) := by
  induction cut generalizing content with
  | nil => simp
  | cons piece rest ih => rw [List.foldl_cons, update_of, ih, List.flatten_cons, List.append_assoc]

theorem flatten_pieces {size : Nat} (hsize : size ≠ 0) (content : Bytes) :
    (pieces size content).flatten = content := by
  induction content using pieces.induct size with
  | case1 content hdone =>
    obtain rfl := hdone.resolve_left hsize
    simp [pieces]
  | case2 content hmore ih =>
    rw [pieces, dif_neg hmore, List.flatten_cons, ih, List.take_append_drop]

theorem digestInPieces_eq_digest {size : Nat} (hsize : size ≠ 0) (content : Bytes) :
    digestInPieces size content = digest content := by
  unfold digestInPieces
  rw [← Stream.of_nil, Stream.foldl_update_of, List.nil_append, flatten_pieces hsize,
    Stream.finish_of]

end Digest.Md5

/-- A file has the digest of its content. -/
theorem ContentKey.ofFile_eq_ofBytes (content : Bytes) : ofFile content = ofBytes content := by
  unfold ofFile ofBytes
  rw [Digest.Md5.digestInPieces_eq_digest (by decide)]

end FormCatalog
