import FormCatalog.Proofs.Catalog.Keys
import FormCatalog.Proofs.Digest.Pieces

/-!
# Digesting a file while it is read

A file is read in pieces until a read gives nothing (`Reading.next?`), and each piece goes into the
digest under way. The reading comes to its end (`Reading.finishes_pieces`), after as many pieces as
it takes to cover the content (`length_pieces`).

What the digest under way then holds is the same for every way to cut the content (`Stream.Holds`):
the whole blocks are folded into its chain, and the rest is waiting. A padded message is made of
whole blocks, so the digest of a message is the fold of its blocks (`digest_eq_foldl`), and that is
what a digest under way finishes with.
-/

set_option autoImplicit false
set_option relaxedAutoImplicit false

namespace FormCatalog

namespace Digest.Md5

variable {size : Nat} {content : Bytes}

/-! ### Pieces and blocks -/

@[simp] theorem pieces_nil : pieces size [] = [] := by
  rw [pieces, dif_pos (Or.inr rfl)]

theorem pieces_of_ne_nil (hsize : size ≠ 0) (hcontent : content ≠ []) :
    pieces size content = content.take size :: pieces size (content.drop size) := by
  rw [pieces, dif_neg (not_or.mpr ⟨hsize, hcontent⟩)]

/-- There are as many pieces as it takes to cover the content; the last one may be short. -/
theorem length_pieces (hsize : size ≠ 0) (content : Bytes) :
    (pieces size content).length = (content.length + (size - 1)) / size := by
  have hpos : 0 < size := Nat.pos_of_ne_zero hsize
  induction content using pieces.induct size with
  | case1 content hdone =>
    obtain rfl := hdone.resolve_left hsize
    rw [pieces_nil, List.length_nil, List.length_nil, Nat.zero_add]
    exact (Nat.div_eq_of_lt (Nat.sub_lt hpos Nat.one_pos)).symm
  | case2 content hmore ih =>
    obtain ⟨-, hcontent⟩ := not_or.mp hmore
    have hlength : 0 < content.length := List.length_pos_iff.mpr hcontent
    rw [pieces_of_ne_nil hsize hcontent, List.length_cons, ih, List.length_drop]
    by_cases hlast : content.length ≤ size
    · have hone : content.length + (size - 1) = (content.length - 1) + size := by omega
      rw [Nat.sub_eq_zero_of_le hlast, Nat.zero_add, hone, Nat.add_div_right _ hpos,
        Nat.div_eq_of_lt (by omega : size - 1 < size),
        Nat.div_eq_of_lt (by omega : content.length - 1 < size)]
    · have hrest : content.length + (size - 1) = content.length - size + (size - 1) + size := by
        omega
      rw [hrest, Nat.add_div_right _ hpos]

/-- Folding in content folds in its whole blocks, one after the other, and leaves the rest. -/
theorem Chain.absorbAll_eq (s : Chain) (bs : Bytes) : s.absorbAll bs =
    ((pieces 64 (bs.take (64 * (bs.length / 64)))).foldl Chain.absorb s,
      bs.drop (64 * (bs.length / 64))) := by
  induction s, bs using Chain.absorbAll.induct with
  | case1 s bs hblock ih =>
    have hlength : 64 ≤ bs.length := by
      rw [List.length_take] at hblock
      omega
    have hcount : 64 * (bs.length / 64) = 64 + 64 * ((bs.drop 64).length / 64) := by
      rw [List.length_drop]
      omega
    have hne : bs.take (64 + 64 * ((bs.drop 64).length / 64)) ≠ [] := by
      refine List.ne_nil_of_length_pos ?_
      rw [List.length_take]
      omega
    rw [absorbAll_of_block hlength, ih, hcount, pieces_of_ne_nil (by decide) hne, List.foldl_cons,
      List.take_take, Nat.min_eq_left (Nat.le_add_right 64 _), List.drop_take,
      Nat.add_sub_cancel_left, List.drop_drop]
  | case2 s bs hblock =>
    have hshort : bs.length < 64 := by
      rw [List.length_take] at hblock
      omega
    rw [absorbAll_of_short hshort, Nat.div_eq_of_lt hshort]
    simp

theorem length_padding (n : Nat) : (padding n).length = 9 + (119 - n % 64) % 64 := by
  unfold padding
  rw [List.length_cons, List.length_append, List.length_replicate, length_lowBytes]
  omega

/-- A padded message is made of whole blocks. -/
theorem dvd_length_padded (message : Bytes) :
    64 ∣ (message ++ padding message.length).length := by
  rw [List.length_append, length_padding]
  omega

/-- The digest of a message is the fold of the blocks that it makes with its padding. -/
theorem digest_eq_foldl (message : Bytes) : digest message =
    ((pieces 64 (message ++ padding message.length)).foldl Chain.absorb Chain.start).bytes := by
  unfold digest
  rw [Chain.absorbAll_eq, Nat.mul_div_cancel' (dvd_length_padded message), List.take_length]

/-! ### The digest under way -/

/-- A digest under way has taken certain content: the whole blocks went into its chain, and what
does not fill a block is waiting. -/
structure Stream.Holds (s : Stream) (content : Bytes) : Prop where
  length : s.length = content.length
  chain : s.chain =
    (pieces 64 (content.take (64 * (content.length / 64)))).foldl Chain.absorb Chain.start
  waiting : s.waiting = content.drop (64 * (content.length / 64))

theorem Stream.holds_of (content : Bytes) : (Stream.of content).Holds content where
  length := rfl
  chain := congrArg Prod.fst (Chain.absorbAll_eq Chain.start content)
  waiting := congrArg Prod.snd (Chain.absorbAll_eq Chain.start content)

/-- Taking pieces one after the other is taking what they are pieces of. -/
theorem Stream.foldl_update_start (cut : List Bytes) :
    cut.foldl Stream.update {} = Stream.of cut.flatten := by
  rw [← Stream.of_nil, Stream.foldl_update_of, List.nil_append]

/-! ### The reading -/

/-- A file that is being digested: what was not read yet, and the digest under way. -/
structure Reading where
  left : Bytes
  digest : Stream

namespace Reading

variable {r t u : Reading} {n m : Nat}

/-- A file that nothing was read of. -/
def start (content : Bytes) : Reading := ⟨content, {}⟩

/-- One read: the next piece goes into the digest, or there is none. -/
def next? (size : Nat) (r : Reading) : Option Reading :=
  match r.left.take size with
  | [] => none
  | b :: piece => some ⟨r.left.drop size, r.digest.update (b :: piece)⟩

/-- The reading comes to its end after a number of pieces. -/
inductive Finishes (size : Nat) : Nat → Reading → Reading → Prop
  | done {r : Reading} (h : r.next? size = none) : Finishes size 0 r r
  | more {n : Nat} {r t u : Reading} (h : r.next? size = some t) (hrest : Finishes size n t u) :
      Finishes size (n + 1) r u

theorem next?_nil (digest : Stream) : next? size ⟨[], digest⟩ = none := by
  rw [next?, List.take_nil]

theorem next?_of_ne_nil (hsize : size ≠ 0) (hcontent : content ≠ []) (digest : Stream) :
    next? size ⟨content, digest⟩ =
      some ⟨content.drop size, digest.update (content.take size)⟩ := by
  have hpiece : content.take size ≠ [] := fun hnil ↦
    (List.take_eq_nil_iff.mp hnil).elim hsize hcontent
  unfold next?
  dsimp only
  split
  · contradiction
  · rename_i b piece htake
    rw [htake]

/-- The reading takes the pieces of the content, and nothing is left. -/
theorem finishes_pieces (hsize : size ≠ 0) (content : Bytes) (digest : Stream) :
    Finishes size (pieces size content).length ⟨content, digest⟩
      ⟨[], (pieces size content).foldl Stream.update digest⟩ := by
  induction content using pieces.induct size generalizing digest with
  | case1 content hdone =>
    obtain rfl := hdone.resolve_left hsize
    rw [pieces_nil]
    exact .done (next?_nil digest)
  | case2 content hmore ih =>
    obtain ⟨-, hcontent⟩ := not_or.mp hmore
    rw [pieces_of_ne_nil hsize hcontent]
    exact .more (next?_of_ne_nil hsize hcontent digest) (ih _)

/-- There is one end that a reading comes to. -/
theorem Finishes.unique (h : Finishes size n r t) (h' : Finishes size m r u) : n = m ∧ t = u := by
  induction h generalizing m with
  | done hnone =>
    cases h' with
    | done => exact ⟨rfl, rfl⟩
    | more hsome => cases hnone.symm.trans hsome
  | more hsome _ ih =>
    cases h' with
    | done hnone => cases hnone.symm.trans hsome
    | more hsome' hrest =>
      obtain rfl := Option.some.inj (hsome.symm.trans hsome')
      obtain ⟨rfl, rfl⟩ := ih hrest
      exact ⟨rfl, rfl⟩

end Reading

end Digest.Md5

namespace ContentKey

open Digest.Md5

/-- How content gets its digest, as a whole, in pieces and from a file. -/
structure Digested (content : Bytes) : Prop where
  /-- The digest of the whole is the fold of the blocks that it makes with its padding. -/
  whole : Digest.Md5.digest content =
    ((pieces 64 (content ++ padding content.length)).foldl Chain.absorb Chain.start).bytes
  /-- Whatever pieces it is cut into, a digest under way that takes them holds the content. -/
  holds : ∀ cut : List Bytes, cut.flatten = content →
    (cut.foldl Stream.update {}).Holds content
  /-- And it finishes with the digest of the whole. -/
  inPieces : ∀ cut : List Bytes, cut.flatten = content →
    (cut.foldl Stream.update {}).finish = Digest.Md5.digest content
  /-- The reading of a file with this content comes to an end. -/
  ends : ∃ n t, Reading.Finishes pieceSize n (.start content) t
  /-- When it does, all was read, in as few pieces as can be, and the digest is that of the
  content. -/
  reads : ∀ n t, Reading.Finishes pieceSize n (.start content) t →
    t.left = [] ∧ n = (content.length + (pieceSize - 1)) / pieceSize ∧
      t.digest.Holds content ∧ Bytes.hex t.digest.finish = ofBytes content
  /-- A file has the digest of its content. -/
  file : ofFile content = ofBytes content

theorem digested (content : Bytes) : Digested content where
  whole := digest_eq_foldl content
  holds cut hcut := by
    rw [Stream.foldl_update_start, hcut]
    exact Stream.holds_of content
  inPieces cut hcut := by
    rw [Stream.foldl_update_start, hcut, Stream.finish_of]
  ends := ⟨_, _, Reading.finishes_pieces (by decide) content {}⟩
  reads n t h := by
    obtain ⟨rfl, rfl⟩ := h.unique (Reading.finishes_pieces (by decide) content {})
    have hholds : (pieces pieceSize content).foldl Stream.update {} = Stream.of content := by
      rw [Stream.foldl_update_start, flatten_pieces (by decide)]
    refine ⟨rfl, length_pieces (by decide) content, ?_, ?_⟩
    · rw [hholds]
      exact Stream.holds_of content
    · rw [hholds, Stream.finish_of]
      rfl
  file := ofFile_eq_ofBytes content

end ContentKey

end FormCatalog
