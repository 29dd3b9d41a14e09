import FormCatalog.Catalog.Comparison

/-!
# Keys and digests

A digest is always 32 digits long (`IsDigest`), so a key can be taken apart again: there is one cut
that leaves a digest in front, and what it leaves are the digest of the (stripped) content hash and
the manifest hash (`ofForm_eq_append_iff`). Stripping is done after one step for a hash that has at
most one label (`stripLabel_stripLabel`). A comparison looks at the key first: the remembered key
either ends it (`Device.compare_of_seenKey_eq`) or has no part in it (`compare_of_seenKey_ne`).
-/

set_option autoImplicit false
set_option relaxedAutoImplicit false

namespace FormCatalog

namespace Digest.Md5

theorem length_lowBytes (n v : Nat) : (lowBytes n v).length = n := by
  induction n generalizing v with
  | zero => rfl
  | succ n ih => rw [lowBytes, List.length_cons, ih]

theorem length_digest (message : Bytes) : (digest message).length = 16 := by
  unfold digest Chain.bytes
  simp [length_lowBytes]

end Digest.Md5

theorem Bytes.length_hex (bs : Bytes) : bs.hex.length = 2 * bs.length := by
  unfold hex
  rw [String.length_ofList]
  induction bs with
  | nil => rfl
  | cons b rest ih =>
    rw [List.flatMap_cons, List.length_append, ih, length_hexOfByte, List.length_cons]
    omega

/-- The digits of hexadecimal, in lower case. -/
def Bytes.hexDigits : List Char := "0123456789abcdef".toList

theorem Bytes.mem_hexDigits_of_mem_hex {bs : Bytes} {c : Char} (h : c ∈ bs.hex.toList) :
    c ∈ hexDigits := by
  unfold hex at h
  rw [String.toList_ofList, List.mem_flatMap] at h
  obtain ⟨b, -, hc⟩ := h
  have hdigit : ∀ n < 16, hexDigit n ∈ hexDigits := by decide
  have hbyte := b.toNat_lt
  simp only [hexOfByte, List.mem_cons, List.not_mem_nil, or_false] at hc
  obtain rfl | rfl := hc
  · exact hdigit _ (by omega)
  · exact hdigit _ (by omega)

namespace ContentKey

/-- A text has the form of a digest: 32 digits of lower-case hexadecimal. -/
structure IsDigest (text : String) : Prop where
  length : text.length = 32
  digits : ∀ c ∈ text.toList, c ∈ Bytes.hexDigits

theorem isDigest_ofBytes (content : Bytes) : IsDigest (ofBytes content) where
  length := by rw [ofBytes, Bytes.length_hex, Digest.Md5.length_digest]
  digits _ hc := Bytes.mem_hexDigits_of_mem_hex hc

theorem isDigest_ofText (text : String) : IsDigest (ofText text) := isDigest_ofBytes _

/-- The digest that a key begins with. -/
def digestOf (key : String) : String := String.ofList (key.toList.take 32)

theorem digestOf_append {digest : String} (h : IsDigest digest) (rest : String) :
    digestOf (digest ++ rest) = digest := by
  have hlength : digest.toList.length = 32 := by rw [String.length_toList, h.length]
  unfold digestOf
  rw [String.toList_append, List.take_append_of_le_length (Nat.le_of_eq hlength.symm),
    List.take_of_length_le (Nat.le_of_eq hlength), String.ofList_toList]

/-- The digest that the key of a form begins with is the one of its content hash. -/
theorem digestOf_ofForm (contentHash : String) (manifestHash : Option String) :
    digestOf (ofForm contentHash manifestHash) = ofText (stripLabel contentHash) :=
  digestOf_append (isDigest_ofText _) _

/-- A key is cut in one way so that a digest is in front. -/
theorem ofForm_eq_append_iff {contentHash digest rest : String} {manifestHash : Option String}
    (h : IsDigest digest) :
    ofForm contentHash manifestHash = digest ++ rest ↔
      ofText (stripLabel contentHash) = digest ∧ manifestHash.getD "" = rest := by
  constructor
  · intro hkey
    have hdigest := congrArg digestOf hkey
    rw [digestOf_ofForm, digestOf_append h] at hdigest
    unfold ofForm at hkey
    rw [hdigest, String.append_right_inj] at hkey
    exact ⟨hdigest, hkey⟩
  · rintro ⟨rfl, rfl⟩
    rfl

/-- Equal keys have equal parts; a manifest hash that is empty counts as none. -/
theorem ofForm_eq_iff {contentHash contentHash' : String}
    {manifestHash manifestHash' : Option String} :
    ofForm contentHash manifestHash = ofForm contentHash' manifestHash' ↔
      ofText (stripLabel contentHash) = ofText (stripLabel contentHash') ∧
        manifestHash.getD "" = manifestHash'.getD "" :=
  ofForm_eq_append_iff (isDigest_ofText _)

/-- Whether a hash has at most one label in front. -/
def LabelledOnce (hash : String) : Prop := label.isPrefixOf (stripLabel hash).toList = false

instance (hash : String) : Decidable (LabelledOnce hash) :=
  inferInstanceAs (Decidable (_ = false))

/-- A hash without a label is left as it is. -/
theorem stripLabel_of_unlabelled {hash : String} (h : label.isPrefixOf hash.toList = false) :
    stripLabel hash = hash := by
  rw [stripLabel, h]
  rfl

theorem labelledOnce_of_unlabelled {hash : String} (h : label.isPrefixOf hash.toList = false) :
    LabelledOnce hash := by
  unfold LabelledOnce
  rw [stripLabel_of_unlabelled h, h]

/-- A digest has no label. -/
theorem stripLabel_of_isDigest {hash : String} (h : IsDigest hash) : stripLabel hash = hash := by
  refine stripLabel_of_unlabelled (Bool.eq_false_iff.mpr fun hlabel ↦ ?_)
  have hmem : 'm' ∈ hash.toList := (List.isPrefixOf_iff_prefix.mp hlabel).subset (by decide)
  exact absurd (h.digits _ hmem) (by decide)

theorem stripLabel_ofBytes (content : Bytes) : stripLabel (ofBytes content) = ofBytes content :=
  stripLabel_of_isDigest (isDigest_ofBytes content)

theorem stripLabel_stripLabel {hash : String} (h : LabelledOnce hash) :
    stripLabel (stripLabel hash) = stripLabel hash := stripLabel_of_unlabelled h

end ContentKey

/-- Keys that come from manifests with a hash tell both the content and the manifest. -/
theorem Descriptor.key_eq_iff {d d' : Descriptor} {manifest manifest' : Option Manifest}
    (hmanifest : ∀ m ∈ manifest, m.hash ≠ "") (hmanifest' : ∀ m ∈ manifest', m.hash ≠ "") :
    d.key manifest = d'.key manifest' ↔
      ContentKey.ofText (ContentKey.stripLabel d.contentHash) =
          ContentKey.ofText (ContentKey.stripLabel d'.contentHash) ∧
        manifest.map (·.hash) = manifest'.map (·.hash) := by
  refine ContentKey.ofForm_eq_iff.trans (and_congr_right' ?_)
  cases manifest with
  | none =>
    cases manifest' with
    | none => simp
    | some m' => simpa using (hmanifest' m' rfl).symm
  | some m =>
    cases manifest' with
    | none => simpa using hmanifest m rfl
    | some m' => simp

namespace Device

variable {σ : Type} [Recording σ] {device : Device σ} {d : Descriptor} {manifest : Option Manifest}
  {record : FormRecord} {remembering : Bool}

/-- With the key of the published form remembered, nothing is compared. -/
theorem compare_of_seenKey_eq (h : record.seenKey = some (d.key manifest)) :
    device.compare d manifest (some record) remembering = pure ⟨false, false⟩ := by
  unfold compare
  dsimp only
  rw [if_pos h]

/-- With another key remembered, the form is compared as if there were none. -/
theorem compare_of_seenKey_ne (h : record.seenKey ≠ some (d.key manifest)) :
    device.compare d manifest (some record) remembering =
      device.compare d manifest (some { record with seenKey := none }) remembering := by
  have hnone : none ≠ some (d.key manifest) := nofun
  unfold compare
  dsimp only
  rw [if_neg h, if_neg hnone]
  rfl

end Device

end FormCatalog
