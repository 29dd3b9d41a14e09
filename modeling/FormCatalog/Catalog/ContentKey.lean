import FormCatalog.Digest.Md5

/-!
Names for content.

Content is compared by its MD5 digest, written in lower-case hexadecimal. Servers may put `md5:` in
front of a digest; `stripLabel` drops one such label. The key of a published form joins the digest
of its (stripped) content hash and the hash of its manifest, so that a form keeps its key exactly
while neither moves.
-/

set_option autoImplicit false
set_option relaxedAutoImplicit false

namespace FormCatalog.ContentKey

open Digest

/-- The label that servers put in front of a digest. -/
def label : List Char := ['m', 'd', '5', ':']

/-- The digest of content, in hexadecimal. -/
def ofBytes (content : Bytes) : String := Bytes.hex (Md5.digest content)

/-- The digest of the UTF-8 encoding of a text. -/
def ofText (text : String) : String := ofBytes (Bytes.ofText text)

/-- How much of a file is read at a time. -/
def pieceSize : Nat := 8192

/-- The digest of the content of a file, read piece by piece. -/
def ofFile (content : Bytes) : String := Bytes.hex (Md5.digestInPieces pieceSize content)

/-- Drops the label, if the hash has one. -/
def stripLabel (hash : String) : String :=
  if label.isPrefixOf hash.toList then String.ofList (hash.toList.drop label.length) else hash

/-- The key of a form with this content hash and manifest hash; without a manifest the second part
is empty. -/
def ofForm (contentHash : String) (manifestHash : Option String) : String :=
  ofText (stripLabel contentHash) ++ manifestHash.getD ""

end FormCatalog.ContentKey
