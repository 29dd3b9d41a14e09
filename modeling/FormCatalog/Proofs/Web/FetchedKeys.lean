import FormCatalog.Proofs.Catalog.Keys
import FormCatalog.Proofs.Catalog.Stock
import FormCatalog.Proofs.Web.Deletion

/-!
# The keys of what a server lists

A key joins a digest and a manifest hash with nothing between them. A digest has a fixed length, so
no character can go over from one part to the other; what the bare parts leave open is whether an
empty manifest hash is one or none. It is never one: a manifest that was read has the digest of its
payload for a hash (`Payload.hash_of_manifest`), and the manifests in a snapshot of what a form
server lists were all read (`Catalog.ifReturns_snapshot`). So the keys of its entries tell both
parts, and whether there is a manifest at all (`ContentKey.unambiguous`).
-/

set_option autoImplicit false
set_option relaxedAutoImplicit false

namespace FormCatalog

open Op

/-! ### Manifests that were read -/

/-- The manifest was read from a payload. -/
def Manifest.Decoded (m : Manifest) : Prop :=
  ∃ payload, Payload.manifest payload = .ok m

theorem Payload.hash_of_manifest {payload : Bytes} {m : Manifest}
    (h : Payload.manifest payload = .ok m) : m.hash = ContentKey.ofBytes payload := by
  unfold Payload.manifest at h
  cases hitems : items "media_files" mediaEntry payload with
  | error n =>
    rw [hitems] at h
    cases h
  | ok files =>
    rw [hitems] at h
    cases h
    rfl

theorem Manifest.Decoded.isDigest {m : Manifest} (h : m.Decoded) : ContentKey.IsDigest m.hash := by
  obtain ⟨payload, hpayload⟩ := h
  rw [Payload.hash_of_manifest hpayload]
  exact ContentKey.isDigest_ofBytes payload

theorem Manifest.Decoded.hash_ne_empty {m : Manifest} (h : m.Decoded) : m.hash ≠ "" := by
  intro hempty
  have hlength := h.isDigest.length
  rw [hempty] at hlength
  cases hlength

/-! ### Manifests in a snapshot -/

/-- A server that gives a manifest has read it. -/
theorem FormServer.ifReturns_manifest {N : Type} (server : FormServer N) (address : String)
    (s : Site (Web N)) : IfReturns (server.manifest address) s fun m _ ↦ m.Decoded := by
  refine ifReturns_bind fun payload t ↦ ?_
  cases hread : Payload.manifest payload with
  | error refusal => exact ifReturns_throw
  | ok m => exact ifReturns_pure ⟨payload, hread⟩

namespace Catalog

variable {σ : Type} {catalog : Catalog σ} {p : Manifest → Prop}

theorem ifReturns_manifestOf
    (hserver : ∀ url s, IfReturns (catalog.server.manifest url) s fun m _ ↦ p m)
    (d : Descriptor) (s : σ) :
    IfReturns (catalog.manifestOf d) s fun manifest _ ↦ ∀ m ∈ manifest, p m := by
  cases haddress : d.manifestAddress? with
  | none =>
    rw [manifestOf_of_no_address haddress]
    exact ifReturns_pure fun _ hm ↦ by cases hm
  | some url =>
    rw [manifestOf_of_address haddress]
    exact ((hserver url s).mono fun m _ hp m' hm ↦ by cases hm; exact hp).map

variable [Recording σ]

theorem ifReturns_annotate
    (hserver : ∀ url s, IfReturns (catalog.server.manifest url) s fun m _ ↦ p m)
    (records : List FormRecord) (remembering : Bool) (d : Descriptor) (s : σ) :
    IfReturns (catalog.annotate records remembering d) s fun x _ ↦ ∀ m ∈ x.manifest, p m :=
  (ifReturns_manifestOf hserver d s).bind fun _ _ hmanifest ↦
    ifReturns_bind fun _ _ ↦ ifReturns_pure hmanifest

/-- What holds of every manifest that the server gives holds of all manifests in a snapshot. -/
theorem ifReturns_snapshot
    (hserver : ∀ url s, IfReturns (catalog.server.manifest url) s fun m _ ↦ p m)
    (remembering : Bool) (s : σ) :
    IfReturns (catalog.snapshot remembering) s fun xs _ ↦ ∀ x ∈ xs, ∀ m ∈ x.manifest, p m :=
  ifReturns_bind fun _ _ ↦ ifReturns_bind fun records _ ↦ ifReturns_bind fun _ _ ↦
    ifReturns_mapM fun d _ s ↦ ifReturns_annotate hserver records remembering d s

end Catalog

/-- The entry is in a snapshot of what a form server lists, whatever the device is and does. -/
def Details.Fetched (x : Details) : Prop :=
  ∃ (N : Type) (server : FormServer N) (device : Device (Site (Web N))) (remembering : Bool)
    (s : Site (Web N)), Returns (Catalog.snapshot ⟨server.side, device⟩ remembering) s
      fun xs _ ↦ x ∈ xs

theorem Details.Fetched.decoded {x : Details} (h : x.Fetched) : ∀ m ∈ x.manifest, m.Decoded := by
  obtain ⟨N, server, device, remembering, s, xs, t, hsnapshot, hx⟩ := h
  exact (Catalog.ifReturns_snapshot server.ifReturns_manifest remembering s).of_ok hsnapshot x hx

/-! ### What keys tell -/

/-- Entries of snapshots share a key where they share both parts. -/
theorem Details.Fetched.key_eq_iff {x y : Details} (hx : x.Fetched) (hy : y.Fetched) :
    x.key = y.key ↔
      ContentKey.ofText (ContentKey.stripLabel x.descriptor.contentHash) =
          ContentKey.ofText (ContentKey.stripLabel y.descriptor.contentHash) ∧
        x.manifest.map (·.hash) = y.manifest.map (·.hash) :=
  Descriptor.key_eq_iff (fun m hm ↦ (hx.decoded m hm).hash_ne_empty)
    fun m hm ↦ (hy.decoded m hm).hash_ne_empty

namespace ContentKey

/-- What the keys of two forms tell of their content hashes and of their manifest hashes, if they
have manifests. -/
structure Unambiguous (content content' : String) (manifest manifest' : Option String) : Prop where
  /-- The keys are the same exactly if the content hashes have one digest and the manifest hashes
  are the same, where none counts as the empty one. -/
  eq_iff : ofForm content manifest = ofForm content' manifest' ↔
    ofText (stripLabel content) = ofText (stripLabel content') ∧
      manifest.getD "" = manifest'.getD ""
  /-- A key has a digest in front. -/
  front : IsDigest (ofText (stripLabel content))
  /-- There is no other cut of a key with a digest in front, so no character can go over from one
  part to the other. -/
  cut : ∀ digest rest, IsDigest digest → (ofForm content manifest = digest ++ rest ↔
    ofText (stripLabel content) = digest ∧ manifest.getD "" = rest)
  /-- With manifests that were read, the keys are the same exactly if the content hashes have one
  digest and the payloads have one. -/
  payloads : ∀ payload payload' m m', Payload.manifest payload = .ok m →
    Payload.manifest payload' = .ok m' →
      (ofForm content (some m.hash) = ofForm content' (some m'.hash) ↔
        ofText (stripLabel content) = ofText (stripLabel content') ∧
          ofBytes payload = ofBytes payload')
  /-- With a manifest that was read, a form never has the key of a form without one. -/
  apart : ∀ m : Manifest, m.Decoded → ofForm content (some m.hash) ≠ ofForm content' none
  /-- Entries of snapshots have the same key exactly if the content hashes have one digest and
  either both have manifests, with the same hash, or neither has one. -/
  fetched : ∀ x y : Details, x.Fetched → y.Fetched → x.descriptor.contentHash = content →
    y.descriptor.contentHash = content' →
      (x.key = y.key ↔ ofText (stripLabel content) = ofText (stripLabel content') ∧
        x.manifest.map (·.hash) = y.manifest.map (·.hash))
  /-- Where the key of one entry is remembered, the other is taken for unchanged without a look if
  the two share both parts; if not, it is compared as if nothing were remembered. -/
  compared : ∀ x y : Details, x.Fetched → y.Fetched → x.descriptor.contentHash = content →
    y.descriptor.contentHash = content' →
      ∀ (σ : Type) [Recording σ] (device : Device σ) (record : FormRecord) (remembering : Bool),
        record.seenKey = some x.key →
          device.compare y.descriptor y.manifest (some record) remembering =
            if ofText (stripLabel content) = ofText (stripLabel content') ∧
              x.manifest.map (·.hash) = y.manifest.map (·.hash)
            then pure ⟨false, false⟩
            else device.compare y.descriptor y.manifest (some { record with seenKey := none })
              remembering

/-- Keys are unambiguous. -/
theorem unambiguous (content content' : String) (manifest manifest' : Option String) :
    Unambiguous content content' manifest manifest' where
  eq_iff := ofForm_eq_iff
  front := isDigest_ofText _
  cut _ _ hdigest := ofForm_eq_append_iff hdigest
  payloads payload payload' m m' hm hm' := by
    rw [ofForm_eq_iff, Payload.hash_of_manifest hm, Payload.hash_of_manifest hm']
    rfl
  apart m hm hkey := hm.hash_ne_empty (ofForm_eq_iff.mp hkey).2
  fetched x y hx hy hcontent hcontent' := by
    rw [← hcontent, ← hcontent']
    exact hx.key_eq_iff hy
  compared x y hx hy hcontent hcontent' σ _ device record remembering hseen := by
    rw [← hcontent, ← hcontent']
    by_cases hkey : x.key = y.key
    · rw [if_pos ((hx.key_eq_iff hy).mp hkey)]
      exact Device.compare_of_seenKey_eq (hseen.trans (congrArg some hkey))
    · rw [if_neg fun hparts ↦ hkey ((hx.key_eq_iff hy).mpr hparts)]
      exact Device.compare_of_seenKey_ne fun h ↦ hkey (Option.some.inj (hseen.symm.trans h))

/-- A form list with one form, which has a manifest or has none. -/
def relisted (withManifest : Bool) : String :=
  "\x7b\"forms\": [\x7b\"form_id\": \"a\", \"hash\": \"md5:0\", \"download_url\": \"/a\"" ++
    (if withManifest then ", \"manifest_url\": \"/m\"" else "") ++ "\x7d]\x7d"

/-- The entry of the form where the server answers every request with the list. As a manifest the
list is one without files. -/
def relistedEntry (withManifest : Bool) : Details where
  descriptor :=
    { formId := "a"
      contentHash := "md5:0"
      downloadUrl := "/a"
      manifestUrl := if withManifest then some "/m" else none }
  notOnDevice := false
  updated := false
  manifest := if withManifest then some ⟨ofBytes (Bytes.ofText (relisted true)), []⟩ else none

/-- A form has another key once it has a manifest, be it one without files. With an empty manifest
hash it would keep the key. -/
theorem unambiguous_relisted :
    (relistedEntry true).Fetched ∧ (relistedEntry false).Fetched ∧
      (relistedEntry true).key ≠ (relistedEntry false).key ∧
      (relistedEntry true).descriptor.key (some ⟨"", []⟩) = (relistedEntry false).key := by
  have hwith : (relistedEntry true).Fetched :=
    ⟨Unit, FormServer.answering (relisted true), Shelf.device
      (FormServer.answering (relisted true)).download Shelf.besideWork, true, FormServer.visited,
      by decide +kernel⟩
  have hwithout : (relistedEntry false).Fetched :=
    ⟨Unit, FormServer.answering (relisted false), Shelf.device
      (FormServer.answering (relisted false)).download Shelf.besideWork, true, FormServer.visited,
      by decide +kernel⟩
  have hkeys := unambiguous "md5:0" "md5:0" (some "") none
  refine ⟨hwith, hwithout, fun hkey ↦ ?_, hkeys.eq_iff.mpr ⟨rfl, rfl⟩⟩
  obtain ⟨-, hnone⟩ := (hkeys.fetched _ _ hwith hwithout rfl rfl).mp hkey
  cases hnone

end ContentKey

end FormCatalog
