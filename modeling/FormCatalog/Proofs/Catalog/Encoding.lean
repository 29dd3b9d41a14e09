import FormCatalog.Proofs.Catalog.Schema
import FormCatalog.Proofs.Json.RoundTrip

/-!
# Decoding undoes encoding

A list of forms has many renderings. The members of an object may come in any order and with others
among them, a field may be left out or be null where that says the same, and the text that writes
the value is any text of the grammar: with blanks, and with each character of a string written as
itself or as an escape. `Spells` is the choice of the members and `Renders` the choice of the text.

None of this matters (`decode_of_renders`). Every rendering of a list of complete forms is read as
that list, and all renderings of a list of files are read alike, complete or not. Each list has a
rendering: the one that `Json.render` makes of the plain value.
-/

set_option autoImplicit false
set_option relaxedAutoImplicit false

namespace FormCatalog

/-- A form that a list can speak of: a field that must hold a text does, and the address of the
manifest is absent or not empty. -/
structure Descriptor.Complete (d : Descriptor) : Prop where
  formId : d.formId ≠ ""
  contentHash : d.contentHash ≠ ""
  downloadUrl : d.downloadUrl ≠ ""
  manifestUrl : d.manifestUrl ≠ some ""

/-- A file that a manifest can speak of. -/
structure MediaEntry.Complete (m : MediaEntry) : Prop where
  fileName : m.fileName ≠ ""
  contentHash : m.contentHash ≠ ""
  downloadUrl : m.downloadUrl ≠ ""

namespace Payload

open Json (Under)

/-! ### Spellings -/

/-- How a field may be spelled: with one of some values under its key, or not at all if it is
`omittable`. -/
structure Spelling where
  key : String
  values : List Json
  omittable : Bool

namespace Spelling

/-- A text that has to be written. -/
def text (key s : String) : Spelling := ⟨key, [.string s], false⟩

/-- A text that may be left out when it is empty. -/
def textIfAny (key s : String) : Spelling := ⟨key, [.string s], s = ""⟩

/-- A text, or null, which may be left out. -/
def textOrNull (key : String) (s : Option String) : Spelling :=
  ⟨key, [.ofOption .string s], s.isNone⟩

/-- A text, or null or the empty text, both of which may be left out. -/
def textUnlessEmpty (key : String) : Option String → Spelling
  | some s => ⟨key, [.string s], false⟩
  | none => ⟨key, [.null, .string ""], true⟩

end Spelling

/-- Members that spell the fields one after the other. -/
inductive Given : List Spelling → List (String × Json) → Prop
  | nil : Given [] []
  | written {field : Spelling} {fields : List Spelling} {members : List (String × Json)} {v : Json}
      (hv : v ∈ field.values) (h : Given fields members) :
      Given (field :: fields) ((field.key, v) :: members)
  | omitted {field : Spelling} {fields : List Spelling} {members : List (String × Json)}
      (homittable : field.omittable = true) (h : Given fields members) :
      Given (field :: fields) members

/-- Members that spell the fields in any order, with members of other keys among them. -/
def Spells (fields : List Spelling) (members : List (String × Json)) : Prop :=
  ∃ given others, Given fields given ∧ (∀ m ∈ others, m.1 ∉ fields.map (·.key)) ∧
    members.Perm (given ++ others)

variable {fields : List Spelling} {field : Spelling} {members others : List (String × Json)}

theorem Given.mem_keys (h : Given fields members) :
    ∀ m ∈ members, m.1 ∈ fields.map (·.key) := by
  induction h with
  | nil => simp
  | written _ _ ih =>
    rintro m (_ | ⟨_, hm⟩)
    · exact List.mem_cons_self
    · exact List.mem_cons_of_mem _ (ih m hm)
  | omitted _ _ ih => exact fun m hm ↦ List.mem_cons_of_mem _ (ih m hm)

/-- The members of a key are one that spells the field, or none if it may be left out. -/
theorem Given.cases_key (h : Given fields members) (hkeys : (fields.map (·.key)).Nodup)
    (hfield : field ∈ fields) :
    (∃ v ∈ field.values, (field.key, v) ∈ members ∧ ∀ m ∈ members, m.1 = field.key → m.2 = v) ∨
      field.omittable = true ∧ ∀ m ∈ members, m.1 ≠ field.key := by
  induction h with
  | nil => cases hfield
  | @written first fields members v hv h ih =>
    obtain ⟨hfirst, hrest⟩ := List.nodup_cons.mp hkeys
    obtain rfl | hfield := List.mem_cons.mp hfield
    · refine Or.inl ⟨v, hv, List.mem_cons_self, ?_⟩
      rintro m (_ | ⟨_, hm⟩) hkey
      · rfl
      · have hmem := h.mem_keys m hm
        rw [hkey] at hmem
        exact absurd hmem hfirst
    · have hne : first.key ≠ field.key :=
        fun heq ↦ hfirst (List.mem_map.mpr ⟨field, hfield, heq.symm⟩)
      obtain ⟨w, hw, hmem, hall⟩ | ⟨homittable, hnone⟩ := ih hrest hfield
      · refine Or.inl ⟨w, hw, List.mem_cons_of_mem _ hmem, ?_⟩
        rintro m (_ | ⟨_, hm⟩) hkey
        · exact absurd hkey hne
        · exact hall m hm hkey
      · refine Or.inr ⟨homittable, ?_⟩
        rintro m (_ | ⟨_, hm⟩)
        · exact hne
        · exact hnone m hm
  | @omitted first fields members homittable h ih =>
    obtain ⟨hfirst, hrest⟩ := List.nodup_cons.mp hkeys
    obtain rfl | hfield := List.mem_cons.mp hfield
    · refine Or.inr ⟨homittable, fun m hm hkey ↦ ?_⟩
      have hmem := h.mem_keys m hm
      rw [hkey] at hmem
      exact absurd hmem hfirst
    · exact ih hrest hfield

theorem under_some_of_unique {key : String} {v : Json} (hmem : (key, v) ∈ members)
    (hall : ∀ m ∈ members, m.1 = key → m.2 = v) : Under key members (some v) := by
  have hunder := Json.under_lastMember? key members
  generalize Json.lastMember? key members = found at hunder
  cases hunder with
  | absent hnone => exact absurd rfl (hnone _ hmem)
  | last before w h =>
    have hw : w = v := hall (key, w) (List.mem_append_right _ List.mem_cons_self) rfl
    exact hw ▸ .last before w h

/-- What stands under the key of a field. -/
theorem Spells.under (h : Spells fields members) (hkeys : (fields.map (·.key)).Nodup)
    (hfield : field ∈ fields) :
    (∃ v ∈ field.values, Under field.key members (some v)) ∨
      field.omittable = true ∧ Under field.key members none := by
  obtain ⟨given, others, hgiven, hothers, hperm⟩ := h
  have hother : ∀ m ∈ others, m.1 ≠ field.key :=
    fun m hm heq ↦ hothers m hm (heq ▸ List.mem_map_of_mem hfield)
  have hsplit {m : String × Json} (hm : m ∈ members) : m ∈ given ∨ m ∈ others :=
    List.mem_append.mp (hperm.mem_iff.mp hm)
  obtain ⟨v, hv, hmem, hall⟩ | ⟨homittable, hnone⟩ := hgiven.cases_key hkeys hfield
  · refine Or.inl ⟨v, hv, under_some_of_unique ?_ fun m hm hkey ↦ ?_⟩
    · exact hperm.mem_iff.mpr (List.mem_append_left _ hmem)
    · exact (hsplit hm).elim (hall m · hkey) fun hm ↦ absurd hkey (hother m hm)
  · exact Or.inr ⟨homittable, .absent fun m hm ↦ (hsplit hm).elim (hnone m) (hother m)⟩

section Readers

variable {key : String} (h : Spells fields members) (hkeys : (fields.map (·.key)).Nodup)

include h hkeys

theorem Spells.requiredText? {s : String} (hfield : .text key s ∈ fields) :
    requiredText? key (.object members) = if s = "" then none else some s := by
  obtain ⟨v, hv, hunder⟩ | ⟨homittable, -⟩ := h.under hkeys hfield
  · cases List.mem_singleton.mp hv
    have hlast : Json.lastMember? key members = some (.string s) :=
      Json.lastMember?_eq_iff.mpr hunder
    unfold Payload.requiredText? Json.get?
    dsimp only
    rw [hlast]
  · cases homittable

theorem Spells.plainText? {s : String} (hfield : .textIfAny key s ∈ fields) :
    plainText? key (.object members) = some s := by
  obtain ⟨v, hv, hunder⟩ | ⟨homittable, hunder⟩ := h.under hkeys hfield
  · cases List.mem_singleton.mp hv
    exact plainText?_object.mpr (Or.inl hunder)
  · exact plainText?_object.mpr (Or.inr ⟨hunder, of_decide_eq_true homittable⟩)

theorem Spells.optionalText? {s : Option String} (hfield : .textOrNull key s ∈ fields) :
    optionalText? key (.object members) = some s := by
  rw [optionalText?_object]
  obtain ⟨v, hv, hunder⟩ | ⟨homittable, hunder⟩ := h.under hkeys hfield
  · cases List.mem_singleton.mp hv
    cases s with
    | none => exact Or.inr hunder
    | some s => exact hunder
  · cases s with
    | none => exact Or.inl hunder
    | some s => cases homittable

/-- The empty text and none are the same to the one who asks for a text that is not empty. -/
theorem Spells.optionalText?_unlessEmpty {s : Option String}
    (hfield : .textUnlessEmpty key s ∈ fields) :
    ∃ given, Payload.optionalText? key (.object members) = some given ∧
      given.filter (· ≠ "") = s.filter (· ≠ "") := by
  obtain ⟨v, hv, hunder⟩ | ⟨homittable, hunder⟩ := h.under hkeys hfield
  · cases s with
    | none =>
      obtain rfl | hv := List.mem_cons.mp hv
      · exact ⟨none, optionalText?_object.mpr (Or.inr hunder), rfl⟩
      · cases List.mem_singleton.mp hv
        exact ⟨some "", optionalText?_object.mpr hunder, by simp⟩
    | some s =>
      cases List.mem_singleton.mp hv
      exact ⟨some s, optionalText?_object.mpr hunder, rfl⟩
  · cases s with
    | none => exact ⟨none, optionalText?_object.mpr (Or.inl hunder), rfl⟩
    | some s => cases homittable

end Readers

/-! ### Entries -/

/-- The spellings of a form in a list. -/
def formSpellings (d : Descriptor) : List Spelling :=
  [.text "form_id" d.formId, .textOrNull "version" d.version, .text "hash" d.contentHash,
    .textIfAny "name" d.title, .text "download_url" d.downloadUrl,
    .textUnlessEmpty "manifest_url" d.manifestUrl]

/-- The spellings of a file in a manifest. -/
def fileSpellings (m : MediaEntry) : List Spelling :=
  [.text "filename" m.fileName, .text "hash" m.contentHash, .text "download_url" m.downloadUrl]

theorem nodup_formSpellings (d : Descriptor) : ((formSpellings d).map (·.key)).Nodup := by
  have hkey : (Spelling.textUnlessEmpty "manifest_url" d.manifestUrl).key = "manifest_url" := by
    cases d.manifestUrl <;> rfl
  unfold formSpellings
  rw [List.map_cons, List.map_cons, List.map_cons, List.map_cons, List.map_cons, List.map_cons,
    hkey]
  change ["form_id", "version", "hash", "name", "download_url", "manifest_url"].Nodup
  decide

theorem nodup_fileSpellings (m : MediaEntry) : ((fileSpellings m).map (·.key)).Nodup := by
  change ["filename", "hash", "download_url"].Nodup
  decide

section Entries

variable {d : Descriptor} {m : MediaEntry}

/-- Complete members say what the form says. -/
theorem describes_of_spells (h : Spells (formSpellings d) members) (hd : d.Complete) :
    Describes (.object members) d := by
  have hkeys := nodup_formSpellings d
  have hrequired {key s : String} (hfield : .text key s ∈ formSpellings d) (hs : s ≠ "") :
      HoldsText key members s := by
    rw [← requiredText?_object, h.requiredText? hkeys hfield, if_neg hs]
  have hfield : .textUnlessEmpty "manifest_url" d.manifestUrl ∈ formSpellings d := by
    simp [formSpellings]
  obtain ⟨given, hgiven, hfilter⟩ := h.optionalText?_unlessEmpty hkeys hfield
  have hmanifestUrl : d.manifestUrl.filter (· ≠ "") = d.manifestUrl := by
    have hne := hd.manifestUrl
    cases hs : d.manifestUrl with
    | none => rfl
    | some s => exact Option.filter_some_pos (by simpa [hs] using hne)
  exact .entry (hrequired (by simp [formSpellings]) hd.formId)
    (optionalText?_object.mp (h.optionalText? hkeys (by simp [formSpellings])))
    (hrequired (by simp [formSpellings]) hd.contentHash)
    (plainText?_object.mp (h.plainText? hkeys (by simp [formSpellings])))
    (hrequired (by simp [formSpellings]) hd.downloadUrl)
    (holdsTextUnlessEmpty_iff.mpr
      ⟨given, optionalText?_object.mp hgiven, hfilter.trans hmanifestUrl⟩)

theorem describesFile_of_spells (h : Spells (fileSpellings m) members) (hm : m.Complete) :
    DescribesFile (.object members) m := by
  have hkeys := nodup_fileSpellings m
  have hrequired {key s : String} (hfield : .text key s ∈ fileSpellings m) (hs : s ≠ "") :
      HoldsText key members s := by
    rw [← requiredText?_object, h.requiredText? hkeys hfield, if_neg hs]
  exact .entry (hrequired (by simp [fileSpellings]) hm.fileName)
    (hrequired (by simp [fileSpellings]) hm.contentHash)
    (hrequired (by simp [fileSpellings]) hm.downloadUrl)

/-- Two spellings of a file are read alike. -/
theorem mediaEntry_congr (h : Spells (fileSpellings m) members)
    (h' : Spells (fileSpellings m) others) :
    mediaEntry (.object members) = mediaEntry (.object others) := by
  have hkeys := nodup_fileSpellings m
  have hrequired {key s : String} (hfield : .text key s ∈ fileSpellings m) :
      requiredText? key (.object members) = requiredText? key (.object others) :=
    (h.requiredText? hkeys hfield).trans (h'.requiredText? hkeys hfield).symm
  unfold mediaEntry
  dsimp only
  rw [hrequired (s := m.fileName) (by simp [fileSpellings]),
    hrequired (s := m.contentHash) (by simp [fileSpellings]),
    hrequired (s := m.downloadUrl) (by simp [fileSpellings])]

end Entries

/-! ### Payloads -/

/-- An object whose members spell the fields. -/
def SpelledBy (fields : List Spelling) (entry : Json) : Prop :=
  ∃ members, entry = .object members ∧ Spells fields members

/-- A payload that writes an object with an array under the key. The array has an object for each
thing of a list, in order and in one of its spellings. -/
def Renders {α : Type} (key : String) (spellings : α → List Spelling) (as : List α)
    (payload : Bytes) : Prop :=
  ∃ text members entries, payload = Bytes.ofText text ∧
    Json.IsReadable text.toList (.object members) ∧
    Spells [⟨key, [.array entries], false⟩] members ∧
    List.Forall₂ (fun entry a ↦ SpelledBy (spellings a) entry) entries as

/-- The payloads that say that the server has these forms. -/
def RendersForms : List Descriptor → Bytes → Prop := Renders "forms" formSpellings

/-- The payloads that say that a form has these files. -/
def RendersFiles : List MediaEntry → Bytes → Prop := Renders "media_files" fileSpellings

section Reading

variable {α β : Type} {key : String} {spellings : α → List Spelling} {as : List α}
  {payload other : Bytes} {read : Json → Except Nat β}

/-- What is written under the key is what is read. -/
theorem Renders.items_eq (h : Renders key spellings as payload) (read : Json → Except Nat β) :
    ∃ entries, items key read payload = allItems read entries ∧
      List.Forall₂ (fun entry a ↦ SpelledBy (spellings a) entry) entries as := by
  obtain ⟨text, members, entries, hpayload, htext, hspells, hentries⟩ := h
  refine ⟨entries, ?_, hentries⟩
  have hread := Json.ofBytes?_eq_some_iff.mpr ⟨text, hpayload, htext⟩
  obtain ⟨v, hv, hunder⟩ | ⟨homittable, -⟩ := hspells.under (by simp) List.mem_cons_self
  · cases List.mem_singleton.mp hv
    exact items_of_entries hread (.listed hunder)
  · cases homittable

/-- A rendering is read as the list, if each thing of the list is what its spellings mean. -/
theorem Renders.items_eq_ok {key : String} {spellings : β → List Spelling} {bs : List β}
    {fields : List Field} {Means : Json → β → Prop} (hreads : ReadsEntry read fields Means)
    (hmeans : ∀ b ∈ bs, ∀ members, Spells (spellings b) members → Means (.object members) b)
    (h : Renders key spellings bs payload) : items key read payload = .ok bs := by
  obtain ⟨entries, hitems, hentries⟩ := h.items_eq read
  rw [hitems, hreads.allItems_eq_ok]
  clear hitems h
  induction hentries with
  | nil => exact .nil
  | @cons _ b _ _ hentry _ ih =>
    obtain ⟨members, rfl, hmembers⟩ := hentry
    exact .cons (hmeans b List.mem_cons_self members hmembers)
      (ih fun b hb ↦ hmeans b (List.mem_cons_of_mem _ hb))

variable (hread : ∀ a members others, Spells (spellings a) members → Spells (spellings a) others →
  read (.object members) = read (.object others))

include hread

theorem allItems_congr {entries entries' : List Json}
    (h : List.Forall₂ (fun entry a ↦ SpelledBy (spellings a) entry) entries as)
    (h' : List.Forall₂ (fun entry a ↦ SpelledBy (spellings a) entry) entries' as) :
    allItems read entries = allItems read entries' := by
  induction h generalizing entries' with
  | nil =>
    cases h'
    rfl
  | @cons _ a _ _ hentry _ ih =>
    cases h' with
    | cons hentry' hrest =>
      obtain ⟨members, rfl, hmembers⟩ := hentry
      obtain ⟨others, rfl, hothers⟩ := hentry'
      unfold allItems
      rw [hread a members others hmembers hothers, ih hrest]

/-- All renderings of a list are read alike if all spellings of each of its things are. -/
theorem Renders.items_congr (h : Renders key spellings as payload)
    (h' : Renders key spellings as other) : items key read payload = items key read other := by
  obtain ⟨entries, hitems, hentries⟩ := h.items_eq read
  obtain ⟨entries', hitems', hentries'⟩ := h'.items_eq read
  rw [hitems, hitems', allItems_congr hread hentries hentries']

end Reading

variable {forms : List Descriptor} {files : List MediaEntry} {payload other : Bytes}

/-- A rendering of complete forms is read as these forms, in order. -/
theorem formList_of_renders (h : RendersForms forms payload) (hforms : ∀ d ∈ forms, d.Complete) :
    formList payload = .ok forms := by
  unfold formList
  rw [Renders.items_eq_ok readsEntry_descriptor
    (fun d hd _ hspells ↦ describes_of_spells hspells (hforms d hd)) h]
  rfl

/-- A rendering of complete files is read as these files, in order. -/
theorem manifest_of_renders (h : RendersFiles files payload) (hfiles : ∀ m ∈ files, m.Complete) :
    manifest payload = .ok ⟨ContentKey.ofBytes payload, files⟩ := by
  unfold manifest
  rw [Renders.items_eq_ok readsEntry_mediaEntry
    (fun m hm _ hspells ↦ describesFile_of_spells hspells (hfiles m hm)) h]

/-- Two renderings of files have the same files, or the same refusal. -/
theorem manifest_congr (h : RendersFiles files payload) (h' : RendersFiles files other) :
    (manifest payload).map (·.files) = (manifest other).map (·.files) := by
  unfold manifest
  rw [Renders.items_congr (fun _ _ _ ↦ mediaEntry_congr) h h']
  cases items "media_files" mediaEntry other <;> rfl

/-! ### The plain rendering -/

/-- The members of a form, each written. -/
def formMembers (d : Descriptor) : List (String × Json) :=
  [("form_id", .string d.formId), ("version", .ofOption .string d.version),
    ("hash", .string d.contentHash), ("name", .string d.title),
    ("download_url", .string d.downloadUrl), ("manifest_url", .ofOption .string d.manifestUrl)]

/-- The members of a file. -/
def fileMembers (m : MediaEntry) : List (String × Json) :=
  [("filename", .string m.fileName), ("hash", .string m.contentHash),
    ("download_url", .string m.downloadUrl)]

/-- The plain text of an object with an array of objects under a key. -/
def plainText {α : Type} (key : String) (membersOf : α → List (String × Json)) (as : List α) :
    String :=
  Json.render (.object [(key, .array (as.map fun a ↦ .object (membersOf a)))])

theorem Given.spells (h : Given fields members) : Spells fields members :=
  ⟨members, [], h, by simp, by simp⟩

theorem given_formMembers (d : Descriptor) : Given (formSpellings d) (formMembers d) := by
  have hmanifestUrl : Given [.textUnlessEmpty "manifest_url" d.manifestUrl]
      [("manifest_url", .ofOption .string d.manifestUrl)] := by
    cases d.manifestUrl with
    | none => exact .written List.mem_cons_self .nil
    | some url => exact .written List.mem_cons_self .nil
  exact .written List.mem_cons_self (.written List.mem_cons_self (.written List.mem_cons_self
    (.written List.mem_cons_self (.written List.mem_cons_self hmanifestUrl))))

theorem given_fileMembers (m : MediaEntry) : Given (fileSpellings m) (fileMembers m) :=
  .written List.mem_cons_self (.written List.mem_cons_self (.written List.mem_cons_self .nil))

theorem fits_string (depth : Nat) (s : String) : Json.Fits depth (.string s) := by
  cases depth <;> trivial

theorem fits_ofOption (depth : Nat) (s : Option String) :
    Json.Fits depth (.ofOption .string s) := by
  cases s with
  | none => cases depth <;> trivial
  | some s => exact fits_string depth s

theorem fits_formMembers (depth : Nat) (d : Descriptor) :
    ∀ m ∈ formMembers d, Json.Fits depth m.2 := by
  simp [formMembers, fits_string, fits_ofOption]

theorem fits_fileMembers (depth : Nat) (m : MediaEntry) :
    ∀ member ∈ fileMembers m, Json.Fits depth member.2 := by
  simp [fileMembers, fits_string]

/-- The plain text is a rendering, if the members of each thing spell it and hold no more than
the reader takes. -/
theorem renders_plainText {α : Type} {key : String} {spellings : α → List Spelling}
    {membersOf : α → List (String × Json)} (as : List α)
    (hgiven : ∀ a, Given (spellings a) (membersOf a))
    (hfits : ∀ depth a, ∀ m ∈ membersOf a, Json.Fits depth m.2) :
    Renders key spellings as (Bytes.ofText (plainText key membersOf as)) := by
  have hentry (depth : Nat) :
      ∀ entry ∈ as.map fun a ↦ Json.object (membersOf a), Json.Fits (depth + 1) entry := by
    rintro _ hentry
    obtain ⟨a, -, rfl⟩ := List.mem_map.mp hentry
    exact hfits depth a
  have hwhole : Json.Fits (197 + 1 + 1 + 1)
      (.object [(key, .array (as.map fun a ↦ .object (membersOf a)))]) := by
    intro m hm
    obtain rfl := List.mem_singleton.mp hm
    exact hentry 197
  refine ⟨_, _, _, rfl, Json.isReadable_render hwhole,
    Given.spells (.written List.mem_cons_self .nil), ?_⟩
  rw [List.forall₂_map_left_iff, List.forall₂_same]
  exact fun a _ ↦ ⟨membersOf a, rfl, (hgiven a).spells⟩

/-! ### Decoding and encoding -/

/-- Decoding undoes encoding, whatever the spelling. -/
theorem decode_of_renders :
    (∀ forms payload, RendersForms forms payload → (∀ d ∈ forms, d.Complete) →
      formList payload = .ok forms) ∧
    (∀ files payload other, RendersFiles files payload → RendersFiles files other →
      (manifest payload).map (·.files) = (manifest other).map (·.files)) ∧
    (∀ files payload, RendersFiles files payload → (∀ m ∈ files, m.Complete) →
      manifest payload = .ok ⟨ContentKey.ofBytes payload, files⟩) ∧
    (∀ forms, RendersForms forms (Bytes.ofText (plainText "forms" formMembers forms))) ∧
    ∀ files, RendersFiles files (Bytes.ofText (plainText "media_files" fileMembers files)) :=
  ⟨fun _ _ h hforms ↦ formList_of_renders h hforms, fun _ _ _ h h' ↦ manifest_congr h h',
    fun _ _ h hfiles ↦ manifest_of_renders h hfiles,
    fun forms ↦ renders_plainText forms given_formMembers fits_formMembers,
    fun files ↦ renders_plainText files given_fileMembers fits_fileMembers⟩

/-- A list of one form, with its members backwards and others among them, escapes of all kinds and
the empty text for no address of a manifest. -/
def oddSpelling : String :=
  " \x7b\"x\":[-0.5E2 ,NaN],\t\"f\\u006Frms\" : [\x7b\"later\":\x7b\x7d, \"manifest_url\":\"\"" ++
    ", \"download_url\":\"https:\\/\\/h\", \"hash\":\"\\ud83d\\uDCDD\", " ++
    "\"form_id\":\"\\t\\u0061\"\x7d]\x7d\n"

/-- The form of this list. -/
def oddForm : Descriptor :=
  { formId := "\ta", contentHash := "📝", downloadUrl := "https://h" }

set_option maxRecDepth 2000 in
theorem rendersForms_oddSpelling : RendersForms [oddForm] (Bytes.ofText oddSpelling) := by
  have hread : Json.ofText? oddSpelling.toList = some (.object
      [("forms", .array [.object [("form_id", .string "\ta"), ("hash", .string "📝"),
          ("download_url", .string "https://h"), ("manifest_url", .string ""),
          ("later", .object [])].reverse]),
        ("x", .array [.number (.decimal ⟨true, 5, 1⟩), .number .notANumber])].reverse) := by
    rfl
  refine ⟨oddSpelling, _, _, rfl, Json.ofText?_eq_some_iff.mp hread,
    ⟨_, _, .written List.mem_cons_self .nil, ?_, List.reverse_perm _⟩,
    .cons ⟨_, rfl, _, _, .written List.mem_cons_self (.omitted rfl (.written List.mem_cons_self
      (.omitted rfl (.written List.mem_cons_self (.written ?_ .nil))))), ?_,
      List.reverse_perm _⟩ .nil⟩
  · simp
  · exact List.mem_cons_of_mem _ List.mem_cons_self
  · simp [formSpellings, Spelling.text, Spelling.textOrNull, Spelling.textIfAny,
      Spelling.textUnlessEmpty, oddForm]

theorem decode_of_renders_oddSpelling :
    (RendersForms [oddForm] (Bytes.ofText oddSpelling) ∧ oddForm.Complete) ∧
      formList (Bytes.ofText oddSpelling) = .ok [oddForm] := by
  have hcomplete : oddForm.Complete := ⟨by decide, by decide, by decide, by decide⟩
  refine ⟨⟨rendersForms_oddSpelling, hcomplete⟩,
    decode_of_renders.1 _ _ rendersForms_oddSpelling ?_⟩
  exact fun d hd ↦ List.mem_singleton.mp hd ▸ hcomplete

end Payload

end FormCatalog
