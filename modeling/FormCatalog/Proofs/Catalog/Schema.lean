import FormCatalog.Proofs.Catalog.FormLists
import FormCatalog.Proofs.Json.Completeness
import Mathlib.Algebra.Ring.Nat
import Mathlib.Data.List.Forall2
import Mathlib.Data.List.Induction

/-!
# The schema of a payload

What a form list and a manifest have to be, stated on the value that the payload writes. A key means
the last of the members that have it (`Json.Under`), and other members do not matter. Each entry has
a list of fields (`formFields`, `fileFields`), each of which is to hold a text of one of three kinds
(`Field.Fits`).

Both decoders accept exactly their schema (`decodesExactly`). What they answer has one item for each
entry, in order, with what its fields hold (`Describes`, `DescribesFile`). A refusal says how many
faults there are (`Faults`): one for a value of another shape, otherwise one for each entry that is
not an object and for each field of an entry that is missing or invalid. A payload that writes no
value, or none within the limits of the reader, has one fault.
-/

set_option autoImplicit false
set_option relaxedAutoImplicit false

namespace FormCatalog

/-! ### Members -/

namespace Json

/-- What an object with these members has under a key: what the last member with that key holds, or
nothing. -/
inductive Under (key : String) : List (String × Json) → Option Json → Prop
  | absent {members : List (String × Json)} (h : ∀ m ∈ members, m.1 ≠ key) : Under key members none
  | last (before : List (String × Json)) (v : Json) {after : List (String × Json)}
      (h : ∀ m ∈ after, m.1 ≠ key) : Under key (before ++ (key, v) :: after) (some v)

variable {key : String} {members : List (String × Json)} {found : Option Json}

theorem foldl_of_absent (h : ∀ m ∈ members, m.1 ≠ key) (found : Option Json) :
    members.foldl (fun found m ↦ if m.1 = key then some m.2 else found) found = found := by
  induction members with
  | nil => rfl
  | cons m rest ih =>
    rw [List.foldl_cons, if_neg (h m List.mem_cons_self)]
    exact ih fun n hn ↦ h n (List.mem_cons_of_mem _ hn)

theorem Under.append_other {m : String × Json} (hm : m.1 ≠ key) (h : Under key members found) :
    Under key (members ++ [m]) found := by
  have hlast : ∀ n ∈ [m], n.1 ≠ key := fun n hn ↦ List.mem_singleton.mp hn ▸ hm
  cases h with
  | absent h => exact .absent (List.forall_mem_append.mpr ⟨h, hlast⟩)
  | last before v h =>
    rw [List.append_assoc, List.cons_append]
    exact .last before v (List.forall_mem_append.mpr ⟨h, hlast⟩)

theorem under_lastMember? (key : String) (members : List (String × Json)) :
    Under key members (lastMember? key members) := by
  induction members using List.reverseRecOn with
  | nil => exact .absent (by simp)
  | append_singleton front m ih =>
    unfold lastMember? at ih ⊢
    rw [List.foldl_append, List.foldl_cons, List.foldl_nil]
    by_cases hm : m.1 = key
    · rw [if_pos hm, ← hm]
      exact .last front m.2 (by simp)
    · rw [if_neg hm]
      exact ih.append_other hm

theorem lastMember?_eq_iff : lastMember? key members = found ↔ Under key members found := by
  constructor
  · rintro rfl
    exact under_lastMember? key members
  · intro h
    unfold lastMember?
    cases h with
    | absent h => exact foldl_of_absent h none
    | last before v h =>
      rw [List.foldl_append, List.foldl_cons, if_pos rfl]
      exact foldl_of_absent h (some v)

theorem Under.unique {other : Option Json} (h : Under key members found)
    (h' : Under key members other) : found = other :=
  (lastMember?_eq_iff.mpr h).symm.trans (lastMember?_eq_iff.mpr h')

end Json

namespace Payload

open Json (Under)

/-! ### Fields -/

section Fields

variable (key : String) (members : List (String × Json))

/-- Under the key is this text, of at least one character. -/
def HoldsText (s : String) : Prop :=
  Under key members (some (.string s)) ∧ s ≠ ""

/-- Under the key is this text, or there is none and the key is absent or null. -/
def HoldsTextOrNull : Option String → Prop
  | some s => Under key members (some (.string s))
  | none => Under key members none ∨ Under key members (some .null)

/-- Under the key is this text, or the key is absent and the text is empty. -/
def HoldsTextIfAny (s : String) : Prop :=
  Under key members (some (.string s)) ∨ Under key members none ∧ s = ""

/-- Under the key is this text, of at least one character, or there is none and the key is absent,
null or holds the empty text. -/
def HoldsTextUnlessEmpty : Option String → Prop
  | some s => HoldsText key members s
  | none => HoldsTextOrNull key members none ∨ Under key members (some (.string ""))

end Fields

/-- What a field has to hold: a text of at least one character, a text or null if anything, or a
text if anything. -/
inductive Rule where
  | required
  | nullable
  | optional
  deriving DecidableEq, Repr

/-- A field of an entry. -/
structure Field where
  key : String
  rule : Rule
  deriving DecidableEq, Repr

/-- The fields of an entry of a form list. -/
def formFields : List Field :=
  [⟨"form_id", .required⟩, ⟨"version", .nullable⟩, ⟨"hash", .required⟩, ⟨"name", .optional⟩,
    ⟨"download_url", .required⟩, ⟨"manifest_url", .nullable⟩]

/-- The fields of an entry of a manifest. -/
def fileFields : List Field :=
  [⟨"filename", .required⟩, ⟨"hash", .required⟩, ⟨"download_url", .required⟩]

/-- An object with these members holds what the field has to hold. -/
def Field.Fits (field : Field) (members : List (String × Json)) : Prop :=
  match field.rule with
  | .required => ∃ s, HoldsText field.key members s
  | .nullable => ∃ s, HoldsTextOrNull field.key members s
  | .optional => ∃ s, HoldsTextIfAny field.key members s

variable {key : String} {members : List (String × Json)}

theorem requiredText?_object {s : String} :
    requiredText? key (.object members) = some s ↔ HoldsText key members s := by
  rw [requiredText?_eq_some_iff]
  exact and_congr_left fun _ ↦ Json.lastMember?_eq_iff

theorem optionalText?_object {s : Option String} :
    optionalText? key (.object members) = some s ↔ HoldsTextOrNull key members s := by
  unfold optionalText? HoldsTextOrNull
  simp only [← Json.lastMember?_eq_iff, Json.get?]
  cases Json.lastMember? key members with
  | none => cases s <;> simp
  | some v => cases v <;> cases s <;> simp

theorem plainText?_object {s : String} :
    plainText? key (.object members) = some s ↔ HoldsTextIfAny key members s := by
  unfold plainText? HoldsTextIfAny
  simp only [← Json.lastMember?_eq_iff, Json.get?]
  cases Json.lastMember? key members with
  | none => simp [eq_comm]
  | some v => cases v <;> simp

theorem holdsTextUnlessEmpty_iff {s : Option String} :
    HoldsTextUnlessEmpty key members s ↔
      ∃ given, HoldsTextOrNull key members given ∧ given.filter (· ≠ "") = s := by
  constructor
  · intro h
    cases s with
    | none =>
      obtain h | h := h
      · exact ⟨none, h, rfl⟩
      · exact ⟨some "", h, by simp⟩
    | some s => exact ⟨some s, h.1, by simp [h.2]⟩
  · rintro ⟨given, h, rfl⟩
    cases given with
    | none => exact .inl h
    | some t =>
      by_cases ht : t = ""
      · subst ht
        exact .inr h
      · rw [Option.filter_some_pos (by simpa using ht)]
        exact ⟨h, ht⟩

/-- A field fits exactly if its reader gives something. -/
theorem fits_required : (requiredText? key (.object members)).isSome = true ↔
    Field.Fits ⟨key, .required⟩ members := by
  rw [Option.isSome_iff_exists]
  exact exists_congr fun _ ↦ requiredText?_object

theorem fits_nullable : (optionalText? key (.object members)).isSome = true ↔
    Field.Fits ⟨key, .nullable⟩ members := by
  rw [Option.isSome_iff_exists]
  exact exists_congr fun _ ↦ optionalText?_object

theorem fits_optional : (plainText? key (.object members)).isSome = true ↔
    Field.Fits ⟨key, .optional⟩ members := by
  rw [Option.isSome_iff_exists]
  exact exists_congr fun _ ↦ plainText?_object

instance (field : Field) (members : List (String × Json)) : Decidable (field.Fits members) :=
  match field with
  | ⟨_, .required⟩ => decidable_of_iff _ fits_required
  | ⟨_, .nullable⟩ => decidable_of_iff _ fits_nullable
  | ⟨_, .optional⟩ => decidable_of_iff _ fits_optional

theorem fits_formFields_iff : (∀ field ∈ formFields, field.Fits members) ↔
    (∃ s, HoldsText "form_id" members s) ∧ (∃ s, HoldsTextOrNull "version" members s) ∧
      (∃ s, HoldsText "hash" members s) ∧ (∃ s, HoldsTextIfAny "name" members s) ∧
      (∃ s, HoldsText "download_url" members s) ∧
      ∃ s, HoldsTextOrNull "manifest_url" members s := by
  simp [formFields, Field.Fits]

theorem fits_fileFields_iff : (∀ field ∈ fileFields, field.Fits members) ↔
    (∃ s, HoldsText "filename" members s) ∧ (∃ s, HoldsText "hash" members s) ∧
      ∃ s, HoldsText "download_url" members s := by
  simp [fileFields, Field.Fits]

/-! ### Entries -/

/-- An object whose fields all hold what they have to hold. -/
def Conforms (fields : List Field) (entry : Json) : Prop :=
  ∃ members, entry = .object members ∧ ∀ field ∈ fields, field.Fits members

/-- How many faults an entry has: one if it is no object, otherwise one for each field that is
missing or invalid. -/
def faultsOf (fields : List Field) : Json → Nat
  | .object members => fields.countP fun field ↦ ¬ field.Fits members
  | _ => 1

/-- What an entry of a form list says. -/
inductive Describes : Json → Descriptor → Prop
  | entry {members : List (String × Json)} {d : Descriptor}
      (formId : HoldsText "form_id" members d.formId)
      (version : HoldsTextOrNull "version" members d.version)
      (hash : HoldsText "hash" members d.contentHash)
      (name : HoldsTextIfAny "name" members d.title)
      (downloadUrl : HoldsText "download_url" members d.downloadUrl)
      (manifestUrl : HoldsTextUnlessEmpty "manifest_url" members d.manifestUrl) :
      Describes (.object members) d

/-- What an entry of a manifest says. -/
inductive DescribesFile : Json → MediaEntry → Prop
  | entry {members : List (String × Json)} {m : MediaEntry}
      (fileName : HoldsText "filename" members m.fileName)
      (hash : HoldsText "hash" members m.contentHash)
      (downloadUrl : HoldsText "download_url" members m.downloadUrl) :
      DescribesFile (.object members) m

theorem faultsOf_of_no_object {fields : List Field} {entry : Json}
    (h : ∀ members, entry ≠ .object members) : faultsOf fields entry = 1 := by
  unfold faultsOf
  split
  · exact absurd rfl (h _)
  · rfl

theorem faultsOf_eq_zero_iff {fields : List Field} {entry : Json} :
    faultsOf fields entry = 0 ↔ Conforms fields entry := by
  cases entry with
  | object members =>
    refine List.countP_eq_zero.trans ⟨fun h ↦ ⟨members, rfl, ?_⟩, ?_⟩
    · exact fun field hfield ↦ by simpa using h field hfield
    · rintro ⟨_, heq, hall⟩ field hfield
      cases heq
      simpa using hall field hfield
  | _ =>
    constructor
    · intro h
      cases h
    · rintro ⟨_, heq, -⟩
      cases heq

theorem isNone_eq_decide {α : Type} {o : Option α} {p : Prop} [Decidable p]
    (h : o.isSome = true ↔ p) : o.isNone = decide ¬ p := by
  cases o <;> simp_all

/-- The reader of an entry gives exactly what a conforming entry says, and counts the faults of any
other. -/
structure ReadsEntry {α : Type} (read : Json → Except Nat α) (fields : List Field)
    (Means : Json → α → Prop) : Prop where
  ok_iff : ∀ {entry a}, read entry = .ok a ↔ Means entry a
  conforms_iff : ∀ {entry}, (∃ a, Means entry a) ↔ Conforms fields entry
  faults : ∀ {entry n}, read entry = .error n → n = faultsOf fields entry

variable {entry : Json} {n : Nat}

/-! ### Entries of form lists -/

theorem descriptor_eq_ok_iff {d : Descriptor} : descriptor entry = .ok d ↔ Describes entry d := by
  constructor
  · intro h
    unfold descriptor at h
    split at h
    · split at h
      · rename_i hformId hversion hhash hname hdownloadUrl hmanifestUrl
        cases h
        exact .entry (requiredText?_object.mp hformId) (optionalText?_object.mp hversion)
          (requiredText?_object.mp hhash) (plainText?_object.mp hname)
          (requiredText?_object.mp hdownloadUrl)
          (holdsTextUnlessEmpty_iff.mpr ⟨_, optionalText?_object.mp hmanifestUrl, rfl⟩)
      · cases h
    · cases h
  · rintro ⟨hformId, hversion, hhash, hname, hdownloadUrl, hmanifestUrl⟩
    obtain ⟨given, hgiven, hfilter⟩ := holdsTextUnlessEmpty_iff.mp hmanifestUrl
    unfold descriptor
    dsimp only
    rw [requiredText?_object.mpr hformId, optionalText?_object.mpr hversion,
      requiredText?_object.mpr hhash, plainText?_object.mpr hname,
      requiredText?_object.mpr hdownloadUrl, optionalText?_object.mpr hgiven]
    dsimp only
    rw [hfilter]

theorem exists_describes_iff : (∃ d, Describes entry d) ↔ Conforms formFields entry := by
  constructor
  · rintro ⟨d, hformId, hversion, hhash, hname, hdownloadUrl, hmanifestUrl⟩
    obtain ⟨given, hgiven, -⟩ := holdsTextUnlessEmpty_iff.mp hmanifestUrl
    exact ⟨_, rfl, fits_formFields_iff.mpr ⟨⟨_, hformId⟩, ⟨_, hversion⟩, ⟨_, hhash⟩, ⟨_, hname⟩,
      ⟨_, hdownloadUrl⟩, ⟨_, hgiven⟩⟩⟩
  · rintro ⟨members, rfl, hall⟩
    obtain ⟨⟨formId, hformId⟩, ⟨version, hversion⟩, ⟨hash, hhash⟩, ⟨name, hname⟩,
      ⟨downloadUrl, hdownloadUrl⟩, given, hgiven⟩ := fits_formFields_iff.mp hall
    exact ⟨⟨formId, hash, version, name, downloadUrl, given.filter (· ≠ "")⟩, .entry hformId
      hversion hhash hname hdownloadUrl (holdsTextUnlessEmpty_iff.mpr ⟨given, hgiven, rfl⟩)⟩

theorem faults_of_descriptor (h : descriptor entry = .error n) :
    n = faultsOf formFields entry := by
  unfold descriptor at h
  split at h
  · split at h
    · cases h
    · cases h
      rw [isNone_eq_decide fits_required, isNone_eq_decide fits_nullable,
        isNone_eq_decide fits_required, isNone_eq_decide fits_optional,
        isNone_eq_decide fits_required, isNone_eq_decide fits_nullable]
      rfl
  · rename_i hobject
    cases h
    exact (faultsOf_of_no_object hobject).symm

theorem readsEntry_descriptor : ReadsEntry descriptor formFields Describes :=
  ⟨descriptor_eq_ok_iff, exists_describes_iff, faults_of_descriptor⟩

/-! ### Entries of manifests -/

theorem mediaEntry_eq_ok_iff {m : MediaEntry} :
    mediaEntry entry = .ok m ↔ DescribesFile entry m := by
  constructor
  · intro h
    unfold mediaEntry at h
    split at h
    · split at h
      · rename_i hname hhash hurl
        cases h
        exact .entry (requiredText?_object.mp hname) (requiredText?_object.mp hhash)
          (requiredText?_object.mp hurl)
      · cases h
    · cases h
  · rintro ⟨hname, hhash, hurl⟩
    unfold mediaEntry
    dsimp only
    rw [requiredText?_object.mpr hname, requiredText?_object.mpr hhash,
      requiredText?_object.mpr hurl]

theorem exists_describesFile_iff : (∃ m, DescribesFile entry m) ↔ Conforms fileFields entry := by
  constructor
  · rintro ⟨m, hname, hhash, hurl⟩
    exact ⟨_, rfl, fits_fileFields_iff.mpr ⟨⟨_, hname⟩, ⟨_, hhash⟩, ⟨_, hurl⟩⟩⟩
  · rintro ⟨members, rfl, hall⟩
    obtain ⟨⟨name, hname⟩, ⟨hash, hhash⟩, url, hurl⟩ := fits_fileFields_iff.mp hall
    exact ⟨⟨name, hash, url⟩, .entry hname hhash hurl⟩

theorem faults_of_mediaEntry (h : mediaEntry entry = .error n) :
    n = faultsOf fileFields entry := by
  unfold mediaEntry at h
  split at h
  · split at h
    · cases h
    · cases h
      rw [isNone_eq_decide fits_required, isNone_eq_decide fits_required,
        isNone_eq_decide fits_required]
      rfl
  · rename_i hobject
    cases h
    exact (faultsOf_of_no_object hobject).symm

theorem readsEntry_mediaEntry : ReadsEntry mediaEntry fileFields DescribesFile :=
  ⟨mediaEntry_eq_ok_iff, exists_describesFile_iff, faults_of_mediaEntry⟩

/-! ### Payloads -/

/-- The entries of a value: those of the array under the key, or none when the key is absent. Any
other value has no entries to speak of, not even an empty list of them. -/
inductive Entries (key : String) : Json → List Json → Prop
  | listed {members : List (String × Json)} {entries : List Json}
      (h : Under key members (some (.array entries))) : Entries key (.object members) entries
  | silent {members : List (String × Json)} (h : Under key members none) :
      Entries key (.object members) []

/-- How many faults a value has. -/
inductive Faults (key : String) (fields : List Field) (v : Json) : Nat → Prop
  | shape (h : ¬ ∃ entries, Entries key v entries) : Faults key fields v 1
  | entries {entries : List Json} (h : Entries key v entries) :
      Faults key fields v (entries.map (faultsOf fields)).sum

theorem Entries.unique {key : String} {v : Json} {entries others : List Json}
    (h : Entries key v entries) (h' : Entries key v others) : entries = others := by
  cases h with
  | listed h =>
    cases h' with
    | listed h' =>
      cases h.unique h'
      rfl
    | silent h' => cases h.unique h'
  | silent h =>
    cases h' with
    | listed h' => cases h.unique h'
    | silent => rfl

theorem Faults.unique {key : String} {fields : List Field} {v : Json} {m n : Nat}
    (h : Faults key fields v m) (h' : Faults key fields v n) : m = n := by
  cases h with
  | shape hshape =>
    cases h' with
    | shape => rfl
    | entries h' => exact absurd ⟨_, h'⟩ hshape
  | entries h =>
    cases h' with
    | shape hshape => exact absurd ⟨_, h⟩ hshape
    | entries h' => rw [h.unique h']

/-- What a decoder answers to a payload that writes the value: it accepts exactly the values whose
entries all conform, its answer means what they say, and otherwise it counts the faults. -/
structure AcceptsExactly {α : Type} (answer : Except Refusal α) (refuse : Nat → Refusal)
    (key : String) (fields : List Field) (Means : List Json → α → Prop) (v : Json) : Prop where
  accepted_iff : (∃ a, answer = .ok a) ↔
    ∃ entries, Entries key v entries ∧ ∀ entry ∈ entries, Conforms fields entry
  accepted : ∀ a, answer = .ok a → ∃ entries, Entries key v entries ∧ Means entries a
  refused : ∀ refusal, answer = .error refusal →
    ∃ n, (∀ m, Faults key fields v m ↔ m = n) ∧ refusal = refuse n
  /-- One bad entry rejects the whole payload. -/
  rejected : ∀ entries, Entries key v entries → ∀ entry ∈ entries, ¬ Conforms fields entry →
    ∃ n, 0 < n ∧ answer = .error (refuse n)

section Decoding

variable {α : Type} {read : Json → Except Nat α} {fields : List Field} {Means : Json → α → Prop}
  {entries : List Json} {v : Json} {payload : Bytes}

theorem ReadsEntry.allItems_eq_ok (h : ReadsEntry read fields Means) {as : List α} :
    allItems read entries = .ok as ↔ List.Forall₂ Means entries as := by
  rw [allItems_eq_ok_iff]
  induction entries generalizing as with
  | nil => cases as <;> simp
  | cons entry rest ih => cases as <;> simp [ih, h.ok_iff]

theorem ReadsEntry.exists_allItems_iff (h : ReadsEntry read fields Means) :
    (∃ as, allItems read entries = .ok as) ↔ ∀ entry ∈ entries, Conforms fields entry := by
  constructor
  · rintro ⟨as, has⟩ entry hentry
    have hmem : read entry ∈ as.map .ok := allItems_eq_ok_iff.mp has ▸ List.mem_map_of_mem hentry
    obtain ⟨a, -, ha⟩ := List.mem_map.mp hmem
    exact h.conforms_iff.mp ⟨a, h.ok_iff.mp ha.symm⟩
  · intro hall
    refine exists_allItems fun entry hentry ↦ ?_
    obtain ⟨a, ha⟩ := h.conforms_iff.mpr (hall entry hentry)
    exact ⟨a, h.ok_iff.mpr ha⟩

/-- How many faults a reader found. -/
def faultCount : Except Nat α → Nat
  | .ok _ => 0
  | .error n => n

/-- The faults of all items are added up. -/
theorem faultCount_allItems :
    faultCount (allItems read entries) = (entries.map fun entry ↦ faultCount (read entry)).sum := by
  induction entries with
  | nil => rfl
  | cons entry rest ih =>
    rw [List.map_cons, List.sum_cons, ← ih, allItems]
    cases read entry <;> cases allItems read rest <;> simp [faultCount]

theorem ReadsEntry.faultCount_eq (h : ReadsEntry read fields Means) (entry : Json) :
    faultCount (read entry) = faultsOf fields entry := by
  cases hread : read entry with
  | ok a =>
    have hconforms := h.conforms_iff.mp ⟨a, h.ok_iff.mp hread⟩
    exact (faultsOf_eq_zero_iff.mpr hconforms).symm
  | error n => exact h.faults hread

theorem ReadsEntry.faults_allItems (h : ReadsEntry read fields Means) {n : Nat}
    (hn : allItems read entries = .error n) : n = (entries.map (faultsOf fields)).sum := by
  have hcount : faultCount (allItems read entries) = _ := faultCount_allItems
  rw [hn, List.map_congr_left fun entry _ ↦ h.faultCount_eq entry] at hcount
  exact hcount

theorem items_of_entries {key : String} (hread : Json.ofBytes? payload = some v)
    (h : Entries key v entries) : items key read payload = allItems read entries := by
  unfold items
  rw [hread]
  cases h with
  | listed h =>
    dsimp only
    rw [Json.lastMember?_eq_iff.mpr h]
  | silent h =>
    dsimp only
    rw [Json.lastMember?_eq_iff.mpr h]
    rfl

theorem items_of_no_entries {key : String} (hread : Json.ofBytes? payload = some v)
    (h : ¬ ∃ entries, Entries key v entries) : items key read payload = .error 1 := by
  unfold items
  rw [hread]
  split
  · rename_i members heq
    cases heq
    split
    · rename_i hnone
      exact absurd ⟨[], .silent (Json.lastMember?_eq_iff.mp hnone)⟩ h
    · rename_i entries hsome
      exact absurd ⟨entries, .listed (Json.lastMember?_eq_iff.mp hsome)⟩ h
    · rfl
  · rfl

variable {key : String} {β : Type} {make : List α → β} {refuse : Nat → Refusal}

theorem answer_eq_ok_iff {outcome : Except Nat (List α)} {b : β} :
    (outcome.map make).mapError refuse = .ok b ↔ ∃ as, outcome = .ok as ∧ make as = b := by
  cases outcome <;> simp [Except.map, Except.mapError]

theorem answer_eq_error_iff {outcome : Except Nat (List α)} {refusal : Refusal} :
    (outcome.map make).mapError refuse = .error refusal ↔
      ∃ n, outcome = .error n ∧ refuse n = refusal := by
  cases outcome <;> simp [Except.map, Except.mapError]

theorem exists_entries_of_items {as : List α} (hread : Json.ofBytes? payload = some v)
    (h : items key read payload = .ok as) :
    ∃ entries, Entries key v entries ∧ allItems read entries = .ok as := by
  by_cases hshape : ∃ entries, Entries key v entries
  · obtain ⟨entries, hentries⟩ := hshape
    exact ⟨entries, hentries, items_of_entries hread hentries ▸ h⟩
  · rw [items_of_no_entries hread hshape] at h
    cases h

theorem ReadsEntry.faults_items (h : ReadsEntry read fields Means) {n : Nat}
    (hread : Json.ofBytes? payload = some v) (hn : items key read payload = .error n) :
    Faults key fields v n := by
  by_cases hshape : ∃ entries, Entries key v entries
  · obtain ⟨entries, hentries⟩ := hshape
    rw [items_of_entries hread hentries] at hn
    rw [h.faults_allItems hn]
    exact .entries hentries
  · rw [items_of_no_entries hread hshape] at hn
    cases hn
    exact .shape hshape

/-- An entry that does not conform has a fault, and so the payload has one. -/
theorem ReadsEntry.exists_fault (h : ReadsEntry read fields Means) {entry : Json}
    (hentry : entry ∈ entries) (hbad : ¬ Conforms fields entry) :
    ∃ n, 0 < n ∧ allItems read entries = .error n := by
  cases hall : allItems read entries with
  | ok as => exact absurd (h.exists_allItems_iff.mp ⟨as, hall⟩ entry hentry) hbad
  | error n =>
    refine ⟨n, Nat.pos_of_ne_zero ?_, rfl⟩
    rintro rfl
    have hzero := List.sum_eq_zero_iff_forall_eq_nat.mp (h.faults_allItems hall).symm
    exact hbad (faultsOf_eq_zero_iff.mp (hzero _ (List.mem_map_of_mem hentry)))

/-- A decoder that reads each entry and makes its answer of what they mean accepts exactly its
schema. -/
theorem ReadsEntry.acceptsExactly (h : ReadsEntry read fields Means)
    (hread : Json.ofBytes? payload = some v) {Result : List Json → β → Prop}
    (hmake : ∀ entries as, List.Forall₂ Means entries as → Result entries (make as)) :
    AcceptsExactly (((items key read payload).map make).mapError refuse) refuse key fields
      Result v where
  accepted_iff := by
    constructor
    · rintro ⟨_, hb⟩
      obtain ⟨as, has, -⟩ := answer_eq_ok_iff.mp hb
      obtain ⟨entries, hentries, hall⟩ := exists_entries_of_items hread has
      exact ⟨entries, hentries, h.exists_allItems_iff.mp ⟨as, hall⟩⟩
    · rintro ⟨entries, hentries, hall⟩
      obtain ⟨as, has⟩ := h.exists_allItems_iff.mpr hall
      rw [items_of_entries hread hentries, has]
      exact ⟨make as, rfl⟩
  accepted b hb := by
    obtain ⟨as, has, rfl⟩ := answer_eq_ok_iff.mp hb
    obtain ⟨entries, hentries, hall⟩ := exists_entries_of_items hread has
    exact ⟨entries, hentries, hmake entries as (h.allItems_eq_ok.mp hall)⟩
  refused refusal hrefusal := by
    obtain ⟨n, hn, rfl⟩ := answer_eq_error_iff.mp hrefusal
    have hfaults := h.faults_items hread hn
    exact ⟨n, fun m ↦ ⟨fun hm ↦ hm.unique hfaults, fun heq ↦ heq ▸ hfaults⟩, rfl⟩
  rejected entries hentries entry hentry hbad := by
    obtain ⟨n, hpos, hn⟩ := h.exists_fault hentry hbad
    rw [items_of_entries hread hentries, hn]
    exact ⟨n, hpos, rfl⟩

end Decoding

/-- What the two decoders do with a payload. -/
structure DecodesExactly (payload : Bytes) : Prop where
  forms : ∀ text v, payload = Bytes.ofText text → Json.IsReadable text.toList v →
    AcceptsExactly (formList payload) .formList "forms" formFields (List.Forall₂ Describes) v
  media : ∀ text v, payload = Bytes.ofText text → Json.IsReadable text.toList v →
    AcceptsExactly (manifest payload) .manifest "media_files" fileFields
      (fun entries m ↦ m.hash = ContentKey.ofBytes payload ∧
        List.Forall₂ DescribesFile entries m.files) v
  /-- A payload that writes no value within the limits has one fault. -/
  unreadable : (¬ ∃ text v, payload = Bytes.ofText text ∧ Json.IsReadable text.toList v) →
    formList payload = .error (.formList 1) ∧ manifest payload = .error (.manifest 1)

theorem formList_eq (payload : Bytes) : formList payload =
    ((items "forms" descriptor payload).map id).mapError .formList := by
  unfold formList
  cases items "forms" descriptor payload <;> rfl

theorem manifest_eq (payload : Bytes) : manifest payload =
    ((items "media_files" mediaEntry payload).map fun files ↦
      Manifest.mk (ContentKey.ofBytes payload) files).mapError .manifest := by
  unfold manifest
  cases items "media_files" mediaEntry payload <;> rfl

theorem items_of_unreadable {α : Type} {key : String} {read : Json → Except Nat α}
    {payload : Bytes}
    (h : ¬ ∃ text v, payload = Bytes.ofText text ∧ Json.IsReadable text.toList v) :
    items key read payload = .error 1 := by
  have hnone : Json.ofBytes? payload = none := by
    refine Option.eq_none_iff_forall_ne_some.mpr fun v hv ↦ h ?_
    obtain ⟨text, hpayload, htext⟩ := Json.ofBytes?_eq_some_iff.mp hv
    exact ⟨text, v, hpayload, htext⟩
  unfold items
  rw [hnone]

/-- The decoders accept exactly their schema, whatever payload comes. -/
theorem decodesExactly (payload : Bytes) : DecodesExactly payload where
  forms text v hpayload htext := by
    rw [formList_eq]
    exact readsEntry_descriptor.acceptsExactly
      (Json.ofBytes?_eq_some_iff.mpr ⟨text, hpayload, htext⟩) fun _ _ hall ↦ hall
  media text v hpayload htext := by
    rw [manifest_eq]
    exact readsEntry_mediaEntry.acceptsExactly
      (Json.ofBytes?_eq_some_iff.mpr ⟨text, hpayload, htext⟩) fun _ _ hall ↦ ⟨rfl, hall⟩
  unreadable h := by
    rw [formList_eq, manifest_eq, items_of_unreadable h, items_of_unreadable h]
    exact ⟨rfl, rfl⟩

/-- A list of one form. The id is repeated, the address of the manifest is empty, and there is a
member that no field is about. -/
def repeatedId : String :=
  "\x7b\"forms\": [\x7b\"form_id\": 1, \"form_id\": \"b\", \"hash\": \"h\", " ++
    "\"download_url\": \"u\", \"manifest_url\": \"\", \"x\": [NaN]\x7d]\x7d"

/-- A list with two faults in its first entry, one in the second, which is no object, and three in
the third. -/
def sixFaults : String :=
  "\x7b\"forms\": [\x7b\"form_id\": \"\", \"hash\": \"h\"\x7d, 7, " ++
    "\x7b\"form_id\": \"a\", \"hash\": 1, \"download_url\": \"u\", \"version\": [], " ++
    "\"name\": null\x7d]\x7d"

/-- The last id counts and the empty address is none. In the other list all faults are counted. -/
theorem decodesExactly_repeatedId :
    (∃ text v, Bytes.ofText repeatedId = Bytes.ofText text ∧ Json.IsReadable text.toList v ∧
      AcceptsExactly (formList (Bytes.ofText repeatedId)) .formList "forms" formFields
        (List.Forall₂ Describes) v) ∧
      formList (Bytes.ofText repeatedId) =
        .ok [ { formId := "b", contentHash := "h", downloadUrl := "u" } ] ∧
      formList (Bytes.ofText sixFaults) = .error (.formList 6) := by
  have hok : formList (Bytes.ofText repeatedId) =
      .ok [ { formId := "b", contentHash := "h", downloadUrl := "u" } ] := by decide +kernel
  obtain ⟨text, v, hpayload, htext⟩ : ∃ text v, Bytes.ofText repeatedId = Bytes.ofText text ∧
      Json.IsReadable text.toList v := by
    by_contra hnone
    have hbad := ((decodesExactly _).unreadable hnone).1
    rw [hok] at hbad
    cases hbad
  exact ⟨⟨text, v, hpayload, htext, (decodesExactly _).forms text v hpayload htext⟩, hok,
    by decide +kernel⟩

end Payload

end FormCatalog
