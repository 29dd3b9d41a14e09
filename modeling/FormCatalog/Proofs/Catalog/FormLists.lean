import FormCatalog.Catalog.Payload
import FormCatalog.Proofs.Json.Grammar

/-!
# What is let through as a form list

A form list is the text of an object. Its member `forms` is an array of well-formed entries
(`Payload.Lists`), and an object without that member counts as a list without entries
(`Payload.IsFormList`). A payload is let through exactly if it is one (`wellFormed_iff`), and then
it leaves out exactly the forms that are not among its descriptors (`omits_iff`).
-/

set_option autoImplicit false
set_option relaxedAutoImplicit false

namespace FormCatalog.Payload

/-! ### Entries -/

/-- The member under a key is a text of at least one character. -/
def HasText (key : String) (item : Json) (s : String) : Prop :=
  item.get? key = some (.string s) ∧ s ≠ ""

/-- The member under a key is absent, null or a text. -/
def TextOrNull (key : String) (item : Json) : Prop :=
  ∀ v, item.get? key = some v → v = .null ∨ ∃ s, v = .string s

/-- The member under a key is absent or a text. -/
def TextIfAny (key : String) (item : Json) : Prop :=
  ∀ v, item.get? key = some v → ∃ s, v = .string s

/-- A well-formed entry of a form list, for the form with this id. -/
structure Lists (item : Json) (formId : String) : Prop where
  formId : HasText "form_id" item formId
  hash : ∃ s, HasText "hash" item s
  downloadUrl : ∃ s, HasText "download_url" item s
  version : TextOrNull "version" item
  manifestUrl : TextOrNull "manifest_url" item
  name : TextIfAny "name" item

variable {key : String} {item : Json} {s : String}

theorem requiredText?_eq_some_iff : requiredText? key item = some s ↔ HasText key item s := by
  unfold requiredText? HasText
  split
  · rename_i t ht
    rw [ht]
    by_cases hempty : t = ""
    · rw [if_pos hempty]
      constructor
      · intro h
        cases h
      · rintro ⟨h, hne⟩
        cases h
        exact absurd hempty hne
    · rw [if_neg hempty]
      constructor
      · intro h
        cases h
        exact ⟨rfl, hempty⟩
      · rintro ⟨h, -⟩
        cases h
        rfl
  · rename_i hnot
    constructor
    · intro h
      cases h
    · rintro ⟨h, -⟩
      exact absurd h (hnot s)

theorem exists_optionalText?_iff :
    (∃ t, optionalText? key item = some t) ↔ TextOrNull key item := by
  unfold optionalText? TextOrNull
  cases item.get? key with
  | none => simp
  | some v => cases v <;> simp

theorem exists_plainText?_iff : (∃ t, plainText? key item = some t) ↔ TextIfAny key item := by
  unfold plainText? TextIfAny
  cases item.get? key with
  | none => simp
  | some v => cases v <;> simp

/-- An entry is for one form. -/
theorem Lists.formId_eq {formId other : String} (h : Lists item formId) (h' : Lists item other) :
    formId = other := by
  have heq := h.formId.1.symm.trans h'.formId.1
  cases heq
  rfl

/-- An entry is accepted exactly if it is well formed, and its descriptor has the form's id. -/
theorem exists_descriptor_iff {formId : String} :
    (∃ d, descriptor item = .ok d ∧ d.formId = formId) ↔ Lists item formId := by
  constructor
  · rintro ⟨d, hd, rfl⟩
    unfold descriptor at hd
    split at hd
    · split at hd
      · rename_i hformId hversion hhash hname hdownloadUrl hmanifestUrl
        cases hd
        exact ⟨requiredText?_eq_some_iff.mp hformId, ⟨_, requiredText?_eq_some_iff.mp hhash⟩,
          ⟨_, requiredText?_eq_some_iff.mp hdownloadUrl⟩,
          exists_optionalText?_iff.mp ⟨_, hversion⟩, exists_optionalText?_iff.mp ⟨_, hmanifestUrl⟩,
          exists_plainText?_iff.mp ⟨_, hname⟩⟩
      · cases hd
    · cases hd
  · rintro ⟨hformId, ⟨_, hhash⟩, ⟨_, hdownloadUrl⟩, hversion, hmanifestUrl, hname⟩
    cases item with
    | object members =>
      obtain ⟨_, hversion⟩ := exists_optionalText?_iff.mpr hversion
      obtain ⟨_, hmanifestUrl⟩ := exists_optionalText?_iff.mpr hmanifestUrl
      obtain ⟨_, hname⟩ := exists_plainText?_iff.mpr hname
      unfold descriptor
      dsimp only
      rw [requiredText?_eq_some_iff.mpr hformId, requiredText?_eq_some_iff.mpr hhash,
        requiredText?_eq_some_iff.mpr hdownloadUrl, hversion, hmanifestUrl, hname]
      exact ⟨_, rfl, rfl⟩
    | _ => cases hformId.1

/-- Items that are accepted together are accepted one by one, in their order. -/
theorem allItems_eq_ok_iff {α : Type} {read : Json → Except Nat α} {items : List Json}
    {as : List α} : allItems read items = .ok as ↔ items.map read = as.map .ok := by
  induction items generalizing as with
  | nil => cases as <;> simp [allItems]
  | cons item rest ih =>
    unfold allItems
    cases as with
    | nil =>
      cases read item <;> cases allItems read rest <;> simp
    | cons a as =>
      rw [List.map_cons, List.map_cons, List.cons.injEq, ← ih]
      cases read item <;> cases allItems read rest <;> simp

theorem exists_allItems {α : Type} {read : Json → Except Nat α} {items : List Json}
    (h : ∀ item ∈ items, ∃ a, read item = .ok a) : ∃ as, allItems read items = .ok as := by
  induction items with
  | nil => exact ⟨[], rfl⟩
  | cons item rest ih =>
    obtain ⟨a, ha⟩ := h item List.mem_cons_self
    obtain ⟨as, has⟩ := ih fun item hitem ↦ h item (List.mem_cons_of_mem _ hitem)
    refine ⟨a :: as, ?_⟩
    unfold allItems
    rw [ha, has]

/-! ### Whole payloads -/

/-- The payload is a form list with these entries: the text of an object, and read as such. -/
inductive IsFormList (payload : Bytes) : List Json → Prop
  | listed {text : String} {members : List (String × Json)} {items : List Json}
      (hpayload : payload = Bytes.ofText text) (htext : Json.IsText text.toList (.object members))
      (hread : Json.ofBytes? payload = some (.object members))
      (hforms : Json.lastMember? "forms" members = some (.array items)) : IsFormList payload items
  | silent {text : String} {members : List (String × Json)}
      (hpayload : payload = Bytes.ofText text) (htext : Json.IsText text.toList (.object members))
      (hread : Json.ofBytes? payload = some (.object members))
      (hforms : Json.lastMember? "forms" members = none) : IsFormList payload []

/-- The payload is a form list in which every entry is well formed. -/
def WellFormed (payload : Bytes) : Prop :=
  ∃ items, IsFormList payload items ∧ ∀ item ∈ items, ∃ formId, Lists item formId

/-- The payload is a form list in which every entry is well formed and none is for this form. -/
def Omits (payload : Bytes) (formId : String) : Prop :=
  ∃ items, IsFormList payload items ∧ ∀ item ∈ items, ∃ other, Lists item other ∧ other ≠ formId

variable {payload : Bytes} {ds : List Descriptor}

theorem items_eq_of_isFormList {items : List Json} (h : IsFormList payload items) :
    Payload.items "forms" descriptor payload = allItems descriptor items := by
  unfold Payload.items
  cases h with
  | listed _ _ hread hforms =>
    rw [hread]
    dsimp only
    rw [hforms]
  | silent _ _ hread hforms =>
    rw [hread]
    dsimp only
    rw [hforms]
    rfl

theorem formList_eq_ok_iff_items :
    formList payload = .ok ds ↔ items "forms" descriptor payload = .ok ds := by
  unfold formList
  cases items "forms" descriptor payload <;> simp [Except.mapError]

/-- A payload that is let through is a form list whose entries are accepted one by one. -/
theorem isFormList_of_formList (h : formList payload = .ok ds) :
    ∃ items, IsFormList payload items ∧ items.map descriptor = ds.map .ok := by
  rw [formList_eq_ok_iff_items] at h
  unfold Payload.items at h
  split at h
  · rename_i members hread
    obtain ⟨text, hpayload, htext⟩ := Json.isReadable_of_ofBytes? hread
    split at h
    · rename_i hforms
      cases h
      exact ⟨[], .silent hpayload htext.isText hread hforms, rfl⟩
    · rename_i items hforms
      exact ⟨items, .listed hpayload htext.isText hread hforms, allItems_eq_ok_iff.mp h⟩
    · cases h
  · cases h

/-- Every entry of a payload that is let through is well formed, for the form of a descriptor. -/
theorem exists_lists_of_formList (h : formList payload = .ok ds) :
    ∃ items, IsFormList payload items ∧ ∀ item ∈ items, ∃ d ∈ ds, Lists item d.formId := by
  obtain ⟨items, hlist, hmap⟩ := isFormList_of_formList h
  refine ⟨items, hlist, fun item hitem ↦ ?_⟩
  have hmem : descriptor item ∈ ds.map .ok := hmap ▸ List.mem_map_of_mem hitem
  obtain ⟨d, hd, hdescriptor⟩ := List.mem_map.mp hmem
  exact ⟨d, hd, exists_descriptor_iff.mp ⟨d, hdescriptor.symm, rfl⟩⟩

/-- A payload is let through exactly if it is a well-formed form list. -/
theorem wellFormed_iff : WellFormed payload ↔ ∃ ds, formList payload = .ok ds := by
  constructor
  · rintro ⟨items, hlist, hall⟩
    have hread : ∀ item ∈ items, ∃ d, descriptor item = .ok d := by
      intro item hitem
      obtain ⟨formId, hlists⟩ := hall item hitem
      obtain ⟨d, hd, -⟩ := exists_descriptor_iff.mpr hlists
      exact ⟨d, hd⟩
    obtain ⟨ds, hds⟩ := exists_allItems hread
    exact ⟨ds, formList_eq_ok_iff_items.mpr ((items_eq_of_isFormList hlist).trans hds)⟩
  · rintro ⟨ds, h⟩
    obtain ⟨items, hlist, hall⟩ := exists_lists_of_formList h
    refine ⟨items, hlist, fun item hitem ↦ ?_⟩
    obtain ⟨d, -, hlists⟩ := hall item hitem
    exact ⟨d.formId, hlists⟩

/-- A payload that is let through leaves out the forms that are not among its descriptors. -/
theorem omits_iff (h : formList payload = .ok ds) {formId : String} :
    Omits payload formId ↔ formId ∉ ds.map (·.formId) := by
  constructor
  · rintro ⟨items, hlist, hall⟩ hformId
    rw [formList_eq_ok_iff_items, items_eq_of_isFormList hlist, allItems_eq_ok_iff] at h
    obtain ⟨d, hd, rfl⟩ := List.mem_map.mp hformId
    have hmem : Except.ok d ∈ items.map descriptor := h ▸ List.mem_map_of_mem hd
    obtain ⟨item, hitem, hdescriptor⟩ := List.mem_map.mp hmem
    obtain ⟨other, hlists, hne⟩ := hall item hitem
    exact hne (hlists.formId_eq (exists_descriptor_iff.mp ⟨d, hdescriptor, rfl⟩))
  · intro hformId
    obtain ⟨items, hlist, hall⟩ := exists_lists_of_formList h
    refine ⟨items, hlist, fun item hitem ↦ ?_⟩
    obtain ⟨d, hd, hlists⟩ := hall item hitem
    refine ⟨d.formId, hlists, ?_⟩
    rintro rfl
    exact hformId (List.mem_map_of_mem hd)

/-- A payload that is no well-formed form list is refused as one. -/
theorem formList_of_not_wellFormed (h : ¬ WellFormed payload) :
    ∃ faults, formList payload = .error (.formList faults) := by
  cases hread : formList payload with
  | ok ds => exact absurd (wellFormed_iff.mpr ⟨ds, hread⟩) h
  | error refusal =>
    unfold formList at hread
    cases hitems : items "forms" descriptor payload with
    | error faults =>
      rw [hitems] at hread
      cases hread
      exact ⟨faults, rfl⟩
    | ok ds =>
      rw [hitems] at hread
      cases hread

end FormCatalog.Payload
