import FormCatalog.Catalog.Basic
import FormCatalog.Catalog.ContentKey
import FormCatalog.Json.Parser
import FormCatalog.Number.Decimal

/-!
What servers send: form lists and manifests as JSON.

A form list is an object whose `forms` is an array with one object for each form; a manifest is an
object whose `media_files` is an array with one object for each file. An absent array counts as
empty and unknown members are skipped. A payload with any fault is refused as a whole, and the
refusal says how many faults there are: one for a payload that is not an object with such an array,
otherwise one for each item that is not an object and for each member that is missing or of the
wrong kind.
-/

set_option autoImplicit false
set_option relaxedAutoImplicit false

namespace FormCatalog.Payload

/-- A refused payload: its kind and how many faults it has. -/
inductive Refusal where
  | formList (faults : Nat)
  | manifest (faults : Nat)
  deriving DecidableEq, Repr

/-- The text of a refusal. -/
def Refusal.message : Refusal → String
  | formList n => "Malformed form list: " ++ Number.textOfNat n ++ " error(s)"
  | manifest n => "Malformed manifest: " ++ Number.textOfNat n ++ " error(s)"

/-- A member that must be a text of at least one character. -/
def requiredText? (key : String) (item : Json) : Option String :=
  match item.get? key with
  | some (.string s) => if s = "" then none else some s
  | _ => none

/-- A member that may be absent, null or a text. -/
def optionalText? (key : String) (item : Json) : Option (Option String) :=
  match item.get? key with
  | none => some none
  | some .null => some none
  | some (.string s) => some (some s)
  | _ => none

/-- A member that may be absent, which counts as empty, or a text. -/
def plainText? (key : String) (item : Json) : Option String :=
  match item.get? key with
  | none => some ""
  | some (.string s) => some s
  | _ => none

/-- How many of some members are faulty. -/
def countFaults (faulty : List Bool) : Nat := faulty.countP id

/-- One form of a form list, or how many faults it has. -/
def descriptor (item : Json) : Except Nat Descriptor :=
  match item with
  | .object _ =>
    match requiredText? "form_id" item, optionalText? "version" item, requiredText? "hash" item,
      plainText? "name" item, requiredText? "download_url" item,
      optionalText? "manifest_url" item with
    | some formId, some version, some hash, some name, some downloadUrl, some manifestUrl =>
      .ok ⟨formId, hash, version, name, downloadUrl, manifestUrl.filter (· ≠ "")⟩
    | formId, version, hash, name, downloadUrl, manifestUrl =>
      .error (countFaults [formId.isNone, version.isNone, hash.isNone, name.isNone,
        downloadUrl.isNone, manifestUrl.isNone])
  | _ => .error 1

/-- One file of a manifest, or how many faults it has. -/
def mediaEntry (item : Json) : Except Nat MediaEntry :=
  match item with
  | .object _ =>
    match requiredText? "filename" item, requiredText? "hash" item,
      requiredText? "download_url" item with
    | some name, some hash, some url => .ok ⟨name, hash, url⟩
    | name, hash, url => .error (countFaults [name.isNone, hash.isNone, url.isNone])
  | _ => .error 1

/-- All items, or how many faults they have together. -/
def allItems {α : Type} (read : Json → Except Nat α) : List Json → Except Nat (List α)
  | [] => .ok []
  | item :: rest =>
    match read item, allItems read rest with
    | .ok a, .ok as => .ok (a :: as)
    | .ok _, .error n => .error n
    | .error m, .ok _ => .error m
    | .error m, .error n => .error (m + n)

/-- The items of the array under a key of the payload, or how many faults there are. -/
def items {α : Type} (key : String) (read : Json → Except Nat α) (payload : Bytes) :
    Except Nat (List α) :=
  match Json.ofBytes? payload with
  | some (.object members) =>
    match Json.lastMember? key members with
    | none => .ok []
    | some (.array items) => allItems read items
    | some _ => .error 1
  | _ => .error 1

/-- Reads a form list. -/
def formList (payload : Bytes) : Except Refusal (List Descriptor) :=
  (items "forms" descriptor payload).mapError .formList

/-- Reads a manifest, whose hash is the digest of the payload as received. -/
def manifest (payload : Bytes) : Except Refusal Manifest :=
  match items "media_files" mediaEntry payload with
  | .ok files => .ok ⟨ContentKey.ofBytes payload, files⟩
  | .error n => .error (.manifest n)

end FormCatalog.Payload
