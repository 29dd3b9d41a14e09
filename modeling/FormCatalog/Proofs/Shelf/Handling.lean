import FormCatalog.Proofs.Shelf.Footprint
import FormCatalog.Shelf.Archive

/-!
# Handling one form on the shelf

A download or a deletion handles one form. Whatever it ends in, the disk has changed in steps that
have to do with that form, every other form has the row it had, and the network keeps its condition
(`Shelf.ends_download`, `Shelf.ends_delete`). A download that fails stores nothing.
-/

set_option autoImplicit false
set_option relaxedAutoImplicit false

namespace FormCatalog

open Op Relation

variable {N : Type}

/-! ### Rows of the table -/

namespace Table

theorem row?_put_of_ne (t : Table) {row : Row} {other : String} (h : row.formId ≠ other) :
    (t.put row).row? other = t.row? other := by
  induction t with
  | nil => simp [put, row?, h]
  | cons r rest ih =>
    unfold put
    split
    · rename_i hsame
      have hr : r.formId ≠ other := by rw [hsame]; exact h
      simp [row?, h, hr]
    · split
      · simp [row?, h]
      · unfold row? at ih ⊢
        rw [List.find?_cons, List.find?_cons, ih]

theorem row?_remove_of_ne (t : Table) {formId other : String} (h : formId ≠ other) :
    (t.remove formId).row? other = t.row? other := by
  unfold row? remove
  rw [List.find?_filter]
  congr 1
  funext r
  by_cases hr : r.formId = other
  · simp [hr, h.symm]
  · simp [hr]

theorem row?_remove_self (t : Table) (formId : String) : (t.remove formId).row? formId = none := by
  unfold row? remove
  rw [List.find?_eq_none]
  intro r hr
  simpa using (List.mem_filter.mp hr).2

theorem remove_of_row?_eq_none {t : Table} {formId : String} (h : t.row? formId = none) :
    t.remove formId = t := by
  unfold remove
  rw [List.filter_eq_self]
  intro row hrow
  simpa using List.find?_eq_none.mp h row hrow

theorem row?_map {g : Row → Row} (hg : ∀ r, (g r).formId = r.formId) (t : Table)
    (formId : String) : Table.row? (t.map g) formId = (t.row? formId).map g := by
  unfold row?
  rw [List.find?_map]
  congr 2
  funext r
  rw [Function.comp_apply, hg]

theorem row?_remember (t : Table) (formId : String) (key : Option String) (other : String) :
    (t.remember formId key).row? other =
      (t.row? other).map fun r ↦ if r.formId = formId then { r with seenKey := key } else r := by
  refine row?_map (fun r ↦ ?_) t other
  split <;> rfl

theorem row?_remember_of_ne (t : Table) {formId other : String} (h : formId ≠ other)
    (key : Option String) : (t.remember formId key).row? other = t.row? other := by
  rw [row?_remember]
  cases hrow : t.row? other with
  | none => rfl
  | some r =>
    have hr : r.formId = other := by simpa using List.find?_some hrow
    rw [Option.map_some, if_neg]
    rw [hr]
    exact h.symm

theorem isSome_row?_remember (t : Table) (formId : String) (key : Option String) (other : String) :
    ((t.remember formId key).row? other).isSome = (t.row? other).isSome := by
  rw [row?_remember, Option.isSome_map]

end Table

namespace Shelf

variable {source : Source N} {forms : FormsDirectory} {fair : N → Prop} {sent : Fault → Prop}
  {s t : Site N}

/-! ### What the shelf adds to a download of files -/

/-- From where the download of the files ended, and from its outcome: the shelf ends in the same
way, changes the row of this form only, and stores no form when the download failed. -/
structure Records (x : Details) (outcome : Except Fault Downloaded) (s : Site N)
    (r : Except Fault Unit) (t : Site N) : Prop where
  disk : t.disk = s.disk
  net : t.net = s.net
  rows : ∀ other, x.formId ≠ other → t.table.row? other = s.table.row? other
  failed : ∀ e, outcome = .error e →
    (t.table.row? x.formId).isSome = (s.table.row? x.formId).isSome
  result : r = outcome.map fun _ ↦ ()

theorem ends_forget (formId : String) :
    Ends (forget formId) s fun r t ↦ r = .ok () ∧ t.disk = s.disk ∧ t.net = s.net ∧
      (t.table = s.table ∧ (∀ row, s.table.row? formId = some row → row.seenKey = none) ∨
        t.table = s.table.remember formId none) := by
  unfold forget
  rw [ends_bind, ends_get, Next]
  split
  · rename_i row hrow
    split
    · rw [ends_bind]
      exact ⟨rfl, rfl, rfl, Or.inr rfl⟩
    · rename_i hkey
      refine ⟨rfl, rfl, rfl, Or.inl ⟨rfl, fun found hfound ↦ ?_⟩⟩
      rw [hrow] at hfound
      cases hfound
      simpa using hkey
  · rename_i hmissing
    refine ⟨rfl, rfl, rfl, Or.inl ⟨rfl, fun found hfound ↦ ?_⟩⟩
    rw [hmissing] at hfound
    cases hfound

/-- What becomes of the table when a download of files has ended: the form gets its row, or its
remembered key is cleared, or, when the fault is not the one of a download, nothing happens. -/
inductive Filed (x : Details) (table : Table) : Except Fault Downloaded → Table → Prop
  | stored (downloaded : Downloaded) :
      Filed x table (.ok downloaded) (table.put (rowOf x downloaded))
  | forgotten (formId message : String) :
      Filed x table (.error (.download formId message)) (table.remember x.formId none)
  | unseen (formId message : String)
      (h : ∀ row, table.row? x.formId = some row → row.seenKey = none) :
      Filed x table (.error (.download formId message)) table
  | left {e : Fault} (h : ∀ formId message, e ≠ .download formId message) :
      Filed x table (.error e) table

section Filed

variable {x : Details} {outcome : Except Fault Downloaded} {table table' : Table}

theorem Filed.row?_of_ne (h : Filed x table outcome table') {other : String}
    (hother : x.formId ≠ other) : table'.row? other = table.row? other := by
  cases h with
  | stored downloaded => exact table.row?_put_of_ne hother
  | forgotten => exact table.row?_remember_of_ne hother none
  | unseen | left => rfl

/-- A download that failed stores no form. -/
theorem Filed.isSome_of_error {e : Fault} (h : Filed x table (.error e) table') :
    (table'.row? x.formId).isSome = (table.row? x.formId).isSome := by
  cases h with
  | forgotten => exact table.isSome_row?_remember _ none _
  | unseen | left => rfl

end Filed

/-- A download of the shelf is a download of the files, and its outcome filed in the table. -/
theorem ends_download_filed {x : Details} {post : Except Fault Downloaded → Site N → Prop}
    (h : Ends (Download.run source forms x) s post) :
    Ends (download source forms x) s fun r t ↦ ∃ outcome u, post outcome u ∧
      t.disk = u.disk ∧ t.net = u.net ∧ Filed x u.table outcome t.table ∧
        r = outcome.map fun _ ↦ () := by
  unfold download
  rw [ends_bind, ends_attempt]
  refine h.mono fun outcome u hu ↦ ?_
  rw [Next]
  split
  · rename_i downloaded
    exact ⟨.ok downloaded, u, hu, rfl, rfl, .stored downloaded, rfl⟩
  · rename_i formId message
    rw [ends_bind]
    refine (ends_forget x.formId).mono fun r t ht ↦ ?_
    obtain ⟨rfl, hdisk, hnet, htable⟩ := ht
    refine ⟨.error (.download formId message), u, hu, hdisk, hnet, ?_, rfl⟩
    rcases htable with ⟨htable, hunseen⟩ | htable
    · rw [htable]
      exact .unseen formId message hunseen
    · rw [htable]
      exact .forgotten formId message
  · rename_i fault hnot
    refine ⟨.error fault, u, hu, rfl, rfl, .left fun formId message he ↦ ?_, rfl⟩
    exact hnot formId message (by rw [he])

/-- A download of the shelf is a download of the files, and its outcome recorded. -/
theorem ends_download_of_run {x : Details} {post : Except Fault Downloaded → Site N → Prop}
    (h : Ends (Download.run source forms x) s post) :
    Ends (download source forms x) s fun r t ↦ ∃ outcome u, post outcome u ∧
      Records x outcome u r t := by
  refine (ends_download_filed h).mono ?_
  rintro r t ⟨outcome, u, hu, hdisk, hnet, hfiled, hr⟩
  refine ⟨outcome, u, hu, hdisk, hnet, fun other hother ↦ hfiled.row?_of_ne hother, ?_, hr⟩
  rintro e rfl
  exact hfiled.isSome_of_error

/-! ### What handling one form leaves of the rest -/

/-- What handling one form leaves of the rest: the disk has changed in steps that have to do with
the form, every other form has the row it had, and the network keeps its condition. -/
structure Handles (forms : FormsDirectory) (fair : N → Prop) (formId : String) (s t : Site N) :
    Prop where
  disk : forms.Changes s.disk.working formId s.disk t.disk
  rows : ∀ other, formId ≠ other → t.table.row? other = s.table.row? other
  net : fair t.net

theorem Handles.working_eq {formId : String} (h : Handles forms fair formId s t) :
    t.disk.working = s.disk.working :=
  h.disk.working_eq

theorem Records.handles {x : Details} {outcome : Except Fault Downloaded} {u : Site N}
    {r : Except Fault Unit} (h : Records x outcome u r t)
    (hu : Download.Underway forms fair x.formId s u) : Handles forms fair x.formId s t where
  disk := h.disk ▸ hu.disk
  rows := fun other hother ↦ by rw [h.rows other hother, hu.table]
  net := h.net ▸ hu.net

theorem ends_download (hsource : source.Answers fair sent) (x : Details)
    (hworking : s.disk.working.Plain) (hfair : fair s.net) :
    Ends (download source forms x) s fun _ t ↦ Handles forms fair x.formId s t := by
  refine (ends_download_of_run (Download.ends_run hsource x hworking hfair)).mono ?_
  rintro r t ⟨outcome, u, hu, hrecords⟩
  exact hrecords.handles hu

/-- A deletion takes the row of its form away, if there is one. -/
theorem ends_delete (fair : N → Prop) (formId : String) (hfair : fair s.net) :
    Ends (delete forms formId) s fun _ t ↦ Handles forms fair formId s t ∧
      t.table = s.table.remove formId := by
  unfold delete
  rw [ends_bind, ends_get, Next]
  split
  · rename_i hmissing
    exact ⟨⟨.refl, fun _ _ ↦ rfl, hfair⟩, (Table.remove_of_row?_eq_none hmissing).symm⟩
  · rw [ends_bind, Site.changeTable, ends_modify, Next]
    have hremove : Keeps (Download.Underway forms fair formId
        { s with table := s.table.remove formId }) (Download.remove forms formId) :=
      Download.keeps_remove formId
    refine (hremove _ (.refl hfair)).mono fun r t ht ↦ ?_
    refine ⟨⟨ht.disk, fun other hother ↦ ?_, ht.net⟩, ht.table⟩
    rw [ht.table]
    exact s.table.row?_remove_of_ne hother

end Shelf

/-! ### A server and a directory in memory -/

/-- What the archive answers at an address. -/
def Archive.answerAt (a : Archive) (url : String) : Except Fault Bytes :=
  match a.contents.find? (·.1 = url) with
  | some (_, answer) => answer
  | none => .error (.sync (.transport ("GET " ++ url ++ " returned 404")))

/-- The archive answers, and notes that it was asked. -/
theorem Archive.ends_source (url : String) (s : Site Archive) :
    Ends (source url) s fun r t ↦ r = s.net.answerAt url ∧
      t = { s with net := { s.net with requests := url :: s.net.requests } } := by
  unfold source behind content answerAt
  rw [ends_within, ends_bind, ends_modify, Next, ends_bind, ends_get, Next]
  dsimp only
  cases s.net.contents.find? (·.1 = url) with
  | none => exact ⟨rfl, rfl⟩
  | some found =>
    rw [ends_ofExcept]
    exact ⟨rfl, rfl⟩

namespace Shelf

/-- The directory `forms` below the working place. -/
def besideWork : FormsDirectory := ⟨Path.ofText "forms"⟩

/-- A form as a server lists it, without media files. -/
def plainDescriptor (formId url : String) : Descriptor where
  formId := formId
  contentHash := "md5:0"
  downloadUrl := url

/-- A form that the device lacks, without media files. -/
def plainForm (formId url : String) : Details where
  descriptor := plainDescriptor formId url
  notOnDevice := true
  updated := false

end Shelf

end FormCatalog
