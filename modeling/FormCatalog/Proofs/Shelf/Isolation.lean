import FormCatalog.Proofs.Shelf.Handling

/-!
# Forms on disk are isolated by their base names

A download or deletion of one form, however it ends, leaves another form alone: its row, its
definition and its media directory. This holds whenever the two forms have different base names
(`Shelf.isolated_of_baseName_ne`), in every state that the shelf gets into (`Shelf.Reached`). Ids
are mapped to base names with a loss, and two ids with the same base name share their files:
bringing or deleting the one replaces or takes away the definition of the other, while the row of
the other stays (`Shelf.shared_baseName_breaks_isolation`).

The path of the directory of forms may be any path, even one that leads through places below the
directory itself. It cannot lead through the places of a form that is stored: bringing the form
clears its media directory and puts a file at its definition, and the download would not have come
to its end (`Download.keepsOutOf_of_bring`).
-/

set_option autoImplicit false
set_option relaxedAutoImplicit false

namespace FormCatalog

open Op Relation

variable {N : Type}

/-! ### Names that the directory's own path keeps out of -/

namespace FormsDirectory

/-- The path of the directory of forms visits no place at or below a name in the directory. -/
def KeepsOutOf (forms : FormsDirectory) (working : Place) (name : String) : Prop :=
  ∀ n, ¬ forms.path.resolve working ++ [name] <+: (forms.path.upTo n).resolve working

/-- Nothing is at a name in the directory, at least if the directory's path can be walked. -/
def Vacated (forms : FormsDirectory) (name : String) (d : Disk) : Prop :=
  (∀ n, d.item? ((forms.path.upTo n).resolve d.working) = some .directory) →
    d.item? (forms.path.resolve d.working ++ [name]) = none

variable {forms : FormsDirectory} {working : Place} {formId name : String} {d d' : Disk}

/-- A path that led through a name where nothing is could not be walked. -/
theorem keepsOutOf_of_vacated {other : String} {place : Place} (hvacated : forms.Vacated name d)
    (hreached : d.locate (forms.path.child other) = .ok place) :
    forms.KeepsOutOf d.working name := by
  intro n hvisit
  have hdirectory :=
    Disk.directory_of_leaves hreached hvisit (Place.not_name_prefix _ name)
  have hnone := hvacated fun n ↦ Disk.directory_of_locate_child hreached n
  rw [hnone] at hdirectory
  cases hdirectory

/-- A step of a download changes nothing at a name that the download has nothing to do with. -/
theorem Change.tree_eq (h : forms.Change working formId d d') (hname : ¬ Touches formId name)
    (hout : forms.KeepsOutOf working name) :
    d'.tree (forms.path.resolve working ++ [name]) =
      d.tree (forms.path.resolve working ++ [name]) := by
  have hne {other : String} (hother : Touches formId other) : other ≠ name := by
    rintro rfl
    exact hname hother
  have hapart {other : String} (hother : Touches formId other) (p : Place)
      (hp : (forms.path.resolve working ++ [name]).isPrefixOf p = true) :
      ¬ forms.path.resolve working ++ [other] <+: p := by
    exact (Place.apart_siblings (hne hother).symm).not_both (List.isPrefixOf_iff_prefix.mp hp)
  cases h with
  | directory hway hmissing =>
    refine Disk.part_put (Bool.eq_false_iff.mpr fun hbegins ↦ ?_)
    have hinside := List.isPrefixOf_iff_prefix.mp hbegins
    rcases hway with habove | ⟨n, rfl⟩
    · exact Place.not_name_prefix _ name (hinside.trans habove)
    · exact hout n hinside
  | put hother below item =>
    refine Disk.part_put (Bool.eq_false_iff.mpr fun hbegins ↦ ?_)
    exact (Place.apart_names (hne hother)).2 (List.isPrefixOf_iff_prefix.mp hbegins)
  | clear hother => exact Disk.part_clear fun p hp ↦ hapart hother p hp
  | relocate hsource htarget =>
    exact Disk.part_relocate (fun p hp ↦ hapart hsource p hp) fun p hp ↦ hapart htarget p hp

theorem Changes.tree_eq (h : forms.Changes working formId d d') (hname : ¬ Touches formId name)
    (hout : forms.KeepsOutOf working name) :
    d'.tree (forms.path.resolve working ++ [name]) =
      d.tree (forms.path.resolve working ++ [name]) := by
  induction h with
  | refl => rfl
  | tail _ hstep ih => rw [hstep.tree_eq hname hout, ih]

end FormsDirectory

/-! ### What a download that comes to its end says of the path -/

namespace Download

variable {forms : FormsDirectory} {fair : N → Prop} {sent : Fault → Prop} {formId : String}
  {s t : Site N}

/-- A directory that was cleared is not there. -/
theorem vacated_of_clearDirectory {name : String} (hname : FormsDirectory.Touches formId name)
    (hforms : forms.path.holdsNull = false) :
    IfReturns (clearDirectory (forms.path.child name)) t fun _ u ↦ forms.Vacated name u.disk := by
  unfold clearDirectory
  refine ifReturns_ask.bind fun found u hfound ↦ ?_
  obtain ⟨hfound, rfl⟩ := hfound
  cases found with
  | true =>
    refine ifReturns_change.mono ?_
    rintro _ _ ⟨d, hcleared, rfl⟩
    have hplace : (forms.path.child name).resolve u.disk.working =
        forms.path.resolve u.disk.working ++ [name] := resolve_child_of_touches hname _
    have hroot : forms.path.resolve u.disk.working ++ [name] ≠ [] := by simp
    intro _
    dsimp only
    rw [Disk.removeTree_eq_ok hcleared, Disk.working_clear, hplace]
    exact Disk.item?_clear_self hroot
  | false =>
    refine ifReturns_pure fun hdirs ↦ ?_
    exact Disk.item?_of_not_exists hname.ne_dots (hname.holdsNull_child hforms) hfound hdirs

/-- Media files can only be put in place when the way there is not through the place itself. -/
theorem keepsOutOf_of_stage {source : Source N} (hsource : source.Answers fair sent)
    (hworking : s.disk.working.Plain) (hforms : forms.path.holdsNull = false)
    {staging media : String} (hstaging : FormsDirectory.Touches formId staging)
    (hmedia : FormsDirectory.Touches formId media) (files : List MediaEntry)
    (ht : Underway forms fair formId s t) :
    IfReturns (stage source formId files (forms.path.child staging) (forms.path.child media)) t
      fun _ _ ↦ forms.KeepsOutOf s.disk.working media := by
  have hcollect : Guards (Underway forms fair formId s) (Blames sent formId files)
      (files.forM (collect source formId (forms.path.child staging))) :=
    guards_forM fun file hfile ↦ guards_collect hsource hworking hforms hstaging hfile
  have hclear : Guards (Underway forms fair formId s) (Blames sent formId files)
      (clearDirectory (forms.path.child media)) :=
    guards_clearDirectory_of_noNull hmedia hforms
  unfold stage
  refine (hcollect.keeps t ht).ifReturns.bind fun _ u hu ↦ ?_
  refine ((hclear.keeps u hu).ifReturns.and (vacated_of_clearDirectory hmedia hforms)).bind
    fun _ v hv ↦ ?_
  obtain ⟨hunderway, hvacated⟩ := hv
  refine ifReturns_change.mono ?_
  rintro _ _ ⟨d, hmoved, rfl⟩
  rw [← hunderway.working_eq]
  exact FormsDirectory.keepsOutOf_of_vacated hvacated (Disk.moveDirectory_eq_ok hmoved).1

/-- When the media files have come, their place is empty, or the path does not lead through it. -/
theorem vacated_or_keepsOutOf_of_bringMedia {source : Source N}
    (hsource : source.Answers fair sent) (hforms : forms.path.holdsNull = false) (x : Details)
    (hworking : s.disk.working.Plain) (ht : Underway forms fair x.formId s t) :
    IfReturns (bringMedia source forms x) t fun _ u ↦
      forms.Vacated (FormsDirectory.baseName x.formId ++ "-media") u.disk ∨
        forms.KeepsOutOf s.disk.working (FormsDirectory.baseName x.formId ++ "-media") := by
  have hmedia := FormsDirectory.Touches.media x.formId
  unfold bringMedia
  dsimp only
  cases x.manifest with
  | none =>
    exact (vacated_of_clearDirectory hmedia hforms).bind fun _ u hvacated ↦
      ifReturns_pure (Or.inl hvacated)
  | some manifest =>
    refine (ends_makeStaging hforms ht).ifReturns.bind fun staging u hu ↦ ?_
    obtain ⟨hu, n, rfl⟩ := hu
    refine (ifReturns_attempt (keepsOutOf_of_stage hsource hworking hforms (.staging n) hmedia
      manifest.files hu)).bind fun outcome v hstaged ↦ ?_
    refine ifReturns_bind fun _ w ↦ ifReturns_ofExcept.bind fun a w' houtcome ↦ ?_
    exact ifReturns_pure (Or.inr (hstaged a houtcome.1))

/-- When a form has come, the path of the directory leads through none of the form's own places. -/
theorem keepsOutOf_of_bring {source : Source N} (hsource : source.Answers fair sent)
    (hforms : forms.path.holdsNull = false) (x : Details) (hworking : s.disk.working.Plain)
    (ht : Underway forms fair x.formId s t) :
    IfReturns (bring source forms x) t fun _ _ ↦
      ∀ name, FormsDirectory.Owns x.formId name → forms.KeepsOutOf s.disk.working name := by
  have hdefinition := FormsDirectory.Touches.definition x.formId
  unfold bring
  refine ((guards_source hsource _).keeps t ht).ifReturns.bind fun definition u hu ↦ ?_
  refine (((guards_bringMedia hsource hforms x hworking).keeps u hu).ifReturns.and
    (vacated_or_keepsOutOf_of_bringMedia hsource hforms x hworking hu)).bind fun media v hv ↦ ?_
  obtain ⟨hv, hmedia⟩ := hv
  refine ifReturns_change.bind fun _ w hwritten ↦ ifReturns_pure fun name hname ↦ ?_
  obtain ⟨d, hwritten, rfl⟩ := hwritten
  obtain ⟨hreached, hfile, -⟩ := Disk.writeContent_eq_ok hwritten
  cases hname with
  | definition =>
    intro n hvisit
    rw [← hv.working_eq] at hvisit
    have hdirectory := Disk.directory_of_leaves hreached hvisit (Place.not_name_prefix _ _)
    rw [FormsDirectory.formPath, resolve_child_of_touches hdefinition] at hfile
    exact hfile hdirectory
  | media =>
    rcases hmedia with hvacated | hout
    · rw [← hv.working_eq]
      exact FormsDirectory.keepsOutOf_of_vacated hvacated hreached
    · exact hout

theorem keepsOutOf_of_run {source : Source N} (hsource : source.Answers fair sent) (x : Details)
    (hworking : s.disk.working.Plain) (hfair : fair s.net) :
    IfReturns (run source forms x) s fun _ _ ↦
      ∀ name, FormsDirectory.Owns x.formId name → forms.KeepsOutOf s.disk.working name := by
  unfold IfReturns
  cases hprepared : Disk.prepare forms.path s.disk with
  | error e d =>
    rw [ends_iff_of_error (run_of_prepare_eq_error hprepared)]
    exact fun _ he ↦ by cases he
  | ok _ d =>
    have hmade := onDisk_eq_ok hprepared
    have hstart := (underway_of_prepare x.formId hfair).of_ok hmade
    unfold run
    rw [ends_bind, ends_iff_of_ok hmade]
    refine (ifReturns_attempt (keepsOutOf_of_bring hsource (Disk.probe_of_prepare hprepared).1 x
      hworking hstart)).bind fun outcome t hbrought ↦ ?_
    cases outcome with
    | error e => exact ifReturns_throw
    | ok brought => exact ifReturns_of_forall fun _ _ ↦ hbrought brought rfl

end Download

namespace Shelf

variable {source : Source N} {forms : FormsDirectory} {fair : N → Prop} {sent : Fault → Prop}
  {s t : Site N}

/-! ### Stored forms are apart from the directory's path -/

/-- No form is stored whose places the directory's own path leads through. -/
def StoredApart (forms : FormsDirectory) (s : Site N) : Prop :=
  ∀ formId, (s.table.row? formId).isSome = true →
    ∀ name, FormsDirectory.Owns formId name → forms.KeepsOutOf s.disk.working name

/-- Handling a form stores no other form. -/
theorem Handles.storedApart {formId : String} (h : Handles forms fair formId s t)
    (hapart : StoredApart forms s)
    (hself : (t.table.row? formId).isSome = true → (s.table.row? formId).isSome = true ∨
      ∀ name, FormsDirectory.Owns formId name → forms.KeepsOutOf s.disk.working name) :
    StoredApart forms t := by
  intro other hother
  rw [h.working_eq]
  by_cases hid : formId = other
  · subst hid
    rcases hself hother with hstored | hout
    · exact hapart formId hstored
    · exact hout
  · exact hapart other (by rwa [← h.rows other hid])

theorem ends_download_storedApart (hsource : source.Answers fair sent) (x : Details)
    (hworking : s.disk.working.Plain) (hfair : fair s.net) (hapart : StoredApart forms s) :
    Ends (download source forms x) s fun _ t ↦
      Handles forms fair x.formId s t ∧ StoredApart forms t := by
  refine (ends_download_of_run ((Download.ends_run hsource x hworking hfair).and
    (Download.keepsOutOf_of_run hsource x hworking hfair))).mono ?_
  rintro r t ⟨outcome, u, ⟨hu, hout⟩, hrecords⟩
  have hhandles := hrecords.handles hu
  refine ⟨hhandles, hhandles.storedApart hapart fun hstored ↦ ?_⟩
  cases outcome with
  | ok downloaded => exact Or.inr (hout downloaded rfl)
  | error e =>
    rw [hrecords.failed e rfl, hu.table] at hstored
    exact Or.inl hstored

theorem ends_delete_storedApart (fair : N → Prop) (formId : String) (hfair : fair s.net)
    (hapart : StoredApart forms s) :
    Ends (delete forms formId) s fun _ t ↦
      Handles forms fair formId s t ∧ StoredApart forms t :=
  (ends_delete fair formId hfair).mono fun _ t ht ↦
    ⟨ht.1, ht.1.storedApart hapart fun hstored ↦ by
      rw [ht.2, Table.row?_remove_self] at hstored
      cases hstored⟩

theorem ends_remember_storedApart (formId key : String) (hapart : StoredApart forms s) :
    Ends (remember formId key) s fun _ t ↦ t.disk = s.disk ∧ StoredApart forms t := by
  refine ⟨rfl, fun other hother ↦ hapart other ?_⟩
  rw [← Table.isSome_row?_remember s.table formId (some key)]
  exact hother

/-! ### The states that the shelf gets into -/

/-- The sites that a shelf gets into. It starts with an empty table and a plain working place; forms
are downloaded and deleted and keys remembered, each however it ends; and in between anything may
change from outside, but for the table and the working place. -/
inductive Reached (source : Source N) (forms : FormsDirectory) : Site N → Prop
  | start {s : Site N} (htable : s.table = []) (hworking : s.disk.working.Plain) :
      Reached source forms s
  | download {s : Site N} (h : Reached source forms s) (x : Details) :
      Reached source forms ((Shelf.download source forms x).after s)
  | delete {s : Site N} (h : Reached source forms s) (formId : String) :
      Reached source forms ((Shelf.delete forms formId).after s)
  | remember {s : Site N} (h : Reached source forms s) (formId key : String) :
      Reached source forms ((Shelf.remember formId key).after s)
  | outside {s t : Site N} (h : Reached source forms s) (htable : t.table = s.table)
      (hworking : t.disk.working = s.disk.working) : Reached source forms t

/-- In every such state the working place is plain and stored forms are apart from the path. -/
theorem Reached.apart (hsource : source.Answers (fun _ ↦ True) sent) (h : Reached source forms s) :
    s.disk.working.Plain ∧ StoredApart forms s := by
  induction h with
  | start htable hworking =>
    refine ⟨hworking, fun formId hstored ↦ ?_⟩
    rw [htable] at hstored
    cases hstored
  | download _ x ih =>
    obtain ⟨_, hhandles, hapart⟩ := (ends_download_storedApart hsource x ih.1 trivial ih.2).after
    exact ⟨by rw [hhandles.working_eq]; exact ih.1, hapart⟩
  | delete _ formId ih =>
    obtain ⟨_, hhandles, hapart⟩ :=
      (ends_delete_storedApart (fun _ ↦ True) formId trivial ih.2).after
    exact ⟨by rw [hhandles.working_eq]; exact ih.1, hapart⟩
  | remember _ formId key ih =>
    obtain ⟨_, hdisk, hapart⟩ := (ends_remember_storedApart formId key ih.2).after
    exact ⟨by rw [hdisk]; exact ih.1, hapart⟩
  | outside _ htable hworking ih =>
    refine ⟨by rw [hworking]; exact ih.1, fun formId hstored ↦ ?_⟩
    rw [hworking]
    rw [htable] at hstored
    exact ih.2 formId hstored

/-- One form is the same at two sites: its row, its definition, and its media directory with all
that is in it. -/
structure Untouched (forms : FormsDirectory) (formId : String) (s t : Site N) : Prop where
  working : t.disk.working = s.disk.working
  row : t.table.row? formId = s.table.row? formId
  definition : t.disk.tree ((forms.formPath formId).resolve t.disk.working) =
    s.disk.tree ((forms.formPath formId).resolve s.disk.working)
  media : t.disk.tree ((forms.mediaPath formId).resolve t.disk.working) =
    s.disk.tree ((forms.mediaPath formId).resolve s.disk.working)

theorem Handles.untouched {a b : String} (h : Handles forms fair a s t)
    (hapart : StoredApart forms s)
    (hbase : FormsDirectory.baseName a ≠ FormsDirectory.baseName b)
    (hstored : (s.table.row? b).isSome = true) : Untouched forms b s t := by
  have hne : a ≠ b := fun hab ↦ hbase (by rw [hab])
  have htree {name : String} (hname : FormsDirectory.Owns b name) :
      t.disk.tree ((forms.path.child name).resolve t.disk.working) =
        s.disk.tree ((forms.path.child name).resolve s.disk.working) := by
    have htouched : FormsDirectory.Touches b name := .own hname
    rw [h.working_eq, Download.resolve_child_of_touches htouched]
    exact h.disk.tree_eq (FormsDirectory.not_touches_of_owns hbase hname)
      (hapart b hstored name hname)
  exact ⟨h.working_eq, h.rows b hne, htree .definition, htree .media⟩

/-- Forms are isolated on disk by their base names. In every state that the shelf gets into, a form
that is stored stays exactly as it is (its row, its definition, its media directory) when a form
with another base name is downloaded, successfully or not, and when such a form is deleted. -/
theorem isolated_of_baseName_ne {source : Source N}
    (hsource : source.Answers (fun _ ↦ True) fun _ ↦ True) {s : Site N}
    (hs : Reached source forms s) {a b : String}
    (hbase : FormsDirectory.baseName a ≠ FormsDirectory.baseName b)
    (hstored : (s.table.row? b).isSome = true) :
    (∀ x : Details, x.formId = a →
      Untouched forms b s ((Shelf.download source forms x).after s)) ∧
    Untouched forms b s ((Shelf.delete forms a).after s) := by
  obtain ⟨hworking, hapart⟩ := hs.apart hsource
  constructor
  · rintro x rfl
    obtain ⟨_, hhandles⟩ := (ends_download hsource x hworking trivial).after
    exact hhandles.untouched hapart hbase hstored
  · obtain ⟨_, hhandles, -⟩ := (ends_delete (fun _ ↦ True) a trivial).after
    exact hhandles.untouched hapart hbase hstored

end Shelf

/-! ### Two ids with one base name -/

theorem Archive.answers_source : Archive.source.Answers (fun _ ↦ True) fun _ ↦ True := by
  intro url s _
  refine (Archive.ends_source url s).mono ?_
  rintro r _ ⟨-, rfl⟩
  exact ⟨trivial, rfl, rfl, fun _ _ ↦ trivial⟩

namespace Shelf

/-- A device with nothing on it, and a server with two definitions. -/
def blank : Site Archive where
  disk := ⟨["device"], [(["device"], .directory)]⟩
  table := []
  net := { contents := [("u", .ok [117]), ("v", .ok [118])] }
  journal := []

theorem reached_blank : Reached Archive.source besideWork blank :=
  .start rfl ⟨by decide, by decide⟩

/-- The device once the form `a/b` has come. -/
def holding : Site Archive :=
  (Shelf.download Archive.source besideWork (plainForm "a/b" "u")).after blank

/-- The device once the form `a_b` has come as well. -/
def sharing : Site Archive :=
  (Shelf.download Archive.source besideWork (plainForm "a_b" "v")).after holding

theorem reached_holding : Reached Archive.source besideWork holding :=
  reached_blank.download _

theorem reached_sharing : Reached Archive.source besideWork sharing :=
  reached_holding.download _

/-- A form with another base name comes and goes, and `a/b` stays as it is. -/
theorem isolated_of_baseName_ne_c :
    (holding.table.row? "a/b").isSome = true ∧
      Untouched besideWork "a/b" holding
        ((Shelf.download Archive.source besideWork (plainForm "c" "v")).after holding) ∧
      Untouched besideWork "a/b" holding ((Shelf.delete besideWork "c").after holding) := by
  have hstored : (holding.table.row? "a/b").isSome = true := by decide +kernel
  have hisolated := isolated_of_baseName_ne Archive.answers_source reached_holding
    (a := "c") (b := "a/b") (by decide) hstored
  exact ⟨hstored, hisolated.1 (plainForm "c" "v") rfl, hisolated.2⟩

/-- The ids `a/b` and `a_b` have one base name: when `a_b` comes it replaces the definition of
`a/b`, and when it is deleted again it takes it away, while the row of `a/b` stays. -/
theorem shared_baseName_breaks_isolation :
    (Reached Archive.source besideWork holding ∧ (holding.table.row? "a/b").isSome = true ∧
      ¬ Untouched besideWork "a/b" holding
        ((Shelf.download Archive.source besideWork (plainForm "a_b" "v")).after holding)) ∧
    Reached Archive.source besideWork sharing ∧ (sharing.table.row? "a/b").isSome = true ∧
      ¬ Untouched besideWork "a/b" sharing ((Shelf.delete besideWork "a_b").after sharing) := by
  refine ⟨⟨reached_holding, by decide +kernel, fun h ↦ ?_⟩, reached_sharing, by decide +kernel,
    fun h ↦ ?_⟩
  · exact absurd h.definition (by decide +kernel)
  · exact absurd h.definition (by decide +kernel)

end Shelf

end FormCatalog
