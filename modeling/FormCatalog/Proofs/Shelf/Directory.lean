import FormCatalog.Proofs.Disk.Sound
import FormCatalog.Proofs.Disk.Written
import FormCatalog.Proofs.Shelf.Containment
import FormCatalog.Proofs.Shelf.Isolation

/-!
# Working in a directory that is there

Where the path of the directory of forms leads to a directory, and keeps out of what is in it
(`FormsDirectory.Ready`), an operation on a name in the directory can only fail for two reasons: the
name is too long, or something of the wrong kind is there. So clearing, writing, moving and removing
come down to equations (`Ready.writeContent_eq`, `Ready.moveDirectory_eq`, `Ready.removeEntry_eq`,
`Download.clearDirectory_eq`), and whether a name is short enough (`Fits`) does not depend on the
disk. The name of a definition is shorter than that of the media files, so it fits where the other
one does (`Fits.definition`).
-/

set_option autoImplicit false
set_option relaxedAutoImplicit false

namespace FormCatalog

open Op

variable {N : Type}

namespace FormsDirectory

variable {forms : FormsDirectory} {d d' : Disk} {formId name : String}

/-! ### Names that are short enough -/

/-- A name in the directory is accepted for its length, and so is the path to it. -/
structure Fits (forms : FormsDirectory) (name : String) : Prop where
  path : (forms.path.child name).text.utf8ByteSize < Disk.pathLimit
  component : name.utf8ByteSize ≤ Disk.componentLimit

/-- The definition of a form fits where its media files do. -/
theorem Fits.definition (h : forms.Fits (baseName formId ++ "-media")) :
    forms.Fits (baseName formId ++ ".xml") := by
  have hshorter : (baseName formId ++ ".xml").utf8ByteSize ≤
      (baseName formId ++ "-media").utf8ByteSize := by
    rw [String.utf8ByteSize_append, String.utf8ByteSize_append]
    exact Nat.add_le_add_left (by decide) _
  have hne (ending : String) (hending : ending ≠ "") : baseName formId ++ ending ≠ "" :=
    fun hempty ↦ hending (String.append_eq_empty_iff.mp hempty).2
  obtain ⟨above, habove⟩ := forms.path.exists_text_child
  have hpath := h.path
  constructor
  · rw [habove _ (hne _ (by decide)), String.utf8ByteSize_append] at hpath ⊢
    omega
  · exact Nat.le_trans hshorter h.component

/-! ### Names and their texts -/

theorem Owns.isComponent (h : Owns formId name) : Path.IsComponent name := by
  have hlast : ∃ c, name.toList.getLast? = some c ∧ c ≠ '.' := by
    cases h with
    | definition => exact ⟨'l', getLast?_definition formId, by decide⟩
    | media => exact ⟨'a', getLast?_media formId, by decide⟩
  obtain ⟨c, hc, hdot⟩ := hlast
  refine ⟨?_, ?_, ?_⟩
  · rintro rfl
    cases hc
  · rintro rfl
    exact hdot (Option.some.inj hc).symm
  · cases h with
    | definition =>
      rw [String.toList_append, List.mem_append, not_or]
      exact ⟨notMem_baseName (by decide) formId, by decide⟩
    | media =>
      rw [String.toList_append, List.mem_append, not_or]
      exact ⟨notMem_baseName (by decide) formId, by decide⟩

/-- The text of a path to a form's own name is read as that path. -/
theorem Owns.ofText_text (h : Owns formId name) (hwritten : forms.path.Written) :
    Path.ofText (forms.path.child name).text = forms.path.child name := by
  refine (hwritten.child h.isComponent).ofText_text ?_
  unfold Path.child
  simp

theorem fits_of_locate {place : Place} (hname : name ≠ "..")
    (h : d.locate (forms.path.child name) = .ok place) : forms.Fits name := by
  obtain ⟨-, hshort, hparts, -⟩ := Disk.locate_eq_ok_iff.mp h
  exact ⟨hshort, hparts name (List.mem_append_right _ List.mem_cons_self) hname⟩

/-- Where the way to the directory can be gone, a name in it is found if it fits. -/
theorem Stands.locate_child_iff (h : forms.Stands d)
    (hnames : ∀ c ∈ forms.path.parts, c ≠ ".." → c.utf8ByteSize ≤ Disk.componentLimit)
    (hname : name ≠ "..") :
    d.locate (forms.path.child name) = .ok (forms.path.resolve d.working ++ [name]) ↔
      forms.Fits name := by
  refine ⟨fits_of_locate hname, fun hfits ↦ ?_⟩
  rw [Disk.locate_eq_ok_iff, Path.resolve_child _ _ hname]
  refine ⟨rfl, hfits.path, fun c hc hne ↦ ?_, fun n hn ↦ ?_⟩
  · rcases List.mem_append.mp hc with hc | hc
    · exact hnames c hc hne
    · rw [List.mem_singleton.mp hc]
      exact hfits.component
  · have hlength : (forms.path.child name).parts.length = forms.path.parts.length + 1 :=
      List.length_append
    rw [Path.upTo_child (by omega)]
    exact h n

/-! ### A directory that is there -/

/-- The directory of forms is there, and its own path keeps out of what is in it. -/
structure Ready (forms : FormsDirectory) (d : Disk) : Prop where
  sound : d.Sound
  noNull : forms.path.holdsNull = false
  there : d.probe forms.path = .ok (forms.path.resolve d.working, .directory)
  apart : ∀ name, forms.KeepsOutOf d.working name

namespace Ready

theorem stands (h : forms.Ready d) : forms.Stands d := stands_of_probe h.there

theorem item?_base (h : forms.Ready d) :
    d.item? (forms.path.resolve d.working) = some .directory :=
  (Disk.probe_eq_ok_iff.mp h.there).2

/-- The directory is there as long as what its path visits is there. -/
theorem of_item? (h : forms.Ready d) (hsound : d'.Sound) (hworking : d'.working = d.working)
    (hkept : ∀ place, (∀ name, ¬ forms.path.resolve d.working ++ [name] <+: place) →
      d'.item? place = d.item? place) : forms.Ready d' where
  sound := hsound
  noNull := h.noNull
  apart := by
    rw [hworking]
    exact h.apart
  there := by
    have hstands : forms.Stands d' := fun n ↦ by
      rw [hworking, hkept _ fun name ↦ h.apart name n]
      exact h.stands n
    rw [hworking]
    exact hstands.probe hworking h.there

theorem clear (h : forms.Ready d) (name : String) :
    forms.Ready (d.clear (forms.path.resolve d.working ++ [name])) :=
  h.of_item? (h.sound.clear _) rfl fun _ hout ↦ Disk.item?_clear_of_not_prefix (hout name)

theorem put (h : forms.Ready d) {name : String} {item : Item}
    (hitem : d.item? (forms.path.resolve d.working ++ [name]) = some .directory →
      item = .directory) :
    forms.Ready (d.put (forms.path.resolve d.working ++ [name]) item) := by
  refine h.of_item? (h.sound.put (by simp) ?_ hitem) (Disk.working_put _ _) fun place hout ↦ ?_
  · rw [List.dropLast_concat, h.item?_base]
  · refine Disk.item?_put_of_ne ?_
    rintro rfl
    exact hout name (List.prefix_refl _)

/-- A directory can be moved to a name where nothing is. -/
theorem relocate (h : forms.Ready d) {source target : String} (hne : source ≠ target)
    (hfree : d.item? (forms.path.resolve d.working ++ [target]) = none) :
    forms.Ready (d.relocate (forms.path.resolve d.working ++ [source])
      (forms.path.resolve d.working ++ [target])) := by
  refine h.of_item? (h.sound.relocate (Place.apart_siblings hne) ?_ fun below item ↦ ?_) rfl
    fun place hout ↦ Disk.item?_relocate_of_not_prefix (hout source) (hout target)
  · rw [List.dropLast_concat, h.item?_base]
  · exact h.sound.notMem_below hfree below

theorem locate_eq_ok_iff (h : forms.Ready d) (hname : name ≠ "..") :
    d.locate (forms.path.child name) = .ok (forms.path.resolve d.working ++ [name]) ↔
      forms.Fits name :=
  h.stands.locate_child_iff (Disk.locate_eq_ok_iff.mp (Disk.probe_eq_ok_iff.mp h.there).1).2.2.1
    hname

theorem locate (h : forms.Ready d) (htouches : Touches formId name) (hfits : forms.Fits name) :
    d.locate (forms.path.child name) = .ok (forms.path.resolve d.working ++ [name]) :=
  (h.locate_eq_ok_iff htouches.ne_dots).mpr hfits

/-- Whether something is at a name is answered as it is, if the name fits. -/
theorem exists?_eq (h : forms.Ready d) (htouches : Touches formId name)
    (hfits : forms.Fits name) : d.exists? (forms.path.child name) =
      .ok (d.item? (forms.path.resolve d.working ++ [name])).isSome := by
  have hnull := htouches.holdsNull_child h.noNull
  have hplace := h.locate htouches hfits
  unfold Disk.exists? Disk.look Disk.probe
  rw [if_neg (by simp [hnull]), hplace]
  cases hitem : d.item? (forms.path.resolve d.working ++ [name]) <;>
    simp [hitem, bind, Except.bind, pure, Except.pure]

theorem fits_of_exists? (h : forms.Ready d) (htouches : Touches formId name) {found : Bool}
    (hfound : d.exists? (forms.path.child name) = .ok found) : forms.Fits name := by
  have hnull := htouches.holdsNull_child h.noNull
  rw [← h.locate_eq_ok_iff htouches.ne_dots]
  cases hplace : d.locate (forms.path.child name) with
  | ok place =>
    rw [Disk.eq_resolve_of_locate hplace, Path.resolve_child _ _ htouches.ne_dots]
  | error cause =>
    obtain rfl := Disk.locate_child_eq_error h.stands hplace
    simp [Disk.exists?, Disk.look, Disk.probe, Disk.refuse, hnull, hplace, bind,
      Except.bind] at hfound

/-- A definition is written, unless a directory is in its place. -/
theorem writeContent_eq (h : forms.Ready d) (htouches : Touches formId name)
    (hfits : forms.Fits name)
    (hfree : d.item? (forms.path.resolve d.working ++ [name]) ≠ some .directory)
    (content : Bytes) : d.writeContent (forms.path.child name) content =
      .ok (d.put (forms.path.resolve d.working ++ [name]) (.file content)) := by
  have hnull := htouches.holdsNull_child h.noNull
  have hplace := h.locate htouches hfits
  unfold Disk.writeContent Disk.checked
  rw [if_neg (by simp [hnull]), hplace]
  cases hitem : d.item? (forms.path.resolve d.working ++ [name]) with
  | none => simp [hitem, h.item?_base, bind, Except.bind]
  | some item =>
    cases item with
    | file old => simp [hitem, bind, Except.bind]
    | directory => exact absurd hitem hfree

theorem readContent_eq (h : forms.Ready d) (htouches : Touches formId name)
    (hfits : forms.Fits name) {content : Bytes}
    (hfile : d.item? (forms.path.resolve d.working ++ [name]) = some (.file content)) :
    d.readContent (forms.path.child name) = .ok content := by
  have hnull := htouches.holdsNull_child h.noNull
  have hprobe := Disk.probe_eq_ok_iff.mpr ⟨h.locate htouches hfits, hfile⟩
  unfold Disk.readContent Disk.checked
  rw [if_neg (by simp [hnull]), hprobe]
  rfl

theorem isDirectory?_eq (h : forms.Ready d) (htouches : Touches formId name)
    (hfits : forms.Fits name)
    (hdirectory : d.item? (forms.path.resolve d.working ++ [name]) = some .directory) :
    d.isDirectory? (forms.path.child name) = .ok true :=
  Disk.isDirectory?_of_probe (htouches.holdsNull_child h.noNull)
    (Disk.probe_eq_ok_iff.mpr ⟨h.locate htouches hfits, hdirectory⟩)

theorem removeEntry_eq (h : forms.Ready d) (htouches : Touches formId name)
    (hfits : forms.Fits name) {content : Bytes}
    (hfile : d.item? (forms.path.resolve d.working ++ [name]) = some (.file content)) :
    d.removeEntry (forms.path.child name) =
      .ok (d.clear (forms.path.resolve d.working ++ [name])) := by
  have hnull := htouches.holdsNull_child h.noNull
  have hprobe := Disk.probe_eq_ok_iff.mpr ⟨h.locate htouches hfits, hfile⟩
  unfold Disk.removeEntry
  rw [if_neg (by simp [hnull]), hprobe]

theorem removeTree_eq (h : forms.Ready d) (htouches : Touches formId name)
    (hfits : forms.Fits name) {item : Item}
    (hitem : d.item? (forms.path.resolve d.working ++ [name]) = some item) :
    d.removeTree (forms.path.child name) =
      match item with
      | .directory => .ok (d.clear (forms.path.resolve d.working ++ [name]))
      | .file _ =>
        .error (.disk (.refused .notDirectory (.root (forms.path.child name).text))) := by
  have hnull := htouches.holdsNull_child h.noNull
  have hprobe := Disk.probe_eq_ok_iff.mpr ⟨h.locate htouches hfits, hitem⟩
  unfold Disk.removeTree
  rw [if_neg (by simp [hnull]), hprobe]
  cases item <;> rfl

/-- A directory is moved to a name where nothing is. -/
theorem moveDirectory_eq (h : forms.Ready d) {source target : String}
    (hsource : Touches formId source) (htarget : Touches formId target)
    (hfits : forms.Fits source) (hfits' : forms.Fits target) {item : Item}
    (hthere : d.item? (forms.path.resolve d.working ++ [source]) = some item)
    (hfree : d.item? (forms.path.resolve d.working ++ [target]) = none) :
    d.moveDirectory (forms.path.child source) (forms.path.child target) =
      .ok (d.relocate (forms.path.resolve d.working ++ [source])
        (forms.path.resolve d.working ++ [target])) := by
  have hprobe := Disk.probe_eq_ok_iff.mpr ⟨h.locate hsource hfits, hthere⟩
  simp [Disk.moveDirectory, hprobe, h.locate htarget hfits', hfree, h.item?_base, bind,
    Except.bind]

end Ready

end FormsDirectory

/-! ### Clearing a directory -/

namespace Download

variable {forms : FormsDirectory} {formId name : String} {s : Site N}

/-- Clearing a directory fails with nothing changed, for the length of the name or for a file in its
place, or the name fits and nothing is there afterwards. -/
theorem ends_clearDirectory_of_ready (h : forms.Ready s.disk)
    (htouches : FormsDirectory.Touches formId name) :
    Ends (clearDirectory (forms.path.child name)) s fun r t ↦
      (∃ e, r = .error e ∧ t = s ∧ (forms.Fits name → ∃ content,
        s.disk.item? (forms.path.resolve s.disk.working ++ [name]) = some (.file content))) ∨
      (r = .ok () ∧ forms.Fits name ∧
        t = { s with disk := s.disk.clear (forms.path.resolve s.disk.working ++ [name]) }) := by
  unfold clearDirectory
  rw [ends_bind, ends_ask]
  cases hexists : s.disk.exists? (forms.path.child name) with
  | error e =>
    refine Or.inl ⟨e, rfl, rfl, fun hfits ↦ ?_⟩
    rw [h.exists?_eq htouches hfits] at hexists
    cases hexists
  | ok found =>
    have hfits := h.fits_of_exists? htouches hexists
    rw [h.exists?_eq htouches hfits] at hexists
    obtain rfl := Except.ok.inj hexists
    rw [Next]
    cases hitem : s.disk.item? (forms.path.resolve s.disk.working ++ [name]) with
    | none =>
      rw [h.sound.clear_eq_self hitem]
      exact Or.inr ⟨rfl, hfits, rfl⟩
    | some item =>
      rw [Option.isSome_some, if_pos rfl, ends_change, h.removeTree_eq htouches hfits hitem]
      cases item with
      | file content => exact Or.inl ⟨_, rfl, rfl, fun _ ↦ ⟨content, rfl⟩⟩
      | directory => exact Or.inr ⟨rfl, hfits, rfl⟩

/-- Unless a file is in the place of the directory, a name that fits is cleared. -/
theorem clearDirectory_eq (h : forms.Ready s.disk) (htouches : FormsDirectory.Touches formId name)
    (hfits : forms.Fits name)
    (hnot : ∀ content,
      s.disk.item? (forms.path.resolve s.disk.working ++ [name]) ≠ some (.file content)) :
    clearDirectory (forms.path.child name) s =
      .ok () { s with disk := s.disk.clear (forms.path.resolve s.disk.working ++ [name]) } := by
  obtain ⟨_, _, hrun, hcleared⟩ | ⟨_, _, -, hfailed⟩ :=
    (ends_clearDirectory_of_ready h htouches).cases
  · rcases hcleared with ⟨_, hr, -⟩ | ⟨-, -, rfl⟩
    · cases hr
    · exact hrun
  · rcases hfailed with ⟨_, -, -, hfile⟩ | ⟨hr, -⟩
    · obtain ⟨content, hcontent⟩ := hfile hfits
      exact absurd hcontent (hnot content)
    · cases hr

end Download

end FormCatalog
