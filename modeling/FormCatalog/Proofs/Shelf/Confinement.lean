import FormCatalog.Proofs.Shelf.NoTrace

/-!
# Names given by a server stay in the directory of forms

A server chooses two kinds of names: the ids of forms and the names of media files. Neither leads
out of the directory of forms (`Download.confines`).

The name of a media file is followed from a base by its text alone. `Path.Leads` says what that
means piece by piece, for the pieces between the slashes of the text as they stand, and
`Path.confined_eq_some_iff` says that a name is accepted exactly when it leads to the base or to a
place below it, component by component, and that it then means this place. The id of a form only
gives names in the directory itself (`FormsDirectory.HasChild`).

So all that a download changes on the disk is at the place of the definition, in the tree of the
media files, and in the tree of one temporary directory, at whose place nothing was
(`FormsDirectory.Within`); a directory of forms that is not there yet is made, with the missing ones
on the way. Up to where the media files are put into place this is `Download.Staged`; from there on
every step changes one of the trees, and a property of all other places is kept by each step
(`Disk.DiffersWithin`).
-/

set_option autoImplicit false
set_option relaxedAutoImplicit false

namespace FormCatalog

open Op

variable {N : Type}

/-! ### Where a name leads -/

namespace Path

/-- Pieces of a text, followed one after the other from a place: nothing and a single dot stay, two
dots go up, and everything else goes down. -/
inductive LeadsBy : Place → List (List Char) → Place → Prop
  | here (place : Place) : LeadsBy place [] place
  | stay {place goal : Place} {piece : List Char} {rest : List (List Char)}
      (h : piece = [] ∨ piece = ['.']) (hrest : LeadsBy place rest goal) :
      LeadsBy place (piece :: rest) goal
  | up {place goal : Place} {rest : List (List Char)} (hrest : LeadsBy place.dropLast rest goal) :
      LeadsBy place (['.', '.'] :: rest) goal
  | down {place goal : Place} {piece : List Char} {rest : List (List Char)}
      (h : piece ∉ [[], ['.'], ['.', '.']])
      (hrest : LeadsBy (place ++ [String.ofList piece]) rest goal) :
      LeadsBy place (piece :: rest) goal

/-- A name leads from a base to a place: the pieces between its slashes are followed from the base,
or from the root if the name begins with a slash. -/
def Leads (base : Place) (name : String) (goal : Place) : Prop :=
  LeadsBy (if name.toList.head? = some '/' then [] else base) (name.toList.splitOn '/') goal

/-- The components that are kept of pieces. -/
def keptComponents (pieces : List (List Char)) : List String :=
  (pieces.map String.ofList).filter fun c ↦ c ≠ "" && c ≠ "."

theorem keptComponents_cons (piece : List Char) (rest : List (List Char)) :
    keptComponents (piece :: rest) =
      if piece = [] ∨ piece = ['.'] then keptComponents rest
      else String.ofList piece :: keptComponents rest := by
  have hkept : (String.ofList piece ≠ "" && String.ofList piece ≠ ".") =
      !decide (piece = [] ∨ piece = ['.']) := by
    have hempty : String.ofList piece = "" ↔ piece = [] := @String.ofList_inj piece []
    have hdot : String.ofList piece = "." ↔ piece = ['.'] := @String.ofList_inj piece ['.']
    simp [hempty, hdot]
  unfold keptComponents
  rw [List.map_cons, List.filter_cons, hkept]
  by_cases h : piece = [] ∨ piece = ['.'] <;> simp [h]

/-- Following pieces comes down to following the components that are kept of them. -/
theorem leadsBy_iff {place goal : Place} {pieces : List (List Char)} :
    LeadsBy place pieces goal ↔ goal = follow place (keptComponents pieces) := by
  constructor
  · intro h
    induction h with
    | here place => rfl
    | stay h _ ih => rw [keptComponents_cons, if_pos h, ih]
    | up _ ih => exact ih
    | @down place goal piece rest h _ ih =>
      simp only [List.mem_cons, List.not_mem_nil, or_false, not_or] at h
      obtain ⟨hempty, hdot, hup⟩ := h
      have hname : String.ofList piece ≠ ".." := fun hsame ↦
        hup ((@String.ofList_inj piece ['.', '.']).mp hsame)
      rw [keptComponents_cons, if_neg (not_or.mpr ⟨hempty, hdot⟩), follow_cons, step,
        if_neg hname, ih]
  · rintro rfl
    induction pieces generalizing place with
    | nil => exact .here place
    | cons piece rest ih =>
      rw [keptComponents_cons]
      split
      · rename_i hstay
        exact .stay hstay ih
      · rename_i hkept
        by_cases hup : piece = ['.', '.']
        · subst hup
          exact .up ih
        · have hname : String.ofList piece ≠ ".." := fun hsame ↦
            hup ((@String.ofList_inj piece ['.', '.']).mp hsame)
          rw [follow_cons, step, if_neg hname]
          rw [not_or] at hkept
          exact .down (by simp [hkept, hup]) ih

theorem isAbsolute_ofText (s : String) :
    (ofText s).isAbsolute = decide (s.toList.head? = some '/') := by
  unfold ofText isAbsolute keptSlashes
  cases s.toList with
  | nil => rfl
  | cons c rest =>
    by_cases hc : c = '/'
    · subst hc
      generalize hcount : (List.takeWhile (· = '/') ('/' :: rest)).length = count
      have hsome : 0 < count := by
        rw [← hcount]
        simp
      match count, hsome with
      | 1, _ | 2, _ | _ + 3, _ => simp
    · simp [hc]

/-- What a name leads to is what its path means, taken from the base. -/
theorem leads_iff {working goal : Place} {base : Path} {name : String} :
    Leads (base.resolve working) name goal ↔
      goal = (base.join (ofText name)).resolve working := by
  unfold Leads
  rw [leadsBy_iff, ← components_eq_splitOn]
  change goal = follow _ (ofText name).parts ↔ _
  have habsolute := isAbsolute_ofText name
  unfold join
  by_cases hroot : name.toList.head? = some '/'
  · rw [hroot, decide_eq_true rfl] at habsolute
    rw [if_pos hroot, if_pos habsolute]
    unfold resolve
    rw [if_pos habsolute]
  · rw [decide_eq_false hroot] at habsolute
    rw [if_neg hroot, if_neg (by simp [habsolute])]
    change _ ↔ goal = follow (if base.isAbsolute then [] else working)
      (base.parts ++ (ofText name).parts)
    rw [follow_append]
    rfl

/-- Every name leads to exactly one place. -/
theorem existsUnique_leads (base : Place) (name : String) : ∃! goal, Leads base name goal := by
  unfold Leads
  simp only [leadsBy_iff]
  exact ⟨_, rfl, fun _ h ↦ h⟩

/-- The pieces between slashes are made of characters of the text. -/
theorem mem_of_mem_components {cs piece : List Char} {c : Char} (h : piece ∈ components cs)
    (hc : c ∈ piece) : c ∈ cs := by
  induction cs generalizing piece with
  | nil =>
    obtain rfl := List.mem_singleton.mp h
    cases hc
  | cons first rest ih =>
    rw [components_cons] at h
    split at h
    · rcases List.mem_cons.mp h with rfl | hrest
      · cases hc
      · exact List.mem_cons_of_mem _ (ih hrest hc)
    · split at h
      · rename_i p pieces hpieces
        rw [hpieces] at ih
        rcases List.mem_cons.mp h with rfl | hrest
        · rcases List.mem_cons.mp hc with rfl | hc
          · exact List.mem_cons_self
          · exact List.mem_cons_of_mem _ (ih List.mem_cons_self hc)
        · exact List.mem_cons_of_mem _ (ih (List.mem_cons_of_mem _ hrest) hc)
      · obtain rfl := List.mem_singleton.mp h
        exact List.mem_cons.mpr (Or.inl (List.mem_singleton.mp hc))

theorem holdsNull_ofText {name : String} (h : Char.ofNat 0 ∉ name.toList) :
    (ofText name).holdsNull = false := by
  rw [holdsNull_eq_false_iff]
  intro c hc hnull
  obtain ⟨hcut, -⟩ := List.mem_filter.mp hc
  obtain ⟨piece, hpiece, rfl⟩ := List.mem_map.mp hcut
  rw [String.toList_ofList] at hnull
  exact h (mem_of_mem_components hpiece hnull)

/-- A name without the forbidden character is always answered. -/
theorem confined_eq_ok {working : Place} {base : Path} (hbase : base.holdsNull = false)
    {name : String} (hname : Char.ofNat 0 ∉ name.toList) {goal : Place}
    (h : Leads (base.resolve working) name goal) :
    base.confined working name =
      .ok (if base.resolve working <+: goal then some (.ofPlace goal) else none) := by
  have hnull : (base.join (ofText name)).holdsNull = false := by
    rw [Bool.eq_false_iff]
    intro hholds
    have := holdsNull_join hbase hholds
    rw [holdsNull_ofText hname] at this
    cases this
  unfold confined
  dsimp only
  rw [if_neg (by simp [hnull]), ← leads_iff.mp h]
  simp only [List.isPrefixOf_iff_prefix]
  split <;> rfl

/-- A name is accepted exactly when it leads to the base or below it, and it means the place that it
leads to. -/
theorem confined_eq_some_iff {working : Place} {base target : Path}
    (hbase : base.holdsNull = false) {name : String} (hname : Char.ofNat 0 ∉ name.toList) :
    base.confined working name = .ok (some target) ↔
      ∃ goal, Leads (base.resolve working) name goal ∧ base.resolve working <+: goal ∧
        target = .ofPlace goal := by
  obtain ⟨goal, hgoal, honly⟩ := existsUnique_leads (base.resolve working) name
  rw [confined_eq_ok hbase hname hgoal]
  constructor
  · intro h
    split at h
    · rename_i hinside
      cases h
      exact ⟨goal, hgoal, hinside, rfl⟩
    · cases h
  · rintro ⟨goal', hgoal', hinside, rfl⟩
    obtain rfl := honly goal' hgoal'
    rw [if_pos hinside]

/-- A name that leads out of the base is refused. -/
theorem confined_eq_none_iff {working : Place} {base : Path} (hbase : base.holdsNull = false)
    {name : String} (hname : Char.ofNat 0 ∉ name.toList) :
    base.confined working name = .ok none ↔
      ∀ goal, Leads (base.resolve working) name goal → ¬ base.resolve working <+: goal := by
  obtain ⟨goal, hgoal, honly⟩ := existsUnique_leads (base.resolve working) name
  rw [confined_eq_ok hbase hname hgoal]
  constructor
  · intro h goal' hgoal' hinside
    obtain rfl := honly goal' hgoal'
    rw [if_pos hinside] at h
    cases h
  · intro h
    rw [if_neg (h goal hgoal)]

/-- A sibling whose name goes on from that of the base is outside. -/
example : (ofText "forms").confined ["device"] "../forms-old/x" = .ok none := by decide +kernel

end Path

/-! ### Names in the directory of forms -/

namespace FormsDirectory

variable {forms : FormsDirectory} {formId : String}

/-- A path leads to a name in the directory itself: one component, which neither stays nor goes
up. -/
def HasChild (forms : FormsDirectory) (path : Path) : Prop :=
  ∃ name, path = forms.path.child name ∧ Path.IsComponent name ∧ name ≠ ".." ∧
    ∀ working, path.resolve working = forms.path.resolve working ++ [name]

theorem Owns.hasChild {name : String} (h : Owns formId name) :
    forms.HasChild (forms.path.child name) :=
  ⟨name, rfl, h.isComponent, (Touches.own h).ne_dots,
    fun working ↦ Path.resolve_child working forms.path (Touches.own h).ne_dots⟩

/-- The places that belong to a form: that of its definition, those at and below that of its media
files, and those at and below the temporary directory that it was given, if any. -/
inductive Within (forms : FormsDirectory) (working : Place) (formId : String)
    (staging : Option Nat) : Place → Prop
  | definition :
    Within forms working formId staging (forms.path.resolve working ++ [baseName formId ++ ".xml"])
  | media (below : Place) : Within forms working formId staging
      (forms.path.resolve working ++ [baseName formId ++ "-media"] ++ below)
  | staging {n : Nat} (h : staging = some n) (below : Place) : Within forms working formId staging
      (forms.path.resolve working ++ [Disk.temporaryName Download.stagingName n] ++ below)

end FormsDirectory

/-! ### What stays as it is -/

namespace Disk

variable {d d' d'' : Disk} {region region' : Place → Prop} {place : Place}

/-- Outside of a region two disks have the same items. -/
structure DiffersWithin (region : Place → Prop) (d d' : Disk) : Prop where
  working_eq : d'.working = d.working
  item?_eq : ∀ q, ¬ region q → d'.item? q = d.item? q

namespace DiffersWithin

theorem refl (region : Place → Prop) (d : Disk) : DiffersWithin region d d := ⟨rfl, fun _ _ ↦ rfl⟩

theorem trans (h : DiffersWithin region d d') (h' : DiffersWithin region d' d'') :
    DiffersWithin region d d'' :=
  ⟨h'.working_eq.trans h.working_eq, fun q hq ↦ (h'.item?_eq q hq).trans (h.item?_eq q hq)⟩

theorem put (h : region place) (item : Item) : DiffersWithin region d (d.put place item) :=
  ⟨working_put _ _, fun _ hq ↦ item?_put_of_ne fun hsame ↦ hq (hsame ▸ h)⟩

theorem clear (h : ∀ below, region (place ++ below)) : DiffersWithin region d (d.clear place) :=
  ⟨rfl, fun _ hq ↦ item?_clear_of_not_prefix fun ⟨below, hbelow⟩ ↦ hq (hbelow ▸ h below)⟩

theorem relocate {source target : Place} (hsource : ∀ below, region (source ++ below))
    (htarget : ∀ below, region (target ++ below)) :
    DiffersWithin region d (d.relocate source target) :=
  ⟨rfl, fun _ hq ↦ item?_relocate_of_not_prefix
    (fun ⟨below, hbelow⟩ ↦ hq (hbelow ▸ hsource below))
    fun ⟨below, hbelow⟩ ↦ hq (hbelow ▸ htarget below)⟩

end DiffersWithin

/-- Where one disk has all of another one and some directories more, what is at a place is the same
or a directory where nothing was. -/
theorem Extends.item?_cases {way : Place → Prop} (h : d.Extends way d') (q : Place) :
    d'.item? q = d.item? q ∨ way q ∧ d.item? q = none ∧ d'.item? q = some .directory := by
  obtain ⟨made, hitems, hmade⟩ := h.items_eq
  by_cases hroot : q = []
  · subst hroot
    exact Or.inl rfl
  unfold item?
  rw [if_neg hroot, if_neg hroot, hitems, List.find?_append]
  cases hfound : d.items.find? (·.1 = q) with
  | some i => exact Or.inl rfl
  | none =>
    cases hnew : (made.map fun p ↦ (p, Item.directory)).find? (·.1 = q) with
    | none => exact Or.inl rfl
    | some i =>
      have hplace : i.1 = q := by simpa using List.find?_some hnew
      obtain ⟨p, hp, rfl⟩ := List.mem_map.mp (List.mem_of_find?_eq_some hnew)
      exact Or.inr ⟨hplace ▸ (hmade p hp).1, rfl, rfl⟩

/-- Where something is at each of the places, nothing has been added. -/
theorem Extends.eq_self {way : Place → Prop} (h : d.Extends way d')
    (hthere : ∀ q, way q → d.item? q ≠ none) : d' = d := by
  obtain ⟨made, hitems, hmade⟩ := h.items_eq
  have hnone : made = [] :=
    List.eq_nil_iff_forall_not_mem.mpr fun q hq ↦ hthere q (hmade q hq).1 (hmade q hq).2
  rw [hnone, List.map_nil, List.append_nil] at hitems
  exact congr (congrArg Disk.mk h.working_eq) hitems

theorem item?_clear_inside {q : Place} (hroot : place ≠ []) (h : place <+: q) :
    (d.clear place).item? q = none := by
  cases hitem : (d.clear place).item? q with
  | none => rfl
  | some item =>
    have hq : q ≠ [] := by
      rintro rfl
      exact hroot (List.prefix_nil.mp h)
    exact absurd h (mem_clear.mp (mem_of_item? hitem hq)).1

/-- A file has nothing below it, so removing it changes its own place only. -/
theorem Sound.removeEntry_differs (h : d.Sound) {p : Path} (hremoved : d.removeEntry p = .ok d')
    (hregion : region (p.resolve d.working)) : DiffersWithin region d d' := by
  unfold Disk.removeEntry at hremoved
  split at hremoved
  · cases hremoved
  · split at hremoved
    · rename_i place content hfound
      cases hremoved
      obtain ⟨hplace, hfile⟩ := probe_eq_ok_iff.mp hfound
      obtain rfl := eq_resolve_of_locate hplace
      refine ⟨rfl, fun q hq ↦ ?_⟩
      by_cases hinside : p.resolve d.working <+: q
      · obtain ⟨below, rfl⟩ := hinside
        have hbelow : below ≠ [] := by
          rintro rfl
          rw [List.append_nil] at hq
          exact hq hregion
        have hroot : p.resolve d.working ≠ [] := by
          intro hroot
          rw [hroot] at hfile
          cases hfile
        rw [item?_clear_inside hroot (List.prefix_append _ _)]
        cases hitem : d.item? (p.resolve d.working ++ below) with
        | none => rfl
        | some item =>
          have habove := h.directory_above (mem_of_item? hitem (by simp [hroot])) hbelow
          rw [hfile] at habove
          cases habove
      · exact item?_clear_of_not_prefix hinside
    · cases hremoved
    · cases hremoved
      exact .refl region _
    · cases hremoved

end Disk

namespace Download

variable {source : Source N} {forms : FormsDirectory} {sent : Fault → Prop} {formId name : String}
  {d₀ : Disk} {region : Place → Prop} {s : Site N}

/-- Clearing a directory changes the disk at and below its place only. -/
theorem keeps_clearDirectory_differs (hname : FormsDirectory.Touches formId name)
    (hregion : ∀ below, region (forms.path.resolve d₀.working ++ [name] ++ below)) :
    Keeps (fun s : Site N ↦ d₀.DiffersWithin region s.disk)
      (clearDirectory (forms.path.child name)) := by
  have hask : Keeps (fun s : Site N ↦ d₀.DiffersWithin region s.disk)
      (Site.ask (·.exists? (forms.path.child name))) :=
    fun s hs ↦ ends_ask.mpr hs
  unfold clearDirectory
  refine hask.bind fun found ↦ ?_
  split
  · refine Site.keeps_change fun d d' hd hremoved ↦ hd.trans ?_
    rw [Disk.removeTree_eq_ok hremoved, resolve_child_of_touches hname, hd.working_eq]
    exact .clear hregion
  · exact keeps_pure

theorem keeps_dropStaging_differs (hname : FormsDirectory.Touches formId name)
    (hregion : ∀ below, region (forms.path.resolve d₀.working ++ [name] ++ below)) :
    Keeps (fun s : Site N ↦ d₀.DiffersWithin region s.disk)
      (dropStaging (forms.path.child name)) :=
  (keeps_clearDirectory_differs hname hregion).attempt.bind fun _ ↦ keeps_pure

/-- Up to where the media files are put into place, everything new is in the temporary directory;
then it takes the place of the earlier media files. -/
theorem ends_stage_differs (hsource : source.Answers (fun _ ↦ True) sent)
    (hworking : d₀.working.Plain) {staging media : String}
    (hstaging : FormsDirectory.Touches formId staging)
    (hmedia : FormsDirectory.Touches formId media)
    (hregion : ∀ below, region (forms.path.resolve d₀.working ++ [staging] ++ below))
    (hregion' : ∀ below, region (forms.path.resolve d₀.working ++ [media] ++ below))
    (files : List MediaEntry)
    (h : Staged d₀ (forms.path.resolve d₀.working ++ [staging]) s.disk) :
    Ends (stage source formId files (forms.path.child staging) (forms.path.child media)) s
      fun _ t ↦ d₀.DiffersWithin region t.disk := by
  have hcollect : Keeps (fun s ↦ Staged d₀ (forms.path.resolve d₀.working ++ [staging]) s.disk)
      (files.forM (collect source formId (forms.path.child staging))) :=
    keeps_forM fun file _ ↦ keeps_collect_staged hsource hworking hstaging file
  unfold stage
  refine ((hcollect s h).mono fun _ t ht ↦ ?_).bind_of_keeps fun _ ↦
    (keeps_clearDirectory_differs hmedia hregion').bind fun _ ↦
      Site.keeps_change fun d d' hd hmoved ↦ hd.trans ?_
  · refine ⟨ht.working_eq, fun q hq ↦ ht.item?_eq fun ⟨below, hbelow⟩ ↦ hq ?_⟩
    exact hbelow ▸ hregion below
  · obtain ⟨-, -, hmoved⟩ := Disk.moveDirectory_eq_ok hmoved
    rw [resolve_child_of_touches hstaging, resolve_child_of_touches hmedia,
      hd.working_eq] at hmoved
    rcases hmoved with rfl | rfl
    · exact .relocate hregion hregion'
    · exact (Disk.DiffersWithin.clear hregion').trans (.relocate hregion hregion')

/-- A disk has changed in the places of a form only, and if a temporary directory is among them,
nothing was at its place. -/
def ChangedWithin (forms : FormsDirectory) (formId : String) (d d' : Disk) : Prop :=
  ∃ staging : Option Nat,
    (∀ n, staging = some n →
      d.item? (forms.path.resolve d.working ++ [Disk.temporaryName stagingName n]) = none) ∧
    d.DiffersWithin (forms.Within d.working formId staging) d'

theorem ChangedWithin.refl (forms : FormsDirectory) (formId : String) (d : Disk) :
    ChangedWithin forms formId d d :=
  ⟨none, nofun, .refl _ d⟩

theorem ends_bringMedia_changedWithin (hsource : source.Answers (fun _ ↦ True) sent)
    (hsound : s.disk.Sound) (hworking : s.disk.working.Plain) (x : Details) :
    Ends (bringMedia source forms x) s fun _ t ↦ ChangedWithin forms x.formId s.disk t.disk := by
  have hmedia := FormsDirectory.Touches.media x.formId
  unfold bringMedia
  dsimp only
  cases x.manifest with
  | none =>
    have hregion (below : Place) : forms.Within s.disk.working x.formId none
        (forms.path.resolve s.disk.working ++ [FormsDirectory.baseName x.formId ++ "-media"] ++
          below) := .media below
    have hclear := keeps_clearDirectory_differs (N := N) hmedia hregion
    refine Ends.mono ((hclear.bind fun _ ↦ keeps_pure) s (.refl _ _)) fun _ t ht ↦ ?_
    exact ⟨none, nofun, ht⟩
  | some manifest =>
    dsimp only
    rw [ends_bind]
    refine (ends_makeStaging_located hsound).mono ?_
    rintro _ _ (⟨e, rfl, rfl⟩ | ⟨n, d, rfl, rfl, -, -, hstaged⟩)
    · exact .refl forms x.formId _
    · have hfree : s.disk.item? (forms.path.resolve s.disk.working ++
          [Disk.temporaryName stagingName n]) = none := by
        rw [← hstaged.cleared, Disk.working_clear, hstaged.working_eq]
        exact Disk.item?_clear_self (by simp)
      have hname : FormsDirectory.Touches x.formId (Disk.temporaryName stagingName n) := .staging n
      have hregion (below : Place) : forms.Within s.disk.working x.formId (some n)
          (forms.path.resolve s.disk.working ++ [Disk.temporaryName stagingName n] ++ below) :=
        .staging rfl below
      have hstage := ends_stage_differs (s := { s with disk := d }) hsource hworking hname
        hmedia hregion .media manifest.files hstaged
      have hdrop := keeps_dropStaging_differs (N := N) hname hregion
      have hrest : Ends (do
          let outcome ← attempt (stage source x.formId manifest.files
            (forms.path.child (Disk.temporaryName stagingName n)) (forms.mediaPath x.formId))
          dropStaging (forms.path.child (Disk.temporaryName stagingName n))
          Op.ofExcept outcome
          return some (forms.mediaPath x.formId)) { s with disk := d } fun _ t ↦
            s.disk.DiffersWithin (forms.Within s.disk.working x.formId (some n)) t.disk :=
        (ends_attempt.mpr hstage).bind_of_keeps fun outcome ↦ hdrop.bind fun _ ↦
          Keeps.bind (fun t ht ↦ ends_ofExcept.mpr ht) fun _ ↦ keeps_pure
      rw [Next]
      refine Ends.mono hrest fun _ t ht ↦ ⟨some n, fun m hm ↦ ?_, ht⟩
      obtain rfl := Option.some.inj hm
      exact hfree

/-- Writing the definition is a change at its own place. -/
theorem keeps_writeDefinition_changedWithin (content : Bytes) :
    Keeps (fun t : Site N ↦ ChangedWithin forms formId d₀ t.disk)
      (Site.change (·.writeContent (forms.formPath formId) content)) := by
  refine Site.keeps_change fun d d' hd hwritten ↦ ?_
  obtain ⟨staging, hfree, hd⟩ := hd
  refine ⟨staging, hfree, hd.trans ?_⟩
  obtain ⟨-, -, rfl⟩ := Disk.writeContent_eq_ok hwritten
  rw [FormsDirectory.formPath, resolve_child_of_touches (.definition formId), hd.working_eq]
  exact .put .definition _

theorem ends_bring_changedWithin (hsource : source.Answers (fun _ ↦ True) sent)
    (hsound : s.disk.Sound) (hworking : s.disk.working.Plain) (x : Details) :
    Ends (bring source forms x) s fun _ t ↦ ChangedWithin forms x.formId s.disk t.disk := by
  unfold bring
  rw [ends_bind]
  refine (hsource x.descriptor.downloadUrl s trivial).mono fun r t ht ↦ ?_
  rw [← ht.2.1] at hsound hworking ⊢
  cases r with
  | error e => exact .refl forms x.formId _
  | ok content =>
    exact (ends_bringMedia_changedWithin hsource hsound hworking x).bind_of_keeps fun _ ↦
      (keeps_writeDefinition_changedWithin content).bind fun _ ↦ keeps_pure

/-! ### Whole downloads and removals -/

/-- What a download changes on the disk, however it ends. If the directory of forms is there, that
is in the places of the form only. If it is not, it is made with the missing ones on the way, and
otherwise the same holds. -/
structure StaysInside (forms : FormsDirectory) (formId : String) (d d' : Disk) : Prop where
  there : ∀ {place}, d.probe forms.path = .ok (place, .directory) →
    ChangedWithin forms formId d d'
  made : ∃ staging : Option Nat,
    (∀ n, staging = some n →
      d.item? (forms.path.resolve d.working ++ [Disk.temporaryName stagingName n]) = none) ∧
    ∀ q, ¬ forms.Within d.working formId staging q → d'.item? q = d.item? q ∨
      (∃ n, q = (forms.path.upTo n).resolve d.working) ∧ d.item? q = none ∧
        d'.item? q = some .directory

/-- No name that a server chooses leads out of the directory of forms. A name leads to one place,
and the name of a media file is accepted exactly when that is the base or below it. The paths of
a form lead to names in the directory itself. A download changes nothing but the places of its form,
and a removal nothing but the definition and the media files. -/
structure Confines (source : Source N) (forms : FormsDirectory) (s : Site N) : Prop where
  leads : ∀ base name, ∃! goal, Path.Leads base name goal
  accepted : ∀ {base : Path} {name : String}, base.holdsNull = false →
    Char.ofNat 0 ∉ name.toList → ∀ working target,
      base.confined working name = .ok (some target) ↔
        ∃ goal, Path.Leads (base.resolve working) name goal ∧ base.resolve working <+: goal ∧
          target = .ofPlace goal
  refused : ∀ {base : Path} {name : String}, base.holdsNull = false →
    Char.ofNat 0 ∉ name.toList → ∀ working,
      base.confined working name = .ok none ↔
        ∀ goal, Path.Leads (base.resolve working) name goal → ¬ base.resolve working <+: goal
  children : ∀ formId,
    forms.HasChild (forms.formPath formId) ∧ forms.HasChild (forms.mediaPath formId)
  download : ∀ x, Ends (run source forms x) s fun _ t ↦
    StaysInside forms x.formId s.disk t.disk
  remove : ∀ formId, Ends (remove forms formId) s fun _ t ↦
    s.disk.DiffersWithin (forms.Within s.disk.working formId none) t.disk

theorem ends_run_staysInside (hsource : source.Answers (fun _ ↦ True) sent)
    (hsound : s.disk.Sound) (hworking : s.disk.working.Plain) (x : Details) :
    Ends (run source forms x) s fun _ t ↦ StaysInside forms x.formId s.disk t.disk := by
  have hmade := Disk.ends_prepare_extends forms.path s.disk
  have hsame {d : Disk} {place : Place}
      (hextends : s.disk.Extends (fun q ↦ ∃ n, q = (forms.path.upTo n).resolve s.disk.working) d)
      (hthere : s.disk.probe forms.path = .ok (place, .directory)) : d = s.disk := by
    refine hextends.eq_self ?_
    rintro _ ⟨n, rfl⟩
    simp [FormsDirectory.stands_of_probe hthere n]
  cases hprepared : Disk.prepare forms.path s.disk with
  | error e d =>
    have hextends := hmade.of_error hprepared
    rw [ends_iff_of_error (run_of_prepare_eq_error hprepared)]
    refine ⟨fun hthere ↦ ?_, none, nofun, fun q _ ↦ hextends.item?_cases q⟩
    rw [hsame hextends hthere]
    exact .refl forms x.formId _
  | ok _ d =>
    have hextends := hmade.of_ok hprepared
    have hsound' := ((Disk.keeps_prepare s.disk forms.path s.disk
      ⟨hsound, rfl, .refl _⟩).of_ok hprepared).1
    have hbring : Ends (bring source forms x) { s with disk := d } fun _ t ↦
        ChangedWithin forms x.formId d t.disk :=
      ends_bring_changedWithin hsource hsound' (by rwa [hextends.working_eq]) x
    unfold run
    rw [ends_bind, ends_iff_of_ok (onDisk_eq_ok hprepared), Next]
    refine (Ends.bind_of_keeps (ends_attempt.mpr hbring) fun r ↦ ?_).mono fun _ t ht ↦ ⟨?_, ?_⟩
    · cases r with
      | error e => exact keeps_throw
      | ok brought =>
        dsimp only
        split
        · exact Keeps.bind (fun t ht ↦ ht) fun _ ↦ keeps_pure
        · exact keeps_pure
    · intro place hthere
      rw [← hsame hextends hthere]
      exact ht
    · obtain ⟨staging, hfree, hdiffers⟩ := ht
      rw [hextends.working_eq] at hfree hdiffers
      refine ⟨staging, fun n hn ↦ ?_, fun q hq ↦ ?_⟩
      · rcases hextends.item?_cases (forms.path.resolve s.disk.working ++
          [Disk.temporaryName stagingName n]) with hitem | ⟨-, hmissing, -⟩
        · rw [← hitem]
          exact hfree n hn
        · exact hmissing
      · rw [hdiffers.item?_eq q hq]
        exact hextends.item?_cases q

theorem ends_remove_differs (hsound : s.disk.Sound) (formId : String) :
    Ends (remove forms formId) s fun _ t ↦
      s.disk.DiffersWithin (forms.Within s.disk.working formId none) t.disk := by
  have hentry : Ends (Site.change (·.removeEntry (forms.formPath formId))) s fun _ t ↦
      s.disk.DiffersWithin (forms.Within s.disk.working formId none) t.disk := by
    rw [ends_change]
    cases hremoved : s.disk.removeEntry (forms.formPath formId) with
    | error e => exact .refl _ _
    | ok d =>
      refine hsound.removeEntry_differs hremoved ?_
      rw [FormsDirectory.formPath, resolve_child_of_touches (.definition formId)]
      exact .definition
  exact hentry.bind_of_keeps fun _ ↦ keeps_clearDirectory_differs (.media formId) .media

theorem confines (hsource : source.Answers (fun _ ↦ True) sent) (hsound : s.disk.Sound)
    (hworking : s.disk.working.Plain) : Confines source forms s where
  leads := Path.existsUnique_leads
  accepted hbase hname _ _ := Path.confined_eq_some_iff hbase hname
  refused hbase hname _ := Path.confined_eq_none_iff hbase hname
  children _ := ⟨FormsDirectory.Owns.definition.hasChild, FormsDirectory.Owns.media.hasChild⟩
  download x := ends_run_staysInside hsource hsound hworking x
  remove formId := ends_remove_differs hsound formId

/-- A device that holds a form already. -/
theorem confines_illustrated : illustrated.disk.Sound ∧ illustrated.disk.working.Plain ∧
    Confines Archive.source Shelf.besideWork illustrated := by
  have hsound : illustrated.disk.Sound :=
    Disk.sound_of_items (by decide +kernel) (by decide +kernel)
  have hworking : illustrated.disk.working.Plain := ⟨by decide, by decide⟩
  exact ⟨hsound, hworking, confines Archive.answers_source hsound hworking⟩

end Download

end FormCatalog
