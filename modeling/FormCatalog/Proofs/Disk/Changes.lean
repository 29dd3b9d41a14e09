import FormCatalog.Proofs.Disk.Places

/-!
# What the operations of the file system change

The part of a disk in a region of places stays as it is under a change outside of the region:
`part_put`, `part_clear` and `part_relocate` say so for the three ways in which a disk changes. For
each operation there is then one lemma that says which of these changes it makes when it succeeds,
and what it found on the way, and one that says that a path without the forbidden character is
refused by the file system and by nothing else.
-/

set_option autoImplicit false
set_option relaxedAutoImplicit false

namespace FormCatalog.Disk

variable {d d' : Disk}

/-! ### Parts of a disk -/

/-- What the disk holds at the places of a region, in its order. -/
def part (d : Disk) (region : Place → Bool) : List (Place × Item) :=
  d.items.filter fun i ↦ region i.1

/-- What the disk holds at a place and below it. -/
def tree (d : Disk) (root : Place) : List (Place × Item) := d.part root.isPrefixOf

theorem filter_map_of_outside {α : Type} {p : α → Bool} {f : α → α} {l : List α}
    (h : ∀ a ∈ l, f a = a ∨ (p a = false ∧ p (f a) = false)) :
    (l.map f).filter p = l.filter p := by
  induction l with
  | nil => rfl
  | cons a rest ih =>
    have hrest := ih fun b hb ↦ h b (List.mem_cons_of_mem _ hb)
    rw [List.map_cons]
    rcases h a List.mem_cons_self with hsame | ⟨hout, hout'⟩
    · rw [hsame, List.filter_cons, List.filter_cons, hrest]
    · rw [List.filter_cons_of_neg (by simp [hout']), List.filter_cons_of_neg (by simp [hout]),
        hrest]

variable {region : Place → Bool}

theorem part_put {place : Place} {item : Item} (h : region place = false) :
    (d.put place item).part region = d.part region := by
  unfold put part
  split
  · refine filter_map_of_outside fun i _ ↦ ?_
    split
    · rename_i hplace
      exact Or.inr ⟨by rw [hplace, h], h⟩
    · exact Or.inl rfl
  · rw [List.filter_append, List.filter_cons_of_neg (by simp [h]), List.filter_nil,
      List.append_nil]

theorem part_clear {place : Place} (h : ∀ p, region p = true → ¬ place <+: p) :
    (d.clear place).part region = d.part region := by
  unfold clear part
  rw [List.filter_filter]
  refine List.filter_congr fun i _ ↦ ?_
  cases hregion : region i.1 with
  | false => rfl
  | true =>
    have hout : place.isPrefixOf i.1 = false := by
      rw [Bool.eq_false_iff]
      exact fun hbegins ↦ h i.1 hregion (List.isPrefixOf_iff_prefix.mp hbegins)
    simp [hout]

theorem part_relocate {source target : Place} (hsource : ∀ p, region p = true → ¬ source <+: p)
    (htarget : ∀ p, region p = true → ¬ target <+: p) :
    (d.relocate source target).part region = d.part region := by
  unfold relocate part
  refine filter_map_of_outside fun i _ ↦ ?_
  split
  · rename_i hbegins
    refine Or.inr ⟨?_, ?_⟩
    · rw [Bool.eq_false_iff]
      exact fun hregion ↦ hsource _ hregion (List.isPrefixOf_iff_prefix.mp hbegins)
    · rw [Bool.eq_false_iff]
      exact fun hregion ↦ htarget _ hregion (List.prefix_append _ _)
  · exact Or.inl rfl

/-- What is at a place is read from the part of the disk there. -/
theorem item?_of_part {place : Place} (hregion : region place = true)
    (h : d'.part region = d.part region) : d'.item? place = d.item? place := by
  have hfind (e : Disk) : e.items.find? (·.1 = place) = (e.part region).find? (·.1 = place) := by
    unfold part
    rw [List.find?_filter]
    congr 1
    funext i
    by_cases hi : i.1 = place
    · simp [hi, hregion]
    · simp [hi]
  unfold item?
  rw [hfind d, hfind d', h]

theorem item?_put_of_ne {place q : Place} {item : Item} (h : place ≠ q) :
    (d.put place item).item? q = d.item? q := by
  have hout : (q == place) = false := beq_eq_false_iff_ne.mpr h.symm
  exact item?_of_part (beq_self_eq_true q) (part_put hout)

theorem item?_clear_of_not_prefix {place q : Place} (h : ¬ place <+: q) :
    (d.clear place).item? q = d.item? q := by
  refine item?_of_part (beq_self_eq_true q) (part_clear fun p hp ↦ ?_)
  rwa [← eq_of_beq hp]

theorem item?_relocate_of_not_prefix {source target q : Place} (hsource : ¬ source <+: q)
    (htarget : ¬ target <+: q) : (d.relocate source target).item? q = d.item? q := by
  refine item?_of_part (beq_self_eq_true q) (part_relocate (fun p hp ↦ ?_) fun p hp ↦ ?_)
  · rwa [← eq_of_beq hp]
  · rwa [← eq_of_beq hp]

theorem item?_put_self {place : Place} (h : place ≠ []) (item : Item) :
    (d.put place item).item? place = some item := by
  unfold item?
  rw [if_neg h]
  unfold put
  split
  · rename_i hthere
    obtain ⟨i, hi, hplace⟩ := List.any_eq_true.mp hthere
    have hsame : ((fun i : Place × Item ↦ decide (i.1 = place)) ∘
        fun i ↦ if i.1 = place then (place, item) else i) = fun i ↦ decide (i.1 = place) := by
      funext j
      by_cases hj : j.1 = place <;> simp [hj]
    rw [List.find?_map, hsame]
    cases hfound : d.items.find? fun i ↦ decide (i.1 = place) with
    | none => exact absurd hplace (List.find?_eq_none.mp hfound i hi)
    | some j =>
      have hj : j.1 = place := by simpa using List.find?_some hfound
      simp [hj]
  · rename_i hmissing
    have hnone : d.items.find? (fun i ↦ decide (i.1 = place)) = none := by
      rw [List.find?_eq_none]
      exact fun i hi hplace ↦ hmissing (List.any_eq_true.mpr ⟨i, hi, hplace⟩)
    rw [List.find?_append, hnone]
    simp

theorem item?_clear_self {place : Place} (h : place ≠ []) : (d.clear place).item? place = none := by
  unfold item?
  rw [if_neg h]
  have hnone : (d.clear place).items.find? (fun i ↦ decide (i.1 = place)) = none := by
    rw [List.find?_eq_none]
    intro i hi hplace
    have hkept := (List.mem_filter.mp hi).2
    rw [decide_eq_true_eq] at hplace
    have hself : place.isPrefixOf place = true :=
      List.isPrefixOf_iff_prefix.mpr (List.prefix_refl place)
    rw [hplace, hself] at hkept
    cases hkept
  rw [hnone]
  rfl

@[simp] theorem working_put (place : Place) (item : Item) :
    (d.put place item).working = d.working := by
  unfold put
  split <;> rfl

@[simp] theorem working_clear (place : Place) : (d.clear place).working = d.working := rfl

@[simp] theorem working_relocate (source target : Place) :
    (d.relocate source target).working = d.working := rfl

/-- What is put below a place is taken away with the place. -/
theorem clear_put_of_prefix {place q : Place} (h : place <+: q) (item : Item) :
    (d.put q item).clear place = d.clear place := by
  have hout : (!place.isPrefixOf q) = false := by
    rw [Bool.not_eq_false', List.isPrefixOf_iff_prefix]
    exact h
  have hitems : (d.put q item).part (fun p ↦ !place.isPrefixOf p) =
      d.part fun p ↦ !place.isPrefixOf p := part_put hout
  unfold clear
  rw [working_put]
  exact congrArg (Disk.mk d.working) hitems

/-! ### What each operation changes -/

theorem checked_eq_ok {α : Type} {p : Path} {x : Except DiskCause α} {a : α}
    (h : checked p x = .ok a) : p.holdsNull = false ∧ x = .ok a := by
  unfold checked at h
  split at h
  · cases h
  · rename_i hnull
    refine ⟨by simpa using hnull, ?_⟩
    cases x with
    | ok b =>
      cases h
      rfl
    | error cause => cases h

theorem checked_eq_error {α : Type} {p : Path} {x : Except DiskCause α} {fault : Fault}
    (hp : p.holdsNull = false) (h : checked p x = .error fault) : ∃ f, fault = .disk f := by
  unfold checked at h
  rw [hp] at h
  cases x with
  | ok a => cases h
  | error cause =>
    cases h
    exact ⟨_, rfl⟩

theorem makeDirectory_eq_ok {p : Path} (h : d.makeDirectory p = .ok d') :
    p.holdsNull = false ∧ d.locate p = .ok (p.resolve d.working) ∧
      d.item? (p.resolve d.working) = none ∧ d' = d.put (p.resolve d.working) .directory := by
  obtain ⟨hnull, hmade⟩ := checked_eq_ok h
  obtain ⟨place, hplace, hmade⟩ := Except.bind_eq_ok_iff.mp hmade
  obtain rfl := eq_resolve_of_locate hplace
  refine ⟨hnull, hplace, ?_⟩
  split at hmade
  · cases hmade
  · rename_i hmissing
    split at hmade
    · cases hmade
      exact ⟨hmissing, rfl⟩
    · cases hmade
    · cases hmade

theorem makeDirectory_eq_error {p : Path} {fault : Fault} (hp : p.holdsNull = false)
    (h : d.makeDirectory p = .error fault) : ∃ f, fault = .disk f :=
  checked_eq_error hp h

theorem writeContent_eq_ok {p : Path} {content : Bytes} (h : d.writeContent p content = .ok d') :
    d.locate p = .ok (p.resolve d.working) ∧ d.item? (p.resolve d.working) ≠ some .directory ∧
      d' = d.put (p.resolve d.working) (.file content) := by
  obtain ⟨-, hwritten⟩ := checked_eq_ok h
  obtain ⟨place, hplace, hwritten⟩ := Except.bind_eq_ok_iff.mp hwritten
  obtain rfl := eq_resolve_of_locate hplace
  refine ⟨hplace, ?_⟩
  split at hwritten
  · cases hwritten
  · rename_i hfile
    cases hwritten
    exact ⟨by simp [hfile], rfl⟩
  · rename_i hmissing
    split at hwritten
    · cases hwritten
      exact ⟨by simp [hmissing], rfl⟩
    · cases hwritten
    · cases hwritten

theorem writeContent_eq_error {p : Path} {content : Bytes} {fault : Fault}
    (hp : p.holdsNull = false) (h : d.writeContent p content = .error fault) :
    ∃ f, fault = .disk f :=
  checked_eq_error hp h

theorem eq_resolve_of_probe {p : Path} {place : Place} {item : Item}
    (h : d.probe p = .ok (place, item)) : place = p.resolve d.working :=
  eq_resolve_of_locate (probe_eq_ok_iff.mp h).1

theorem removeEntry_eq_ok {p : Path} (h : d.removeEntry p = .ok d') :
    d' = d ∨ d' = d.clear (p.resolve d.working) := by
  unfold removeEntry at h
  split at h
  · cases h
  · split at h
    · rename_i place content hfound
      cases h
      rw [eq_resolve_of_probe hfound]
      exact Or.inr rfl
    · cases h
    · cases h
      exact Or.inl rfl
    · cases h

theorem removeTree_eq_ok {p : Path} (h : d.removeTree p = .ok d') :
    d' = d.clear (p.resolve d.working) := by
  unfold removeTree at h
  split at h
  · cases h
  · split at h
    · rename_i place hfound
      cases h
      rw [eq_resolve_of_probe hfound]
    · cases h
    · cases h

theorem removeTree_eq_error {p : Path} {fault : Fault} (hp : p.holdsNull = false)
    (h : d.removeTree p = .error fault) : ∃ f, fault = .disk f := by
  unfold removeTree at h
  rw [if_neg (by simp [hp])] at h
  split at h
  · cases h
  · cases h
    exact ⟨_, rfl⟩
  · cases h
    exact ⟨_, rfl⟩

theorem look_eq_some {p : Path} {found : Place × Item} (h : d.look p = .ok (some found)) :
    d.probe p = .ok found := by
  unfold look at h
  split at h
  · cases h
  · split at h
    · rename_i found' hprobe
      cases h
      exact hprobe
    · cases h
    · cases h
    · cases h

theorem look_eq_error {p : Path} {fault : Fault} (h : d.look p = .error fault) :
    ∃ f, fault = .disk f := by
  unfold look at h
  split at h
  · cases h
  · split at h
    · cases h
    · cases h
    · cases h
    · cases h
      exact ⟨_, rfl⟩

theorem exists?_eq_error {p : Path} {fault : Fault} (h : d.exists? p = .error fault) :
    ∃ f, fault = .disk f := by
  rcases Except.bind_eq_error_iff.mp h with hlook | ⟨found, -, hfound⟩
  · exact look_eq_error hlook
  · cases hfound

theorem probe_of_not_exists {p : Path} (hp : p.holdsNull = false)
    (h : d.exists? p = .ok false) :
    d.probe p = .error .noEntry ∨ d.probe p = .error .notDirectory := by
  obtain ⟨found, hlook, hfound⟩ := Except.bind_eq_ok_iff.mp h
  unfold look at hlook
  rw [if_neg (by simp [hp])] at hlook
  split at hlook
  · cases hlook
    cases hfound
  · rename_i hprobe
    exact Or.inl hprobe
  · rename_i hprobe
    exact Or.inr hprobe
  · cases hlook

/-- Below a path that can be walked, a name that does not exist has nothing at its place. -/
theorem item?_of_not_exists {p : Path} {name : String} (hname : name ≠ "..")
    (hp : (p.child name).holdsNull = false) (h : d.exists? (p.child name) = .ok false)
    (hdirs : ∀ n, d.item? ((p.upTo n).resolve d.working) = some .directory) :
    d.item? (p.resolve d.working ++ [name]) = none := by
  have hmissed := probe_of_not_exists hp h
  rw [← Path.resolve_child _ _ hname]
  cases hplace : d.locate (p.child name) with
  | error cause =>
    -- the walk comes to the name, so it can only have failed for a length, and `exists?` with it
    obtain rfl := locate_child_eq_error hdirs hplace
    simp [probe, hplace, bind, Except.bind] at hmissed
  | ok place =>
    obtain rfl := eq_resolve_of_locate hplace
    cases hitem : d.item? ((p.child name).resolve d.working) with
    | none => rfl
    | some item =>
      rw [probe_eq_ok_iff.mpr ⟨hplace, hitem⟩] at hmissed
      simp at hmissed

theorem isDirectory?_eq_error {p : Path} {fault : Fault} (h : d.isDirectory? p = .error fault) :
    ∃ f, fault = .disk f := by
  rcases Except.bind_eq_error_iff.mp h with hlook | ⟨found, -, hfound⟩
  · exact look_eq_error hlook
  · split at hfound <;> cases hfound

theorem probe_of_isDirectory {p : Path} (h : d.isDirectory? p = .ok true) :
    p.holdsNull = false ∧ d.probe p = .ok (p.resolve d.working, .directory) := by
  obtain ⟨found, hlook, hfound⟩ := Except.bind_eq_ok_iff.mp h
  split at hfound
  · rename_i place
    unfold look at hlook
    split at hlook
    · cases hlook
    · rename_i hnull
      refine ⟨by simpa using hnull, ?_⟩
      split at hlook
      · rename_i hprobe
        cases hlook
        rwa [← eq_resolve_of_probe hprobe]
      · cases hlook
      · cases hlook
      · cases hlook
  · cases hfound

theorem isDirectory?_of_probe {p : Path} {place : Place} (hp : p.holdsNull = false)
    (h : d.probe p = .ok (place, .directory)) : d.isDirectory? p = .ok true := by
  unfold isDirectory? look
  rw [if_neg (by simp [hp]), h]
  rfl

/-- Moving a directory walks both paths and either puts it where nothing is or takes an empty
directory away first. -/
theorem moveDirectory_eq_ok {source target : Path} (h : d.moveDirectory source target = .ok d') :
    d.locate source = .ok (source.resolve d.working) ∧
      d.locate target = .ok (target.resolve d.working) ∧
      (d' = d.relocate (source.resolve d.working) (target.resolve d.working) ∨
        d' = (d.clear (target.resolve d.working)).relocate (source.resolve d.working)
          (target.resolve d.working)) := by
  unfold moveDirectory at h
  dsimp only at h
  split at h
  · rename_i moved houtcome
    cases h
    obtain ⟨⟨origin, item⟩, hfound, houtcome⟩ := Except.bind_eq_ok_iff.mp houtcome
    obtain ⟨goal, hgoal, houtcome⟩ := Except.bind_eq_ok_iff.mp houtcome
    have hsource := (probe_eq_ok_iff.mp hfound).1
    obtain rfl := eq_resolve_of_locate hsource
    obtain rfl := eq_resolve_of_locate hgoal
    refine ⟨hsource, hgoal, ?_⟩
    split at houtcome
    · cases houtcome
    · split at houtcome
      · cases houtcome
        exact Or.inr rfl
      · cases houtcome
    · split at houtcome
      · cases houtcome
        exact Or.inl rfl
      · cases houtcome
      · cases houtcome
  · cases h

theorem moveDirectory_eq_error {source target : Path} {fault : Fault}
    (h : d.moveDirectory source target = .error fault) : ∃ f, fault = .disk f := by
  unfold moveDirectory at h
  dsimp only at h
  split at h
  · cases h
  · cases h
    exact ⟨_, rfl⟩

/-- A temporary directory is made under one of the names for temporary directories. -/
theorem makeTemporary_eq_ok {parent p : Path} {beginning : String}
    (h : d.makeTemporary parent beginning = .ok (p, d')) :
    ∃ n, p = parent.child (temporaryName beginning n) ∧ d.makeDirectory p = .ok d' := by
  unfold makeTemporary at h
  dsimp only at h
  split at h
  · rename_i q hfree
    obtain ⟨n, -, rfl⟩ := List.mem_map.mp (List.mem_of_find?_eq_some hfree)
    obtain ⟨made, hmade, hpair⟩ := Except.bind_eq_ok_iff.mp h
    cases hpair
    exact ⟨n, rfl, hmade⟩
  · cases h

theorem makeTemporary_eq_error {parent : Path} {beginning : String} {fault : Fault}
    (hnames : ∀ n, (parent.child (temporaryName beginning n)).holdsNull = false)
    (h : d.makeTemporary parent beginning = .error fault) : ∃ f, fault = .disk f := by
  unfold makeTemporary at h
  dsimp only at h
  split at h
  · rename_i q hfree
    obtain ⟨n, -, rfl⟩ := List.mem_map.mp (List.mem_of_find?_eq_some hfree)
    rcases Except.bind_eq_error_iff.mp h with hmade | ⟨made, -, hpair⟩
    · exact makeDirectory_eq_error (hnames n) hmade
    · cases hpair
  · cases h
    exact ⟨_, rfl⟩

end FormCatalog.Disk
