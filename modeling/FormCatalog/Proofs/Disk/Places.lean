import FormCatalog.Disk.Basic
import FormCatalog.Disk.Confined
import FormCatalog.Proofs.Programs

/-!
# Where paths lead

A path is followed by its text alone (`Path.resolve`), and it is walked on a disk (`Disk.walk`). The
two agree: a walk succeeds exactly when no component is too long and every place that the path
visits before its end is a directory, and it ends where the text says (`walk_eq_ok_iff`). So whether
a path can be walked depends on the places it visits only, and a path that visits a place inside a
tree and ends outside of it visits the root of the tree (`exists_take_eq_of_leaves`).

`Place.Plain` says of a place that its components are names: then the path from the root to the
place leads there, and so does a name that was confined to a plain base (`Path.confined_eq_some`).
-/

set_option autoImplicit false
set_option relaxedAutoImplicit false

namespace FormCatalog

/-- The components of a place are names: none takes another one back, and none holds the character
that no path may hold. -/
structure Place.Plain (place : Place) : Prop where
  noReturn : ".." ∉ place
  noNull : (Path.ofPlace place).holdsNull = false

/-- Neither of two places is inside the tree at the other one. -/
def Place.Apart (p q : Place) : Prop := ¬ p <+: q ∧ ¬ q <+: p

theorem Place.not_name_prefix (base : Place) (name : String) : ¬ base ++ [name] <+: base := by
  intro h
  have hlength := h.length_le
  rw [List.length_append, List.length_singleton] at hlength
  omega

theorem Place.name_prefix_iff {base below : Place} {a b : String} :
    base ++ [a] <+: base ++ b :: below ↔ a = b := by
  rw [List.prefix_append_right_inj, List.cons_prefix_cons]
  exact and_iff_left List.nil_prefix

/-- Two names in one directory are apart, with all that is below the one. -/
theorem Place.apart_names {base below : Place} {a b : String} (h : a ≠ b) :
    Place.Apart (base ++ [a] ++ below) (base ++ [b]) := by
  constructor
  · intro hbegins
    rw [List.append_assoc, List.prefix_append_right_inj] at hbegins
    have hsame := (List.cons_prefix_cons.mp hbegins).1
    exact h hsame
  · intro hbegins
    rw [List.append_assoc, List.prefix_append_right_inj] at hbegins
    have hsame := (List.cons_prefix_cons.mp hbegins).1
    exact h hsame.symm

theorem Place.apart_siblings {base : Place} {a b : String} (h : a ≠ b) :
    Place.Apart (base ++ [a]) (base ++ [b]) := by
  have hnames : Place.Apart (base ++ [a] ++ []) (base ++ [b]) := Place.apart_names h
  rwa [List.append_nil] at hnames

/-- The root has every place inside it. -/
theorem Place.Apart.ne_nil {p q : Place} (h : Place.Apart p q) : p ≠ [] ∧ q ≠ [] := by
  constructor
  · rintro rfl
    exact h.1 List.nil_prefix
  · rintro rfl
    exact h.2 List.nil_prefix

/-- What is apart from a tree is apart from all that is inside it. -/
theorem Place.Apart.not_both {p q r : Place} (h : Place.Apart p q) (hp : p <+: r) : ¬ q <+: r := by
  intro hq
  rcases List.prefix_or_prefix_of_prefix hp hq with hpq | hqp
  · exact h.1 hpq
  · exact h.2 hqp

namespace Path

/-- The beginning of a path: its first components. -/
def upTo (p : Path) (n : Nat) : Path := ⟨p.slashes, p.parts.take n⟩

@[simp] theorem upTo_length (p : Path) : p.upTo p.parts.length = p := by
  simp [upTo]

theorem upTo_child {p : Path} {n : Nat} (h : n ≤ p.parts.length) (name : String) :
    (p.child name).upTo n = p.upTo n := by
  simp only [upTo, child, Path.mk.injEq, true_and]
  exact List.take_append_of_le_length h

/-- Beyond its end a path has no more beginnings. -/
theorem upTo_min (p : Path) (n : Nat) : p.upTo (min n p.parts.length) = p.upTo n := by
  simp only [upTo, Path.mk.injEq, true_and]
  rw [List.take_eq_take_iff]
  omega

/-- What comes above a beginning of a path is a beginning of the path. -/
theorem parent_upTo (p : Path) (n : Nat) :
    (p.upTo n).parent = p.upTo (min (n - 1) (p.parts.length - 1)) := by
  simp only [parent, upTo, List.dropLast_eq_take, List.length_take, List.take_take,
    Path.mk.injEq, true_and]
  rw [List.take_eq_take_iff]
  omega

/-! ### Following by the text -/

/-- One component, followed from a place. -/
def step (here : Place) (c : String) : Place := if c = ".." then here.dropLast else here ++ [c]

theorem follow_cons (place : Place) (c : String) (rest : List String) :
    follow place (c :: rest) = follow (step place c) rest := rfl

theorem follow_append (place : Place) (before after : List String) :
    follow place (before ++ after) = follow (follow place before) after :=
  List.foldl_append

theorem follow_of_noReturn {parts : List String} (h : ".." ∉ parts) (place : Place) :
    follow place parts = place ++ parts := by
  induction parts generalizing place with
  | nil => simp [follow]
  | cons c rest ih =>
    have hc : c ≠ ".." := by rintro rfl; simp at h
    have hrest : ".." ∉ rest := fun hmem ↦ h (List.mem_cons_of_mem _ hmem)
    rw [follow_cons, step, if_neg hc, ih hrest, List.append_assoc, List.singleton_append]

theorem mem_follow {place : Place} {parts : List String} {c : String}
    (h : c ∈ follow place parts) : c ∈ place ∨ (c ∈ parts ∧ c ≠ "..") := by
  induction parts generalizing place with
  | nil => exact Or.inl h
  | cons head rest ih =>
    rw [follow_cons] at h
    rcases ih h with hplace | ⟨hrest, hc⟩
    · unfold step at hplace
      split at hplace
      · exact Or.inl ((List.dropLast_sublist place).subset hplace)
      · rename_i hhead
        rcases List.mem_append.mp hplace with hplace | hplace
        · exact Or.inl hplace
        · obtain rfl := List.mem_singleton.mp hplace
          exact Or.inr ⟨List.mem_cons_self, hhead⟩
    · exact Or.inr ⟨List.mem_cons_of_mem _ hrest, hc⟩

theorem resolve_child (working : Place) (p : Path) {name : String} (h : name ≠ "..") :
    (p.child name).resolve working = p.resolve working ++ [name] := by
  change follow (if p.isAbsolute then [] else working) (p.parts ++ [name]) = _
  rw [follow_append, follow_cons, step, if_neg h]
  rfl

theorem resolve_ofPlace {place : Place} (h : ".." ∉ place) (working : Place) :
    (ofPlace place).resolve working = place := by
  change follow [] place = place
  rw [follow_of_noReturn h, List.nil_append]

/-- The path to what is above a place stays on the way to the place. -/
theorem resolve_parent_upTo_prefix {place : Place} (h : ".." ∉ place) (n : Nat)
    (working : Place) : ((ofPlace place).parent.upTo n).resolve working <+: place := by
  have hbegins : place.dropLast.take n <+: place :=
    (List.take_prefix _ _).trans (List.dropLast_prefix _)
  have hreturn : ".." ∉ place.dropLast.take n := fun hmem ↦ h (hbegins.subset hmem)
  rwa [show (ofPlace place).parent.upTo n = ofPlace (place.dropLast.take n) from rfl,
    resolve_ofPlace hreturn]

/-- A path that takes no component back goes down only. -/
theorem resolve_upTo_prefix {p : Path} (h : ".." ∉ p.parts) (n : Nat) (working : Place) :
    (p.upTo n).resolve working <+: p.resolve working := by
  have htake : ".." ∉ p.parts.take n := fun hmem ↦ h (List.mem_of_mem_take hmem)
  change follow (if p.isAbsolute then [] else working) (p.parts.take n) <+:
    follow (if p.isAbsolute then [] else working) p.parts
  rw [follow_of_noReturn htake, follow_of_noReturn h, List.prefix_append_right_inj]
  exact List.take_prefix n p.parts

/-- A path that ends outside of a tree and visits a place inside it visits the root of the tree, and
does so before its end. -/
theorem exists_take_eq_of_leaves {root place : Place} {parts : List String} {n : Nat}
    (hvisit : root <+: follow place (parts.take n)) (hend : ¬ root <+: follow place parts) :
    ∃ m < parts.length, follow place (parts.take m) = root := by
  induction parts generalizing place n with
  | nil => exact absurd (by simpa using hvisit) hend
  | cons c rest ih =>
    by_cases hnext : ∃ k, root <+: follow (step place c) (rest.take k)
    · obtain ⟨k, hk⟩ := hnext
      obtain ⟨m, hm, hroot⟩ := ih hk hend
      exact ⟨m + 1, by simpa using hm, hroot⟩
    · -- from here on the path stays outside, so the visit was at the very beginning
      have hstep : ¬ root <+: step place c := fun h ↦ hnext ⟨0, by simpa [follow] using h⟩
      have hplace : root <+: place := by
        cases n with
        | zero => simpa [follow] using hvisit
        | succ k => exact absurd ⟨k, hvisit⟩ hnext
      refine ⟨0, by simp, ?_⟩
      change place = root
      unfold step at hstep
      split at hstep
      · rcases List.eq_nil_or_concat place with rfl | ⟨above, last, rfl⟩
        · exact absurd (by simpa using hplace) hstep
        · rw [List.concat_eq_append] at hplace hstep ⊢
          rw [List.dropLast_concat] at hstep
          rcases List.prefix_concat_iff.mp hplace with hroot | habove
          · exact hroot.symm
          · exact absurd habove hstep
      · exact absurd (hplace.trans (List.prefix_append _ _)) hstep

end Path

/-! ### Walking on a disk -/

namespace Disk

open FormCatalog.Path

variable {d : Disk}

/-- A walk succeeds exactly when no component is too long and every place visited before the end is
a directory, and it ends where the text says. -/
theorem walk_eq_ok_iff {place goal : Place} {parts : List String} :
    d.walk place parts = .ok goal ↔
      goal = follow place parts ∧
      (∀ c ∈ parts, c ≠ ".." → c.utf8ByteSize ≤ componentLimit) ∧
      ∀ n < parts.length, d.item? (follow place (parts.take n)) = some .directory := by
  induction parts generalizing place with
  | nil => simp [walk, follow, eq_comm]
  | cons c rest ih =>
    rw [List.length_cons, Nat.forall_lt_succ_left, List.forall_mem_cons]
    change d.walk place (c :: rest) = .ok goal ↔ goal = follow (step place c) rest ∧
      ((c ≠ ".." → c.utf8ByteSize ≤ componentLimit) ∧
        ∀ c ∈ rest, c ≠ ".." → c.utf8ByteSize ≤ componentLimit) ∧
      d.item? place = some .directory ∧
      ∀ n < rest.length, d.item? (follow (step place c) (rest.take n)) = some .directory
    unfold walk
    cases hitem : d.item? place with
    | none => simp
    | some item =>
      cases item with
      | file content => simp
      | directory =>
        by_cases hc : c = ".."
        · subst hc
          simp [step, ih]
        · by_cases hlong : c.utf8ByteSize > componentLimit
          · have hnot : ¬ c.utf8ByteSize ≤ componentLimit := by omega
            simp [hc, hlong, hnot]
          · have hshort : c.utf8ByteSize ≤ componentLimit := by omega
            simp [hc, hlong, hshort, step, ih]

/-- A walk through directories only can fail for the length of a component alone. -/
theorem walk_eq_error {place : Place} {parts : List String} {cause : DiskCause}
    (hdirs : ∀ n < parts.length, d.item? (follow place (parts.take n)) = some .directory)
    (h : d.walk place parts = .error cause) : cause = .nameTooLong := by
  induction parts generalizing place with
  | nil => cases h
  | cons c rest ih =>
    have hhere : d.item? place = some .directory := hdirs 0 (by simp)
    have hrest : ∀ n < rest.length,
        d.item? (follow (step place c) (rest.take n)) = some .directory := fun n hn ↦
      hdirs (n + 1) (by simpa using hn)
    unfold walk at h
    rw [hhere] at h
    dsimp only at h
    split at h
    · rename_i hc
      exact ih (by simpa [step, hc] using hrest) h
    · rename_i hc
      split at h
      · cases h
        rfl
      · exact ih (by simpa [step, hc] using hrest) h

/-- Where a walk from the working place begins. -/
theorem locate_eq_ok_iff {p : Path} {place : Place} :
    d.locate p = .ok place ↔
      place = p.resolve d.working ∧ p.text.utf8ByteSize < pathLimit ∧
      (∀ c ∈ p.parts, c ≠ ".." → c.utf8ByteSize ≤ componentLimit) ∧
      ∀ n < p.parts.length, d.item? ((p.upTo n).resolve d.working) = some .directory := by
  unfold locate
  split
  · rename_i hlong
    have hnot : ¬ p.text.utf8ByteSize < pathLimit := by omega
    simp [hnot]
  · rename_i hshort
    have hlt : p.text.utf8ByteSize < pathLimit := by omega
    rw [walk_eq_ok_iff]
    simp only [hlt, true_and]
    rfl

theorem locate_eq_error {p : Path} {cause : DiskCause}
    (hdirs : ∀ n < p.parts.length, d.item? ((p.upTo n).resolve d.working) = some .directory)
    (h : d.locate p = .error cause) : cause = .nameTooLong := by
  unfold locate at h
  split at h
  · cases h
    rfl
  · exact walk_eq_error hdirs h

theorem eq_resolve_of_locate {p : Path} {place : Place} (h : d.locate p = .ok place) :
    place = p.resolve d.working :=
  (locate_eq_ok_iff.mp h).1

theorem probe_eq_ok_iff {p : Path} {place : Place} {item : Item} :
    d.probe p = .ok (place, item) ↔ d.locate p = .ok place ∧ d.item? place = some item := by
  unfold probe
  rw [Except.bind_eq_ok_iff]
  constructor
  · rintro ⟨found, hplace, hfound⟩
    cases hitem : d.item? found with
    | none => simp [hitem] at hfound
    | some there =>
      simp only [hitem, Except.ok.injEq, Prod.mk.injEq] at hfound
      obtain ⟨rfl, rfl⟩ := hfound
      exact ⟨hplace, hitem⟩
  · rintro ⟨hplace, hitem⟩
    exact ⟨place, hplace, by simp [hitem]⟩

/-- When a name below a path can be reached, all places that the path visits are directories. -/
theorem directory_of_locate_child {p : Path} {name : String} {place : Place}
    (h : d.locate (p.child name) = .ok place) (n : Nat) :
    d.item? ((p.upTo n).resolve d.working) = some .directory := by
  obtain ⟨-, -, -, hdirs⟩ := locate_eq_ok_iff.mp h
  have hlength : (p.child name).parts.length = p.parts.length + 1 := List.length_append
  have hvisited := hdirs (min n p.parts.length) (by omega)
  rwa [upTo_child (Nat.min_le_right _ _), upTo_min] at hvisited

/-- Where all places that a path visits are directories, a name below it is missed only when nothing
is there, or when it is too long. -/
theorem locate_child_eq_error {p : Path} {name : String} {cause : DiskCause}
    (hdirs : ∀ n, d.item? ((p.upTo n).resolve d.working) = some .directory)
    (h : d.locate (p.child name) = .error cause) : cause = .nameTooLong := by
  refine locate_eq_error (fun n hn ↦ ?_) h
  have hlength : (p.child name).parts.length = p.parts.length + 1 := List.length_append
  rw [upTo_child (by omega)]
  exact hdirs n

/-- A path that visits a place inside a tree, and ends outside of it at a place below which a name
can be reached, finds a directory at the root of the tree. -/
theorem directory_of_leaves {p : Path} {name : String} {root place : Place} {n : Nat}
    (h : d.locate (p.child name) = .ok place) (hvisit : root <+: (p.upTo n).resolve d.working)
    (hend : ¬ root <+: p.resolve d.working) : d.item? root = some .directory := by
  obtain ⟨m, -, hroot⟩ := exists_take_eq_of_leaves hvisit hend
  have hdir := directory_of_locate_child h m
  rwa [show (p.upTo m).resolve d.working = root from hroot] at hdir

end Disk

/-! ### Names confined to a base -/

theorem Path.holdsNull_eq_false_iff {p : Path} :
    p.holdsNull = false ↔ ∀ c ∈ p.parts, Char.ofNat 0 ∉ c.toList := by
  simp [Path.holdsNull]

theorem Path.holdsNull_child (p : Path) {name : String} (h : Char.ofNat 0 ∉ name.toList) :
    (p.child name).holdsNull = p.holdsNull := by
  simp [Path.holdsNull, Path.child, h]

theorem Place.plain_nil : Place.Plain [] where
  noReturn := by simp
  noNull := rfl

/-- A plain place stays plain when components without the forbidden character are followed. -/
theorem Place.Plain.follow {place : Place} (h : place.Plain) {parts : List String}
    (hnull : ∀ c ∈ parts, Char.ofNat 0 ∉ c.toList) : (Path.follow place parts).Plain where
  noReturn := fun hmem ↦ by
    rcases Path.mem_follow hmem with hplace | ⟨-, hne⟩
    · exact h.noReturn hplace
    · exact hne rfl
  noNull := by
    rw [Path.holdsNull_eq_false_iff]
    intro c hc
    rcases Path.mem_follow hc with hplace | ⟨hparts, -⟩
    · exact Path.holdsNull_eq_false_iff.mp h.noNull c hplace
    · exact hnull c hparts

theorem Place.Plain.resolve {working : Place} (h : working.Plain) {p : Path}
    (hp : p.holdsNull = false) : (p.resolve working).Plain := by
  have hnull := Path.holdsNull_eq_false_iff.mp hp
  unfold Path.resolve
  split
  · exact Place.plain_nil.follow hnull
  · exact h.follow hnull

/-- The path from the root to a plain place leads there. -/
theorem Place.Plain.resolve_ofPlace {place : Place} (h : place.Plain) (working : Place) :
    (Path.ofPlace place).resolve working = place :=
  Path.resolve_ofPlace h.noReturn working

theorem Path.holdsNull_join {p q : Path} (hp : p.holdsNull = false)
    (h : (p.join q).holdsNull = true) : q.holdsNull = true := by
  unfold join at h
  split at h
  · exact h
  · have happend : (⟨p.slashes, p.parts ++ q.parts⟩ : Path).holdsNull =
        (p.holdsNull || q.holdsNull) := List.any_append
    rw [happend, hp] at h
    exact h

/-- What a confined name means is at the base or below it, and is written out in full. -/
theorem Path.confined_eq_some {working : Place} (hworking : working.Plain) {base target : Path}
    {name : String} (h : base.confined working name = .ok (some target)) :
    ∃ below, (base.resolve working ++ below).Plain ∧
      target = ofPlace (base.resolve working ++ below) := by
  unfold confined at h
  dsimp only at h
  split at h
  · cases h
  · rename_i hnull
    split at h
    · rename_i hinside
      obtain ⟨below, hbelow⟩ := List.isPrefixOf_iff_prefix.mp hinside
      have hplain : ((base.join (ofText name)).resolve working).Plain :=
        hworking.resolve (by simpa using hnull)
      refine ⟨below, ?_⟩
      rw [hbelow]
      exact ⟨hplain, by cases h; rfl⟩
    · cases h

/-- Confining a name fails only for a name that holds the forbidden character. -/
theorem Path.confined_eq_error {working : Place} {base : Path} {name : String} {fault : Fault}
    (hbase : base.holdsNull = false) (h : base.confined working name = .error fault) :
    (ofText name).holdsNull = true ∧ fault = .invalid "embedded null byte" := by
  unfold confined at h
  dsimp only at h
  split at h
  · rename_i hnull
    cases h
    exact ⟨holdsNull_join hbase hnull, rfl⟩
  · split at h <;> cases h

end FormCatalog
