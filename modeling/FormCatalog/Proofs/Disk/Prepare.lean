import FormCatalog.Proofs.Disk.Changes
import FormCatalog.Proofs.Programs

/-!
# Making a directory with the missing ones above it

`Disk.prepare` makes the directories that are missing on the way to a path, the upper ones first.
Whatever it ends in, all it has done is to put directories at places that the path visits and where
nothing was (`guards_prepare`). When it succeeds, the path leads to a directory
(`probe_of_prepare`), and where the path leads to a directory already it succeeds and changes
nothing (`prepare_of_probe`).
-/

set_option autoImplicit false
set_option relaxedAutoImplicit false

namespace FormCatalog.Disk

open Op

variable {d d' : Disk} {inv : Disk → Prop} {blame : Fault → Prop}

theorem ends_update {f : Disk → Except Fault Disk} {post : Except Fault Unit → Disk → Prop} :
    Ends (update f) d post ↔
      match f d with
      | .ok d' => post (.ok ()) d'
      | .error e => post (.error e) d := by
  unfold update
  rw [ends_bind, ends_get, Next, ends_bind, ends_ofExcept]
  cases f d <;> rfl

theorem guards_update {f : Disk → Except Fault Disk} (hok : ∀ d d', inv d → f d = .ok d' → inv d')
    (herror : ∀ d e, inv d → f d = .error e → blame e) : Guards inv blame (update f) := by
  intro d hd
  rw [ends_update]
  cases hf : f d with
  | ok d' => exact ⟨hok d d' hd hf, fun _ he ↦ by cases he⟩
  | error e => exact ⟨hd, fun _ he ↦ by cases he; exact herror d e hd hf⟩

/-- Accepting a directory that is there finds it there and changes nothing. -/
theorem acceptExisting_eq_ok {p : Path} {fault : Fault} (h : d.acceptExisting p fault = .ok d') :
    d' = d ∧ p.holdsNull = false ∧ d.probe p = .ok (p.resolve d.working, .directory) := by
  unfold acceptExisting at h
  split at h
  · obtain ⟨found, hfound, h⟩ := Except.bind_eq_ok_iff.mp h
    cases found with
    | false => cases h
    | true =>
      cases h
      exact ⟨rfl, probe_of_isDirectory hfound⟩
  · cases h

theorem acceptExisting_eq_error {p : Path} {fault e : Fault}
    (h : d.acceptExisting p fault = .error e) : e = fault ∨ ∃ f, e = .disk f := by
  unfold acceptExisting at h
  split at h
  · rcases Except.bind_eq_error_iff.mp h with hasked | ⟨found, -, h⟩
    · exact Or.inr (isDirectory?_eq_error hasked)
    · cases found with
      | false =>
        cases h
        exact Or.inl rfl
      | true => cases h
  · cases h
    exact Or.inl rfl

/-! ### What is put on the way -/

/-- What making every directory on the way keeps is kept by the whole, and the faults are those of
making one directory and those of the file system. -/
theorem guards_prepareWithin_of_make {p : Path}
    (hmake : ∀ n, Guards inv blame (update (·.makeDirectory (p.upTo n))))
    (hdisk : ∀ f, blame (.disk f)) (depth : Nat) : Guards inv blame (prepareWithin p depth) := by
  have haccept {q : Path} {fault : Fault} (hfault : blame fault) :
      Guards inv blame (update (·.acceptExisting q fault)) := by
    refine guards_update (fun d d' hd haccepted ↦ ?_) fun d e _ he ↦ ?_
    · rw [(acceptExisting_eq_ok haccepted).1]
      exact hd
    · rcases acceptExisting_eq_error he with rfl | ⟨f, rfl⟩
      · exact hfault
      · exact hdisk f
  -- The parent is prepared by the same program, so the induction is on all beginnings of the path.
  suffices h : ∀ k, Guards inv blame (prepareWithin (p.upTo k) depth) by
    simpa using h p.parts.length
  induction depth with
  | zero => exact fun k ↦ hmake k
  | succ depth ih =>
    intro k
    unfold prepareWithin
    refine (hmake k).attempt_bind (fun _ ↦ guards_pure) fun fault hfault ↦ ?_
    dsimp only
    split
    · split
      · exact guards_throw hfault
      · rw [Path.parent_upTo]
        refine (ih _).bind fun _ ↦ (hmake k).attempt_bind (fun _ ↦ guards_pure) ?_
        intro fault hfault
        dsimp only
        split
        · exact guards_throw hfault
        · exact haccept hfault
    · exact haccept hfault

/-- A property that survives every directory put on the way survives the whole. -/
theorem guards_prepareWithin {working : Place} {p : Path}
    (hworking : ∀ d, inv d → d.working = working)
    (hput : ∀ d n, inv d → d.item? ((p.upTo n).resolve working) = none →
      inv (d.put ((p.upTo n).resolve working) .directory))
    (hblame : ∀ (d : Disk) n e, d.makeDirectory (p.upTo n) = .error e → blame e)
    (hdisk : ∀ f, blame (.disk f)) (depth : Nat) :
    Guards inv blame (prepareWithin p depth) := by
  refine guards_prepareWithin_of_make (fun n ↦ guards_update (fun d d' hd hmade ↦ ?_)
    fun d e _ he ↦ hblame d n e he) hdisk depth
  obtain ⟨-, -, hmissing, rfl⟩ := makeDirectory_eq_ok hmade
  rw [hworking d hd] at hmissing ⊢
  exact hput d n hd hmissing

theorem guards_prepare {working : Place} {p : Path} (hworking : ∀ d, inv d → d.working = working)
    (hput : ∀ d n, inv d → d.item? ((p.upTo n).resolve working) = none →
      inv (d.put ((p.upTo n).resolve working) .directory))
    (hblame : ∀ (d : Disk) n e, d.makeDirectory (p.upTo n) = .error e → blame e)
    (hdisk : ∀ f, blame (.disk f)) : Guards inv blame (prepare p) :=
  guards_prepareWithin hworking hput hblame hdisk _

/-- Preparing a directory fails because the file system refuses, or because of a null character. -/
theorem prepare_eq_error {p : Path} {e : Fault} (h : prepare p d = .error e d') :
    (∃ f, e = .disk f) ∨ e = .invalid "embedded null byte" := by
  have hguards : Guards (fun c : Disk ↦ c.working = d.working)
      (fun e ↦ (∃ f, e = .disk f) ∨ e = .invalid "embedded null byte") (prepare p) := by
    refine guards_prepare (fun _ hc ↦ hc) (fun c n hc _ ↦ by rw [working_put, hc])
      (fun c n e he ↦ ?_) fun f ↦ Or.inl ⟨f, rfl⟩
    cases hnull : (p.upTo n).holdsNull with
    | false => exact Or.inl (makeDirectory_eq_error hnull he)
    | true =>
      unfold makeDirectory checked at he
      rw [hnull] at he
      cases he
      exact Or.inr rfl
  exact ((hguards d rfl).of_error h).2 e rfl

/-! ### The directory is there afterwards -/

/-- A directory that was made is there. -/
theorem probe_of_makeDirectory {p : Path} (h : d.makeDirectory p = .ok d') :
    d'.probe p = .ok (p.resolve d'.working, .directory) := by
  obtain ⟨-, hplace, hmissing, rfl⟩ := makeDirectory_eq_ok h
  obtain ⟨-, hshort, hnames, hdirs⟩ := locate_eq_ok_iff.mp hplace
  rw [probe_eq_ok_iff, working_put]
  constructor
  · refine locate_eq_ok_iff.mpr ⟨by rw [working_put], hshort, hnames, fun n hn ↦ ?_⟩
    have hdir := hdirs n hn
    rw [working_put, item?_put_of_ne]
    · exact hdir
    · intro hsame
      rw [hsame, hdir] at hmissing
      cases hmissing
  · refine item?_put_self ?_ _
    intro hroot
    rw [hroot] at hmissing
    cases hmissing

/-- Wherever the program starts from, the path leads to a directory when it returns. -/
def Provides (p : Path) (x : Op Disk Unit) : Prop :=
  ∀ d, IfReturns x d fun _ d' ↦
    p.holdsNull = false ∧ d'.probe p = .ok (p.resolve d'.working, .directory)

variable {p : Path}

theorem ifReturns_update {f : Disk → Except Fault Disk} :
    IfReturns (update f) d fun _ d' ↦ f d = .ok d' := by
  unfold IfReturns
  rw [ends_update]
  cases hf : f d with
  | error e => exact fun _ hr ↦ by cases hr
  | ok d' => exact fun _ _ ↦ rfl

theorem provides_makeDirectory : Provides p (update (·.makeDirectory p)) :=
  fun _ ↦ ifReturns_update.mono fun _ _ hmade ↦
    ⟨(makeDirectory_eq_ok hmade).1, probe_of_makeDirectory hmade⟩

theorem provides_acceptExisting (fault : Fault) :
    Provides p (update (·.acceptExisting p fault)) := by
  refine fun d ↦ ifReturns_update.mono fun _ d' haccepted ↦ ?_
  obtain ⟨rfl, hthere⟩ := acceptExisting_eq_ok haccepted
  exact hthere

/-- A program that is tried first, and another one for the case that it is refused. -/
theorem Provides.attempt_bind {x : Op Disk Unit} {f : Except Fault Unit → Op Disk Unit}
    (hx : Provides p x) (hok : f (.ok ()) = pure ()) (herror : ∀ e, Provides p (f (.error e))) :
    Provides p (attempt x >>= f) := by
  refine fun d ↦ (ifReturns_attempt (hx d)).bind fun r u hu ↦ ?_
  cases r with
  | error e => exact herror e u
  | ok _ =>
    rw [hok]
    exact ifReturns_pure (hu () rfl)

theorem probe_of_prepare (h : prepare p d = .ok () d') :
    p.holdsNull = false ∧ d'.probe p = .ok (p.resolve d'.working, .directory) := by
  suffices hprovides : Provides p (prepare p) from (hprovides d).of_ok h
  unfold prepare prepareWithin
  refine provides_makeDirectory.attempt_bind rfl fun fault ↦ ?_
  dsimp only
  split
  · split
    · exact fun _ ↦ ifReturns_throw
    · refine fun _ ↦ ifReturns_bind fun _ ↦ provides_makeDirectory.attempt_bind rfl fun fault ↦ ?_
      dsimp only
      split
      · exact fun _ ↦ ifReturns_throw
      · exact provides_acceptExisting fault
  · exact provides_acceptExisting fault

/-- Where a path leads to a directory, nothing is left to prepare. -/
theorem prepare_of_probe {place : Place} (hp : p.holdsNull = false)
    (h : d.probe p = .ok (place, .directory)) : prepare p d = .ok () d := by
  obtain ⟨hplace, hitem⟩ := probe_eq_ok_iff.mp h
  have hrefused : d.makeDirectory p = refuse p .exists := by
    simp [makeDirectory, checked, hp, hplace, hitem, bind, Except.bind]
  have haccepted (fault : Fault) (hfault : isRefusal fault = true) :
      d.acceptExisting p fault = .ok d := by
    simp [acceptExisting, hfault, isDirectory?_of_probe hp h, bind, Except.bind]
  refine Ends.eq_ok ?_
  unfold prepare prepareWithin
  rw [ends_bind, ends_attempt, ends_update, hrefused, refuse]
  dsimp only [Next]
  rw [if_neg (by simp [isMissing]), ends_update, haccepted _ rfl]
  exact ⟨rfl, rfl⟩

end FormCatalog.Disk
