import FormCatalog.App.Basic
import FormCatalog.Proofs.Trigger.Recurring

/-!
# The update mode and the schedule

Passes are offered while the update mode asks the device to mirror the server, and they are to recur
on a schedule exactly then. A change of the mode writes the mode first and speaks to the scheduler
afterwards (`run_of_isRefused`, `run_of_accepted`), and the scheduler can refuse the interval. The
mode is then changed and the schedule is not.

`modeFollowed_of_together` says what this comes to over any number of changes. A change that is
carried out always brings the two together, whatever was the case before. A refused one leaves the
schedule as it was, and leaves the two together exactly if passes were scheduled already; if they
were not, the device says from then on that it mirrors the server and never does
(`refused_change_parts`).
-/

set_option autoImplicit false
set_option relaxedAutoImplicit false

namespace FormCatalog

open Op

/-! ### The scheduler of an app -/

namespace Scheduler

variable {s s' : Scheduler} {tag : String}

theorem isScheduled_cancel (s : Scheduler) (tag : String) :
    (s.cancel tag).isScheduled tag = false := by
  rw [← Bool.not_eq_true, isScheduled_iff]
  rintro ⟨place, hmem⟩
  obtain ⟨-, hne⟩ := List.mem_filter.mp hmem
  exact of_decide_eq_true hne rfl

/-- A task that was accepted is in charge of its tag, with its own interval. -/
theorem exists_of_schedule {interval : Number.Binary64} (h : s.schedule tag interval = .ok s') :
    ∃ place, (tag, place) ∈ s'.inCharge ∧ s'.tasks[place]? = some (tag, interval) := by
  cases hsign : interval.isZeroOrLess with
  | true =>
    rw [schedule_of_refused hsign] at h
    cases h
  | false =>
    rw [schedule_of_accepted hsign] at h
    cases h
    refine ⟨_, mem_inCharge_begun_iff.mpr (Or.inr ⟨rfl, rfl⟩), ?_⟩
    have hcount : (s.cancel tag).workers.length = (s.cancel tag).tasks.length :=
      (List.length_map _).symm
    rw [tasks_begun, hcount]
    exact List.getElem?_concat_length

end Scheduler

namespace App

variable {N : Type}

theorem heldIn : Scheduler.HeldIn (schedulerOf (N := N)) withScheduler :=
  ⟨fun _ _ ↦ rfl, fun _ _ ↦ rfl⟩

/-- Whether passes recur. -/
def recurs (s : AppState N) : Bool := (schedulerOf s).isScheduled Trigger.tag

/-- Passes are offered exactly while they recur. -/
def Together (s : AppState N) : Prop := s.isAvailable = true ↔ recurs s = true

instance (s : AppState N) : Decidable (Together s) :=
  inferInstanceAs (Decidable (s.isAvailable = true ↔ recurs s = true))

/-- A change of the mode, with an interval for the passes. -/
structure ModeChange where
  mode : UpdateMode
  interval : Number.Binary64
  deriving DecidableEq, Repr

namespace ModeChange

variable {change : ModeChange} {s : AppState N}

/-- What the change tells the scheduler. -/
def order (change : ModeChange) : Scheduler.Order :=
  if change.mode = .matchExactly then .schedule Trigger.tag change.interval
  else .cancel Trigger.tag

/-- The scheduler refuses what the change tells it. -/
def isRefused (change : ModeChange) : Bool :=
  change.mode = .matchExactly && change.interval.isZeroOrLess

/-- The program of a change. -/
def run (change : ModeChange) : Op (AppState N) Unit := setMode change.mode change.interval

/-- The state in which a change speaks to the scheduler. -/
def announced (change : ModeChange) (s : AppState N) : AppState N :=
  let s := { s with mode := change.mode }
  if change.mode = .matchExactly then
    Recording.record ⟨.info, .trigger,
      "Scheduling form sync every " ++ change.interval.wholeText ++ " seconds"⟩ s
  else s

theorem mode_announced (change : ModeChange) (s : AppState N) :
    (change.announced s).mode = change.mode := by
  unfold announced
  dsimp only
  split <;> rfl

theorem schedulerOf_announced (change : ModeChange) (s : AppState N) :
    schedulerOf (change.announced s) = schedulerOf s := by
  unfold announced
  dsimp only
  split <;> rfl

theorem isRefused_order (change : ModeChange) : change.order.isRefused = change.isRefused := by
  unfold order isRefused
  by_cases hmode : change.mode = .matchExactly
  · rw [if_pos hmode, decide_eq_true hmode, Bool.true_and]
    rfl
  · rw [if_neg hmode, decide_eq_false hmode, Bool.false_and]
    rfl

/-- A change sets the mode, and only then comes to the scheduler. -/
theorem run_eq (change : ModeChange) (s : AppState N) :
    change.run s = change.order.run schedulerOf withScheduler (change.announced s) := by
  unfold run setMode Trigger.setMode announced order
  by_cases hmode : change.mode = .matchExactly
  · rw [if_pos hmode, if_pos hmode, if_pos hmode]
    rfl
  · rw [if_neg hmode, if_neg hmode, if_neg hmode]
    rfl

/-- A refused change has set the mode all the same, and left the schedule as it was. -/
theorem run_of_isRefused (h : change.isRefused = true) (s : AppState N) :
    ∃ t, change.run s = .error (.invalid "interval_seconds must be positive") t ∧
      t.mode = .matchExactly ∧ schedulerOf t = schedulerOf s := by
  have horder : change.order.isRefused = true := by rw [isRefused_order, h]
  have hmode : change.mode = .matchExactly := by
    unfold isRefused at h
    exact of_decide_eq_true (Bool.and_eq_true_iff.mp h).1
  refine ⟨change.announced s, ?_, ?_, schedulerOf_announced change s⟩
  · rw [run_eq, Scheduler.run_of_isRefused _ _ horder]
  · rw [mode_announced, hmode]

/-- A change that is carried out has set the mode and told the scheduler. -/
theorem run_of_accepted (h : change.isRefused = false) (s : AppState N) :
    ∃ t, change.run s = .ok () t ∧ t.mode = change.mode ∧
      (schedulerOf s).ask change.order = .ok (schedulerOf t) := by
  have horder : change.order.isRefused = false := by rw [isRefused_order, h]
  obtain ⟨p, entries, hask, hrun⟩ :=
    Scheduler.run_of_accepted schedulerOf withScheduler horder (change.announced s)
  refine ⟨_, (run_eq change s).trans hrun, ?_, ?_⟩
  · have hview : ∀ (e : Entry) (s : AppState N), (Recording.record e s).mode = s.mode :=
      fun _ _ ↦ rfl
    rw [Scheduler.view_recorded hview]
    exact mode_announced change s
  · rw [heldIn.part_stored, ← hask, schedulerOf_announced]

/-- Whatever was the case before, passes recur after a change that is carried out exactly if they
are to. -/
theorem recurs_of_ask {t : AppState N}
    (h : (schedulerOf s).ask change.order = .ok (schedulerOf t)) :
    recurs t = true ↔ change.mode = .matchExactly := by
  unfold order at h
  unfold recurs
  by_cases hmode : change.mode = .matchExactly
  · rw [if_pos hmode] at h
    obtain ⟨place, hmem, -⟩ := Scheduler.exists_of_schedule h
    exact ⟨fun _ ↦ hmode, fun _ ↦ Scheduler.isScheduled_iff.mpr ⟨place, hmem⟩⟩
  · rw [if_neg hmode] at h
    rw [← Except.ok.inj h, Scheduler.isScheduled_cancel]
    exact ⟨fun hfalse ↦ absurd hfalse Bool.false_ne_true, fun h ↦ absurd h hmode⟩

end ModeChange

theorem isAvailable_iff {s : AppState N} : s.isAvailable = true ↔ s.mode = .matchExactly :=
  decide_eq_true_iff

theorem together_of_accepted {change : ModeChange} {s t : AppState N}
    (hmode : t.mode = change.mode) (hask : (schedulerOf s).ask change.order = .ok (schedulerOf t)) :
    Together t := by
  unfold Together
  rw [isAvailable_iff, hmode, ModeChange.recurs_of_ask hask]

theorem together_iff_of_refused {s t : AppState N} (hmode : t.mode = .matchExactly)
    (hsame : schedulerOf t = schedulerOf s) : Together t ↔ recurs s = true := by
  unfold Together recurs
  rw [isAvailable_iff, hsame]
  exact ⟨fun h ↦ h.mp hmode, fun h ↦ ⟨fun _ ↦ h, fun _ ↦ hmode⟩⟩

/-! ### Many changes -/

/-- The state that some changes lead to. A change that is refused does not keep the next from being
made. -/
def changed (changes : List ModeChange) : AppState N → AppState N :=
  afterAll (changes.map ModeChange.run)

theorem changed_concat (changes : List ModeChange) (change : ModeChange) (s : AppState N) :
    changed (changes ++ [change]) s = change.run.after (changed changes s) := by
  unfold changed
  rw [List.map_append, List.map_singleton, afterAll_concat]

/-- Only what the last change was and found decides. -/
theorem together_concat_iff (changes : List ModeChange) (change : ModeChange) (s : AppState N) :
    Together (changed (changes ++ [change]) s) ↔
      (change.isRefused = true → recurs (changed changes s) = true) := by
  rw [changed_concat]
  cases hsign : change.isRefused with
  | true =>
    obtain ⟨t, hrun, hmode, hsame⟩ := change.run_of_isRefused hsign (changed changes s)
    rw [after_of_error hrun, together_iff_of_refused hmode hsame]
    exact ⟨fun h _ ↦ h, fun h ↦ h rfl⟩
  | false =>
    obtain ⟨t, hrun, hmode, hask⟩ := change.run_of_accepted hsign (changed changes s)
    rw [after_of_ok hrun]
    exact ⟨fun _ hrefused ↦ absurd hrefused Bool.false_ne_true,
      fun _ ↦ together_of_accepted hmode hask⟩

theorem isAvailable_of_recurs {changes : List ModeChange} {change : ModeChange} {s : AppState N}
    (h : recurs (changed (changes ++ [change]) s) = true) :
    (changed (changes ++ [change]) s).isAvailable = true := by
  rw [changed_concat] at h ⊢
  cases hsign : change.isRefused with
  | true =>
    obtain ⟨t, hrun, hmode, -⟩ := change.run_of_isRefused hsign (changed changes s)
    rw [after_of_error hrun]
    exact isAvailable_iff.mpr hmode
  | false =>
    obtain ⟨t, hrun, hmode, hask⟩ := change.run_of_accepted hsign (changed changes s)
    rw [after_of_ok hrun] at h ⊢
    exact (together_of_accepted hmode hask).mpr h

/-- Mode and schedule where some changes led to. -/
structure ModeFollowed (changes : List ModeChange) (s : AppState N) : Prop where
  /-- Passes never recur unless they are offered. -/
  offered : recurs (changed changes s) = true → (changed changes s).isAvailable = true
  /-- Mode and schedule are together, except after a refused change before which no passes
  recurred. -/
  together_iff : Together (changed changes s) ↔ ∀ before change, changes = before ++ [change] →
    change.isRefused = true → recurs (changed before s) = true
  /-- One more change that is not refused returns, sets the mode and brings the two together. Where
  passes are to recur, they do so with the new interval. -/
  accepted : ∀ change : ModeChange, change.isRefused = false →
    ∃ t, change.run (changed changes s) = .ok () t ∧ t.mode = change.mode ∧ Together t ∧
      (change.mode = .matchExactly → ∃ place, (Trigger.tag, place) ∈ (schedulerOf t).inCharge ∧
        (schedulerOf t).tasks[place]? = some (Trigger.tag, change.interval))
  /-- One more that is refused raises and leaves the schedule as it was. It leaves the mode as it
  was exactly if passes were offered already, and the two together exactly if they recurred. -/
  refused : ∀ change : ModeChange, change.isRefused = true →
    ∃ t, change.run (changed changes s) =
        .error (.invalid "interval_seconds must be positive") t ∧
      schedulerOf t = schedulerOf (changed changes s) ∧
      (t.mode = (changed changes s).mode ↔ (changed changes s).isAvailable = true) ∧
      (Together t ↔ recurs (changed changes s) = true)

/-- After any number of changes of the mode, from a state in which mode and schedule were together,
they are so except exactly after a refused change before which no passes recurred. -/
theorem modeFollowed_of_together {s : AppState N} (h : Together s) (changes : List ModeChange) :
    ModeFollowed changes s := by
  constructor
  case offered =>
    rcases List.eq_nil_or_concat changes with rfl | ⟨before, change, rfl⟩
    · exact h.mpr
    · rw [List.concat_eq_append]
      exact isAvailable_of_recurs
  case together_iff =>
    rcases List.eq_nil_or_concat changes with rfl | ⟨before, change, rfl⟩
    · refine ⟨fun _ before change hsplit ↦ ?_, fun _ ↦ h⟩
      exact absurd hsplit.symm (List.append_ne_nil_of_right_ne_nil _ (List.cons_ne_nil _ _))
    · rw [List.concat_eq_append, together_concat_iff]
      constructor
      · intro hlast before' change' hsplit
        obtain ⟨rfl, heq⟩ := List.append_inj' hsplit rfl
        obtain rfl := (List.cons.inj heq).1
        exact hlast
      · exact fun hlast ↦ hlast before change rfl
  case accepted =>
    intro change hsign
    obtain ⟨t, hrun, hmode, hask⟩ := change.run_of_accepted hsign (changed changes s)
    refine ⟨t, hrun, hmode, together_of_accepted hmode hask, fun hexactly ↦ ?_⟩
    unfold ModeChange.order at hask
    rw [if_pos hexactly] at hask
    exact Scheduler.exists_of_schedule hask
  case refused =>
    intro change hsign
    obtain ⟨t, hrun, hmode, hsame⟩ := change.run_of_isRefused hsign (changed changes s)
    refine ⟨t, hrun, hsame, ?_, together_iff_of_refused hmode hsame⟩
    rw [hmode, isAvailable_iff, eq_comm]

/-- A device of its own, with nothing scheduled and no server to speak of. -/
def idle : AppState Unit where
  world :=
    { scheduler := {}
      site :=
        { disk := ⟨[], []⟩
          table := []
          net := ⟨{ base := ⟨"http".toList, [], "localhost".toList, none, ['/'], none, none⟩
                    signIn := none }, ()⟩
          journal := [] } }

/-- Passes are scheduled, scheduled anew, refused, ended, and refused again. -/
def wavering : List ModeChange :=
  [ ⟨.matchExactly, .finite false 900 0⟩, ⟨.matchExactly, .finite false 60 0⟩,
    ⟨.matchExactly, .finite true 1 0⟩, ⟨.manual, .notANumber⟩, ⟨.matchExactly, .finite false 0 0⟩ ]

theorem modeFollowed_wavering :
    Together idle ∧ ModeFollowed wavering idle ∧ Together (changed (wavering.take 3) idle) ∧
      ¬ Together (changed wavering idle) := by
  have hidle : Together idle := by decide
  exact ⟨hidle, modeFollowed_of_together hidle wavering, by decide, by decide⟩

/-- A change that the scheduler refuses is not taken back: the device says that it mirrors the
server from then on, and no pass ever recurs. -/
theorem refused_change_parts :
    Together idle ∧ ∃ t, setMode .matchExactly (.finite false 0 0) idle =
        .error (.invalid "interval_seconds must be positive") t ∧
      ¬ Together t ∧ t.mode ≠ idle.mode := by
  refine ⟨by decide, _, eq_error_after ?_, by decide, by decide⟩
  decide

end App

end FormCatalog
