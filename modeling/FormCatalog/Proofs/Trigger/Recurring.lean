import FormCatalog.Trigger.Scheduler
import FormCatalog.Proofs.Overriding
import FormCatalog.Proofs.Programs
import Mathlib.Data.List.Induction
import Mathlib.Data.List.Nodup

/-!
# Recurring tasks

A scheduler keeps two records that must not part: which workers were told to stop, and which worker
is in charge of which tag. A worker that is in charge of nothing and was not told to stop would go
on for ever, and one that was told to stop but is still in charge would make its tag look scheduled.
`Sound` says that neither happens, and every order keeps it (`Sound.ask`), since each one ends the
tasks under some tags (`dismissed`) and then starts a task or none (`begun`).

`Supervised` adds to this what the records have to do with the orders that were given: the worker in
charge of a tag is the one of the last accepted schedule of that tag, unless the task was cancelled
or everything was shut down since (`Order.Stands`). `supervises_of_orders` puts it together for the
programs that give the orders, in any state that holds a scheduler.
-/

set_option autoImplicit false
set_option relaxedAutoImplicit false

namespace FormCatalog

open Op

namespace Scheduler

/-! ### Orders -/

/-- What a scheduler can be told to do. -/
inductive Order where
  | schedule (tag : String) (interval : Number.Binary64)
  | cancel (tag : String)
  | shutdown
  deriving DecidableEq, Repr

namespace Order

/-- Only a schedule can be refused, namely for an interval of zero or less. -/
def isRefused : Order → Bool
  | schedule _ interval => interval.isZeroOrLess
  | cancel _ | shutdown => false

/-- The task that an order starts: its tag and its interval. -/
def task? : Order → Option (String × Number.Binary64)
  | schedule tag interval => if interval.isZeroOrLess then none else some (tag, interval)
  | cancel _ | shutdown => none

/-- Whether an order ends the task under a tag, be it to put another one in its place. -/
def ends (tag : String) : Order → Bool
  | schedule other interval => !interval.isZeroOrLess && other = tag
  | cancel other => other = tag
  | shutdown => true

/-- The program that gives an order, in a state that holds a scheduler. -/
def run {σ : Type} [Recording σ] (part : σ → Scheduler) (restore : Scheduler → σ → σ) :
    Order → Op σ Unit
  | schedule tag interval => scheduleIn part restore tag interval
  | cancel tag => cancelIn part restore tag
  | shutdown => shutdownIn part restore

/-- Among some orders there is an accepted schedule of the tag, the last one and with nothing behind
it that ended its task, and so many schedules were accepted before it. -/
def Stands (orders : List Order) (tag : String) (place : Nat) : Prop :=
  ∃ before interval,
    Counts (fun order _ ↦ order.ends tag = true) orders before (.schedule tag interval) ∧
      interval.isZeroOrLess = false ∧ (before.filterMap task?).length = place

theorem task?_eq_some_iff {order : Order} {tag : String} {interval : Number.Binary64} :
    order.task? = some (tag, interval) ↔
      order = .schedule tag interval ∧ interval.isZeroOrLess = false := by
  cases order with
  | schedule other interval' =>
    unfold task?
    dsimp only
    cases hsign : interval'.isZeroOrLess with
    | true =>
      rw [if_pos rfl]
      constructor
      · intro h
        cases h
      · rintro ⟨h, haccepted⟩
        cases h
        rw [hsign] at haccepted
        cases haccepted
    | false =>
      rw [if_neg Bool.false_ne_true]
      constructor
      · intro h
        cases h
        exact ⟨rfl, hsign⟩
      · rintro ⟨h, -⟩
        cases h
        rfl
  | cancel other => simp [task?]
  | shutdown => simp [task?]

theorem task?_of_isRefused {order : Order} (h : order.isRefused = true) : order.task? = none := by
  cases order with
  | schedule tag interval =>
    change interval.isZeroOrLess = true at h
    exact if_pos h
  | cancel tag => rfl
  | shutdown => rfl

theorem ends_of_isRefused {order : Order} (h : order.isRefused = true) (tag : String) :
    order.ends tag = false := by
  cases order with
  | schedule other interval =>
    change interval.isZeroOrLess = true at h
    unfold ends
    dsimp only
    rw [h]
    rfl
  | cancel other => cases h
  | shutdown => cases h

/-- One more order leaves standing what it does not end, and a schedule that is accepted stands. -/
theorem stands_concat_iff {orders : List Order} {order : Order} {tag : String} {place : Nat} :
    Stands (orders ++ [order]) tag place ↔
      (Stands orders tag place ∧ order.ends tag = false) ∨
        ((∃ interval, order.task? = some (tag, interval)) ∧
          place = (orders.filterMap task?).length) := by
  simp only [Stands, task?_eq_some_iff, counts_concat_iff, Bool.not_eq_true]
  constructor
  · rintro ⟨before, interval, ⟨rfl, hlast⟩ | ⟨hcounts, hkept⟩, haccepted, hplace⟩
    · exact Or.inr ⟨⟨interval, hlast.symm, haccepted⟩, hplace.symm⟩
    · exact Or.inl ⟨⟨before, interval, hcounts, haccepted, hplace⟩, hkept⟩
  · rintro (⟨⟨before, interval, hcounts, haccepted, hplace⟩, hkept⟩ |
      ⟨⟨interval, hlast, haccepted⟩, hplace⟩)
    · exact ⟨before, interval, Or.inr ⟨hcounts, hkept⟩, haccepted, hplace⟩
    · exact ⟨orders, interval, Or.inl ⟨rfl, hlast.symm⟩, haccepted, hplace.symm⟩

end Order

/-! ### Workers -/

variable {s s' : Scheduler} {tag : String} {place : Nat}

/-- The worker at a place has this tag and was not told to stop. -/
def Live (s : Scheduler) (tag : String) (place : Nat) : Prop :=
  ∃ w, s.workers[place]? = some w ∧ w.tag = tag ∧ w.stopped = false

/-- No tag has two workers in charge, and a worker is in charge of a tag exactly if it has that tag
and was not told to stop. -/
structure Sound (s : Scheduler) : Prop where
  keyed : (s.inCharge.map Prod.fst).Nodup
  inCharge_iff : ∀ tag place, (tag, place) ∈ s.inCharge ↔ s.Live tag place

theorem isScheduled_iff : s.isScheduled tag = true ↔ ∃ place, (tag, place) ∈ s.inCharge := by
  unfold isScheduled
  rw [List.any_eq_true]
  constructor
  · rintro ⟨⟨other, place⟩, hmem, hother⟩
    exact ⟨place, of_decide_eq_true hother ▸ hmem⟩
  · rintro ⟨place, hmem⟩
    exact ⟨(tag, place), hmem, decide_eq_true rfl⟩

/-- A worker has one tag. -/
theorem Live.tag_eq {other : String} (h : s.Live tag place) (h' : s.Live other place) :
    tag = other := by
  obtain ⟨w, hw, rfl, -⟩ := h
  obtain ⟨w', hw', rfl, -⟩ := h'
  rw [Option.some.inj (hw.symm.trans hw')]

theorem getElem?_stopAll (places : List Nat) (place : Nat) :
    (s.stopAll places).workers[place]? = s.workers[place]?.map fun w ↦
      if places.contains place then { w with stopped := true } else w := List.getElem?_mapIdx

theorem live_stopAll_iff {places : List Nat} :
    (s.stopAll places).Live tag place ↔ s.Live tag place ∧ place ∉ places := by
  unfold Live
  rw [getElem?_stopAll]
  by_cases hplace : place ∈ places
  · simp [hplace]
  · simp [hplace]

/-- The scheduler once the tasks under some tags were ended. -/
def dismissed (s : Scheduler) (p : String → Bool) : Scheduler :=
  { s.stopAll ((s.inCharge.filter (p ·.1)).map (·.2)) with
    inCharge := s.inCharge.filter fun entry ↦ !p entry.1 }

/-- The scheduler once a task was started under a tag. -/
def begun (s : Scheduler) (tag : String) (interval : Number.Binary64) : Scheduler :=
  { s with
    workers := s.workers ++ [⟨tag, interval, false⟩]
    inCharge := s.inCharge ++ [(tag, s.workers.length)] }

/-- The scheduler once its pool takes no more work. -/
def closed (s : Scheduler) : Scheduler := { s with accepting := false }

theorem inCharge_closed (s : Scheduler) : s.closed.inCharge = s.inCharge := rfl

theorem mem_inCharge_dismissed_iff {p : String → Bool} :
    (tag, place) ∈ (s.dismissed p).inCharge ↔ (tag, place) ∈ s.inCharge ∧ p tag = false := by
  unfold dismissed
  rw [List.mem_filter, Bool.not_eq_true']

theorem mem_inCharge_begun_iff {started : String} {interval : Number.Binary64} :
    (tag, place) ∈ (s.begun started interval).inCharge ↔
      (tag, place) ∈ s.inCharge ∨ (tag = started ∧ place = s.workers.length) := by
  unfold begun
  rw [List.mem_append, List.mem_singleton, Prod.mk.injEq]

theorem live_begun_iff {started : String} {interval : Number.Binary64} :
    (s.begun started interval).Live tag place ↔
      s.Live tag place ∨ (tag = started ∧ place = s.workers.length) := by
  have hworker : (s.begun started interval).workers[place]? =
      if place < s.workers.length then s.workers[place]?
      else [(⟨started, interval, false⟩ : Worker)][place - s.workers.length]? :=
    List.getElem?_append
  unfold Live
  rw [hworker]
  by_cases hold : place < s.workers.length
  · rw [if_pos hold]
    exact ⟨Or.inl, fun h ↦ h.resolve_right fun hnew ↦ absurd hnew.2 (Nat.ne_of_lt hold)⟩
  · rw [if_neg hold]
    constructor
    · rintro ⟨w, hw, rfl, -⟩
      obtain ⟨hzero, rfl⟩ := List.getElem?_eq_some_iff.mp hw
      rw [List.length_singleton] at hzero
      rw [List.getElem_singleton]
      exact Or.inr ⟨rfl, by omega⟩
    · rintro (⟨w, hw, -⟩ | ⟨rfl, rfl⟩)
      · rw [List.getElem?_eq_none (Nat.le_of_not_lt hold)] at hw
        cases hw
      · exact ⟨_, by rw [Nat.sub_self, List.getElem?_cons_zero], rfl, rfl⟩

/-- Only the tasks under these tags are ended. -/
theorem Sound.live_dismissed_iff (h : s.Sound) {p : String → Bool} :
    (s.dismissed p).Live tag place ↔ s.Live tag place ∧ p tag = false := by
  have hstop : (s.dismissed p).Live tag place ↔
      (s.stopAll ((s.inCharge.filter (p ·.1)).map (·.2))).Live tag place := Iff.rfl
  rw [hstop, live_stopAll_iff]
  refine and_congr_right fun hlive ↦ ?_
  constructor
  · intro hspared
    by_contra hended
    refine hspared (List.mem_map.mpr ⟨(tag, place), List.mem_filter.mpr ⟨?_, ?_⟩, rfl⟩)
    · exact (h.inCharge_iff tag place).mpr hlive
    · exact Bool.not_eq_false _ ▸ hended
  · rintro hspared hmem
    obtain ⟨⟨other, place⟩, hother, rfl⟩ := List.mem_map.mp hmem
    obtain ⟨hother, hended⟩ := List.mem_filter.mp hother
    -- A worker has one tag, so it cannot be ended under another one.
    obtain rfl := hlive.tag_eq ((h.inCharge_iff other place).mp hother)
    rw [hspared] at hended
    cases hended

theorem Sound.dismissed (h : s.Sound) (p : String → Bool) : (s.dismissed p).Sound where
  keyed := (List.filter_sublist.map Prod.fst).nodup h.keyed
  inCharge_iff tag place := by
    rw [mem_inCharge_dismissed_iff, h.live_dismissed_iff, h.inCharge_iff]

theorem Sound.closed (h : s.Sound) : s.closed.Sound := ⟨h.keyed, h.inCharge_iff⟩

theorem Sound.begun (h : s.Sound) (hfree : ∀ place, (tag, place) ∉ s.inCharge)
    (interval : Number.Binary64) : (s.begun tag interval).Sound where
  keyed := by
    change ((s.inCharge ++ [(tag, s.workers.length)]).map Prod.fst).Nodup
    rw [List.map_append, List.map_singleton, ← List.concat_eq_append, List.nodup_concat]
    refine ⟨fun hmem ↦ ?_, h.keyed⟩
    obtain ⟨⟨other, place⟩, hother, rfl⟩ := List.mem_map.mp hmem
    exact hfree place hother
  inCharge_iff other place := by
    rw [mem_inCharge_begun_iff, live_begun_iff, h.inCharge_iff]

/-! ### What an order does -/

/-- With distinct keys, what a look-up finds is all that there is under a tag. -/
theorem toList_find?_of_nodup {entries : List (String × Nat)}
    (h : (entries.map Prod.fst).Nodup) (tag : String) :
    (entries.find? (·.1 = tag)).toList = entries.filter (·.1 = tag) := by
  induction entries with
  | nil => rfl
  | cons entry rest ih =>
    obtain ⟨hentry, hrest⟩ := List.nodup_cons.mp h
    by_cases hother : entry.1 = tag
    · have hnone : rest.filter (·.1 = tag) = [] := by
        rw [List.filter_eq_nil_iff]
        intro e he heq
        refine hentry (List.mem_map.mpr ⟨e, he, ?_⟩)
        rw [hother, of_decide_eq_true heq]
      rw [List.find?_cons_of_pos (by simpa using hother),
        List.filter_cons_of_pos (by simpa using hother), hnone]
      rfl
    · rw [List.find?_cons_of_neg (by simpa using hother),
        List.filter_cons_of_neg (by simpa using hother), ih hrest]

theorem Sound.cancel_eq (h : s.Sound) (tag : String) : s.cancel tag = s.dismissed (· = tag) := by
  have hplaces : (s.workerOf? tag).toList = (s.inCharge.filter (·.1 = tag)).map (·.2) := by
    unfold workerOf?
    rw [← toList_find?_of_nodup h.keyed]
    cases s.inCharge.find? (·.1 = tag) <;> rfl
  unfold cancel Scheduler.dismissed
  dsimp only
  rw [hplaces]
  simp only [ne_eq, decide_not]
  rfl

/-- A schedule ends the task under its tag, as a cancellation does, and then starts another one. -/
theorem schedule_of_accepted {interval : Number.Binary64} (h : interval.isZeroOrLess = false) :
    s.schedule tag interval = .ok ((s.cancel tag).begun tag interval) := by
  unfold schedule
  rw [h, if_neg Bool.false_ne_true]
  rfl

theorem schedule_of_refused {interval : Number.Binary64} (h : interval.isZeroOrLess = true) :
    s.schedule tag interval = .error (.invalid "interval_seconds must be positive") :=
  if_pos h

theorem shutdown_eq (s : Scheduler) :
    s.shutdown = (s.dismissed fun _ ↦ true).closed := by
  have hall : s.inCharge.filter (fun _ ↦ true) = s.inCharge := by simp
  have hnone : s.inCharge.filter (fun _ ↦ !true) = [] := by simp
  unfold shutdown closed dismissed
  dsimp only
  rw [hall, hnone]

/-- The scheduler after an order, or the fault that refuses it. -/
def ask (s : Scheduler) : Order → Except Fault Scheduler
  | .schedule tag interval => s.schedule tag interval
  | .cancel tag => .ok (s.cancel tag)
  | .shutdown => .ok s.shutdown

theorem ask_of_isRefused {order : Order} (h : order.isRefused = true) :
    s.ask order = .error (.invalid "interval_seconds must be positive") := by
  cases order with
  | schedule tag interval => exact schedule_of_refused h
  | cancel tag => cases h
  | shutdown => cases h

theorem exists_ask {order : Order} (h : order.isRefused = false) :
    ∃ s', s.ask order = .ok s' := by
  cases order with
  | schedule tag interval => exact ⟨_, schedule_of_accepted h⟩
  | cancel tag => exact ⟨_, rfl⟩
  | shutdown => exact ⟨_, rfl⟩

/-- Of every worker, what it was started with. -/
def tasks (s : Scheduler) : List (String × Number.Binary64) :=
  s.workers.map fun w ↦ (w.tag, w.interval)

theorem tasks_dismissed (s : Scheduler) (p : String → Bool) : (s.dismissed p).tasks = s.tasks := by
  unfold tasks dismissed
  refine List.ext_getElem? fun place ↦ ?_
  rw [List.getElem?_map, List.getElem?_map, getElem?_stopAll, Option.map_map]
  refine congrArg (Option.map · s.workers[place]?) (funext fun w ↦ ?_)
  dsimp only [Function.comp]
  split <;> rfl

theorem tasks_begun (s : Scheduler) (tag : String) (interval : Number.Binary64) :
    (s.begun tag interval).tasks = s.tasks ++ [(tag, interval)] := List.map_append

/-- All that an order can do: it ends the tasks under some tags, and then starts the task that it
asks for, if there is one. -/
theorem Sound.ask (h : s.Sound) {order : Order} (hask : s.ask order = .ok s') :
    s'.Sound ∧ s'.tasks = s.tasks ++ order.task?.toList ∧
      ∀ tag place, (tag, place) ∈ s'.inCharge ↔
        ((tag, place) ∈ s.inCharge ∧ order.ends tag = false) ∨
          ((∃ interval, order.task? = some (tag, interval)) ∧ place = s.tasks.length) := by
  cases order with
  | schedule started interval =>
    cases hsign : interval.isZeroOrLess with
    | true =>
      have hschedule : s.ask (.schedule started interval) = .error _ := schedule_of_refused hsign
      rw [hschedule] at hask
      cases hask
    | false =>
      have hschedule : s.ask (.schedule started interval) = .ok _ := schedule_of_accepted hsign
      rw [hschedule, h.cancel_eq] at hask
      cases hask
      have htask : (Order.schedule started interval).task? = some (started, interval) :=
        Order.task?_eq_some_iff.mpr ⟨rfl, hsign⟩
      have hfree (place : Nat) : (started, place) ∉ (s.dismissed (· = started)).inCharge := by
        rw [mem_inCharge_dismissed_iff]
        simp
      have hcount : (s.dismissed (· = started)).workers.length = s.tasks.length := by
        rw [← tasks_dismissed s (· = started), tasks, List.length_map]
      refine ⟨(h.dismissed _).begun hfree interval, ?_, fun tag place ↦ ?_⟩
      · rw [tasks_begun, tasks_dismissed, htask]
        rfl
      · rw [mem_inCharge_begun_iff, mem_inCharge_dismissed_iff, hcount, htask]
        simp [Order.ends, hsign, eq_comm]
  | cancel ended =>
    cases hask
    rw [h.cancel_eq]
    refine ⟨h.dismissed _, ?_, fun tag place ↦ ?_⟩
    · rw [tasks_dismissed]
      exact (List.append_nil _).symm
    · rw [mem_inCharge_dismissed_iff]
      simp [Order.ends, Order.task?, eq_comm]
  | shutdown =>
    cases hask
    rw [shutdown_eq]
    refine ⟨(h.dismissed _).closed, ?_, fun tag place ↦ ?_⟩
    · exact (tasks_dismissed s fun _ ↦ true).trans (List.append_nil _).symm
    · rw [inCharge_closed, mem_inCharge_dismissed_iff]
      simp [Order.ends, Order.task?]

/-! ### What many orders do -/

/-- What the records of a scheduler have to do with the orders that were given. -/
structure Supervised (orders : List Order) (s : Scheduler) : Prop where
  /-- There is one worker for every schedule that was accepted, in their order. -/
  tasks : s.tasks = orders.filterMap Order.task?
  /-- The workers that were not told to stop are exactly those in charge, each of its own tag. -/
  live_iff : ∀ tag place, s.Live tag place ↔ (tag, place) ∈ s.inCharge
  /-- No tag has two workers in charge. -/
  keyed : (s.inCharge.map Prod.fst).Nodup
  /-- The worker in charge of a tag is the one of the last accepted schedule of the tag, unless a
  later order ended its task. -/
  latest : ∀ tag place, (tag, place) ∈ s.inCharge ↔ Order.Stands orders tag place

theorem Supervised.sound {orders : List Order} (h : s.Supervised orders) : s.Sound :=
  ⟨h.keyed, fun tag place ↦ (h.live_iff tag place).symm⟩

theorem eq_of_ofSize {size : Int} (h : ofSize size = .ok s) : s = {} := by
  unfold ofSize at h
  split at h <;> cases h
  rfl

theorem supervised_new : Supervised [] {} where
  tasks := rfl
  live_iff tag place := by simp [Live]
  keyed := List.nodup_nil
  latest tag place := by simp [Order.Stands, not_counts_nil]

theorem Supervised.ask {orders : List Order} {order : Order} (h : s.Supervised orders)
    (hask : s.ask order = .ok s') : s'.Supervised (orders ++ [order]) := by
  obtain ⟨hsound, htasks, hmem⟩ := h.sound.ask hask
  constructor
  case tasks =>
    rw [htasks, h.tasks, List.filterMap_append]
    cases htask : order.task? <;> simp [htask]
  case live_iff => exact fun tag place ↦ (hsound.inCharge_iff tag place).symm
  case keyed => exact hsound.keyed
  case latest =>
    intro tag place
    rw [hmem, Order.stands_concat_iff, h.latest, h.tasks]

theorem Supervised.refuse {orders : List Order} {order : Order} (h : s.Supervised orders)
    (hrefused : order.isRefused = true) : s.Supervised (orders ++ [order]) := by
  have htask := Order.task?_of_isRefused hrefused
  constructor
  case tasks =>
    rw [h.tasks, List.filterMap_append]
    simp [htask]
  case live_iff => exact h.live_iff
  case keyed => exact h.keyed
  case latest =>
    intro tag place
    rw [h.latest, Order.stands_concat_iff]
    simp [htask, Order.ends_of_isRefused hrefused]

/-! ### The programs that give the orders -/

/-- A state holds a scheduler that can be exchanged, and its journal has no part in it. -/
structure HeldIn {σ : Type} [Recording σ] (part : σ → Scheduler) (restore : Scheduler → σ → σ) :
    Prop where
  part_restore : ∀ p s, part (restore p s) = p
  part_record : ∀ e s, part (Recording.record e s) = part s

section Programs

variable {σ : Type} [Recording σ]

/-- The state once some entries were put into the journal. -/
def recorded (entries : List Entry) (t : σ) : σ :=
  entries.foldl (fun s e ↦ Recording.record e s) t

/-- What one entry leaves as it is, many do. -/
theorem view_recorded {β : Type} {view : σ → β}
    (h : ∀ e s, view (Recording.record e s) = view s) (entries : List Entry) (t : σ) :
    view (recorded entries t) = view t := by
  unfold recorded
  induction entries generalizing t with
  | nil => rfl
  | cons e rest ih => rw [List.foldl_cons, ih, h]

variable (part : σ → Scheduler) (restore : Scheduler → σ → σ) {order : Order}

/-- An order is refused and leaves the state alone, or the scheduler takes it and reports on it. -/
theorem ends_run (order : Order) (t : σ) :
    Ends (order.run part restore) t fun r u ↦
      match (part t).ask order with
      | .ok p => r = .ok () ∧ ∃ entries, u = recorded entries (restore p t)
      | .error fault => r = .error fault ∧ u = t := by
  cases order with
  | schedule tag interval =>
    change Ends (scheduleIn part restore tag interval) t fun r u ↦
      match (part t).schedule tag interval with
      | .ok p => r = .ok () ∧ ∃ entries, u = recorded entries (restore p t)
      | .error fault => r = .error fault ∧ u = t
    unfold scheduleIn
    rw [ends_bind, ends_get, Next, ends_bind, ends_ofExcept]
    cases (part t).schedule tag interval with
    | ok p => exact ⟨rfl, _, rfl⟩
    | error fault => exact ⟨rfl, rfl⟩
  | cancel tag => exact ⟨rfl, _, rfl⟩
  | shutdown => exact ⟨rfl, _, rfl⟩

theorem run_of_isRefused (hrefused : order.isRefused = true) (t : σ) :
    order.run part restore t = .error (.invalid "interval_seconds must be positive") t := by
  have hends := ends_run part restore order t
  rw [ask_of_isRefused hrefused] at hends
  exact hends.eq_error

theorem run_of_accepted (haccepted : order.isRefused = false) (t : σ) :
    ∃ p entries, (part t).ask order = .ok p ∧
      order.run part restore t = .ok () (recorded entries (restore p t)) := by
  obtain ⟨p, hask⟩ := exists_ask (s := part t) haccepted
  have hends := ends_run part restore order t
  rw [hask] at hends
  obtain ⟨_, u, hrun, -, entries, rfl⟩ | ⟨_, _, -, hr, -⟩ := hends.cases
  · exact ⟨p, entries, hask, hrun⟩
  · cases hr

variable {part restore}

theorem HeldIn.part_stored (h : HeldIn part restore) (p : Scheduler) (entries : List Entry)
    (t : σ) : part (recorded entries (restore p t)) = p := by
  rw [view_recorded h.part_record, h.part_restore]

/-- The state that some orders lead to. An order that is refused does not keep the next from being
given. -/
def ordered (part : σ → Scheduler) (restore : Scheduler → σ → σ) (orders : List Order) : σ → σ :=
  afterAll (orders.map fun order ↦ order.run part restore)

/-- In a state that some orders led to, the scheduler is in order, and so is what it says and what
it refuses. -/
structure Supervises (part : σ → Scheduler) (restore : Scheduler → σ → σ) (orders : List Order)
    (t : σ) : Prop where
  supervised : (part t).Supervised orders
  /-- No two workers of a tag were left without being told to stop. -/
  one : ∀ tag i j, (part t).Live tag i → (part t).Live tag j → i = j
  /-- A tag looks scheduled exactly while a worker of it was not told to stop. -/
  scheduled : ∀ tag, (part t).isScheduled tag = true ↔ ∃ place, (part t).Live tag place
  /-- A schedule with an interval of zero or less is refused and changes nothing at all. -/
  refused : ∀ order : Order, order.isRefused = true →
    order.run part restore t = .error (.invalid "interval_seconds must be positive") t
  /-- Every other order is carried out. -/
  accepted : ∀ order : Order, order.isRefused = false → ∃ u, order.run part restore t = .ok () u

/-- Whatever a scheduler was told since it was made, and whatever became of it: its live workers are
those in charge, at most one for each tag, and they are those of the last schedules that stand. -/
theorem supervises_of_orders (hpart : HeldIn part restore) {size : Int} {t : σ}
    (hnew : Scheduler.ofSize size = .ok (part t)) (orders : List Order) :
    Supervises part restore orders (ordered part restore orders t) := by
  have hall : (part (ordered part restore orders t)).Supervised orders := by
    induction orders using List.reverseRecOn with
    | nil => exact eq_of_ofSize hnew ▸ supervised_new
    | append_singleton orders order ih =>
      unfold ordered at ih ⊢
      rw [List.map_append, List.map_singleton, afterAll_concat]
      cases hsign : order.isRefused with
      | true =>
        rw [after_of_error (run_of_isRefused part restore hsign _)]
        exact ih.refuse hsign
      | false =>
        obtain ⟨p, entries, hask, hrun⟩ := run_of_accepted part restore hsign
          (afterAll (orders.map fun order ↦ order.run part restore) t)
        rw [after_of_ok hrun, hpart.part_stored]
        exact ih.ask hask
  constructor
  case supervised => exact hall
  case one =>
    intro tag i j hi hj
    rw [hall.live_iff] at hi hj
    exact Prod.ext_iff.mp (List.inj_on_of_nodup_map hall.keyed hi hj rfl) |>.2
  case scheduled =>
    intro tag
    rw [isScheduled_iff]
    exact exists_congr fun place ↦ (hall.live_iff tag place).symm
  case refused => exact fun order hrefused ↦ run_of_isRefused part restore hrefused _
  case accepted =>
    intro order haccepted
    obtain ⟨p, entries, -, hrun⟩ := run_of_accepted part restore haccepted _
    exact ⟨_, hrun⟩

end Programs

/-- A scheduler by itself, with what it reports. -/
structure Bench where
  scheduler : Scheduler := {}
  journal : List Entry := []

instance : Recording Bench := ⟨fun e b ↦ { b with journal := e :: b.journal }⟩

/-- The bench with another scheduler. -/
def Bench.restore (p : Scheduler) (b : Bench) : Bench := { b with scheduler := p }

theorem Bench.heldIn : HeldIn scheduler restore := ⟨fun _ _ ↦ rfl, fun _ _ ↦ rfl⟩

/-- One tag is scheduled anew, once with success and once not; another one is cancelled. -/
def reordering : List Order :=
  [ .schedule "tick" (.finite false 60 0), .schedule "tock" (.infinite false),
    .schedule "tick" (.finite false 1 (-1)), .schedule "tick" (.finite true 0 0), .cancel "tock",
    .cancel "tack" ]

theorem supervises_reordering :
    HeldIn Bench.scheduler Bench.restore ∧ ofSize 2 = .ok (Bench.scheduler {}) ∧
      Supervises Bench.scheduler Bench.restore reordering
        (ordered Bench.scheduler Bench.restore reordering {}) ∧
      (ordered Bench.scheduler Bench.restore reordering {}).scheduler.inCharge = [("tick", 2)] ∧
      (ordered Bench.scheduler Bench.restore reordering {}).scheduler.workers.map (·.stopped) =
        [true, true, false] := by
  have hnew : ofSize 2 = .ok (Bench.scheduler {}) := rfl
  exact ⟨Bench.heldIn, hnew, supervises_of_orders Bench.heldIn hnew reordering, by decide,
    by decide⟩

end Scheduler

end FormCatalog
