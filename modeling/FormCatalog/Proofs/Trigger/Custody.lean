import FormCatalog.App.Basic
import FormCatalog.Trigger.Dispatch
import FormCatalog.Proofs.Trigger.SingleFlight

/-!
# Who has the gate when no pass runs

The gate is taken on the thread of the one who asks, and only a pass that runs gives it back. A pass
that gets lost in between, because the pool refused it or because it was cancelled, therefore keeps
the gate, and it keeps it for ever: no caller is let in any more (`Custody.forever`). Apart from
that the gate is never left held. `custody_of_reachedBy` puts this together: with no pass on its
way, the gate is held exactly if a pass was lost, and none is lost while the pool stays open and no
task is cancelled. `lost_pass_keeps_gate` shows both ways to lose one, and `startPass_of_stopped`
that this is what becomes of a pass that is started when the app was closed.
-/

set_option autoImplicit false
set_option relaxedAutoImplicit false

namespace FormCatalog

open Op

variable {W : Type}

namespace Traffic

variable [Recording W] {t t' : Traffic W}

/-- A pass that is outstanding stays so in every move that is not a step of its caller. -/
theorem Outstanding.step_of_other {place : Nat} (h : t.Outstanding place) {move : Move W}
    (hother : ∀ outcome, move ≠ .advance place outcome) (hstep : t.step? move = some t') :
    t'.Outstanding place := by
  cases move with
  | arrive way =>
    cases hstep
    obtain ⟨caller, hcaller, hout⟩ := h
    exact ⟨caller, getElem?_arrived.mpr (Or.inl hcaller), hout⟩
  | work world =>
    cases hstep
    exact h
  | advance other outcome =>
    have hne : place ≠ other := by
      rintro rfl
      exact hother outcome rfl
    obtain ⟨caller, stage, s, events, hcaller, -, rfl⟩ := step?_advance_eq_some_iff.mp hstep
    rw [outstanding_moved hcaller, if_neg hne]
    exact h

end Traffic

namespace Dispatch

/-- A pass was let in, has not given the gate back and did not get lost: it is handed over, waits
for a worker, runs, or is about to give the gate back. -/
def OnItsWay (d : Dispatch W) (place : Nat) : Prop :=
  d.isLost place = false ∧ d.traffic.Outstanding place

@[simp] theorem isLost_lose (d : Dispatch W) (place : Nat) (loss : Loss) (i : Nat) :
    (d.lose place loss).isLost i = (decide (place = i) || d.isLost i) := rfl

/-- Who has the gate, after some turns. -/
structure Custody [Recording W] (turns : List (Turn W)) (d : Dispatch W) : Prop where
  /-- With no pass on its way, the gate is held exactly if a pass got lost. -/
  idle : (∀ i, ¬d.OnItsWay i) →
    (d.traffic.station.gate.syncing = true ↔ ∃ i, d.isLost i = true)
  /-- With no pass on its way and none lost, the next one who asks is let in. -/
  admits : (∀ i, ¬d.OnItsWay i) → (∀ i, d.isLost i = false) →
    d.traffic.station.attempted.1 = true
  /-- A pass gets lost only where the pool was shut down or a task was cancelled. -/
  calm : ∀ i, d.isLost i = true → .shutdown ∈ turns ∨ ∃ place, .cancel place ∈ turns
  /-- When a pass got lost, the gate is held and no pass is on its way, and so it stays whatever
  comes. -/
  forever : ∀ i, d.isLost i = true → ∀ more d', d.run? more = some d' →
    d'.traffic.station.gate.syncing = true ∧ (∀ j, ¬d'.OnItsWay j) ∧
      ∀ j, d'.isLost j = true ↔ j = i

/-! ### Lost passes and the gate -/

section Gate

variable {d : Dispatch W}

/-- The callers are orderly, and a lost pass still has the gate. -/
structure Sound (d : Dispatch W) : Prop where
  orderly : d.traffic.Orderly
  lost : ∀ i, d.isLost i = true → d.traffic.Outstanding i

theorem sound_start {s : Station W} (hgate : s.gate = {}) (hfailures : s.failures = []) :
    Sound { traffic := { station := s } } where
  orderly := Traffic.orderly_start hgate hfailures
  lost i hi := by cases hi

theorem Sound.syncing_of_isLost (h : d.Sound) {i : Nat} (hi : d.isLost i = true) :
    d.traffic.station.gate.syncing = true := h.orderly.syncing_iff.mpr ⟨i, h.lost i hi⟩

/-- There is only one who can have the gate, so a lost pass leaves no room for another. -/
theorem Sound.eq_of_isLost (h : d.Sound) {i j : Nat} (hi : d.isLost i = true)
    (hj : d.traffic.Outstanding j) : j = i := h.orderly.one hj (h.lost i hi)

theorem Sound.not_onItsWay (h : d.Sound) {i : Nat} (hi : d.isLost i = true) (j : Nat) :
    ¬d.OnItsWay j := by
  rintro ⟨hkept, hout⟩
  rw [h.eq_of_isLost hi hout, hi] at hkept
  cases hkept

theorem Sound.syncing_iff_of_idle (h : d.Sound) (hidle : ∀ i, ¬d.OnItsWay i) :
    d.traffic.station.gate.syncing = true ↔ ∃ i, d.isLost i = true := by
  constructor
  · intro hsyncing
    obtain ⟨i, hout⟩ := h.orderly.syncing_iff.mp hsyncing
    cases hlost : d.isLost i with
    | true => exact ⟨i, hlost⟩
    | false => exact absurd ⟨hlost, hout⟩ (hidle i)
  · rintro ⟨i, hi⟩
    exact h.syncing_of_isLost hi

end Gate

/-! ### What a turn can do -/

theorem outstanding_of_handsOver {t : Traffic W} {place : Nat}
    (h : t.callers[place]?.any (·.handsOver) = true) : t.Outstanding place := by
  rw [Option.any_eq_true] at h
  obtain ⟨caller, hcaller, hhands⟩ := h
  refine ⟨caller, hcaller, ?_⟩
  unfold Caller.handsOver at hhands
  split at hhands
  · rfl
  · cases hhands

theorem outstanding_of_waits {t : Traffic W} {place : Nat}
    (h : t.callers[place]?.any (·.waits) = true) : t.Outstanding place := by
  rw [Option.any_eq_true] at h
  obtain ⟨caller, hcaller, hwaits⟩ := h
  refine ⟨caller, hcaller, ?_⟩
  unfold Caller.waits at hwaits
  split at hwaits
  · rfl
  · cases hwaits

theorem checkAccepting_of_stopped {s : Scheduler} (h : s.accepting = false) :
    s.checkAccepting = .error (.stopped "cannot schedule new futures after shutdown") := by
  unfold Scheduler.checkAccepting
  rw [if_neg (by simp [h])]

theorem accepting_of_checkAccepting {s : Scheduler} {fault : Fault}
    (h : s.checkAccepting = .error fault) : s.accepting = false := by
  unfold Scheduler.checkAccepting at h
  cases hopen : s.accepting with
  | false => rfl
  | true =>
    rw [if_pos hopen] at h
    cases h

section Steps

variable [Recording W] {d d' : Dispatch W}

theorem go?_eq_some_iff {move : Move W} :
    d.go? move = some d' ↔
      ∃ t, d.traffic.step? move = some t ∧ d' = { d with traffic := t } := by
  unfold go?
  rw [Option.map_eq_some_iff]
  constructor
  · rintro ⟨t, ht, rfl⟩
    exact ⟨t, ht, rfl⟩
  · rintro ⟨t, ht, rfl⟩
    exact ⟨t, ht, rfl⟩

/-- A caller whose pass did not get lost takes its next step, or hands its pass over to a pool that
refuses it. -/
theorem step?_advance_cases {place : Nat} {outcome : Except Fault Unit}
    (h : d.step? (.move (.advance place outcome)) = some d') :
    d.isLost place = false ∧
      (d.go? (.advance place outcome) = some d' ∨
        ∃ fault, d' = d.lose place (.refused fault) ∧ d.traffic.Outstanding place ∧
          d.scheduler.accepting = false) := by
  unfold step? at h
  dsimp only at h
  cases hlost : d.isLost place with
  | true =>
    rw [if_pos hlost] at h
    cases h
  | false =>
    rw [hlost, if_neg Bool.false_ne_true] at h
    refine ⟨rfl, ?_⟩
    split at h
    · rename_i hhands
      cases hpool : d.scheduler.checkAccepting with
      | ok =>
        rw [hpool] at h
        exact Or.inl h
      | error fault =>
        rw [hpool] at h
        cases h
        exact Or.inr ⟨fault, rfl, outstanding_of_handsOver hhands,
          accepting_of_checkAccepting hpool⟩
    · exact Or.inl h

theorem step?_cancel_cases {place : Nat} (h : d.step? (.cancel place) = some d') :
    d' = d.lose place .cancelled ∧ d.traffic.Outstanding place := by
  unfold step? at h
  dsimp only at h
  split at h
  · cases h
  · split at h
    · rename_i hwaits
      cases h
      exact ⟨rfl, outstanding_of_waits hwaits⟩
    · cases h

/-- All that a turn can be: a move of the callers, which is no step of one whose pass got lost; the
loss of a pass that is outstanding, which takes a closed pool or a cancelled task; or the end of the
pool. -/
theorem step_cases {turn : Turn W} (h : d.step? turn = some d') :
    (∃ move t, turn = .move move ∧ d.traffic.step? move = some t ∧ d' = { d with traffic := t } ∧
      ∀ place outcome, move = .advance place outcome → d.isLost place = false) ∨
    (∃ place loss, d' = d.lose place loss ∧ d.traffic.Outstanding place ∧
      (d.scheduler.accepting = false ∨ turn = .cancel place)) ∨
    (turn = .shutdown ∧ d' = { d with scheduler := d.scheduler.shutdown }) := by
  cases turn with
  | shutdown =>
    cases h
    exact Or.inr (Or.inr ⟨rfl, rfl⟩)
  | cancel place =>
    obtain ⟨rfl, hout⟩ := step?_cancel_cases h
    exact Or.inr (Or.inl ⟨place, _, rfl, hout, Or.inr rfl⟩)
  | move move =>
    cases move with
    | arrive way =>
      obtain ⟨t, ht, rfl⟩ := go?_eq_some_iff.mp h
      exact Or.inl ⟨_, t, rfl, ht, rfl, fun _ _ hmove ↦ by cases hmove⟩
    | work world =>
      obtain ⟨t, ht, rfl⟩ := go?_eq_some_iff.mp h
      exact Or.inl ⟨_, t, rfl, ht, rfl, fun _ _ hmove ↦ by cases hmove⟩
    | advance place outcome =>
      obtain ⟨hkept, hgo | ⟨fault, rfl, hout, hclosed⟩⟩ := step?_advance_cases h
      · obtain ⟨t, ht, rfl⟩ := go?_eq_some_iff.mp hgo
        refine Or.inl ⟨_, t, rfl, ht, rfl, ?_⟩
        rintro i o hmove
        cases hmove
        exact hkept
      · exact Or.inr (Or.inl ⟨place, _, rfl, hout, Or.inl hclosed⟩)

/-! ### What every turn keeps -/

/-- Every turn keeps the dispatch sound, and a lost pass is lost for ever. -/
theorem Sound.step (h : d.Sound) {turn : Turn W} (hstep : d.step? turn = some d') :
    d'.Sound ∧ ∀ i, d.isLost i = true → d'.isLost i = true := by
  obtain ⟨move, t, -, ht, rfl, hkept⟩ | ⟨place, loss, rfl, hout, -⟩ | ⟨-, rfl⟩ :=
    step_cases hstep
  · refine ⟨⟨h.orderly.step ht, fun i hi ↦ ?_⟩, fun i hi ↦ hi⟩
    refine (h.lost i hi).step_of_other (fun outcome hmove ↦ ?_) ht
    have htrue : d.isLost i = true := hi
    rw [hkept i outcome hmove] at htrue
    cases htrue
  · refine ⟨⟨h.orderly, fun i hi ↦ ?_⟩, fun i hi ↦ by simp [hi]⟩
    rw [isLost_lose, Bool.or_eq_true, decide_eq_true_eq] at hi
    rcases hi with rfl | hbefore
    · exact hout
    · exact h.lost i hbefore
  · exact ⟨⟨h.orderly, h.lost⟩, fun i hi ↦ hi⟩

theorem Sound.run (h : d.Sound) {turns : List (Turn W)} (hrun : d.run? turns = some d') :
    d'.Sound ∧ ∀ i, d.isLost i = true → d'.isLost i = true := by
  induction turns generalizing d with
  | nil =>
    cases hrun
    exact ⟨h, fun i hi ↦ hi⟩
  | cons turn turns ih =>
    obtain ⟨u, hstep, hrest⟩ := Option.bind_eq_some_iff.mp hrun
    obtain ⟨hu, hfirst⟩ := h.step hstep
    obtain ⟨hd', hlater⟩ := ih hu hrest
    exact ⟨hd', fun i hi ↦ hlater i (hfirst i hi)⟩

/-- As long as the pool is open and nothing is cancelled, no pass gets lost. -/
theorem losses_of_calm {turns : List (Turn W)} (hopen : d.scheduler.accepting = true)
    (hnone : d.losses = []) (hrun : d.run? turns = some d') (hshutdown : .shutdown ∉ turns)
    (hcancel : ∀ place, .cancel place ∉ turns) : d'.losses = [] := by
  induction turns generalizing d with
  | nil =>
    cases hrun
    exact hnone
  | cons turn turns ih =>
    obtain ⟨u, hstep, hrest⟩ := Option.bind_eq_some_iff.mp hrun
    have hlater : u.scheduler.accepting = true → u.losses = [] → d'.losses = [] := by
      intro hu hu'
      refine ih hu hu' hrest (fun hmem ↦ hshutdown (List.mem_cons_of_mem _ hmem)) ?_
      intro place hmem
      exact hcancel place (List.mem_cons_of_mem _ hmem)
    obtain ⟨move, t, -, -, rfl, -⟩ | ⟨place, loss, -, -, hclosed | rfl⟩ | ⟨rfl, -⟩ :=
      step_cases hstep
    · exact hlater hopen hnone
    · rw [hopen] at hclosed
      cases hclosed
    · exact absurd List.mem_cons_self (hcancel place)
    · exact absurd List.mem_cons_self hshutdown

/-! ### Who has the gate -/

theorem ReachedBy.sound {turns : List (Turn W)} (h : d.ReachedBy turns) : d.Sound := by
  obtain ⟨s, hgate, hfailures, hrun⟩ := h
  exact ((sound_start hgate hfailures).run hrun).1

/-- With no pass on its way the gate is held exactly if a pass got lost on its way from the gate to
a worker, and then it is held for ever. -/
theorem custody_of_reachedBy {turns : List (Turn W)} (h : d.ReachedBy turns) :
    d.Custody turns := by
  have hsound : d.Sound := h.sound
  obtain ⟨s, -, -, hrun⟩ := h
  constructor
  case idle => exact hsound.syncing_iff_of_idle
  case admits =>
    intro hidle hnone
    have hfree : d.traffic.station.gate.syncing = false := by
      rw [← Bool.not_eq_true, hsound.syncing_iff_of_idle hidle]
      rintro ⟨i, hi⟩
      rw [hnone i] at hi
      cases hi
    rw [Station.attempted_of_free hfree]
  case calm =>
    intro i hi
    refine Classical.byContradiction fun hcalm ↦ ?_
    rw [not_or, not_exists] at hcalm
    have hnone : d.losses = [] := losses_of_calm rfl rfl hrun hcalm.1 hcalm.2
    unfold isLost at hi
    rw [hnone] at hi
    cases hi
  case forever =>
    intro i hi more d' hmore
    obtain ⟨hsound', hkept⟩ := hsound.run hmore
    have hi' : d'.isLost i = true := hkept i hi
    refine ⟨hsound'.syncing_of_isLost hi', hsound'.not_onItsWay hi', fun j ↦ ⟨fun hj ↦ ?_, ?_⟩⟩
    · exact hsound'.eq_of_isLost hi' (hsound'.lost j hj)
    · rintro rfl
      exact hi'

/-- A pass is started in the background and runs, the pool is shut down, and another pass is
started; the pool refuses it. -/
def refusal : List (Turn Memory.Rehearsal) :=
  [ .move (.arrive .background), .move (.advance 0 (.ok ())), .move (.advance 0 (.ok ())),
    .move (.advance 0 (.ok ())), .move (.advance 0 (.ok ())), .move (.advance 0 (.ok ())),
    .move (.advance 0 (.ok ())), .shutdown, .move (.arrive .background),
    .move (.advance 1 (.ok ())), .move (.advance 1 (.ok ())) ]

/-- A pass is started in the background, and its task is cancelled while it waits for a worker. -/
def cancellation : List (Turn Memory.Rehearsal) :=
  [ .move (.arrive .background), .move (.advance 0 (.ok ())), .move (.advance 0 (.ok ())),
    .cancel 0 ]

theorem custody_refusal :
    ∃ d : Dispatch Memory.Rehearsal, d.ReachedBy refusal ∧ d.Custody refusal := by
  obtain ⟨d, hrun⟩ : ∃ d : Dispatch Memory.Rehearsal,
      run? { traffic := { station := { world := {} } } } refusal = some d := ⟨_, rfl⟩
  have hreached : d.ReachedBy refusal := ⟨_, rfl, rfl, hrun⟩
  exact ⟨d, hreached, custody_of_reachedBy hreached⟩

/-- Either way to lose a pass leaves the gate held although no pass is on its way. -/
theorem lost_pass_keeps_gate :
    (∃ d : Dispatch Memory.Rehearsal, d.ReachedBy refusal ∧ (∀ i, ¬d.OnItsWay i) ∧
      d.traffic.station.gate.syncing = true) ∧
    ∃ d : Dispatch Memory.Rehearsal, d.ReachedBy cancellation ∧ (∀ i, ¬d.OnItsWay i) ∧
      d.traffic.station.gate.syncing = true := by
  obtain ⟨d, hrefused⟩ : ∃ d : Dispatch Memory.Rehearsal,
      d.ReachedBy refusal ∧ d.isLost 1 = true := ⟨_, ⟨{ world := {} }, rfl, rfl, rfl⟩, rfl⟩
  obtain ⟨d', hcancelled⟩ : ∃ d : Dispatch Memory.Rehearsal,
      d.ReachedBy cancellation ∧ d.isLost 0 = true := ⟨_, ⟨{ world := {} }, rfl, rfl, rfl⟩, rfl⟩
  have hsound : d.Sound := hrefused.1.sound
  have hsound' : d'.Sound := hcancelled.1.sound
  exact ⟨⟨d, hrefused.1, hsound.not_onItsWay hrefused.2, hsound.syncing_of_isLost hrefused.2⟩,
    d', hcancelled.1, hsound'.not_onItsWay hcancelled.2, hsound'.syncing_of_isLost hcancelled.2⟩

end Steps

/-! ### The program loses its passes in this way -/

section Programs

variable {N : Type}

/-- Starting a pass when the app was closed takes the gate and ends in a fault. -/
theorem startPass_of_stopped (app : App N) {s : AppState N}
    (hstopped : s.world.scheduler.accepting = false) (hfree : s.gate.syncing = false) :
    app.startPass s = .error (.stopped "cannot schedule new futures after shutdown")
      { s with gate := ⟨true, s.gate.outOfSync⟩ } := by
  have hends : Ends app.startPass s fun res u ↦
      res = .error (.stopped "cannot schedule new futures after shutdown") ∧
        u = { s with gate := ⟨true, s.gate.outOfSync⟩ } := by
    unfold App.startPass Trigger.start App.scheduling
    rw [ends_bind, Station.tryAcquire, ends_modifyGet, Station.attempted_of_free hfree, Next,
      if_pos rfl, ends_map, ends_bind, ends_get, Next, ends_bind, ends_ofExcept]
    unfold App.schedulerOf
    rw [checkAccepting_of_stopped hstopped]
    exact ⟨rfl, rfl⟩
  obtain ⟨_, _, -, hres, -⟩ | ⟨_, _, hx, hres, rfl⟩ := hends.cases
  · cases hres
  · cases hres
    exact hx

/-- These are the steps of a caller whose pass is refused: it asks, is let in, and hands its pass
over to the pool. -/
theorem run?_of_stopped (app : App N) {d : Dispatch (AppWorld N)}
    (hscheduler : d.scheduler = d.traffic.station.world.scheduler)
    (hstopped : d.scheduler.accepting = false) (hfree : d.traffic.station.gate.syncing = false)
    (hnew : d.isLost d.traffic.callers.length = false) :
    ∃ d' fault, d.run? [.move (.arrive .background),
        .move (.advance d.traffic.callers.length (.ok ())),
        .move (.advance d.traffic.callers.length (.ok ()))] = some d' ∧
      app.startPass d.traffic.station = .error fault d'.traffic.station ∧
      d'.losses = (d.traffic.callers.length, .refused fault) :: d.losses := by
  have hclosed := checkAccepting_of_stopped hstopped
  rw [hscheduler] at hstopped
  rw [startPass_of_stopped app hstopped hfree]
  let arrived : Dispatch (AppWorld N) :=
    { d with traffic :=
        { d.traffic with callers := d.traffic.callers ++ [⟨.background, .asking⟩] } }
  let admitted : Dispatch (AppWorld N) :=
    { d with traffic :=
        { station := { d.traffic.station with gate := ⟨true, d.traffic.station.gate.outOfSync⟩ }
          callers := d.traffic.callers ++ [⟨.background, .admitted⟩]
          events := .admitted d.traffic.callers.length :: d.traffic.events } }
  have harrive : d.step? (.move (.arrive .background)) = some arrived := rfl
  have hadmit : arrived.step? (.move (.advance d.traffic.callers.length (.ok ()))) =
      some admitted := by
    have hkept : arrived.isLost d.traffic.callers.length = false := hnew
    unfold step?
    dsimp only
    rw [hkept]
    simp [arrived, admitted, go?, Traffic.step?, Traffic.moved, Caller.next, Caller.handsOver,
      Station.attempted_of_free hfree]
  have hrefuse : admitted.step? (.move (.advance d.traffic.callers.length (.ok ()))) =
      some (admitted.lose d.traffic.callers.length
        (.refused (.stopped "cannot schedule new futures after shutdown"))) := by
    have hkept : admitted.isLost d.traffic.callers.length = false := hnew
    have hpool : admitted.scheduler.checkAccepting = _ := hclosed
    unfold step?
    dsimp only
    rw [hkept, hpool]
    simp [admitted, Caller.handsOver]
  refine ⟨admitted.lose d.traffic.callers.length _, _, ?_, rfl, rfl⟩
  rw [run?, harrive, Option.bind_some, run?, hadmit, Option.bind_some, run?, hrefuse,
    Option.bind_some, run?]

end Programs

end Dispatch

end FormCatalog
