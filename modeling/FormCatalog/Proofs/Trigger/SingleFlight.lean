import FormCatalog.Catalog.Memory
import FormCatalog.Trigger.Traffic
import FormCatalog.Proofs.Programs

/-!
# One pass at a time

However many callers there are and however their steps are interleaved, at most one pass is
*outstanding*: let in, and not yet through with the gate. The gate is held exactly then
(`Traffic.Held` names the caller that holds it), every pass that was let in gives the gate back
once, the device counts as out of sync exactly when the pass released last had failed, and the user
is told of every pass that ended in a fault of synchronisation, once and after the release
(`singleFlight_of_reachable`).

What happened to a caller can be read off its stage (`Stage.past`); most of the above follows from
that. `Caller.next_cases` says once what a step can do to the station. The last section shows that
`Trigger.runOnce` and `Trigger.start` are made of these steps.
-/

set_option autoImplicit false
set_option relaxedAutoImplicit false

namespace FormCatalog

open Op

variable {W : Type}

/-! ### What is to be shown -/

/-- Whether a pass was let in and still has the gate. -/
def Stage.outstanding : Stage → Bool
  | admitted | queued | running | ended _ => true
  | asking | turnedAway | released _ | finished _ => false

/-- Whether the gate was given back. -/
def Stage.gaveBack : Stage → Bool
  | released _ | finished _ => true
  | asking | turnedAway | admitted | queued | running | ended _ => false

/-- What the user was told of a caller at a stage. -/
def Stage.told : Stage → List SyncFault
  | finished (.error (.sync fault)) => [fault]
  | _ => []

/-- What has happened to a caller by its stage, the last event first. -/
def Stage.past (place : Nat) : Stage → List Event
  | asking => []
  | turnedAway => [.turnedAway place]
  | admitted | queued => [.admitted place]
  | running => [.began place, .admitted place]
  | ended outcome => [.ended place outcome, .began place, .admitted place]
  | released outcome =>
    [.released place (succeeded outcome), .ended place outcome, .began place, .admitted place]
  | finished outcome =>
    (finished outcome).told.map (.notified place) ++
      [.released place (succeeded outcome), .ended place outcome, .began place, .admitted place]

/-- The outcome that a release tells. -/
def Event.success? : Event → Option Bool
  | released _ success => some success
  | _ => none

/-- The fault that a notice tells. -/
def Event.fault? : Event → Option SyncFault
  | notified _ fault => some fault
  | _ => none

namespace Traffic

/-- What happened to one caller, the last event first. -/
def history (t : Traffic W) (place : Nat) : List Event := t.events.filter (·.place = place)

/-- The pass of a caller is outstanding. -/
def Outstanding (t : Traffic W) (place : Nat) : Prop :=
  ∃ caller, t.callers[place]? = some caller ∧ caller.stage.outstanding = true

/-- Whether the pass that was released last had failed; before the first release none had. -/
def lastFailed (t : Traffic W) : Bool := ((t.events.findSome? Event.success?).map (!·)).getD false

/-- One pass at a time, and the consequences. -/
structure SingleFlight [Recording W] (t : Traffic W) : Prop where
  /-- At most one pass is outstanding. -/
  one : ∀ i j, t.Outstanding i → t.Outstanding j → i = j
  /-- The gate is held exactly while a pass is outstanding. -/
  syncing : t.station.gate.syncing = true ↔ ∃ i, t.Outstanding i
  /-- What happened to a caller is what its stage says, in that order and nothing else. -/
  history : ∀ i caller, t.callers[i]? = some caller → t.history i = caller.stage.past i
  /-- A caller is turned away exactly if the gate is held when it asks, and it changes no flag. -/
  turnedAway : ∀ i caller outcome t', t.callers[i]? = some caller → caller.stage = .asking →
    t.step? (.advance i outcome) = some t' →
      (t'.callers[i]? = some { caller with stage := .turnedAway } ↔ ∃ j, t.Outstanding j) ∧
      ((∃ j, t.Outstanding j) → t'.station.gate = t.station.gate ∧
        t'.station.mode = t.station.mode ∧ t'.station.failures = t.station.failures)
  /-- A caller gives the gate back once, and no other caller does it for it. -/
  released : ∀ i caller, t.callers[i]? = some caller →
    ((t.history i).filterMap Event.success?).length = caller.stage.gaveBack.toNat
  /-- The device is out of sync if the pass released last had failed. -/
  outOfSync : t.station.gate.outOfSync = t.lastFailed
  /-- The user is told of a pass that ended in a fault of synchronisation, once and with this fault,
  and of no other. -/
  told : ∀ i caller, t.callers[i]? = some caller →
    (t.history i).filterMap Event.fault? = caller.stage.told
  /-- The failures of the station are what the user was told. -/
  failures : t.station.failures = t.events.filterMap Event.fault?
  /-- No caller ever gets stuck before it is turned away or finished. -/
  goesOn : ∀ i caller outcome, t.callers[i]? = some caller → caller.stage ≠ .turnedAway →
    (∀ o, caller.stage ≠ .finished o) → ∃ t', t.step? (.advance i outcome) = some t'

end Traffic

/-! ### What one step does -/

section Steps

variable [Recording W]

theorem Station.attempted_of_free {s : Station W} (h : s.gate.syncing = false) :
    s.attempted = (true, { s with gate := ⟨true, s.gate.outOfSync⟩ }) := by
  unfold attempted Gate.tryAcquire
  rw [h]
  rfl

theorem Station.attempted_of_syncing {s : Station W} (h : s.gate.syncing = true) :
    s.attempted = (false, Recording.record ⟨.debug, .gate, Gate.refusal⟩ s) := by
  unfold attempted Gate.tryAcquire
  rw [h]
  rfl

namespace Caller

variable {caller : Caller} {place : Nat} {outcome : Except Fault Unit} {s s' : Station W}
  {stage : Stage} {events : List Event}

/-- All that a step can be: the gate is taken, the caller is turned away, the pass goes on while it
has the gate, the gate is given back, or the user is told what there is to tell. -/
theorem next_cases (h : caller.next place outcome s = some (stage, s', events)) :
    (caller.stage = .asking ∧ s.gate.syncing = false ∧ stage = .admitted ∧
      s' = { s with gate := ⟨true, s.gate.outOfSync⟩ } ∧ events = [.admitted place]) ∨
    (caller.stage = .asking ∧ s.gate.syncing = true ∧ stage = .turnedAway ∧
      (s'.gate = s.gate ∧ s'.mode = s.mode ∧ s'.failures = s.failures) ∧
      events = [.turnedAway place]) ∨
    (caller.stage.outstanding = true ∧ stage.outstanding = true ∧ s' = s ∧
      stage.past place = events ++ caller.stage.past place ∧
      ∀ e ∈ events, e.place = place ∧ e.success? = none ∧ e.fault? = none) ∨
    (∃ o, caller.stage = .ended o ∧ stage = .released o ∧
      s' = s.givenBack (succeeded o) ∧ events = [.released place (succeeded o)]) ∨
    (∃ o, caller.stage = .released o ∧ stage = .finished o ∧ s'.gate = s.gate ∧
      s'.failures = stage.told ++ s.failures ∧ events = stage.told.map (.notified place)) := by
  obtain ⟨way, before⟩ := caller
  unfold next at h
  cases before with
  | asking =>
    dsimp only at h
    cases hfree : s.gate.syncing with
    | false =>
      rw [Station.attempted_of_free hfree] at h
      cases h
      exact Or.inl ⟨rfl, rfl, rfl, rfl, rfl⟩
    | true =>
      rw [Station.attempted_of_syncing hfree] at h
      cases h
      refine Or.inr (Or.inl ⟨rfl, rfl, rfl, ?_, rfl⟩)
      cases way <;> exact ⟨rfl, rfl, rfl⟩
  | turnedAway => cases h
  | finished o => cases h
  | admitted =>
    refine Or.inr (Or.inr (Or.inl ?_))
    cases way <;> cases h <;> simp [Stage.outstanding, Stage.past, Event.place, Event.success?,
      Event.fault?]
  | queued =>
    refine Or.inr (Or.inr (Or.inl ?_))
    cases h
    simp [Stage.outstanding, Stage.past, Event.place, Event.success?, Event.fault?]
  | running =>
    refine Or.inr (Or.inr (Or.inl ?_))
    cases h
    simp [Stage.outstanding, Stage.past, Event.place, Event.success?, Event.fault?]
  | ended o =>
    cases h
    exact Or.inr (Or.inr (Or.inr (Or.inl ⟨o, rfl, rfl, rfl, rfl⟩)))
  | released o =>
    refine Or.inr (Or.inr (Or.inr (Or.inr ⟨o, rfl, ?_⟩)))
    cases o with
    | ok => cases h; exact ⟨rfl, rfl, rfl, rfl⟩
    | error fault => cases fault <;> cases h <;> exact ⟨rfl, rfl, rfl, rfl⟩

/-- A step adds to the past of its caller what it says happened, and speaks of no other caller. -/
theorem next_past (h : caller.next place outcome s = some (stage, s', events)) :
    stage.past place = events ++ caller.stage.past place ∧ ∀ e ∈ events, e.place = place := by
  obtain ⟨hbefore, -, rfl, -, rfl⟩ | ⟨hbefore, -, rfl, -, rfl⟩ | ⟨-, -, -, hpast, hevents⟩ |
    ⟨o, hbefore, rfl, -, rfl⟩ | ⟨o, hbefore, rfl, -, -, rfl⟩ := next_cases h
  · rw [hbefore]
    exact ⟨rfl, by simp [Event.place]⟩
  · rw [hbefore]
    exact ⟨rfl, by simp [Event.place]⟩
  · exact ⟨hpast, fun e he ↦ (hevents e he).1⟩
  · rw [hbefore]
    exact ⟨rfl, by simp [Event.place]⟩
  · rw [hbefore]
    exact ⟨rfl, by simp [Event.place]⟩

end Caller

end Steps

namespace Traffic

variable {t t' : Traffic W} {place : Nat}

/-! ### What every move keeps -/

/-- The caller that holds the gate, if any, and the flag of the gate. -/
structure Held (t : Traffic W) (holder : Option Nat) : Prop where
  outstanding_iff : ∀ i, t.Outstanding i ↔ holder = some i
  syncing : t.station.gate.syncing = holder.isSome

/-- What every move keeps. -/
structure Orderly (t : Traffic W) : Prop where
  held : ∃ holder, t.Held holder
  history : ∀ i caller, t.callers[i]? = some caller → t.history i = caller.stage.past i
  silent : ∀ i, t.callers.length ≤ i → t.history i = []
  outOfSync : t.station.gate.outOfSync = t.lastFailed
  failures : t.station.failures = t.events.filterMap Event.fault?

theorem orderly_start {s : Station W} (hgate : s.gate = {}) (hfailures : s.failures = []) :
    Orderly { station := s } where
  held := by
    refine ⟨none, fun i ↦ ⟨fun ⟨_, h, _⟩ ↦ ?_, fun h ↦ ?_⟩, by rw [hgate]; rfl⟩
    · simp at h
    · cases h
  history i caller h := by simp at h
  silent _ _ := rfl
  outOfSync := by rw [hgate]; rfl
  failures := hfailures

theorem getElem?_arrived {callers : List Caller} {way : Way} {i : Nat} {caller : Caller} :
    (callers ++ [⟨way, .asking⟩])[i]? = some caller ↔
      callers[i]? = some caller ∨ i = callers.length ∧ caller = ⟨way, .asking⟩ := by
  rw [List.getElem?_append]
  by_cases hi : i < callers.length
  · rw [if_pos hi]
    exact ⟨Or.inl, fun h ↦ h.elim id fun h ↦ absurd h.1 (Nat.ne_of_lt hi)⟩
  · rw [if_neg hi, List.getElem?_eq_none (Nat.le_of_not_lt hi), List.getElem?_singleton]
    constructor
    · intro h
      split at h
      · cases h
        exact Or.inr ⟨by omega, rfl⟩
      · cases h
    · rintro (h | ⟨hlast, rfl⟩)
      · cases h
      · rw [if_pos (by omega)]

theorem Orderly.arrive (h : t.Orderly) (way : Way) :
    Orderly { t with callers := t.callers ++ [⟨way, .asking⟩] } where
  held := by
    obtain ⟨holder, hheld⟩ := h.held
    refine ⟨holder, fun i ↦ ?_, hheld.syncing⟩
    rw [← hheld.outstanding_iff]
    constructor
    · rintro ⟨caller, hi, hout⟩
      rcases getElem?_arrived.mp hi with hold | ⟨-, rfl⟩
      · exact ⟨caller, hold, hout⟩
      · cases hout
    · rintro ⟨caller, hi, hout⟩
      exact ⟨caller, getElem?_arrived.mpr (Or.inl hi), hout⟩
  history i caller hi := by
    rcases getElem?_arrived.mp hi with hold | ⟨hlast, rfl⟩
    · exact h.history i caller hold
    · exact h.silent i (Nat.le_of_eq hlast.symm)
  silent i hi := h.silent i (by simp at hi; omega)
  outOfSync := h.outOfSync
  failures := h.failures

theorem Orderly.work (h : t.Orderly) (world : W) :
    Orderly { t with station := { t.station with world } } where
  held := by
    obtain ⟨holder, hheld⟩ := h.held
    exact ⟨holder, hheld.outstanding_iff, hheld.syncing⟩
  history := h.history
  silent := h.silent
  outOfSync := h.outOfSync
  failures := h.failures

theorem getElem?_moved {caller : Caller} (hcaller : t.callers[place]? = some caller)
    (stage : Stage) (s : Station W) (events : List Event) (i : Nat) :
    (t.moved place caller stage s events).callers[i]? =
      if i = place then some { caller with stage } else t.callers[i]? := by
  have hplace : place < t.callers.length := (List.getElem?_eq_some_iff.mp hcaller).1
  unfold moved
  rw [List.getElem?_set]
  by_cases hi : i = place
  · rw [if_pos hi.symm, if_pos hplace, if_pos hi]
  · rw [if_neg (Ne.symm hi), if_neg hi]

theorem outstanding_moved {caller : Caller} (hcaller : t.callers[place]? = some caller)
    (stage : Stage) (s : Station W) (events : List Event) (i : Nat) :
    (t.moved place caller stage s events).Outstanding i ↔
      if i = place then stage.outstanding = true else t.Outstanding i := by
  unfold Outstanding
  rw [getElem?_moved hcaller]
  split
  · exact ⟨fun ⟨_, h, hout⟩ ↦ by cases h; exact hout, fun hout ↦ ⟨_, rfl, hout⟩⟩
  · exact Iff.rfl

theorem outstanding_iff_of_getElem? {caller : Caller}
    (hcaller : t.callers[place]? = some caller) :
    t.Outstanding place ↔ caller.stage.outstanding = true :=
  ⟨fun ⟨_, h, hout⟩ ↦ by rw [hcaller] at h; cases h; exact hout, fun hout ↦ ⟨_, hcaller, hout⟩⟩

/-- A step that neither takes nor gives back the gate leaves its holder. -/
theorem Held.moved_of_same {holder : Option Nat} (h : t.Held holder) {caller : Caller}
    (hcaller : t.callers[place]? = some caller) {stage : Stage} {s : Station W}
    (events : List Event) (hstage : stage.outstanding = caller.stage.outstanding)
    (hgate : s.gate.syncing = t.station.gate.syncing) :
    (t.moved place caller stage s events).Held holder where
  outstanding_iff i := by
    rw [outstanding_moved hcaller, ← h.outstanding_iff i]
    by_cases hi : i = place
    · subst hi
      rw [if_pos rfl, hstage, outstanding_iff_of_getElem? hcaller]
    · rw [if_neg hi]
  syncing := hgate.trans h.syncing

theorem Held.moved_of_taken {holder : Option Nat} (h : t.Held holder) {caller : Caller}
    (hcaller : t.callers[place]? = some caller) {stage : Stage} {s : Station W}
    (events : List Event) (hfree : t.station.gate.syncing = false)
    (hstage : stage.outstanding = true) (hgate : s.gate.syncing = true) :
    (t.moved place caller stage s events).Held (some place) where
  outstanding_iff i := by
    have hnone : holder = none := by
      rw [h.syncing] at hfree
      exact Option.isSome_eq_false_iff.mp hfree |> Option.isNone_iff_eq_none.mp
    rw [outstanding_moved hcaller, h.outstanding_iff i, hnone]
    by_cases hi : i = place
    · simp [hi, hstage]
    · simp [hi, Ne.symm hi]
  syncing := hgate

theorem Held.moved_of_givenBack {holder : Option Nat} (h : t.Held holder) {caller : Caller}
    (hcaller : t.callers[place]? = some caller) {stage : Stage} {s : Station W}
    (events : List Event) (hbefore : caller.stage.outstanding = true)
    (hstage : stage.outstanding = false) (hgate : s.gate.syncing = false) :
    (t.moved place caller stage s events).Held none where
  outstanding_iff i := by
    have hholder : holder = some place :=
      (h.outstanding_iff place).mp ((outstanding_iff_of_getElem? hcaller).mpr hbefore)
    rw [outstanding_moved hcaller, h.outstanding_iff i, hholder]
    by_cases hi : i = place
    · simp [hi, hstage]
    · simp [hi, Ne.symm hi]
  syncing := hgate

theorem history_moved_self (caller : Caller) (stage : Stage) (s : Station W)
    {events : List Event} (hevents : ∀ e ∈ events, e.place = place) :
    (t.moved place caller stage s events).history place = events ++ t.history place := by
  unfold history moved
  rw [List.filter_append, List.filter_eq_self.mpr fun e he ↦ by simp [hevents e he]]

theorem history_moved_of_ne {i : Nat} (hi : i ≠ place) (caller : Caller) (stage : Stage)
    (s : Station W) {events : List Event} (hevents : ∀ e ∈ events, e.place = place) :
    (t.moved place caller stage s events).history i = t.history i := by
  unfold history moved
  have hnone : events.filter (fun e ↦ decide (e.place = i)) = [] := by
    refine List.filter_eq_nil_iff.mpr fun e he ↦ ?_
    simp [hevents e he, Ne.symm hi]
  rw [List.filter_append, hnone, List.nil_append]

/-- Events without a release leave the outcome of the last one. -/
theorem lastFailed_moved (caller : Caller) (stage : Stage) (s : Station W) {events : List Event}
    (hevents : ∀ e ∈ events, e.success? = none) :
    (t.moved place caller stage s events).lastFailed = t.lastFailed := by
  unfold lastFailed moved
  rw [List.findSome?_append, List.findSome?_eq_none_iff.mpr hevents, Option.none_or]

/-! ### What an orderly traffic is like -/

theorem Orderly.one (h : t.Orderly) {i j : Nat} (hi : t.Outstanding i) (hj : t.Outstanding j) :
    i = j := by
  obtain ⟨holder, hheld⟩ := h.held
  have hholder := (hheld.outstanding_iff i).mp hi
  rw [(hheld.outstanding_iff j).mp hj] at hholder
  exact (Option.some.inj hholder).symm

theorem Orderly.syncing_iff (h : t.Orderly) :
    t.station.gate.syncing = true ↔ ∃ i, t.Outstanding i := by
  obtain ⟨holder, hheld⟩ := h.held
  simp only [hheld.outstanding_iff, hheld.syncing, Option.isSome_iff_exists]

theorem length_releases_past (place : Nat) (stage : Stage) :
    ((stage.past place).filterMap Event.success?).length = stage.gaveBack.toNat := by
  cases stage with
  | finished o =>
    unfold Stage.past
    have hnone : (Stage.finished o).told.filterMap (Event.success? ∘ Event.notified place) = [] :=
      List.filterMap_eq_nil_iff.mpr fun _ _ ↦ rfl
    rw [List.filterMap_append, List.filterMap_map, hnone]
    rfl
  | _ => rfl

theorem faults_past (place : Nat) (stage : Stage) :
    (stage.past place).filterMap Event.fault? = stage.told := by
  cases stage with
  | finished o =>
    unfold Stage.past
    rw [List.filterMap_append, List.filterMap_map]
    exact (List.append_nil _).trans List.filterMap_some
  | _ => rfl

/-- After a step the history of every caller is again the past of its stage. -/
theorem Orderly.history_moved (h : t.Orderly) {caller : Caller}
    (hcaller : t.callers[place]? = some caller) {stage : Stage} (s : Station W)
    {events : List Event} (hpast : stage.past place = events ++ caller.stage.past place)
    (hevents : ∀ e ∈ events, e.place = place) (i : Nat) (other : Caller)
    (hother : (t.moved place caller stage s events).callers[i]? = some other) :
    (t.moved place caller stage s events).history i = other.stage.past i := by
  rw [getElem?_moved hcaller] at hother
  by_cases hi : i = place
  · subst hi
    rw [if_pos rfl] at hother
    cases hother
    rw [history_moved_self _ _ _ hevents, h.history i caller hcaller, hpast]
  · rw [if_neg hi] at hother
    rw [history_moved_of_ne hi _ _ _ hevents, h.history i other hother]

theorem Orderly.silent_moved (h : t.Orderly) {caller : Caller}
    (hcaller : t.callers[place]? = some caller) (stage : Stage) (s : Station W)
    {events : List Event} (hevents : ∀ e ∈ events, e.place = place) (i : Nat)
    (hi : (t.moved place caller stage s events).callers.length ≤ i) :
    (t.moved place caller stage s events).history i = [] := by
  have hplace : place < t.callers.length := (List.getElem?_eq_some_iff.mp hcaller).1
  have hlength : t.callers.length ≤ i := by
    rwa [Traffic.moved, List.length_set] at hi
  rw [history_moved_of_ne (by omega) _ _ _ hevents, h.silent i hlength]

/-! ### Moves and runs -/

section Steps

variable [Recording W]

/-- One step of a caller keeps the order. -/
theorem Orderly.moved (h : t.Orderly) {caller : Caller}
    (hcaller : t.callers[place]? = some caller) {outcome : Except Fault Unit} {stage : Stage}
    {s : Station W} {events : List Event}
    (hnext : caller.next place outcome t.station = some (stage, s, events)) :
    (t.moved place caller stage s events).Orderly := by
  obtain ⟨hpast, hevents⟩ := Caller.next_past hnext
  have hhistory := fun i other ↦ h.history_moved hcaller s hpast hevents i other
  have hsilent := fun i ↦ h.silent_moved hcaller stage s hevents i
  obtain ⟨holder, hheld⟩ := h.held
  -- What is left are the flags and the failures, which each kind of step treats in its own way.
  obtain ⟨hbefore, hfree, rfl, rfl, rfl⟩ | ⟨hbefore, -, rfl, ⟨hgate, -, hfailures⟩, rfl⟩ |
    ⟨hbefore, hafter, rfl, -, hquiet⟩ | ⟨o, hbefore, rfl, rfl, rfl⟩ |
    ⟨o, hbefore, rfl, hgate, hfailures, rfl⟩ := Caller.next_cases hnext
  · refine ⟨⟨_, hheld.moved_of_taken hcaller _ hfree rfl rfl⟩, hhistory, hsilent, ?_, h.failures⟩
    rw [lastFailed_moved _ _ _ (by simp [Event.success?])]
    exact h.outOfSync
  · refine ⟨⟨_, hheld.moved_of_same hcaller _ (by rw [hbefore]; rfl) (by rw [hgate])⟩, hhistory,
      hsilent, ?_, hfailures.trans h.failures⟩
    rw [lastFailed_moved _ _ _ (by simp [Event.success?]), ← h.outOfSync]
    exact congrArg Gate.outOfSync hgate
  · refine ⟨⟨_, hheld.moved_of_same hcaller _ (by rw [hbefore, hafter]) rfl⟩, hhistory, hsilent,
      ?_, ?_⟩
    · rw [lastFailed_moved _ _ _ fun e he ↦ (hquiet e he).2.1]
      exact h.outOfSync
    · change t.station.failures = (events ++ t.events).filterMap Event.fault?
      rw [List.filterMap_append, List.filterMap_eq_nil_iff.mpr fun e he ↦ (hquiet e he).2.2,
        List.nil_append, h.failures]
  · exact ⟨⟨_, hheld.moved_of_givenBack hcaller _ (by rw [hbefore]; rfl) rfl rfl⟩, hhistory,
      hsilent, rfl, h.failures⟩
  · refine ⟨⟨_, hheld.moved_of_same hcaller _ (by rw [hbefore]; rfl) (by rw [hgate])⟩, hhistory,
      hsilent, ?_, ?_⟩
    · rw [lastFailed_moved _ _ _ (by simp [Event.success?]), ← h.outOfSync]
      exact congrArg Gate.outOfSync hgate
    · change s.failures = (_ ++ t.events).filterMap Event.fault?
      rw [List.filterMap_append, List.filterMap_map, hfailures, h.failures]
      congr 1
      exact List.filterMap_some.symm

theorem step?_advance_eq_some_iff {outcome : Except Fault Unit} :
    t.step? (.advance place outcome) = some t' ↔
      ∃ caller stage s events, t.callers[place]? = some caller ∧
        caller.next place outcome t.station = some (stage, s, events) ∧
        t' = t.moved place caller stage s events := by
  unfold step?
  dsimp only
  rw [Option.bind_eq_some_iff]
  constructor
  · rintro ⟨caller, hcaller, h⟩
    obtain ⟨⟨stage, s, events⟩, hnext, rfl⟩ := Option.map_eq_some_iff.mp h
    exact ⟨caller, stage, s, events, hcaller, hnext, rfl⟩
  · rintro ⟨caller, stage, s, events, hcaller, hnext, rfl⟩
    exact ⟨caller, hcaller, Option.map_eq_some_iff.mpr ⟨_, hnext, rfl⟩⟩

/-- Every move keeps the order. -/
theorem Orderly.step (h : t.Orderly) {move : Move W} (hstep : t.step? move = some t') :
    t'.Orderly := by
  cases move with
  | arrive way =>
    cases hstep
    exact h.arrive way
  | work world =>
    cases hstep
    exact h.work world
  | advance place outcome =>
    obtain ⟨caller, stage, s, events, hcaller, hnext, rfl⟩ :=
      step?_advance_eq_some_iff.mp hstep
    exact h.moved hcaller hnext

/-- Every run keeps the order. -/
theorem Orderly.run (h : t.Orderly) {moves : List (Move W)} (hrun : t.run? moves = some t') :
    t'.Orderly := by
  induction moves generalizing t with
  | nil =>
    cases hrun
    exact h
  | cons move moves ih =>
    obtain ⟨u, hstep, hrest⟩ := Option.bind_eq_some_iff.mp hrun
    exact ih (h.step hstep) hrest

theorem Reachable.orderly (h : t.Reachable) : t.Orderly := by
  obtain ⟨s, hgate, hfailures, moves, hrun⟩ := h
  exact (orderly_start hgate hfailures).run hrun

theorem Orderly.turnedAway_iff (h : t.Orderly) {caller : Caller} {outcome : Except Fault Unit}
    (hcaller : t.callers[place]? = some caller) (hasking : caller.stage = .asking)
    (hstep : t.step? (.advance place outcome) = some t') :
    (t'.callers[place]? = some { caller with stage := .turnedAway } ↔ ∃ j, t.Outstanding j) ∧
      ((∃ j, t.Outstanding j) → t'.station.gate = t.station.gate ∧
        t'.station.mode = t.station.mode ∧ t'.station.failures = t.station.failures) := by
  obtain ⟨caller', stage, s, events, hcaller', hnext, rfl⟩ := step?_advance_eq_some_iff.mp hstep
  rw [hcaller] at hcaller'
  cases hcaller'
  rw [getElem?_moved hcaller, if_pos rfl, ← h.syncing_iff]
  obtain ⟨-, hfree, rfl, -, -⟩ | ⟨-, hbusy, rfl, hflags, -⟩ | ⟨hbefore, -⟩ | ⟨o, hbefore, -⟩ |
    ⟨o, hbefore, -⟩ := Caller.next_cases hnext
  · rw [hfree]
    simp
  · exact ⟨iff_of_true rfl hbusy, fun _ ↦ hflags⟩
  · rw [hasking] at hbefore
    cases hbefore
  · rw [hasking] at hbefore
    cases hbefore
  · rw [hasking] at hbefore
    cases hbefore

theorem exists_next {caller : Caller} (place : Nat) (outcome : Except Fault Unit)
    (s : Station W) (hturned : caller.stage ≠ .turnedAway)
    (hfinished : ∀ o, caller.stage ≠ .finished o) :
    ∃ stage s' events, caller.next place outcome s = some (stage, s', events) := by
  obtain ⟨way, before⟩ := caller
  unfold Caller.next
  cases before with
  | asking =>
    dsimp only
    split
    · exact ⟨_, _, _, rfl⟩
    · exact ⟨_, _, _, rfl⟩
  | turnedAway => exact absurd rfl hturned
  | admitted => cases way <;> exact ⟨_, _, _, rfl⟩
  | queued => exact ⟨_, _, _, rfl⟩
  | running => exact ⟨_, _, _, rfl⟩
  | ended o => exact ⟨_, _, _, rfl⟩
  | released o =>
    cases o with
    | ok => exact ⟨_, _, _, rfl⟩
    | error fault => cases fault <;> exact ⟨_, _, _, rfl⟩
  | finished o => exact absurd rfl (hfinished o)

/-- Whatever callers come, and however their steps are interleaved, there is one pass at a time. -/
theorem singleFlight_of_reachable (h : t.Reachable) : t.SingleFlight where
  one _ _ := h.orderly.one
  syncing := h.orderly.syncing_iff
  history := h.orderly.history
  turnedAway _ _ _ _ hcaller hasking hstep := h.orderly.turnedAway_iff hcaller hasking hstep
  released i caller hcaller := by
    rw [h.orderly.history i caller hcaller, length_releases_past]
  outOfSync := h.orderly.outOfSync
  told i caller hcaller := by
    rw [h.orderly.history i caller hcaller, faults_past]
  failures := h.orderly.failures
  goesOn i caller outcome hcaller hturned hfinished := by
    obtain ⟨stage, s, events, hnext⟩ := exists_next i outcome t.station hturned hfinished
    exact ⟨_, step?_advance_eq_some_iff.mpr ⟨caller, stage, s, events, hcaller, hnext, rfl⟩⟩

/-- Three callers: the second one asks while the first has the gate, and the third takes the gate
after the first has given it back and before the user is told that it failed. -/
def crowd : List (Move Memory.Rehearsal) :=
  [ .arrive .background, .arrive .direct, .advance 0 (.ok ()), .advance 1 (.ok ()),
    .arrive .direct, .advance 0 (.ok ()), .advance 0 (.ok ()),
    .advance 0 (.error (.sync (.transport "timed out"))), .advance 0 (.ok ()),
    .advance 2 (.ok ()), .advance 0 (.ok ()), .advance 2 (.ok ()) ]

theorem singleFlight_crowd :
    ∃ t : Traffic Memory.Rehearsal,
      run? { station := { world := {} } } crowd = some t ∧ t.SingleFlight := by
  obtain ⟨t, hrun⟩ : ∃ t, run? { station := { world := {} } } crowd = some t := ⟨_, rfl⟩
  exact ⟨t, hrun, singleFlight_of_reachable ⟨_, rfl, rfl, crowd, hrun⟩⟩

/-! ### The programs are made of these steps -/

/-- A number of moves leads to a station and callers. -/
def LeadsTo (t : Traffic W) (s : Station W) (callers : List Caller) : Prop :=
  ∃ moves t', t.run? moves = some t' ∧ t'.station = s ∧ t'.callers = callers

variable {s s' : Station W} {callers : List Caller}

theorem LeadsTo.refl (t : Traffic W) : t.LeadsTo t.station t.callers := ⟨[], t, rfl, rfl, rfl⟩

theorem LeadsTo.of_step (h : t'.LeadsTo s callers) (move : Move W)
    (hstep : t.step? move = some t') : t.LeadsTo s callers := by
  obtain ⟨moves, u, hrun, hu⟩ := h
  refine ⟨move :: moves, u, ?_, hu⟩
  rw [run?, hstep]
  exact hrun

/-- The last caller takes a step. -/
theorem LeadsTo.of_next {earlier : List Caller} {events more : List Event} {way : Way}
    {before stage : Stage} {u : Station W} (outcome : Except Fault Unit)
    (hnext : (⟨way, before⟩ : Caller).next earlier.length outcome s = some (stage, s', more))
    (h : LeadsTo ⟨s', earlier ++ [⟨way, stage⟩], more ++ events⟩ u callers) :
    LeadsTo ⟨s, earlier ++ [⟨way, before⟩], events⟩ u callers := by
  refine h.of_step (.advance earlier.length outcome) (step?_advance_eq_some_iff.mpr
    ⟨⟨way, before⟩, stage, s', more, List.getElem?_concat_length, hnext, ?_⟩)
  unfold moved
  rw [List.set_append_right _ _ (Nat.le_refl _), Nat.sub_self]
  rfl

/-- The station after a pass has ended: the gate is given back and the user told. -/
def settled (outcome : Except Fault Unit) (s : Station W) : Station W :=
  (Stage.finished outcome).told.foldl (fun s fault ↦ s.told fault)
    (s.givenBack (succeeded outcome))

/-- What the one who asked for a pass learns of it. -/
def answer : Except Fault Unit → Except Fault Bool
  | .ok () => .ok true
  | .error (.sync _) => .ok false
  | .error fault => .error fault

theorem ends_runAcquired (x : Op W Unit) (s : Station W) :
    Ends (Trigger.runAcquired (Station.inWorld x)) s fun res u ↦
      ∃ outcome world, res = answer outcome ∧ u = settled outcome { s with world } := by
  unfold Trigger.runAcquired
  rw [ends_bind, ends_attempt, Station.inWorld, ends_within]
  refine ends_of_forall fun outcome world ↦ ?_
  rw [Next]
  refine Ends.mono ?_ fun res u (h : res = answer outcome ∧ u = settled outcome { s with world }) ↦
    ⟨outcome, world, h⟩
  cases outcome with
  | ok => exact ⟨rfl, rfl⟩
  | error fault => cases fault <;> exact ⟨rfl, rfl⟩

/-- A running pass does its work and ends, whichever way. -/
theorem leadsTo_settled (s : Station W) (earlier : List Caller) (way : Way) (events : List Event)
    (outcome : Except Fault Unit) (world : W) :
    LeadsTo ⟨s, earlier ++ [⟨way, .running⟩], events⟩ (settled outcome { s with world })
      (earlier ++ [⟨way, .finished outcome⟩]) := by
  refine LeadsTo.of_step ?_ (.work world) rfl
  refine LeadsTo.of_next outcome rfl (LeadsTo.of_next outcome rfl ?_)
  cases outcome with
  | ok => exact LeadsTo.of_next (.ok ()) rfl (LeadsTo.refl _)
  | error fault => cases fault <;> exact LeadsTo.of_next (.ok ()) rfl (LeadsTo.refl _)

/-- A caller that arrives while the gate is held is turned away. -/
theorem leadsTo_turnedAway (t : Traffic W) (way : Way) (hbusy : t.station.gate.syncing = true) :
    t.LeadsTo (way.dismiss t.station.attempted.2) (t.callers ++ [⟨way, .turnedAway⟩]) := by
  have hnext : (⟨way, .asking⟩ : Caller).next t.callers.length (.ok ()) t.station =
      some (.turnedAway, way.dismiss t.station.attempted.2, [.turnedAway t.callers.length]) := by
    unfold Caller.next
    rw [Station.attempted_of_syncing hbusy]
    rfl
  exact LeadsTo.of_step (LeadsTo.of_next (.ok ()) hnext (LeadsTo.refl _)) (.arrive way) rfl

/-- A caller that arrives while the gate is free takes it, and its pass runs and ends. -/
theorem leadsTo_finished (t : Traffic W) (way : Way) (outcome : Except Fault Unit) (world : W)
    (hfree : t.station.gate.syncing = false) :
    t.LeadsTo (settled outcome { t.station.attempted.2 with world })
      (t.callers ++ [⟨way, .finished outcome⟩]) := by
  have hnext : (⟨way, .asking⟩ : Caller).next t.callers.length (.ok ()) t.station =
      some (.admitted, t.station.attempted.2, [.admitted t.callers.length]) := by
    unfold Caller.next
    rw [Station.attempted_of_free hfree]
    rfl
  refine LeadsTo.of_step (LeadsTo.of_next (.ok ()) hnext ?_) (.arrive way) rfl
  cases way with
  | direct => exact LeadsTo.of_next (.ok ()) rfl (leadsTo_settled _ _ _ _ _ _)
  | background =>
    exact LeadsTo.of_next (.ok ()) rfl (LeadsTo.of_next (.ok ()) rfl (leadsTo_settled _ _ _ _ _ _))

/-- Running a pass amounts to a caller that arrives and takes all its steps at once. -/
theorem ends_runOnce (x : Op W Unit) (t : Traffic W) :
    Ends (Trigger.runOnce (Station.inWorld x)) t.station fun res s ↦
      (res = .ok none ∧ t.LeadsTo s (t.callers ++ [⟨.direct, .turnedAway⟩])) ∨
        ∃ outcome, res = some <$> answer outcome ∧
          t.LeadsTo s (t.callers ++ [⟨.direct, .finished outcome⟩]) := by
  unfold Trigger.runOnce
  rw [ends_bind, Station.tryAcquire, ends_modifyGet]
  cases hsyncing : t.station.gate.syncing with
  | true =>
    have hdone := leadsTo_turnedAway t .direct hsyncing
    rw [Station.attempted_of_syncing hsyncing] at hdone ⊢
    exact Or.inl ⟨rfl, hdone⟩
  | false =>
    have hdone := fun outcome world ↦ leadsTo_finished t .direct outcome world hsyncing
    rw [Station.attempted_of_free hsyncing] at hdone ⊢
    rw [Next, if_pos rfl, ends_map]
    refine (ends_runAcquired x _).mono ?_
    rintro _ _ ⟨outcome, world, rfl, rfl⟩
    exact Or.inr ⟨outcome, rfl, hdone outcome world⟩

/-- So does starting a pass, where the background takes work up at once. -/
theorem ends_start {scheduling : Scheduling (Station W)}
    (himmediate : ∀ work, scheduling.immediate work = attempt work) (x : Op W Unit)
    (t : Traffic W) :
    Ends (Trigger.start scheduling (Station.inWorld x)) t.station fun res s ↦
      (res = .ok none ∧ t.LeadsTo s (t.callers ++ [⟨.background, .turnedAway⟩])) ∨
        ∃ outcome, res = .ok (some (answer outcome)) ∧
          t.LeadsTo s (t.callers ++ [⟨.background, .finished outcome⟩]) := by
  unfold Trigger.start
  rw [ends_bind, himmediate, Station.tryAcquire, ends_modifyGet]
  cases hsyncing : t.station.gate.syncing with
  | true =>
    have hdone := leadsTo_turnedAway t .background hsyncing
    rw [Station.attempted_of_syncing hsyncing] at hdone ⊢
    exact Or.inl ⟨rfl, hdone⟩
  | false =>
    have hdone := fun outcome world ↦ leadsTo_finished t .background outcome world hsyncing
    rw [Station.attempted_of_free hsyncing] at hdone ⊢
    rw [Next, if_pos rfl, ends_map, ends_attempt]
    refine (ends_runAcquired x _).mono ?_
    rintro _ _ ⟨outcome, world, rfl, rfl⟩
    exact Or.inr ⟨outcome, rfl, hdone outcome world⟩

end Steps

end Traffic

end FormCatalog
