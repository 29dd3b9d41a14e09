import FormCatalog.CommandLine.Commands
import FormCatalog.Proofs.App.Sides
import FormCatalog.Proofs.Trigger.SingleFlight

/-!
# What the exit codes say

The fault of a pass reaches the user by way of the notifier: the trigger makes it known and hands on
only that the pass failed, and the sync command then reports the failure that was made known last.
What it reports is the fault of its own pass all the same. `Reports` says how a sync ends by what
came of its own pass (`App.ownPass`), whatever was made known before it (`ends_runSync`); `Shows`
says so of a status and its preview (`ends_runStatus`).

`Truthful` spells out what this means for the codes and for the errors shown. A status shows the
fault that a pass would meet because a fetch ends alike whether keys are remembered or not. From
what one call leaves with the notifier (`after_call`) follows what any number of calls leave with it
(`calls_truthful`). Nothing is assumed of the server, of what is on the device, or of what was made
known before the first call; the gate may be held.
-/

set_option autoImplicit false
set_option relaxedAutoImplicit false

namespace FormCatalog

open Op

variable {N : Type}

/-- What comes of asking for a pass: nothing where the gate is held, and else how the pass ends. -/
def App.ownPass (app : App N) (s : AppState N) : Option (Except Fault Plan) :=
  if s.gate.syncing then none else some (app.catalog.synchronize.outcome s.world.site)

theorem App.ownPass_eq_some_iff {app : App N} {s : AppState N} {r : Except Fault Plan} :
    app.ownPass s = some r ↔
      s.gate.syncing = false ∧ app.catalog.synchronize.outcome s.world.site = r := by
  unfold ownPass
  cases s.gate.syncing <;> simp

namespace CommandLine

/-! ### One command -/

/-- How the sync command ends and which failures were then made known, by what came of its own
pass. -/
inductive Reports (failures : List SyncFault) :
    Option (Except Fault Plan) → Except Fault Outcome → List SyncFault → Prop
  | turnedAway : Reports failures none
      (.ok { code := 1, lines := ["A sync is already in progress."] }) failures
  | completed (plan : Plan) : Reports failures (some (.ok plan))
      (.ok { code := 0, lines := ["Sync complete."] }) failures
  | failed (fault : SyncFault) : Reports failures (some (.error (.sync fault)))
      (.ok (Outcome.failure fault)) (fault :: failures)
  | crashed {e : Fault} (h : ¬ e.IsSync) : Reports failures (some (.error e)) (.error e) failures

theorem ends_runSync (app : App N) (s : AppState N) :
    Ends (runSync app) s fun r t ↦
      Reports s.failures (app.ownPass s) r t.failures ∧ t.gate.syncing = s.gate.syncing := by
  unfold runSync App.runOnce Trigger.runOnce App.ownPass
  rw [ends_bind, ends_bind, Station.tryAcquire, ends_modifyGet]
  cases hsyncing : s.gate.syncing with
  | true =>
    rw [Station.attempted_of_syncing hsyncing]
    exact ⟨.turnedAway, hsyncing⟩
  | false =>
    rw [Station.attempted_of_free hsyncing, Next, if_pos rfl, ends_map]
    unfold Trigger.runAcquired App.pass App.onSite
    rw [ends_bind, ends_attempt, ends_bind, Station.inWorld, ends_within, ends_within, ends_iff]
    cases app.catalog.synchronize.outcome s.world.site with
    | ok plan => exact ⟨.completed plan, rfl⟩
    | error e =>
      cases e with
      | sync fault => exact ⟨.failed fault, rfl⟩
      | _ => exact ⟨.crashed (by rintro ⟨_, ⟨⟩⟩), rfl⟩

/-- How the status command ends, by what the preview ended in. -/
inductive Shows : Except Fault Plan → Except Fault Outcome → Prop
  | plan (plan : Plan) : Shows (.ok plan) (.ok (Outcome.plan plan))
  | failed (fault : SyncFault) : Shows (.error (.sync fault)) (.ok (Outcome.failure fault))
  | crashed {e : Fault} (h : ¬ e.IsSync) : Shows (.error e) (.error e)

theorem ends_runStatus (app : App N) (s : AppState N) :
    Ends (runStatus app) s fun r t ↦
      Shows (app.catalog.preview.outcome s.world.site) r ∧ t.failures = s.failures ∧
        t.gate = s.gate := by
  unfold runStatus App.preview App.onSite
  rw [ends_bind, ends_attempt, Station.inWorld, ends_within, ends_within, ends_iff]
  cases app.catalog.preview.outcome s.world.site with
  | ok plan => exact ⟨.plan plan, rfl, rfl⟩
  | error e =>
    cases e with
    | sync fault => exact ⟨.failed fault, rfl, rfl⟩
    | _ => exact ⟨.crashed (by rintro ⟨_, ⟨⟩⟩), rfl, rfl⟩

/-! ### Codes and errors -/

/-- The outcome shows an error with this text. -/
def Outcome.Prints (o : Outcome) (message : String) : Prop := "Error: " ++ message ∈ o.lines

/-- The command returns with this code. -/
def Exits (x : Op (AppState N) Outcome) (s : AppState N) (code : Nat) : Prop :=
  ∃ o, x.outcome s = .ok o ∧ o.code = code

theorem code_failure_ne_zero (fault : SyncFault) : (Outcome.failure fault).code ≠ 0 := by
  cases fault <;> simp [Outcome.failure, Outcome.codeOf, SyncFault.kind]

/-- Only refused credentials have the code 2. -/
theorem code_failure_eq_two_iff {fault : SyncFault} :
    (Outcome.failure fault).code = 2 ↔ ∃ message, fault = .rejected message := by
  cases fault <;> simp [Outcome.failure, Outcome.codeOf, SyncFault.kind]

theorem code_failure_eq_one_iff {fault : SyncFault} :
    (Outcome.failure fault).code = 1 ↔ ∀ message, fault ≠ .rejected message := by
  cases fault <;> simp [Outcome.failure, Outcome.codeOf, SyncFault.kind]

/-- A line that starts with another letter is no error. -/
theorem error_ne_append {start : String} {c : Char} (h : start.toList.head? = some c)
    (hc : c ≠ 'E') (rest message : String) : "Error: " ++ message ≠ start ++ rest := by
  intro heq
  have hhead := congrArg (·.toList.head?) heq
  simp only [String.toList_append, List.head?_append, h, Option.some_or] at hhead
  exact hc (Option.some.inj hhead).symm

theorem error_ne {line : String} {c : Char} (h : line.toList.head? = some c) (hc : c ≠ 'E')
    (message : String) : "Error: " ++ message ≠ line := by
  simpa using error_ne_append h hc "" message

theorem prints_failure_iff {fault : SyncFault} {message : String} :
    (Outcome.failure fault).Prints message ↔ message = fault.message := by
  have hsame : "Error: " ++ message = "Error: " ++ fault.message ↔ message = fault.message := by
    rw [← String.toList_inj, String.toList_append, String.toList_append, List.append_cancel_left_eq,
      String.toList_inj]
  have hhint : "Error: " ++ message ≠
      "The server requires authentication. Re-run with --username to enter credentials." :=
    error_ne rfl (by decide) message
  unfold Outcome.Prints Outcome.failure
  rw [List.mem_cons, hsame]
  cases fault.kind with
  | tryAgain => simp
  | signIn => simp [hhint]

/-- The report on a plan shows no error. -/
theorem not_prints_plan (p : Plan) (message : String) : ¬ (Outcome.plan p).Prints message := by
  intro h
  unfold Outcome.Prints Outcome.plan at h
  rcases List.mem_append.mp h with h | h
  · rcases List.mem_append.mp h with h | h
    · simp only [List.mem_cons, List.not_mem_nil, or_false] at h
      rcases h with h | h | h | h
      · exact error_ne rfl (by decide) message h
      all_goals exact error_ne_append rfl (by decide) _ message h
    · obtain ⟨d, -, h⟩ := List.mem_map.mp h
      rw [String.append_assoc] at h
      exact error_ne_append rfl (by decide) _ message h.symm
  · obtain ⟨r, -, h⟩ := List.mem_map.mp h
    rw [String.append_assoc] at h
    exact error_ne_append rfl (by decide) _ message h.symm

/-! ### What the commands tell -/

/-- From this state, the two commands tell the truth about their own pass and their own preview. -/
structure Truthful (app : App N) (s : AppState N) : Prop where
  /-- A sync succeeds exactly if its own pass returned. -/
  succeeds : Exits (runSync app) s 0 ↔ ∃ plan, app.ownPass s = some (.ok plan)
  /-- It asks the user to sign in exactly if its own pass did. -/
  signIn : Exits (runSync app) s 2 ↔
    ∃ message, app.ownPass s = some (.error (.sync (.rejected message)))
  /-- A pass asks the user to sign in exactly if the server refused the credentials to its request
  for the list or for a manifest. -/
  refused : ∀ message, app.ownPass s = some (.error (.sync (.rejected message))) ↔
    s.gate.syncing = false ∧ app.Refused s.world.site message
  /-- Whatever made downloads fail, when the catalog was fetched a failed pass only says that some
  did. -/
  collects : ∀ plan u fault, app.catalog.planWith true s.world.site = .ok plan u →
    app.ownPass s = some (.error (.sync fault)) →
    ∃ failed v, Catalog.CarriesOut app.catalog plan u failed v ∧ failed ≠ [] ∧
      fault = .incomplete "" failed
  /-- All else that is reported of a sync is a plain failure: its own pass ended in another fault of
  synchronisation, or the gate was held. -/
  fails : Exits (runSync app) s 1 ↔ app.ownPass s = none ∨
    ∃ fault, app.ownPass s = some (.error (.sync fault)) ∧ ∀ message, fault ≠ .rejected message
  /-- In particular, if its own pass could only end in a fault of synchronisation, a sync that
  neither succeeds nor asks the user to sign in is a plain failure. -/
  otherwise : (∀ e, app.ownPass s = some (.error e) → e.IsSync) → ¬ Exits (runSync app) s 0 →
    ¬ Exits (runSync app) s 2 → Exits (runSync app) s 1
  /-- Only a fault that is none of synchronisation is not reported; it goes on upwards. -/
  crashes : ∀ e, (runSync app).outcome s = .error e ↔
    app.ownPass s = some (.error e) ∧ ¬ e.IsSync
  /-- The error that a sync shows is that of its own pass. -/
  prints : ∀ o, (runSync app).outcome s = .ok o → ∀ message, o.Prints message ↔
    ∃ fault, app.ownPass s = some (.error (.sync fault)) ∧ message = fault.message
  /-- A status succeeds exactly if its preview returned, and the error that it shows is that of the
  preview. -/
  status : (Exits (runStatus app) s 0 ↔
      ∃ plan, app.catalog.preview.outcome s.world.site = .ok plan) ∧
    ∀ o, (runStatus app).outcome s = .ok o → ∀ message, o.Prints message ↔
      ∃ fault, app.catalog.preview.outcome s.world.site = .error (.sync fault) ∧
        message = fault.message
  /-- When the catalog cannot be fetched, a status ends as a sync would that is let in: with the
  same code and the same lines, or in the same fault. -/
  agrees : ∀ remembering e, (app.catalog.snapshot remembering).outcome s.world.site = .error e →
    ∀ t : AppState N, t.world = s.world → t.gate.syncing = false →
      (runStatus app).outcome s = (runSync app).outcome t

/-- The fault of synchronisation that came of asking for a pass. -/
def syncFault? : Option (Except Fault Plan) → Option SyncFault
  | some (.error (.sync fault)) => some fault
  | _ => none

namespace Reports

variable {failures left : List SyncFault} {own : Option (Except Fault Plan)}
  {r : Except Fault Outcome}

theorem code_zero_iff (h : Reports failures own r left) :
    (∃ o, r = .ok o ∧ o.code = 0) ↔ ∃ plan, own = some (.ok plan) := by
  cases h with
  | turnedAway => simp
  | completed plan => simp
  | failed fault => simp [code_failure_ne_zero]
  | crashed h => simp

theorem code_two_iff (h : Reports failures own r left) :
    (∃ o, r = .ok o ∧ o.code = 2) ↔
      ∃ message, own = some (.error (.sync (.rejected message))) := by
  cases h with
  | turnedAway => simp
  | completed plan => simp
  | failed fault => simp [code_failure_eq_two_iff]
  | crashed h =>
    simp only [reduceCtorEq, false_and, exists_false, Option.some.injEq, Except.error.injEq,
      false_iff, not_exists]
    rintro message rfl
    exact h ⟨_, rfl⟩

theorem code_one_iff (h : Reports failures own r left) :
    (∃ o, r = .ok o ∧ o.code = 1) ↔ own = none ∨
      ∃ fault, own = some (.error (.sync fault)) ∧ ∀ message, fault ≠ .rejected message := by
  cases h with
  | turnedAway => simp
  | completed plan => simp
  | failed fault => simp [code_failure_eq_one_iff]
  | crashed h =>
    simp only [reduceCtorEq, false_and, exists_false, Option.some.injEq, Except.error.injEq,
      false_iff, false_or, not_exists, not_and]
    rintro fault rfl
    exact (h ⟨_, rfl⟩).elim

theorem eq_error_iff (h : Reports failures own r left) (e : Fault) :
    r = .error e ↔ own = some (.error e) ∧ ¬ e.IsSync := by
  cases h with
  | turnedAway => simp
  | completed plan => simp
  | failed fault =>
    simp only [reduceCtorEq, Option.some.injEq, Except.error.injEq, false_iff, not_and, not_not]
    rintro rfl
    exact ⟨fault, rfl⟩
  | crashed h =>
    simp only [Option.some.injEq, Except.error.injEq]
    exact ⟨by rintro rfl; exact ⟨rfl, h⟩, fun he ↦ he.1⟩

theorem prints_iff (h : Reports failures own r left) {o : Outcome} (ho : r = .ok o)
    (message : String) : o.Prints message ↔
      ∃ fault, own = some (.error (.sync fault)) ∧ message = fault.message := by
  cases h with
  | turnedAway =>
    cases ho
    simpa [Outcome.Prints] using error_ne rfl (by decide) message
  | completed plan =>
    cases ho
    simpa [Outcome.Prints] using error_ne rfl (by decide) message
  | failed fault =>
    cases ho
    simp [prints_failure_iff]
  | crashed h => cases ho

/-- The fault of the own pass is made known, and nothing else. -/
theorem left_eq (h : Reports failures own r left) :
    left = (syncFault? own).toList ++ failures := by
  cases h with
  | turnedAway => rfl
  | completed plan => rfl
  | failed fault => rfl
  | @crashed e h =>
    cases e with
    | sync fault => exact (h ⟨fault, rfl⟩).elim
    | _ => rfl

end Reports

namespace Shows

variable {preview : Except Fault Plan} {r : Except Fault Outcome}

theorem code_zero_iff (h : Shows preview r) :
    (∃ o, r = .ok o ∧ o.code = 0) ↔ ∃ plan, preview = .ok plan := by
  cases h with
  | plan plan => simp [Outcome.plan]
  | failed fault => simp [code_failure_ne_zero]
  | crashed h => simp

theorem prints_iff (h : Shows preview r) {o : Outcome} (ho : r = .ok o) (message : String) :
    o.Prints message ↔
      ∃ fault, preview = .error (.sync fault) ∧ message = fault.message := by
  cases h with
  | plan plan =>
    cases ho
    simp [not_prints_plan]
  | failed fault =>
    cases ho
    simp [prints_failure_iff]
  | crashed h => cases ho

/-- A preview and a pass that end in the same fault are reported alike. -/
theorem eq_of_reports {e : Fault} {r' : Except Fault Outcome} {failures left : List SyncFault}
    (h : Shows (.error e) r) (h' : Reports failures (some (.error e)) r' left) : r = r' := by
  cases h with
  | failed fault =>
    cases h' with
    | failed => rfl
    | crashed hnot => exact (hnot ⟨fault, rfl⟩).elim
  | crashed hnot =>
    cases h' with
    | failed fault => exact (hnot ⟨fault, rfl⟩).elim
    | crashed => rfl

end Shows

theorem truthful (app : App N) (s : AppState N) : Truthful app s := by
  obtain ⟨hreports, -⟩ := ends_iff.mp (ends_runSync app s)
  obtain ⟨hshows, -⟩ := ends_iff.mp (ends_runStatus app s)
  constructor
  case succeeds => exact hreports.code_zero_iff
  case signIn => exact hreports.code_two_iff
  case refused =>
    intro message
    rw [App.ownPass_eq_some_iff, app.synchronize_rejected_iff]
  case collects =>
    intro plan u fault hplan hown
    have hpass := eq_error_of_outcome (App.ownPass_eq_some_iff.mp hown).2
    rcases Shelf.fetched_or_collected app.server.side_leaves_stock hpass with
      ⟨_, _, _, habort⟩ | ⟨plan', u', v, failed, hplan', hcarried, hfailed, rfl⟩
    · cases habort.planWith_eq.symm.trans hplan
    · cases hplan.symm.trans hplan'
      exact ⟨failed, v, hcarried, hfailed, rfl⟩
  case fails => exact hreports.code_one_iff
  case otherwise =>
    intro hsync hzero htwo
    refine hreports.code_one_iff.mpr ?_
    cases hown : app.ownPass s with
    | none => exact Or.inl rfl
    | some r =>
      cases r with
      | ok plan => exact (hzero (hreports.code_zero_iff.mpr ⟨plan, hown⟩)).elim
      | error e =>
        obtain ⟨fault, rfl⟩ := hsync e hown
        refine Or.inr ⟨fault, rfl, ?_⟩
        rintro message rfl
        exact htwo (hreports.code_two_iff.mpr ⟨message, hown⟩)
  case crashes => exact hreports.eq_error_iff
  case prints => exact fun o ho message ↦ hreports.prints_iff ho message
  case status => exact ⟨hshows.code_zero_iff, fun o ho message ↦ hshows.prints_iff ho message⟩
  case agrees =>
    intro remembering e hfetch t hworld htfree
    obtain ⟨hpreview, hpass⟩ := app.outcome_of_snapshot hfetch
    have hown : app.ownPass t = some (.error e) :=
      App.ownPass_eq_some_iff.mpr ⟨htfree, by rw [hworld, hpass]⟩
    obtain ⟨hreports', -⟩ := ends_iff.mp (ends_runSync app t)
    rw [hpreview] at hshows
    rw [hown] at hreports'
    exact hshows.eq_of_reports hreports'

/-! ### Commands one after the other -/

/-- A call of one of the two commands. -/
inductive Call where
  | status
  | sync
  deriving DecidableEq, Repr

/-- What a call runs. -/
def Call.run (app : App N) : Call → Op (AppState N) Outcome
  | status => runStatus app
  | sync => runSync app

/-- A number of calls, one after the other, each with the state that it was made in. A call that
ends in a fault does not keep the next from being made. -/
def made (app : App N) : List Call → AppState N → List (Call × AppState N)
  | [], _ => []
  | call :: rest, s => (call, s) :: made app rest ((call.run app).after s)

/-- The state that a number of calls leaves. -/
def left (app : App N) : List Call → AppState N → AppState N
  | [], s => s
  | call :: rest, s => left app rest ((call.run app).after s)

/-- The fault of synchronisation that the pass of a call ended in. -/
def failure? (app : App N) : Call × AppState N → Option SyncFault
  | (.sync, s) => syncFault? (app.ownPass s)
  | (.status, _) => none

/-- A call makes the fault of its own pass known, and nothing else; the gate is held after it
exactly if it was held before. -/
theorem after_call (app : App N) (call : Call) (s : AppState N) :
    ((call.run app).after s).failures = (failure? app (call, s)).toList ++ s.failures ∧
      ((call.run app).after s).gate.syncing = s.gate.syncing := by
  cases call with
  | status =>
    obtain ⟨-, hfailures, hgate⟩ := ends_iff.mp (ends_runStatus app s)
    exact ⟨hfailures, congrArg Gate.syncing hgate⟩
  | sync =>
    obtain ⟨hreports, hgate⟩ := ends_iff.mp (ends_runSync app s)
    exact ⟨hreports.left_eq, hgate⟩

/-- For any number of calls of the two commands, from any state of an app, whatever the server
answers and whatever the device holds: each call tells the truth, and the failures made known are
those of the passes that failed, the last one first. -/
theorem calls_truthful (app : App N) (calls : List Call) (s : AppState N) :
    (∀ call ∈ made app calls s,
      Truthful app call.2 ∧ call.2.gate.syncing = s.gate.syncing) ∧
    (left app calls s).failures =
      ((made app calls s).filterMap (failure? app)).reverse ++ s.failures := by
  induction calls generalizing s with
  | nil => exact ⟨List.forall_mem_nil _, rfl⟩
  | cons call rest ih =>
    obtain ⟨hfailures, hgate⟩ := after_call app call s
    obtain ⟨hrest, hleft⟩ := ih ((call.run app).after s)
    unfold made left
    constructor
    · intro c hc
      rcases List.mem_cons.mp hc with rfl | hc
      · exact ⟨truthful app s, rfl⟩
      · exact ⟨(hrest c hc).1, (hrest c hc).2.trans hgate⟩
    · rw [hleft, hfailures, List.filterMap_cons]
      cases failure? app (call, s) <;> simp

/-- A server that refuses the credentials to the first request and is out of reach from then on. -/
def fading : App Nat where
  settings := {}
  wire := fun _ n ↦ (if n = 0 then .ok ⟨401, [], []⟩ else .error "no route", n + 1)
  database := none

/-- A new device that is to be served by it. -/
def fresh : AppState Nat where
  world :=
    { scheduler := {}
      site :=
        { disk := ⟨["device"], []⟩
          table := []
          net :=
            { client :=
                { base := ⟨"http".toList, [], "localhost".toList, none, ['/'], none, none⟩
                  signIn := none }
              net := 0 }
          journal := [] } }

/-- Each of three calls reports what it met itself, although the first failure is still known. -/
theorem calls_truthful_fading :
    ((∀ call ∈ made fading [.sync, .status, .sync] fresh,
        Truthful fading call.2 ∧ call.2.gate.syncing = fresh.gate.syncing) ∧
      (left fading [.sync, .status, .sync] fresh).failures =
        ((made fading [.sync, .status, .sync] fresh).filterMap (failure? fading)).reverse ++
          fresh.failures) ∧
    (made fading [.sync, .status, .sync] fresh).map
        (fun call ↦ ((call.1.run fading).outcome call.2).toOption) =
      [some (Outcome.failure (.rejected "Server rejected credentials (401) for /formList")),
        some (Outcome.failure (.transport "Request to /formList failed: no route")),
        some (Outcome.failure (.transport "Request to /formList failed: no route"))] :=
  ⟨calls_truthful fading [.sync, .status, .sync] fresh, by decide +kernel⟩

end CommandLine

end FormCatalog
