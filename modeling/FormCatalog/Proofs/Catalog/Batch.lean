import FormCatalog.Catalog.Pass
import FormCatalog.Proofs.Programs

/-!
# A batch of downloads

`Catalog.Attempts` says that downloads were attempted one after the other, each from the state that
the attempt before it left, and collects the ids of those that failed. A pass whose deletions came
through attempts every download of its plan and ends with the plan, or with the one fault that names
the failed forms; only a fault that is not the fault of a download breaks the batch off, at the form
whose download ended in it (`ends_synchronize_of_deleted`). A pass that returned has carried its
whole plan out (`carriesOut_of_synchronize`).
-/

set_option autoImplicit false
set_option relaxedAutoImplicit false

namespace FormCatalog.Catalog

open Op

variable {σ : Type} [Recording σ] {catalog : Catalog σ}

/-- From a state, these downloads were attempted in this order, those with the collected ids failed,
and a state was left. Each attempt is reported by one entry of the journal. -/
inductive Attempts (catalog : Catalog σ) (s : σ) : List Details → List String → σ → Prop
  | none : Attempts catalog s [] [] s
  | succeeded {done : List Details} {failed : List String} {t u : σ} {x : Details}
      (h : Attempts catalog s done failed t) (hx : catalog.device.download x t = .ok () u)
      (entry : Entry) : Attempts catalog s (done ++ [x]) failed (Recording.record entry u)
  | failed {done : List Details} {failed : List String} {t u : σ} {x : Details}
      {formId message : String} (h : Attempts catalog s done failed t)
      (hx : catalog.device.download x t = .error (.download formId message) u) (entry : Entry) :
      Attempts catalog s (done ++ [x]) (failed ++ [x.formId]) (Recording.record entry u)

/-- A property that every attempt preserves holds after any number of them. -/
theorem Attempts.keeps {s t : σ} {xs : List Details} {failed : List String}
    (h : Attempts catalog s xs failed t) (inv : σ → Prop) (hs : inv s)
    (hdownload : ∀ x, Keeps inv (catalog.device.download x))
    (hnote : ∀ entry t, inv t → inv (Recording.record entry t)) : inv t := by
  induction h with
  | none => exact hs
  | succeeded _ hx entry ih => exact hnote entry _ ((hdownload _ _ ih).of_ok hx)
  | failed _ hx entry ih => exact hnote entry _ ((hdownload _ _ ih).of_error hx)

/-- From a state, every download of the plan was attempted, and the pass ended as the failed ones
say: with the plan, or with the one fault that names them. -/
def Completes (catalog : Catalog σ) (s : σ) (plan : Plan) (r : Except Fault Plan) : Prop :=
  ∃ failed t, Attempts catalog s plan.toDownload failed t ∧
    r = if failed = [] then .ok plan else .error (.sync (.incomplete "" failed))

/-- The batch broke off at a form: the ones before it were attempted, and its own download ended in
a fault that is not the fault of a download. -/
def BreaksOff (catalog : Catalog σ) (s : σ) (xs : List Details) (e : Fault) : Prop :=
  ∃ done x rest failed t u, xs = done ++ x :: rest ∧ Attempts catalog s done failed t ∧
    catalog.device.download x t = .error e u ∧ ∀ formId message, e ≠ .download formId message

theorem ends_tryDownload (catalog : Catalog σ) (x : Details) (s : σ) :
    Ends (catalog.tryDownload x) s fun r t ↦
      match r with
      | .ok none => ∃ u entry, catalog.device.download x s = .ok () u ∧ t = Recording.record entry u
      | .ok (some id) => id = x.formId ∧ ∃ formId message u entry,
          catalog.device.download x s = .error (.download formId message) u ∧
            t = Recording.record entry u
      | .error e => catalog.device.download x s = .error e t ∧
          ∀ formId message, e ≠ .download formId message := by
  unfold tryDownload
  rw [ends_bind, ends_attempt]
  cases hx : catalog.device.download x s with
  | ok _ u =>
    rw [ends_iff_of_ok hx, Next, ends_bind, ends_note, Next, ends_pure]
    exact ⟨u, _, rfl, rfl⟩
  | error e u =>
    rw [ends_iff_of_error hx, Next]
    split
    · rename_i h
      cases h
    · rename_i formId message h
      cases h
      rw [ends_bind, ends_note, Next, ends_pure]
      exact ⟨rfl, formId, message, u, _, rfl, rfl⟩
    · rename_i fault hnot h
      cases h
      exact ⟨rfl, fun formId message he ↦ hnot formId message (by rw [he])⟩

theorem ends_mapM_tryDownload (catalog : Catalog σ) (xs : List Details) (s : σ) :
    Ends (xs.mapM catalog.tryDownload) s fun r t ↦
      match r with
      | .ok results => Attempts catalog s xs (results.filterMap id) t
      | .error e => catalog.BreaksOff s xs e := by
  refine ends_mapM (fun done results t ↦ Attempts catalog s done (results.filterMap id) t) .none
    (fun done x rest results t hxs ht ↦ ?_) fun results t ht ↦ ht
  refine (catalog.ends_tryDownload x t).mono fun r u hu ↦ ?_
  rcases r with e | _ | formId
  · exact ⟨done, x, rest, _, t, u, hxs, ht, hu⟩
  · obtain ⟨v, entry, hx, rfl⟩ := hu
    simpa using ht.succeeded hx entry
  · obtain ⟨rfl, _, _, v, entry, hx, rfl⟩ := hu
    simpa using ht.failed hx entry

/-- When the deletions of a plan have come through, every download of the plan is attempted, and
the failed ones decide between the two ends; or the batch breaks off. -/
theorem ends_carryOut_of_deleted {plan : Plan} {s t : σ}
    (hdeleted : plan.toDelete.forM catalog.delete s = .ok ⟨⟩ t) :
    Ends (catalog.carryOut plan) s fun r u ↦
      match r with
      | .ok _ => ∃ v entry, Attempts catalog t plan.toDownload [] v ∧
          u = Recording.record entry v
      | .error e => (∃ failed, failed ≠ [] ∧ Attempts catalog t plan.toDownload failed u ∧
          e = .sync (.incomplete "" failed)) ∨ catalog.BreaksOff t plan.toDownload e := by
  unfold carryOut
  rw [ends_bind, ends_iff_of_ok hdeleted, Next, ends_bind]
  refine (catalog.ends_mapM_tryDownload plan.toDownload t).mono fun r u hu ↦ ?_
  cases r with
  | error e => exact Or.inr hu
  | ok results =>
    rw [Next]
    dsimp only
    by_cases hfailed : results.filterMap id = []
    · rw [if_neg (fun h ↦ h hfailed), ends_note]
      exact ⟨u, _, hfailed ▸ hu, rfl⟩
    · rw [if_pos hfailed, ends_bind, ends_throw]
      exact Or.inl ⟨_, hfailed, hu, rfl⟩

/-- When the plan has come about and its deletions have come through, a pass attempts every download
of the plan and ends as the failed ones say, or it breaks off. -/
theorem ends_synchronize_of_deleted {plan : Plan} {s s' t : σ}
    (hplan : catalog.planWith true s = .ok plan s')
    (hdeleted : plan.toDelete.forM catalog.delete s' = .ok ⟨⟩ t) :
    Ends catalog.synchronize s fun r _ ↦
      catalog.Completes t plan r ∨ ∃ e, r = .error e ∧ catalog.BreaksOff t plan.toDownload e := by
  unfold synchronize
  rw [ends_bind, ends_iff_of_ok hplan, Next, ends_bind]
  refine (catalog.ends_carryOut_of_deleted hdeleted).mono fun r u hu ↦ ?_
  cases r with
  | error e =>
    rcases hu with ⟨failed, hfailed, hattempts, rfl⟩ | hbreaks
    · exact Or.inl ⟨failed, u, hattempts, by rw [if_neg hfailed]⟩
    · exact Or.inr ⟨e, rfl, hbreaks⟩
  | ok _ =>
    obtain ⟨v, _, hattempts, -⟩ := hu
    exact Or.inl ⟨[], v, hattempts, rfl⟩

/-- From a state, a plan was carried out: its deletions came through, every download was attempted,
and those with the collected ids failed. -/
def CarriesOut (catalog : Catalog σ) (plan : Plan) (s : σ) (failed : List String) (t : σ) : Prop :=
  ∃ u, plan.toDelete.forM catalog.delete s = .ok ⟨⟩ u ∧
    Attempts catalog u plan.toDownload failed t

end FormCatalog.Catalog
