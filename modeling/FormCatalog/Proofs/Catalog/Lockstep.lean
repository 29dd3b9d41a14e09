import FormCatalog.Proofs.Catalog.Abort

/-!
# Fetches in step

A preview and a pass fetch the same catalog, but the pass remembers keys on the way. So the two do
not go through the same states; they go through states in which the server stands the same and in
which the device holds the same but for its remembered keys (`Catalog.Alike`). Programs are in step
(`Op.InStep`) if from related states they end alike and in related states, and being in step is
passed on by sequences and loops. The entries of a fetch are made in step whether keys are
remembered or not (`Catalog.Separate.inStep_annotate`), so a fetch ends alike in either case, be it
in a fault or not (`Catalog.Separate.outcome_snapshot`). The server may answer differently every
time; its answers only have to depend on its own part of the state.
-/

set_option autoImplicit false
set_option relaxedAutoImplicit false

namespace FormCatalog

namespace Op

variable {σ α β : Type}

/-! ### Outcomes -/

/-- What a program ends with. -/
def outcome (x : Op σ α) (s : σ) : Except Fault α :=
  match x s with
  | .ok a _ => .ok a
  | .error e _ => .error e

section Outcomes

variable {x : Op σ α} {s t : σ}

theorem outcome_of_ok {a : α} (h : x s = .ok a t) : x.outcome s = .ok a := by
  rw [outcome, h]

theorem outcome_of_error {e : Fault} (h : x s = .error e t) : x.outcome s = .error e := by
  rw [outcome, h]

theorem eq_error_of_outcome {e : Fault} (h : x.outcome s = .error e) :
    x s = .error e (x.after s) := by
  unfold outcome at h
  unfold after
  cases hx : x s with
  | ok b t =>
    rw [hx] at h
    cases h
  | error e' t =>
    rw [hx] at h
    cases h
    rfl

theorem ends_iff {post : Except Fault α → σ → Prop} :
    Ends x s post ↔ post (x.outcome s) (x.after s) := by
  unfold Ends outcome after
  cases x s <;> rfl

end Outcomes

/-! ### Programs in step -/

/-- From related states, the two programs end alike and in related states. -/
def InStep (rel : σ → σ → Prop) (x y : Op σ α) : Prop :=
  ∀ s t, rel s t → y.outcome t = x.outcome s ∧ rel (x.after s) (y.after t)

section Rules

variable {rel : σ → σ → Prop} {x y : Op σ α}

theorem InStep.of_ends (h : ∀ s t, rel s t → Ends x s fun r u ↦ Ends y t fun r' v ↦
    r' = r ∧ rel u v) : InStep rel x y := by
  intro s t hst
  have hends := h s t hst
  rwa [ends_iff, ends_iff] at hends

theorem InStep.ends (h : InStep rel x y) {s t : σ} (hst : rel s t) :
    Ends x s fun r u ↦ Ends y t fun r' v ↦ r' = r ∧ rel u v := by
  rw [ends_iff, ends_iff]
  exact h s t hst

theorem inStep_pure (a : α) : InStep rel (pure a : Op σ α) (pure a) := fun _ _ h ↦ ⟨rfl, h⟩

theorem inStep_throw (e : Fault) : InStep rel (throw e : Op σ α) (throw e) := fun _ _ h ↦ ⟨rfl, h⟩

theorem InStep.bind {f g : α → Op σ β} (hx : InStep rel x y) (hf : ∀ a, InStep rel (f a) (g a)) :
    InStep rel (x >>= f) (y >>= g) := by
  refine .of_ends fun s t hst ↦ ?_
  rw [ends_bind]
  refine (hx.ends hst).mono fun r u hu ↦ ?_
  cases r with
  | error e =>
    rw [Next, ends_bind]
    refine hu.mono ?_
    rintro r' v ⟨rfl, hv⟩
    exact ⟨rfl, hv⟩
  | ok a =>
    rw [Next]
    obtain ⟨_, v, hy, hr, hv⟩ | ⟨_, _, -, hr, -⟩ := hu.cases
    · cases hr
      refine ((hf a).ends hv).mono fun r w hw ↦ ?_
      exact hw.congr_run (bind_of_ok hy)
    · cases hr

theorem InStep.map (hx : InStep rel x y) (f : α → β) : InStep rel (f <$> x) (f <$> y) := by
  rw [map_eq_pure_bind, map_eq_pure_bind]
  exact hx.bind fun a ↦ inStep_pure (f a)

theorem inStep_mapM {f g : α → Op σ β} (h : ∀ a, InStep rel (f a) (g a)) (l : List α) :
    InStep rel (l.mapM f) (l.mapM g) := by
  induction l with
  | nil =>
    rw [List.mapM_nil, List.mapM_nil]
    exact inStep_pure []
  | cons a rest ih =>
    rw [List.mapM_cons, List.mapM_cons]
    exact (h a).bind fun b ↦ ih.bind fun bs ↦ inStep_pure (b :: bs)

end Rules

end Op

open Op

/-- What a request for a manifest ends in, and what it leaves of a part of the state, depends on
that part alone. -/
def Server.Reads {σ τ : Type} (server : Server σ) (part : σ → τ) : Prop :=
  ∀ url, InStep (fun s t ↦ part s = part t) (server.manifest url) (server.manifest url)

/-- The calls of a comparison leave a part of the state alone. -/
structure Device.Spares {σ τ : Type} [Recording σ] (device : Device σ) (part : σ → τ) : Prop where
  mediaFiles : ∀ p id version, Keeps (part · = p) (device.mediaFiles id version)
  remember : ∀ p id key, Keeps (part · = p) (device.remember id key)
  note : ∀ e s, part (Recording.record e s) = part s

namespace Catalog

variable {σ τ ρ : Type} [Recording σ] {catalog : Catalog σ} {part : σ → τ} {stock : σ → Stock ρ}
  {media : ρ → String → Option String → Except Fault (List MediaRecord)}

/-- The server stands the same, and the device holds the same but for its remembered keys. -/
def Alike (part : σ → τ) (stock : σ → Stock ρ) (s t : σ) : Prop :=
  part s = part t ∧ (stock s).rest = (stock t).rest

/-- The two sides keep apart: the server goes by its part of the state and leaves the stock alone,
the device answers from its stock and leaves the part of the server alone. -/
structure Separate (catalog : Catalog σ) (part : σ → τ) (stock : σ → Stock ρ)
    (media : ρ → String → Option String → Except Fault (List MediaRecord)) : Prop where
  leaves : catalog.server.Leaves stock
  reads : catalog.server.Reads part
  stocks : catalog.device.Stocks stock media
  spares : catalog.device.Spares part

variable {s : σ} {e : Fault}

theorem Separate.inStep_manifestOf (h : catalog.Separate part stock media) (d : Descriptor) :
    InStep (Alike part stock) (catalog.manifestOf d) (catalog.manifestOf d) := by
  cases haddress : d.manifestAddress? with
  | none =>
    rw [manifestOf_of_no_address haddress]
    exact inStep_pure none
  | some url =>
    rw [manifestOf_of_address haddress]
    refine InStep.map (fun s t hst ↦ ?_) some
    obtain ⟨hsame, hpart⟩ := h.reads url s t hst.1
    have hs := ends_iff.mp (h.leaves.manifest url s)
    have ht := ends_iff.mp (h.leaves.manifest url t)
    exact ⟨hsame, hpart, by rw [hs, ht, hst.2]⟩

/-- A comparison finds what the rest of the stock says, and it leaves the rest and the server
alone. -/
theorem Separate.ends_compare (h : catalog.Separate part stock media) (read : List FormRecord)
    (remembering : Bool) (d : Descriptor) (manifest : Option Manifest) (s : σ) :
    Ends (catalog.device.compare d manifest (recordOf? read d.formId) remembering) s fun r t ↦
      r = Reading.standing ⟨read, media (stock s).rest⟩ d manifest ∧ part t = part s ∧
        (stock t).rest = (stock s).rest := by
  have hspared : Keeps (part · = part s)
      (catalog.device.compare d manifest (recordOf? read d.formId) remembering) :=
    Device.keeps_compare (h.spares.mediaFiles _) (h.spares.remember _)
      (fun e s hs ↦ (h.spares.note e s).trans hs) d manifest _ remembering
  refine ((h.stocks.ends_compare read remembering d manifest s).and (hspared s rfl)).mono ?_
  rintro r t ⟨⟨hr, ht⟩, hpart⟩
  refine ⟨hr, hpart, ?_⟩
  cases r with
  | error e => rw [ht.1]
  | ok standing =>
    dsimp only at ht
    rw [ht]
    cases remembering with
    | false => rfl
    | true =>
      exact Stock.rest_compared true [⟨d, standing.notOnDevice, standing.updated, manifest⟩]
        (stock s)

/-- The entry of a listed form is made in step, whether keys are remembered or not. -/
theorem Separate.inStep_annotate (h : catalog.Separate part stock media) (read : List FormRecord)
    (remembering remembering' : Bool) (d : Descriptor) :
    InStep (Alike part stock) (catalog.annotate read remembering d)
      (catalog.annotate read remembering' d) := by
  refine (h.inStep_manifestOf d).bind fun manifest ↦ InStep.bind (.of_ends fun s t hst ↦ ?_)
    fun standing ↦ inStep_pure _
  refine (h.ends_compare read remembering d manifest s).mono ?_
  rintro r u ⟨rfl, hpart, hrest⟩
  refine (h.ends_compare read remembering' d manifest t).mono ?_
  rintro r' v ⟨rfl, hpart', hrest'⟩
  exact ⟨by rw [hst.2], by rw [hpart, hpart', hst.1], by rw [hrest, hrest', hst.2]⟩

/-- A snapshot ends alike from the same state, whether keys are remembered or not. -/
theorem Separate.outcome_snapshot (h : catalog.Separate part stock media)
    (remembering remembering' : Bool) (s : σ) :
    (catalog.snapshot remembering').outcome s = (catalog.snapshot remembering).outcome s := by
  rw [snapshot_eq_opening, snapshot_eq_opening]
  cases hopening : catalog.opening s with
  | error e t =>
    rw [outcome_of_error (bind_eq_error hopening), outcome_of_error (bind_eq_error hopening)]
  | ok opened t =>
    have hloop := inStep_mapM (h.inStep_annotate opened.2 remembering remembering') opened.1
    have hsame := (hloop t t ⟨rfl, rfl⟩).1
    unfold outcome at hsame ⊢
    rwa [bind_of_ok hopening, bind_of_ok hopening]

/-- Planning fails only where the snapshot does. -/
theorem outcome_planWith_eq_error_iff (hdevice : catalog.device.Stocks stock media)
    (remembering : Bool) :
    (catalog.planWith remembering).outcome s = .error e ↔
      (catalog.snapshot remembering).outcome s = .error e := by
  unfold planWith
  cases hsnapshot : catalog.snapshot remembering s with
  | error e' t =>
    rw [outcome_of_error (bind_eq_error hsnapshot), outcome_of_error hsnapshot,
      Except.error.injEq, Except.error.injEq]
  | ok xs t =>
    rw [outcome_of_ok hsnapshot]
    have hplanned : Ends (do
        let records ← catalog.device.records
        pure (Plan.of xs records)) t fun r _ ↦ r = .ok (Plan.of xs (stock t).records) := by
      rw [ends_bind]
      refine (hdevice.records t).mono ?_
      rintro r u ⟨rfl, -⟩
      exact rfl
    have hplan := ends_iff.mp hplanned
    constructor
    · intro h
      unfold outcome at h hplan
      rw [bind_of_ok hsnapshot, hplan] at h
      cases h
    · intro h
      cases h

end Catalog

end FormCatalog
