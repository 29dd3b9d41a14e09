import FormCatalog.Op

/-!
# How programs end

A program over a state ends with a result or with a fault, and the state is kept either way. `Ends`
says what holds of the outcome and of the state left behind, and there is one rule for each way to
build a program. The rules for sequencing (`ends_bind`), for recovering (`ends_attempt`) and for a
part of the state (`ends_within`) are equivalences; a loop over a list has a rule with an invariant
that may speak of the part of the list done so far and of its results (`ends_mapM`). `Returns` and
`Raises` say that it was one of the two ends, and they can be decided by running the program;
`IfReturns` says what holds in case of a result, and a sequence of programs passes it on.
`Keeps` is the special case of a property that a program preserves however it ends, and it is closed
under everything that the library builds programs with. A program without a state is a value or a
fault, and so is every part of a sequence of them.
-/

set_option autoImplicit false
set_option relaxedAutoImplicit false

namespace Except

theorem bind_eq_ok_iff {ε α β : Type} {x : Except ε α} {f : α → Except ε β} {b : β} :
    x >>= f = .ok b ↔ ∃ a, x = .ok a ∧ f a = .ok b := by
  cases x with
  | error e => simp [bind, Except.bind]
  | ok a => simp [bind, Except.bind]

theorem bind_eq_error_iff {ε α β : Type} {x : Except ε α} {f : α → Except ε β} {e : ε} :
    x >>= f = .error e ↔ x = .error e ∨ ∃ a, x = .ok a ∧ f a = .error e := by
  cases x with
  | error e => simp [bind, Except.bind]
  | ok a => simp [bind, Except.bind]

/-- The values of a traversal that succeeds are those of its steps. -/
theorem mem_of_mapM {ε α β : Type} {f : α → Except ε β} {as : List α} {bs : List β}
    (h : as.mapM f = .ok bs) :
    (∀ b ∈ bs, ∃ a ∈ as, f a = .ok b) ∧ ∀ a ∈ as, ∃ b ∈ bs, f a = .ok b := by
  induction as generalizing bs with
  | nil =>
    cases h
    exact ⟨fun b hb ↦ absurd hb List.not_mem_nil, fun a ha ↦ absurd ha List.not_mem_nil⟩
  | cons a as ih =>
    rw [List.mapM_cons] at h
    obtain ⟨first, hfirst, h⟩ := bind_eq_ok_iff.mp h
    obtain ⟨rest, hrest, h⟩ := bind_eq_ok_iff.mp h
    cases h
    obtain ⟨hfrom, hto⟩ := ih hrest
    refine ⟨List.forall_mem_cons.mpr ⟨⟨a, List.mem_cons_self, hfirst⟩, fun b hb ↦ ?_⟩,
      List.forall_mem_cons.mpr ⟨⟨first, List.mem_cons_self, hfirst⟩, fun a ha ↦ ?_⟩⟩
    · obtain ⟨found, hfound, hstep⟩ := hfrom b hb
      exact ⟨found, List.mem_cons_of_mem a hfound, hstep⟩
    · obtain ⟨found, hfound, hstep⟩ := hto a ha
      exact ⟨found, List.mem_cons_of_mem first hfound, hstep⟩

end Except

namespace FormCatalog.Op

variable {σ τ α β : Type}

/-- However the program ends from a state, its outcome and the state it leaves are as said. -/
def Ends (x : Op σ α) (s : σ) (post : Except Fault α → σ → Prop) : Prop :=
  match x s with
  | .ok a t => post (.ok a) t
  | .error e t => post (.error e) t

/-- What holds after the first of two programs: the second one ends as said, or the first one broke
off and its fault is the outcome. -/
def Next (f : α → Op σ β) (post : Except Fault β → σ → Prop) : Except Fault α → σ → Prop
  | .ok a, t => Ends (f a) t post
  | .error e, t => post (.error e) t

section Rules

variable {x : Op σ α} {s t : σ} {post : Except Fault α → σ → Prop}

theorem Ends.of_ok {a : α} (h : Ends x s post) (hx : x s = .ok a t) : post (.ok a) t := by
  simpa only [Ends, hx] using h

theorem Ends.of_error {e : Fault} (h : Ends x s post) (hx : x s = .error e t) :
    post (.error e) t := by
  simpa only [Ends, hx] using h

/-- A program always ends: with a result, or with a fault. -/
theorem Ends.cases (h : Ends x s post) :
    (∃ a t, x s = .ok a t ∧ post (.ok a) t) ∨ (∃ e t, x s = .error e t ∧ post (.error e) t) := by
  unfold Ends at h
  cases hx : x s with
  | ok a t => exact Or.inl ⟨a, t, rfl, by simpa only [hx] using h⟩
  | error e t => exact Or.inr ⟨e, t, rfl, by simpa only [hx] using h⟩

theorem Ends.mono {post' : Except Fault α → σ → Prop} (h : Ends x s post)
    (himp : ∀ r t, post r t → post' r t) : Ends x s post' := by
  unfold Ends at h ⊢
  cases hx : x s with
  | ok a t => exact himp _ _ (by simpa only [hx] using h)
  | error e t => exact himp _ _ (by simpa only [hx] using h)

theorem Ends.congr_run {y : Op σ α} {u : σ} (h : Ends x s post) (hrun : y u = x s) :
    Ends y u post := by
  unfold Ends at h ⊢
  rwa [hrun]

theorem Ends.eq_ok {a : α} {u : σ} (h : Ends x s fun r t ↦ r = .ok a ∧ t = u) :
    x s = .ok a u := by
  obtain ⟨_, _, hx, hr, rfl⟩ | ⟨_, _, -, hr, -⟩ := h.cases
  · cases hr
    exact hx
  · cases hr

theorem Ends.eq_error {e : Fault} {u : σ} (h : Ends x s fun r t ↦ r = .error e ∧ t = u) :
    x s = .error e u := by
  obtain ⟨_, _, -, hr, -⟩ | ⟨_, _, hx, hr, rfl⟩ := h.cases
  · cases hr
  · cases hr
    exact hx

/-- The state that a program leaves, however it ends. -/
def after (x : Op σ α) (s : σ) : σ :=
  match x s with
  | .ok _ t => t
  | .error _ t => t

theorem Ends.after (h : Ends x s post) : ∃ r, post r (x.after s) := by
  unfold Op.after
  obtain ⟨a, t, hx, ht⟩ | ⟨e, t, hx, ht⟩ := h.cases
  · rw [hx]
    exact ⟨.ok a, ht⟩
  · rw [hx]
    exact ⟨.error e, ht⟩

/-- The state that a number of programs leaves, run one after the other. One that ends in a fault
does not keep the next from being run. -/
def afterAll (programs : List (Op σ α)) (s : σ) : σ := programs.foldl (fun s x ↦ x.after s) s

theorem afterAll_concat (programs : List (Op σ α)) :
    afterAll (programs ++ [x]) s = x.after (afterAll programs s) := by
  unfold afterAll
  rw [List.foldl_append]
  rfl

theorem after_of_ok {a : α} (h : x s = .ok a t) : x.after s = t := by
  rw [Op.after, h]

theorem after_of_error {e : Fault} (h : x s = .error e t) : x.after s = t := by
  rw [Op.after, h]

theorem ends_of_forall (h : ∀ r t, post r t) : Ends x s post := by
  unfold Ends
  cases x s <;> exact h _ _

theorem Ends.and {post' : Except Fault α → σ → Prop} (h : Ends x s post) (h' : Ends x s post') :
    Ends x s fun r t ↦ post r t ∧ post' r t := by
  unfold Ends at h h' ⊢
  cases hx : x s with
  | ok a t => exact ⟨by simpa only [hx] using h, by simpa only [hx] using h'⟩
  | error e t => exact ⟨by simpa only [hx] using h, by simpa only [hx] using h'⟩

theorem ends_iff_of_ok {a : α} (hx : x s = .ok a t) : Ends x s post ↔ post (.ok a) t := by
  rw [Ends, hx]

theorem ends_iff_of_error {e : Fault} (hx : x s = .error e t) :
    Ends x s post ↔ post (.error e) t := by
  rw [Ends, hx]

/-- A sequence goes on where its first program returned. -/
theorem bind_of_ok {f : α → Op σ β} {a : α} (hx : x s = .ok a t) : (x >>= f) s = f a t := by
  change EStateM.bind x f s = _
  unfold EStateM.bind
  rw [hx]

/-- A sequence that returned has been through its first program. -/
theorem bind_eq_ok {f : α → Op σ β} {b : β} (h : (x >>= f) s = .ok b t) :
    ∃ a u, x s = .ok a u ∧ f a u = .ok b t := by
  change EStateM.bind x f s = _ at h
  unfold EStateM.bind at h
  cases hx : x s with
  | ok a u =>
    rw [hx] at h
    exact ⟨a, u, rfl, h⟩
  | error e u =>
    rw [hx] at h
    cases h

/-- A sequence that failed did so in its first program, or after that had returned. -/
theorem bind_eq_error_cases {f : α → Op σ β} {e : Fault} (h : (x >>= f) s = .error e t) :
    x s = .error e t ∨ ∃ a u, x s = .ok a u ∧ f a u = .error e t := by
  change EStateM.bind x f s = _ at h
  unfold EStateM.bind at h
  cases hx : x s with
  | ok a u =>
    rw [hx] at h
    exact Or.inr ⟨a, u, rfl, h⟩
  | error e' u =>
    rw [hx] at h
    cases h
    exact Or.inl rfl

/-- What a program gives does not depend on how it came to its end. -/
theorem map_congr_run {f : α → β} {y : Op σ α} (h : x s = y t) : (f <$> x) s = (f <$> y) t := by
  change EStateM.map f x s = EStateM.map f y t
  unfold EStateM.map
  rw [h]

theorem map_eq_error_iff {f : α → β} {e : Fault} :
    (f <$> x) s = .error e t ↔ x s = .error e t := by
  change EStateM.map f x s = _ ↔ _
  unfold EStateM.map
  cases x s with
  | ok a u => simp
  | error e' u => simp

/-- The first fault ends a sequence. -/
theorem bind_eq_error {f : α → Op σ β} {e : Fault} (hx : x s = .error e t) :
    (x >>= f) s = .error e t := by
  change EStateM.bind x f s = _
  unfold EStateM.bind
  rw [hx]

theorem ends_pure {a : α} : Ends (pure a) s post ↔ post (.ok a) s := Iff.rfl

theorem ends_throw {e : Fault} : Ends (throw e : Op σ α) s post ↔ post (.error e) s := Iff.rfl

theorem ends_get {post : Except Fault σ → σ → Prop} :
    Ends (get : Op σ σ) s post ↔ post (.ok s) s := Iff.rfl

theorem ends_modify {f : σ → σ} {post : Except Fault PUnit → σ → Prop} :
    Ends (modify f : Op σ PUnit) s post ↔ post (.ok ⟨⟩) (f s) := Iff.rfl

theorem ends_modifyGet {f : σ → α × σ} :
    Ends (modifyGet f : Op σ α) s post ↔ post (.ok (f s).1) (f s).2 := Iff.rfl

theorem ends_note [Recording σ] {level : Level} {component : Component} {message : String}
    {post : Except Fault Unit → σ → Prop} :
    Ends (note level component message : Op σ Unit) s post ↔
      post (.ok ()) (Recording.record ⟨level, component, message⟩ s) := Iff.rfl

theorem ends_bind {f : α → Op σ β} {post : Except Fault β → σ → Prop} :
    Ends (x >>= f) s post ↔ Ends x s (Next f post) := by
  unfold Ends
  change (match EStateM.bind x f s with
    | .ok b t => post (.ok b) t
    | .error e t => post (.error e) t) ↔ _
  unfold EStateM.bind
  cases x s <;> rfl

theorem ends_map {f : α → β} {post : Except Fault β → σ → Prop} :
    Ends (f <$> x) s post ↔ Ends x s fun r t ↦ post (r.map f) t := by
  unfold Ends
  change (match EStateM.map f x s with
    | .ok b t => post (.ok b) t
    | .error e t => post (.error e) t) ↔ _
  unfold EStateM.map
  cases x s <;> rfl

theorem ends_attempt {post : Except Fault (Except Fault α) → σ → Prop} :
    Ends (attempt x) s post ↔ Ends x s fun r t ↦ post (.ok r) t := by
  unfold Ends attempt
  cases x s <;> rfl

theorem ends_ofExcept {r : Except Fault α} : Ends (ofExcept r) s post ↔ post r s := by
  cases r <;> rfl

theorem ends_within {part : σ → τ} {restore : τ → σ → σ} {y : Op τ α} :
    Ends (within part restore y) s post ↔ Ends y (part s) fun r t ↦ post r (restore t s) := by
  unfold Ends within
  cases y (part s) <;> rfl

/-- The rule for a loop that collects results. The invariant speaks of the part of the list that is
done, of the results so far and of the state. -/
theorem ends_mapM {f : α → Op σ β} {l : List α} {post : Except Fault (List β) → σ → Prop}
    (inv : List α → List β → σ → Prop) (hstart : inv [] [] s)
    (hstep : ∀ done a rest results s, l = done ++ a :: rest → inv done results s →
      Ends (f a) s fun r t ↦
        match r with
        | .ok b => inv (done ++ [a]) (results ++ [b]) t
        | .error e => post (.error e) t)
    (hend : ∀ results t, inv l results t → post (.ok results) t) :
    Ends (l.mapM f) s post := by
  -- The induction is on what is left of the list, for any part that is done.
  suffices h : ∀ rest done results s, l = done ++ rest → inv done results s →
      Ends (rest.mapM f) s (Next (fun bs ↦ pure (results ++ bs)) post) by
    have hall := h l [] [] s rfl hstart
    rw [← ends_bind] at hall
    simpa using hall
  intro rest
  induction rest with
  | nil =>
    intro done results s hl hinv
    rw [List.append_nil] at hl
    subst hl
    rw [List.mapM_nil]
    simpa only [ends_pure, Next, List.append_nil] using hend _ _ hinv
  | cons a rest ih =>
    intro done results s hl hinv
    rw [List.mapM_cons, ends_bind]
    refine (hstep done a rest results s hl hinv).mono fun r t hr ↦ ?_
    cases r with
    | error e => exact hr
    | ok b =>
      have hrest := ih (done ++ [a]) (results ++ [b]) t (by simp [hl]) hr
      rw [Next, ends_bind]
      refine hrest.mono fun r t hr ↦ ?_
      cases r with
      | error e => exact hr
      | ok bs => simpa only [Next, ends_pure, List.append_assoc, List.singleton_append] using hr

/-- The rule for a loop without results. -/
theorem ends_forM {f : α → Op σ PUnit} {l : List α} {post : Except Fault PUnit → σ → Prop}
    (inv : List α → σ → Prop) (hstart : inv [] s)
    (hstep : ∀ done a rest s, l = done ++ a :: rest → inv done s →
      Ends (f a) s fun r t ↦
        match r with
        | .ok _ => inv (done ++ [a]) t
        | .error e => post (.error e) t)
    (hend : ∀ t, inv l t → post (.ok ⟨⟩) t) :
    Ends (l.forM f) s post := by
  suffices h : ∀ rest done s, l = done ++ rest → inv done s → Ends (rest.forM f) s post from
    h l [] s rfl hstart
  intro rest
  induction rest with
  | nil =>
    intro done s hl hinv
    rw [List.append_nil] at hl
    subst hl
    exact hend _ hinv
  | cons a rest ih =>
    intro done s hl hinv
    change Ends (f a >>= fun _ ↦ rest.forM f) s post
    rw [ends_bind]
    refine (hstep done a rest s hl hinv).mono fun r t hr ↦ ?_
    cases r with
    | error e => exact hr
    | ok u => exact ih (done ++ [a]) t (by simp [hl]) hr

/-- A loop comes to its end, or one of its steps fails after the ones before it. -/
theorem forM_cases (f : α → Op σ PUnit) (l : List α) (s : σ) :
    (∃ t, l.forM f s = .ok ⟨⟩ t) ∨
      ∃ done a later e t u, l = done ++ a :: later ∧ done.forM f s = .ok ⟨⟩ t ∧
        f a t = .error e u := by
  induction l generalizing s with
  | nil => exact Or.inl ⟨s, rfl⟩
  | cons a rest ih =>
    cases hstep : f a s with
    | error e u => exact Or.inr ⟨[], a, rest, e, s, u, rfl, rfl, hstep⟩
    | ok _ t =>
      have hcons (l : List α) : (a :: l).forM f s = l.forM f t := bind_of_ok hstep
      rw [hcons]
      rcases ih t with hall | ⟨done, b, later, e, u, v, rfl, hdone, hb⟩
      · exact Or.inl hall
      · exact Or.inr ⟨a :: done, b, later, e, u, v, rfl, (hcons done).trans hdone, hb⟩

/-- A loop ends where one of its steps does. -/
theorem forM_eq_error {f : α → Op σ PUnit} {done later : List α} {a : α} {u : σ} {e : Fault}
    (hdone : done.forM f s = .ok ⟨⟩ t) (h : f a t = .error e u) :
    (done ++ a :: later).forM f s = .error e u := by
  change (forM (done ++ a :: later) f) s = _
  rw [List.forM_append]
  exact (bind_of_ok hdone).trans (bind_eq_error h)

end Rules

/-! ### One of the two ends -/

/-- The program ends with a result, and the result and the state left behind are as said. -/
def Returns (x : Op σ α) (s : σ) (post : α → σ → Prop) : Prop :=
  ∃ a t, x s = .ok a t ∧ post a t

/-- The program ends with a fault, and the fault and the state left behind are as said. -/
def Raises (x : Op σ α) (s : σ) (post : Fault → σ → Prop) : Prop :=
  ∃ e t, x s = .error e t ∧ post e t

theorem Ends.returns {x : Op σ α} {s : σ} {a : α} {post : α → σ → Prop}
    (h : Ends x s fun r t ↦ r = .ok a ∧ post a t) : Returns x s post := by
  obtain ⟨_, t, hx, hr, hpost⟩ | ⟨_, _, -, hr, -⟩ := h.cases
  · cases hr
    exact ⟨_, t, hx, hpost⟩
  · cases hr

theorem Ends.raises {x : Op σ α} {s : σ} {post : Fault → σ → Prop}
    (h : Ends x s fun r t ↦ ∃ e, r = .error e ∧ post e t) : Raises x s post := by
  obtain ⟨_, _, -, _, hr, -⟩ | ⟨_, t, hx, e, hr, hpost⟩ := h.cases
  · cases hr
  · cases hr
    exact ⟨_, t, hx, hpost⟩

instance {x : Op σ α} {s : σ} {post : α → σ → Prop} [∀ a t, Decidable (post a t)] :
    Decidable (Returns x s post) :=
  match h : x s with
  | .ok a t => decidable_of_iff (post a t)
      ⟨fun hpost ↦ ⟨a, t, h, hpost⟩, fun ⟨_, _, hx, hpost⟩ ↦ by cases h.symm.trans hx; exact hpost⟩
  | .error _ _ => isFalse fun ⟨_, _, hx, _⟩ ↦ by cases h.symm.trans hx

instance {x : Op σ α} {s : σ} {post : Fault → σ → Prop} [∀ e t, Decidable (post e t)] :
    Decidable (Raises x s post) :=
  match h : x s with
  | .ok _ _ => isFalse fun ⟨_, _, hx, _⟩ ↦ by cases h.symm.trans hx
  | .error e t => decidable_of_iff (post e t)
      ⟨fun hpost ↦ ⟨e, t, h, hpost⟩, fun ⟨_, _, hx, hpost⟩ ↦ by cases h.symm.trans hx; exact hpost⟩

/-- What a program leaves, where it is known by running it that it returns, and with what. -/
theorem eq_ok_after {x : Op σ α} {s : σ} {a : α} (h : Returns x s fun b _ ↦ b = a) :
    x s = .ok a (x.after s) := by
  obtain ⟨_, t, hx, rfl⟩ := h
  rw [after, hx]

theorem eq_error_after {x : Op σ α} {s : σ} {e : Fault} (h : Raises x s fun e' _ ↦ e' = e) :
    x s = .error e (x.after s) := by
  obtain ⟨_, t, hx, rfl⟩ := h
  rw [after, hx]

/-! ### What holds in case of a result -/

/-- If the program ends with a result, the result and the state left behind are as said. -/
def IfReturns (x : Op σ α) (s : σ) (post : α → σ → Prop) : Prop :=
  Ends x s fun r t ↦ ∀ a, r = .ok a → post a t

section Returning

variable {x : Op σ α} {s t : σ} {post : α → σ → Prop}

theorem Ends.ifReturns {post : Except Fault α → σ → Prop} (h : Ends x s post) :
    IfReturns x s fun a t ↦ post (.ok a) t :=
  h.mono fun _ _ ht _ hr ↦ by cases hr; exact ht

theorem IfReturns.of_ok {a : α} (h : IfReturns x s post) (hx : x s = .ok a t) : post a t :=
  Ends.of_ok h hx a rfl

theorem IfReturns.mono {post' : α → σ → Prop} (h : IfReturns x s post)
    (himp : ∀ a t, post a t → post' a t) : IfReturns x s post' :=
  Ends.mono h fun _ _ ht a hr ↦ himp a _ (ht a hr)

theorem IfReturns.and {post' : α → σ → Prop} (h : IfReturns x s post)
    (h' : IfReturns x s post') : IfReturns x s fun a t ↦ post a t ∧ post' a t :=
  (Ends.and h h').mono fun _ _ ht a hr ↦ ⟨ht.1 a hr, ht.2 a hr⟩

theorem ifReturns_of_forall (h : ∀ a t, post a t) : IfReturns x s post :=
  ends_of_forall fun _ _ _ _ ↦ h _ _

theorem ifReturns_pure {a : α} (h : post a s) : IfReturns (pure a) s post :=
  fun _ hr ↦ by cases hr; exact h

theorem ifReturns_self : IfReturns x s fun a t ↦ x s = .ok a t := by
  unfold IfReturns Ends
  cases hx : x s with
  | ok a t => exact fun _ hr ↦ by cases hr; rfl
  | error e t => exact fun _ hr ↦ by cases hr

theorem ifReturns_throw {e : Fault} : IfReturns (throw e : Op σ α) s post :=
  fun _ hr ↦ by cases hr

theorem ifReturns_ofExcept {r : Except Fault α} :
    IfReturns (ofExcept r) s fun a t ↦ r = .ok a ∧ t = s :=
  ends_ofExcept.mpr fun _ hr ↦ ⟨hr, rfl⟩

theorem ifReturns_attempt (h : IfReturns x s post) :
    IfReturns (attempt x) s fun r t ↦ ∀ a, r = .ok a → post a t :=
  ends_attempt.mpr (Ends.mono h fun _ _ ht _ hr ↦ by cases hr; exact ht)

theorem IfReturns.bind {f : α → Op σ β} {post' : β → σ → Prop} (h : IfReturns x s post)
    (hf : ∀ a t, post a t → IfReturns (f a) t post') : IfReturns (x >>= f) s post' := by
  unfold IfReturns
  rw [ends_bind]
  refine Ends.mono h fun r t ht ↦ ?_
  cases r with
  | error e => exact fun _ hr ↦ by cases hr
  | ok a => exact hf a t (ht a rfl)

theorem IfReturns.map {f : α → β} {post' : β → σ → Prop}
    (h : IfReturns x s fun a t ↦ post' (f a) t) : IfReturns (f <$> x) s post' :=
  ends_map.mpr (Ends.mono h fun r _ ht _ hr ↦ by
    cases r with
    | error e => cases hr
    | ok a => cases hr; exact ht a rfl)

/-- What holds of the result of each step of a loop holds of all results. -/
theorem ifReturns_mapM {f : α → Op σ β} {l : List α} {p : β → Prop}
    (h : ∀ a ∈ l, ∀ s, IfReturns (f a) s fun b _ ↦ p b) :
    IfReturns (l.mapM f) s fun bs _ ↦ ∀ b ∈ bs, p b := by
  refine ends_mapM (fun _ bs _ ↦ ∀ b ∈ bs, p b) (by simp) (fun done a rest bs s hl hbs ↦ ?_)
    fun bs t hbs _ hr ↦ by cases hr; exact hbs
  refine Ends.mono (h a (by simp [hl]) s) fun r t hr ↦ ?_
  cases r with
  | error e => exact fun _ he ↦ by cases he
  | ok b => exact List.forall_mem_append.mpr ⟨hbs, List.forall_mem_singleton.mpr (hr b rfl)⟩

/-- What comes last decides, if it does not matter what comes before. -/
theorem ifReturns_bind {f : α → Op σ β} {post' : β → σ → Prop}
    (hf : ∀ a t, IfReturns (f a) t post') : IfReturns (x >>= f) s post' := by
  have hall : IfReturns x s fun _ _ ↦ True := ifReturns_of_forall fun _ _ ↦ trivial
  exact hall.bind fun a t _ ↦ hf a t

end Returning

/-! ### Properties that a program keeps -/

/-- The program preserves a property of states, however it ends. -/
def Keeps (inv : σ → Prop) (x : Op σ α) : Prop :=
  ∀ s, inv s → Ends x s fun _ t ↦ inv t

section Keeping

variable {inv : σ → Prop} {x : Op σ α}

theorem keeps_pure {a : α} : Keeps inv (pure a : Op σ α) := fun _ h ↦ h

theorem keeps_throw {e : Fault} : Keeps inv (throw e : Op σ α) := fun _ h ↦ h

/-- A sequence goes on keeping what holds after its first program. -/
theorem Ends.bind_of_keeps {f : α → Op σ β} {s : σ} (hx : Ends x s fun _ t ↦ inv t)
    (hf : ∀ a, Keeps inv (f a)) : Ends (x >>= f) s fun _ t ↦ inv t := by
  rw [ends_bind]
  refine hx.mono fun r t ht ↦ ?_
  cases r with
  | error e => exact ht
  | ok a => exact hf a t ht

theorem Keeps.bind {f : α → Op σ β} (hx : Keeps inv x) (hf : ∀ a, Keeps inv (f a)) :
    Keeps inv (x >>= f) :=
  fun s hs ↦ (hx s hs).bind_of_keeps hf

theorem Keeps.map {f : α → β} (hx : Keeps inv x) : Keeps inv (f <$> x) := by
  intro s hs
  rw [ends_map]
  exact hx s hs

theorem Keeps.attempt (hx : Keeps inv x) : Keeps inv (attempt x) := by
  intro s hs
  rw [ends_attempt]
  exact hx s hs

theorem keeps_mapM {f : α → Op σ β} {l : List α} (hf : ∀ a ∈ l, Keeps inv (f a)) :
    Keeps inv (l.mapM f) := by
  intro s hs
  refine ends_mapM (fun _ _ ↦ inv) hs (fun done a rest _ s hl hs ↦ ?_) fun _ _ ht ↦ ht
  refine (hf a (by simp [hl]) s hs).mono fun r t ht ↦ ?_
  cases r <;> exact ht

theorem keeps_forM {f : α → Op σ PUnit} {l : List α} (hf : ∀ a ∈ l, Keeps inv (f a)) :
    Keeps inv (l.forM f) := by
  intro s hs
  refine ends_forM (fun _ ↦ inv) hs (fun done a rest s hl hs ↦ ?_) fun _ ht ↦ ht
  refine (hf a (by simp [hl]) s hs).mono fun r t ht ↦ ?_
  cases r <;> exact ht

end Keeping

/-! ### Faults that a program may end in -/

/-- The program preserves a property of states, however it ends, and it ends in no fault but those
said. -/
def Guards (inv : σ → Prop) (blame : Fault → Prop) (x : Op σ α) : Prop :=
  ∀ s, inv s → Ends x s fun r t ↦ inv t ∧ ∀ e, r = .error e → blame e

section Guarding

variable {inv : σ → Prop} {blame blame' : Fault → Prop} {x : Op σ α}

theorem Guards.keeps (h : Guards inv blame x) : Keeps inv x :=
  fun s hs ↦ (h s hs).mono fun _ _ ht ↦ ht.1

theorem Guards.mono (h : Guards inv blame x) (himp : ∀ e, blame e → blame' e) :
    Guards inv blame' x :=
  fun s hs ↦ (h s hs).mono fun _ _ ht ↦ ⟨ht.1, fun e he ↦ himp e (ht.2 e he)⟩

theorem guards_pure {a : α} : Guards inv blame (pure a : Op σ α) :=
  fun _ hs ↦ ⟨hs, fun _ he ↦ by cases he⟩

theorem guards_throw {e : Fault} (he : blame e) : Guards inv blame (throw e : Op σ α) :=
  fun _ hs ↦ ⟨hs, fun _ h ↦ by cases h; exact he⟩

theorem guards_ofExcept {r : Except Fault α} (h : ∀ e, r = .error e → blame e) :
    Guards inv blame (ofExcept r) := by
  intro s hs
  rw [ends_ofExcept]
  exact ⟨hs, h⟩

theorem Guards.bind {f : α → Op σ β} (hx : Guards inv blame x)
    (hf : ∀ a, Guards inv blame (f a)) : Guards inv blame (x >>= f) := by
  intro s hs
  rw [ends_bind]
  refine (hx s hs).mono fun r t ht ↦ ?_
  cases r with
  | error e => exact ⟨ht.1, fun _ he ↦ ht.2 _ (by cases he; rfl)⟩
  | ok a => exact hf a t ht.1

/-- What follows an attempt may end in other faults than what was attempted. -/
theorem Guards.attempt_bind {f : Except Fault α → Op σ β} (hx : Guards inv blame x)
    (hok : ∀ a, Guards inv blame' (f (.ok a)))
    (herror : ∀ e, blame e → Guards inv blame' (f (.error e))) :
    Guards inv blame' (attempt x >>= f) := by
  intro s hs
  rw [ends_bind, ends_attempt]
  refine (hx s hs).mono fun r t ht ↦ ?_
  cases r with
  | error e => exact herror e (ht.2 e rfl) t ht.1
  | ok a => exact hok a t ht.1

theorem guards_forM {f : α → Op σ PUnit} {l : List α} (hf : ∀ a ∈ l, Guards inv blame (f a)) :
    Guards inv blame (l.forM f) := by
  intro s hs
  refine ends_forM (fun _ ↦ inv) hs (fun done a rest s hl hs ↦ ?_) fun _ ht ↦
    ⟨ht, fun _ he ↦ by cases he⟩
  refine (hf a (by simp [hl]) s hs).mono fun r t ht ↦ ?_
  cases r with
  | error e => exact ht
  | ok u => exact ht.1

end Guarding

end FormCatalog.Op
