import FormCatalog.Proofs.Web.LocalHosts

/-!
# What is written stays

Addresses are put together from parts that have been written before. Escapes are for characters that
a part may not hold, and what they are written with every part may hold, so a written text is not
written differently again (`Url.escape_escape`). Dots mean the same before and after
(`Url.resolveDots_escape`), and once they are resolved there are none (`Url.noDots_resolveDots`).
-/

set_option autoImplicit false
set_option relaxedAutoImplicit false

namespace FormCatalog

/-! ### Pieces between marks -/

namespace HostLiteral

variable {mark : Char} {cs piece : List Char} {pieces : List (List Char)}

theorem splitAt_ne_nil (mark : Char) (cs : List Char) : splitAt mark cs ≠ [] := by
  cases cs with
  | nil => exact List.cons_ne_nil _ _
  | cons c cs =>
    by_cases hc : c = mark
    · rw [hc, splitAt_cons_self]
      exact List.cons_ne_nil _ _
    · rw [splitAt_cons_of_ne hc]
      split <;> exact List.cons_ne_nil _ _

/-- A text without the mark goes before the first piece. -/
theorem splitAt_append (h : mark ∉ piece) (cs : List Char) :
    ∃ first rest, splitAt mark cs = first :: rest ∧
      splitAt mark (piece ++ cs) = (piece ++ first) :: rest := by
  obtain ⟨first, rest, hpieces⟩ := List.exists_cons_of_ne_nil (splitAt_ne_nil mark cs)
  refine ⟨first, rest, hpieces, ?_⟩
  induction piece with
  | nil => exact hpieces
  | cons c piece ih =>
    obtain ⟨hc, hpiece⟩ := not_or.mp fun hor ↦ h (List.mem_cons.mpr hor)
    rw [List.cons_append, splitAt_cons_of_ne (Ne.symm hc), ih hpiece]
    rfl

/-- The pieces before a mark and those after it. -/
theorem splitAt_append_mark (mark : Char) (cs ds : List Char) :
    splitAt mark (cs ++ mark :: ds) = splitAt mark cs ++ splitAt mark ds := by
  induction cs with
  | nil => exact splitAt_cons_self mark ds
  | cons c cs ih =>
    by_cases hc : c = mark
    · rw [List.cons_append, hc, splitAt_cons_self, splitAt_cons_self, ih]
      rfl
    · obtain ⟨first, rest, hpieces⟩ := List.exists_cons_of_ne_nil (splitAt_ne_nil mark cs)
      rw [List.cons_append, splitAt_cons_of_ne hc, splitAt_cons_of_ne hc, ih, hpieces]
      rfl

theorem not_mem_of_mem_splitAt (h : piece ∈ splitAt mark cs) : mark ∉ piece := by
  induction cs generalizing piece with
  | nil =>
    rw [List.mem_singleton.mp h]
    exact List.not_mem_nil
  | cons c cs ih =>
    by_cases hc : c = mark
    · rw [hc, splitAt_cons_self] at h
      obtain rfl | h := List.mem_cons.mp h
      · exact List.not_mem_nil
      · exact ih h
    · obtain ⟨first, rest, hpieces⟩ := List.exists_cons_of_ne_nil (splitAt_ne_nil mark cs)
      rw [splitAt_cons_of_ne hc, hpieces] at h
      rw [hpieces] at ih
      obtain rfl | h := List.mem_cons.mp h
      · exact fun hmem ↦ (List.mem_cons.mp hmem).elim (fun heq ↦ hc heq.symm)
          (ih List.mem_cons_self)
      · exact ih (List.mem_cons_of_mem _ h)

/-- The pieces of a text are those it was put together from. -/
theorem splitAt_intercalate (hne : pieces ≠ []) (h : ∀ piece ∈ pieces, mark ∉ piece) :
    splitAt mark ([mark].intercalate pieces) = pieces := by
  obtain ⟨first, rest, rfl⟩ := List.exists_cons_of_ne_nil hne
  clear hne
  induction rest generalizing first with
  | nil =>
    rw [List.intercalate_singleton]
    exact splitAt_of_not_mem (h first List.mem_cons_self)
  | cons next rest ih =>
    rw [List.intercalate_cons_cons, List.append_assoc, List.singleton_append,
      splitAt_append_mark, splitAt_of_not_mem (h first List.mem_cons_self),
      ih next fun piece hpiece ↦ h piece (List.mem_cons_of_mem _ hpiece)]
    rfl

/-- What a text was put together from: it is the mark, or in one of the pieces. -/
theorem mem_intercalate {α : Type} {mark c : α} {pieces : List (List α)}
    (h : c ∈ [mark].intercalate pieces) : c = mark ∨ ∃ piece ∈ pieces, c ∈ piece := by
  induction pieces with
  | nil => exact absurd h List.not_mem_nil
  | cons piece pieces ih =>
    cases pieces with
    | nil =>
      rw [List.intercalate_singleton] at h
      exact Or.inr ⟨piece, List.mem_cons_self, h⟩
    | cons next rest =>
      rw [List.intercalate_cons_cons] at h
      obtain h | h := List.mem_append.mp h
      · obtain h | h := List.mem_append.mp h
        · exact Or.inr ⟨piece, List.mem_cons_self, h⟩
        · exact Or.inl (List.mem_singleton.mp h)
      · exact (ih h).imp_right fun ⟨p, hp, hc⟩ ↦ ⟨p, List.mem_cons_of_mem _ hp, hc⟩

theorem subset_intercalate {α : Type} {mark : α} {piece : List α} {pieces : List (List α)}
    (h : piece ∈ pieces) : piece ⊆ [mark].intercalate pieces := by
  induction pieces with
  | nil => exact absurd h List.not_mem_nil
  | cons first pieces ih =>
    intro c hc
    cases pieces with
    | nil =>
      rw [List.mem_singleton.mp h] at hc
      rwa [List.intercalate_singleton]
    | cons next rest =>
      rw [List.intercalate_cons_cons]
      obtain rfl | h := List.mem_cons.mp h
      · exact List.mem_append_left _ (List.mem_append_left _ hc)
      · exact List.mem_append_right _ (ih h hc)

end HostLiteral

namespace Url

open HostLiteral

/-! ### Escapes -/

variable {allowed inner : Char → Bool} {cs : List Char} {mark c : Char}

theorem escape_append (allowed : Char → Bool) (cs ds : List Char) :
    escape allowed (cs ++ ds) = escape allowed cs ++ escape allowed ds :=
  List.flatMap_append

theorem escape_cons_of_allowed (h : allowed c = true) (cs : List Char) :
    escape allowed (c :: cs) = c :: escape allowed cs := by
  unfold escape
  rw [List.flatMap_cons, if_pos h]
  rfl

/-- The characters of an escape. -/
def escapeChars : List Char := "%0123456789ABCDEF".toList

theorem mem_percentByte {b : UInt8} (h : c ∈ percentByte b) : c ∈ escapeChars := by
  have hdigit : ∀ n < 16, (if n < 10 then Char.ofNat (48 + n) else Char.ofNat (55 + n)) ∈
      escapeChars := by decide
  have hsize := b.toNat_lt
  unfold percentByte at h
  simp only [List.mem_cons, List.not_mem_nil, or_false] at h
  obtain rfl | rfl | rfl := h
  · decide
  · exact hdigit _ (by omega)
  · exact hdigit _ (by omega)

/-- What a text is written with is allowed, or part of an escape. -/
theorem mem_escape (h : c ∈ escape allowed cs) : allowed c = true ∨ c ∈ escapeChars := by
  obtain ⟨d, -, hc⟩ := List.mem_flatMap.mp h
  split at hc
  · next hallowed =>
    rw [List.mem_singleton.mp hc]
    exact Or.inl hallowed
  · obtain ⟨b, -, hb⟩ := List.mem_flatMap.mp hc
    exact Or.inr (mem_percentByte hb)

theorem escape_of_allowed (h : ∀ c ∈ cs, allowed c = true) : escape allowed cs = cs := by
  induction cs with
  | nil => rfl
  | cons c cs ih =>
    rw [escape_cons_of_allowed (h c List.mem_cons_self),
      ih fun d hd ↦ h d (List.mem_cons_of_mem c hd)]

/-- A part that holds escapes and all that another may hold leaves alone what was written for the
other. -/
theorem escape_escape (hescape : ∀ c ∈ escapeChars, allowed c = true)
    (hinner : ∀ c, inner c = true → allowed c = true) :
    escape allowed (escape inner cs) = escape inner cs :=
  escape_of_allowed fun c hc ↦ (mem_escape hc).elim (hinner c) (hescape c)

theorem ofText_singleton_ne_nil (c : Char) : Bytes.ofText (String.singleton c) ≠ [] := by
  intro h
  have hsize : (String.singleton c).toUTF8.size = 0 := by
    unfold Bytes.ofText at h
    simpa using congrArg List.length h
  simp at hsize

/-- A text is written as one without a percent sign only if it is that text. -/
theorem escape_eq_iff {ds : List Char} (hds : ds.all allowed) (hpercent : '%' ∉ ds) :
    escape allowed cs = ds ↔ cs = ds := by
  constructor
  · rintro rfl
    have hall : ∀ c ∈ cs, allowed c = true := by
      by_contra hsome
      push Not at hsome
      obtain ⟨c, hc, hnot⟩ := hsome
      obtain ⟨b, bs, hbytes⟩ := List.exists_cons_of_ne_nil (ofText_singleton_ne_nil c)
      refine hpercent (List.mem_flatMap.mpr ⟨c, hc, ?_⟩)
      rw [if_neg hnot, hbytes]
      exact List.mem_flatMap.mpr ⟨b, List.mem_cons_self, List.mem_cons_self⟩
    exact (escape_of_allowed hall).symm
  · rintro rfl
    exact escape_of_allowed (List.all_eq_true.mp hds)

theorem not_mem_escape_singleton (hc : c ≠ mark) (hmark : mark ∉ escapeChars) :
    mark ∉ escape allowed [c] := by
  intro hmem
  obtain ⟨d, hd, hmem⟩ := List.mem_flatMap.mp hmem
  rw [List.mem_singleton.mp hd] at hmem
  split at hmem
  · exact hc (List.mem_singleton.mp hmem).symm
  · obtain ⟨b, -, hb⟩ := List.mem_flatMap.mp hmem
    exact hmark (mem_percentByte hb)

theorem escape_singleton_ne_nil (allowed : Char → Bool) (c : Char) : escape allowed [c] ≠ [] := by
  obtain ⟨b, bs, hbytes⟩ := List.exists_cons_of_ne_nil (ofText_singleton_ne_nil c)
  by_cases hallowed : allowed c = true <;> simp [escape, hallowed, hbytes, percentByte]

/-- A text that does not begin with a mark is written as one that does not. -/
theorem head?_escape_ne (hc : c ≠ mark) (hmark : mark ∉ escapeChars) (allowed : Char → Bool)
    (cs : List Char) : (escape allowed (c :: cs)).head? ≠ some mark := by
  change (escape allowed ([c] ++ cs)).head? ≠ some mark
  rw [escape_append, List.head?_append_of_ne_nil _ (escape_singleton_ne_nil allowed c)]
  exact fun h ↦ not_mem_escape_singleton hc hmark (List.mem_of_head? h)

/-- A text that does not end with a mark is written as one that does not. -/
theorem getLast?_escape_ne (hc : c ≠ mark) (hmark : mark ∉ escapeChars) (allowed : Char → Bool)
    (cs : List Char) : (escape allowed (cs ++ [c])).getLast? ≠ some mark := by
  rw [escape_append, List.getLast?_append_of_ne_nil _ (escape_singleton_ne_nil allowed c)]
  exact fun h ↦ not_mem_escape_singleton hc hmark (List.mem_of_getLast? h)

/-- The pieces between the marks of a text are written one by one. -/
theorem splitAt_escape (hallowed : allowed mark = true) (hmark : mark ∉ escapeChars)
    (cs : List Char) :
    splitAt mark (escape allowed cs) = (splitAt mark cs).map (escape allowed) := by
  induction cs with
  | nil => rfl
  | cons c cs ih =>
    by_cases hc : c = mark
    · rw [hc, escape_cons_of_allowed hallowed, splitAt_cons_self, splitAt_cons_self, ih]
      rfl
    · obtain ⟨first, rest, hfirst, hwhole⟩ :=
        splitAt_append (not_mem_escape_singleton hc hmark) (escape allowed cs)
      obtain ⟨piece, pieces, hpieces⟩ := List.exists_cons_of_ne_nil (splitAt_ne_nil mark cs)
      rw [ih, hpieces, List.map_cons] at hfirst
      obtain ⟨rfl, rfl⟩ := List.cons.inj hfirst
      rw [splitAt_cons_of_ne hc, hpieces, List.map_cons]
      change splitAt mark (escape allowed ([c] ++ cs)) = escape allowed ([c] ++ piece) :: _
      rw [escape_append, escape_append, hwhole]

theorem escape_intercalate (hallowed : allowed mark = true) (pieces : List (List Char)) :
    escape allowed ([mark].intercalate pieces) =
      [mark].intercalate (pieces.map (escape allowed)) := by
  induction pieces with
  | nil => rfl
  | cons piece pieces ih =>
    cases pieces with
    | nil => simp
    | cons next rest =>
      rw [List.intercalate_cons_cons, escape_append, escape_append,
        escape_of_allowed (List.forall_mem_singleton.mpr hallowed), ih, List.map_cons,
        List.map_cons, List.map_cons, List.intercalate_cons_cons]

/-! ### Dots -/

/-- No component of the path is a dot or two. -/
def NoDots (path : List Char) : Prop :=
  ∀ component ∈ splitAt '/' path, component ≠ ['.'] ∧ component ≠ ['.', '.']

instance (path : List Char) : Decidable (NoDots path) :=
  inferInstanceAs (Decidable (∀ component ∈ splitAt '/' path,
    component ≠ ['.'] ∧ component ≠ ['.', '.']))

/-- The components that are kept, after one more. -/
def keep (kept : List (List Char)) (component : List Char) : List (List Char) :=
  if component = ['.'] then kept
  else if component = ['.', '.'] then if kept = [] ∨ kept = [[]] then kept else kept.dropLast
  else kept ++ [component]

theorem noDots_iff {path : List Char} : NoDots path ↔
    (!(splitAt '/' path).contains ['.'] && !(splitAt '/' path).contains ['.', '.']) = true := by
  simp only [NoDots, Bool.and_eq_true, Bool.not_eq_true', List.contains_eq_mem,
    decide_eq_false_iff_not]
  exact ⟨fun h ↦ ⟨fun hmem ↦ (h _ hmem).1 rfl, fun hmem ↦ (h _ hmem).2 rfl⟩,
    fun h component hmem ↦ ⟨fun heq ↦ h.1 (heq ▸ hmem), fun heq ↦ h.2 (heq ▸ hmem)⟩⟩

theorem resolveDots_of_noDots {path : List Char} (h : NoDots path) : resolveDots path = path :=
  if_pos (noDots_iff.mp h)

theorem resolveDots_of_dots {path : List Char} (h : ¬ NoDots path) :
    resolveDots path = ['/'].intercalate ((splitAt '/' path).foldl keep []) :=
  if_neg fun hnone ↦ h (noDots_iff.mpr hnone)

theorem noDots_append {path rest : List Char} (h : NoDots path) (hrest : NoDots ('/' :: rest)) :
    NoDots (path ++ '/' :: rest) := by
  intro component hcomponent
  rw [splitAt_append_mark] at hcomponent
  obtain hmem | hmem := List.mem_append.mp hcomponent
  · exact h component hmem
  · exact hrest component (splitAt_cons_self '/' rest ▸ List.mem_cons_of_mem _ hmem)

theorem mem_keep {kept : List (List Char)} {component piece : List Char}
    (h : piece ∈ keep kept component) :
    piece ∈ kept ∨ piece = component ∧ piece ≠ ['.'] ∧ piece ≠ ['.', '.'] := by
  unfold keep at h
  split at h
  · exact Or.inl h
  · split at h
    · split at h
      · exact Or.inl h
      · exact Or.inl (List.dropLast_subset _ h)
    · next hone htwo =>
      obtain h | h := List.mem_append.mp h
      · exact Or.inl h
      · obtain rfl := List.mem_singleton.mp h
        exact Or.inr ⟨rfl, hone, htwo⟩

theorem mem_foldl_keep {components kept : List (List Char)} {piece : List Char}
    (h : piece ∈ components.foldl keep kept) :
    piece ∈ kept ∨ piece ∈ components ∧ piece ≠ ['.'] ∧ piece ≠ ['.', '.'] := by
  induction components generalizing kept with
  | nil => exact Or.inl h
  | cons component rest ih =>
    obtain h | ⟨hmem, hne⟩ := ih h
    · exact (mem_keep h).imp_right fun ⟨heq, hne⟩ ↦ ⟨heq ▸ List.mem_cons_self, hne⟩
    · exact Or.inr ⟨List.mem_cons_of_mem _ hmem, hne⟩

/-- Once dots are resolved there are none. -/
theorem noDots_resolveDots (path : List Char) : NoDots (resolveDots path) := by
  by_cases h : NoDots path
  · rwa [resolveDots_of_noDots h]
  · rw [resolveDots_of_dots h]
    by_cases hnone : (splitAt '/' path).foldl keep [] = []
    · rw [hnone]
      decide
    · intro component hcomponent
      rw [splitAt_intercalate hnone fun piece hpiece ↦ ?_] at hcomponent
      · exact ((mem_foldl_keep hcomponent).resolve_left List.not_mem_nil).2
      · exact not_mem_of_mem_splitAt
          ((mem_foldl_keep hpiece).resolve_left List.not_mem_nil).1

/-- A path that begins at the root still does, or is empty. -/
theorem rooted_resolveDots {path : List Char} (h : path = [] ∨ path.head? = some '/') :
    resolveDots path = [] ∨ (resolveDots path).head? = some '/' := by
  by_cases hdots : NoDots path
  · rwa [resolveDots_of_noDots hdots]
  · obtain rfl | hhead := h
    · exact absurd (by decide) hdots
    · obtain ⟨rest, rfl⟩ := List.head?_eq_some_iff.mp hhead
      have hkeep (components : List (List Char)) (kept : List (List Char))
          (hkept : kept.head? = some []) : (components.foldl keep kept).head? = some [] := by
        induction components generalizing kept with
        | nil => exact hkept
        | cons component components ih =>
          refine ih _ ?_
          obtain ⟨more, rfl⟩ := List.head?_eq_some_iff.mp hkept
          unfold keep
          split_ifs with _ _ hroot
          · exact hkept
          · exact hkept
          · cases more with
            | nil => exact absurd (Or.inr rfl) hroot
            | cons _ _ => rfl
          · rfl
      obtain ⟨kept, hkept⟩ := List.head?_eq_some_iff.mp (hkeep (splitAt '/' rest) [[]] rfl)
      have hfirst : keep [] [] = [[]] := by decide
      rw [resolveDots_of_dots hdots, splitAt_cons_self, List.foldl_cons, hfirst, hkept]
      cases kept with
      | nil => exact Or.inl List.intercalate_singleton
      | cons component kept =>
        rw [List.intercalate_cons_cons]
        exact Or.inr rfl

theorem escape_eq_nil {cs : List Char} : escape inPath cs = [] ↔ cs = [] :=
  escape_eq_iff (by decide) (by decide)

theorem escape_eq_dot {cs : List Char} : escape inPath cs = ['.'] ↔ cs = ['.'] :=
  escape_eq_iff (by decide) (by decide)

theorem escape_eq_two_dots {cs : List Char} : escape inPath cs = ['.', '.'] ↔ cs = ['.', '.'] :=
  escape_eq_iff (by decide) (by decide)

theorem keep_map (kept : List (List Char)) (component : List Char) :
    keep (kept.map (escape inPath)) (escape inPath component) =
      (keep kept component).map (escape inPath) := by
  have hroot : kept.map (escape inPath) = [[]] ↔ kept = [[]] := by
    simp only [List.map_eq_singleton_iff, escape_eq_nil, exists_eq_right]
  unfold keep
  simp only [escape_eq_dot, escape_eq_two_dots, List.map_eq_nil_iff, hroot]
  split
  · rfl
  · split
    · split
      · rfl
      · rw [List.map_dropLast]
    · rw [List.map_append]
      rfl

theorem foldl_keep_map (components kept : List (List Char)) :
    (components.map (escape inPath)).foldl keep (kept.map (escape inPath)) =
      (components.foldl keep kept).map (escape inPath) := by
  induction components generalizing kept with
  | nil => rfl
  | cons component rest ih =>
    rw [List.map_cons, List.foldl_cons, List.foldl_cons, keep_map, ih]

theorem splitAt_escape_inPath (cs : List Char) :
    splitAt '/' (escape inPath cs) = (splitAt '/' cs).map (escape inPath) :=
  splitAt_escape (by decide) (by decide) cs

theorem noDots_escape {path : List Char} : NoDots (escape inPath path) ↔ NoDots path := by
  unfold NoDots
  rw [splitAt_escape_inPath, List.forall_mem_map]
  simp only [ne_eq, escape_eq_dot, escape_eq_two_dots]

/-- Dots are resolved before characters are escaped, or after. -/
theorem resolveDots_escape (path : List Char) :
    resolveDots (escape inPath path) = escape inPath (resolveDots path) := by
  by_cases h : NoDots path
  · rw [resolveDots_of_noDots h, resolveDots_of_noDots (noDots_escape.mpr h)]
  · have hfold := foldl_keep_map (splitAt '/' path) []
    rw [List.map_nil] at hfold
    rw [resolveDots_of_dots h, resolveDots_of_dots (noDots_escape.not.mpr h),
      splitAt_escape_inPath, hfold, escape_intercalate (by decide)]

end Url

end FormCatalog
