import FormCatalog.Proofs.Disk.Places
import FormCatalog.Shelf.Download

/-!
# Names in the directory of forms

A form owns two names in the directory of forms, one for its definition and one for its media files,
and both are made from its base name. Bringing the form touches these names and the names of
temporary directories, and no others. The end of a name tells the three kinds apart, so forms with
different base names never touch what the other one owns (`not_touches_of_owns`). Ids with the same
base name do: `a/b` and `a_b` own the same names.
-/

set_option autoImplicit false
set_option relaxedAutoImplicit false

namespace FormCatalog.FormsDirectory

/-- The names of a form: that of its definition and that of its media files. -/
inductive Owns (formId : String) : String → Prop
  | definition : Owns formId (baseName formId ++ ".xml")
  | media : Owns formId (baseName formId ++ "-media")

/-- The names that bringing or removing a form has to do with. -/
inductive Touches (formId : String) : String → Prop
  | own {name : String} (h : Owns formId name) : Touches formId name
  | staging (n : Nat) : Touches formId (Disk.temporaryName Download.stagingName n)

theorem Touches.definition (formId : String) : Touches formId (baseName formId ++ ".xml") :=
  .own .definition

theorem Touches.media (formId : String) : Touches formId (baseName formId ++ "-media") :=
  .own .media

/-! ### How names end -/

theorem getLast?_definition (formId : String) :
    (baseName formId ++ ".xml").toList.getLast? = some 'l' := by
  rw [String.toList_append, List.getLast?_append]
  rfl

theorem getLast?_media (formId : String) :
    (baseName formId ++ "-media").toList.getLast? = some 'a' := by
  rw [String.toList_append, List.getLast?_append]
  rfl

theorem getLast?_staging (n : Nat) :
    ∃ c, (Disk.temporaryName Download.stagingName n).toList.getLast? = some c ∧
      c.isDigit = true := by
  have hdigits : Nat.toDigits 10 n ≠ [] := Nat.toDigits_ne_nil
  refine ⟨(Nat.toDigits 10 n).getLast hdigits, ?_, ?_⟩
  · unfold Disk.temporaryName
    dsimp only
    rw [String.toList_append, String.toList_ofList, ← List.append_assoc, List.getLast?_append,
      List.getLast?_eq_some_getLast hdigits]
    rfl
  · exact Nat.isDigit_of_mem_toDigits (by decide) (by decide) (List.getLast_mem hdigits)

theorem not_owns_staging (formId : String) (n : Nat) :
    ¬ Owns formId (Disk.temporaryName Download.stagingName n) := by
  obtain ⟨c, hc, hdigit⟩ := getLast?_staging n
  generalize Disk.temporaryName Download.stagingName n = name at hc
  intro howns
  cases howns with
  | definition =>
    rw [getLast?_definition] at hc
    cases hc
    exact absurd hdigit (by decide)
  | media =>
    rw [getLast?_media] at hc
    cases hc
    exact absurd hdigit (by decide)

/-- The end of a name tells a definition from media files. -/
theorem definition_ne_media (a b : String) : baseName a ++ ".xml" ≠ baseName b ++ "-media" := by
  intro hsame
  have hends := getLast?_definition a
  rw [hsame, getLast?_media] at hends
  exact absurd hends (by decide)

theorem media_ne_definition (formId : String) :
    baseName formId ++ "-media" ≠ baseName formId ++ ".xml" :=
  (definition_ne_media formId formId).symm

theorem media_ne_staging (formId : String) (n : Nat) :
    baseName formId ++ "-media" ≠ Disk.temporaryName Download.stagingName n := by
  intro hsame
  refine not_owns_staging formId n ?_
  rw [← hsame]
  exact .media

/-- Forms that share a name have the same base name. -/
theorem baseName_eq_of_owns {a b name : String} (ha : Owns a name) (hb : Owns b name) :
    baseName a = baseName b := by
  generalize hname : name = other at hb
  cases ha with
  | definition =>
    cases hb with
    | definition => exact (String.append_left_inj ".xml").mp hname
    | media => exact absurd hname (definition_ne_media a b)
  | media =>
    cases hb with
    | definition => exact absurd hname.symm (definition_ne_media b a)
    | media => exact (String.append_left_inj "-media").mp hname

/-- Bringing or removing a form has nothing to do with the names of a form with another base
name. -/
theorem not_touches_of_owns {a b name : String} (hbase : baseName a ≠ baseName b)
    (hb : Owns b name) : ¬ Touches a name := by
  intro htouches
  cases htouches with
  | own ha => exact hbase (baseName_eq_of_owns ha hb)
  | staging n => exact not_owns_staging b n hb

theorem Touches.ne_dots {formId name : String} (h : Touches formId name) : name ≠ ".." := by
  have hdots : "..".toList.getLast? = some '.' := by decide
  rintro rfl
  generalize hname : ".." = name at h
  cases h with
  | own howns =>
    cases howns with
    | definition => rw [hname, getLast?_definition] at hdots; exact absurd hdots (by decide)
    | media => rw [hname, getLast?_media] at hdots; exact absurd hdots (by decide)
  | staging n =>
    obtain ⟨c, hc, hdigit⟩ := getLast?_staging n
    rw [hname, hc] at hdots
    cases hdots
    exact absurd hdigit (by decide)

/-! ### Characters that are not in names -/

theorem notMem_baseName {c : Char} (hc : isPlain c = false) (formId : String) :
    c ∉ (baseName formId).toList := by
  have hunderscore : c ≠ '_' := by
    rintro rfl
    exact absurd hc (by decide)
  unfold baseName
  split
  · simpa using hunderscore
  · rw [String.toList_ofList, List.mem_map]
    rintro ⟨b, -, hb⟩
    split at hb
    · rename_i hplain
      rw [hb, hc] at hplain
      cases hplain
    · exact hunderscore hb.symm

theorem null_notMem_staging (n : Nat) :
    Char.ofNat 0 ∉ (Disk.temporaryName Download.stagingName n).toList := by
  unfold Disk.temporaryName
  dsimp only
  rw [String.toList_append, String.toList_ofList]
  intro hmem
  rcases List.mem_append.mp hmem with hbeginning | hmem
  · exact absurd hbeginning (by decide)
  · rcases List.mem_append.mp hmem with hzeros | hdigits
    · exact absurd (List.eq_of_mem_replicate hzeros) (by decide)
    · have hdigit := Nat.isDigit_of_mem_toDigits (by decide) (by decide) hdigits
      exact absurd hdigit (by decide)

theorem Touches.noNull {formId name : String} (h : Touches formId name) :
    Char.ofNat 0 ∉ name.toList := by
  cases h with
  | own howns =>
    cases howns with
    | definition =>
      rw [String.toList_append, List.mem_append, not_or]
      exact ⟨notMem_baseName (by decide) formId, by decide⟩
    | media =>
      rw [String.toList_append, List.mem_append, not_or]
      exact ⟨notMem_baseName (by decide) formId, by decide⟩
  | staging n => exact null_notMem_staging n

theorem Touches.holdsNull_child {forms : FormsDirectory} {formId name : String}
    (h : Touches formId name) (hforms : forms.path.holdsNull = false) :
    (forms.path.child name).holdsNull = false := by
  rw [Path.holdsNull_child _ h.noNull, hforms]

end FormCatalog.FormsDirectory
