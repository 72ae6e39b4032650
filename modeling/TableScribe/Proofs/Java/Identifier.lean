/-
The identifiers made from database names are never empty, and no dot or other
mark of the database name is left in them.
-/
import TableScribe.Java.Identifier
import TableScribe.Proofs.Unicode.Marks

namespace TableScribe.Java

open Unicode

theorem isAlphanumeric_of_mem_runs {name run : List Char} (hrun : run ∈ runs name) {c : Char}
    (hc : c ∈ run) : isAlphanumeric c = true := by
  induction name generalizing run with
  | nil =>
      obtain rfl := List.mem_singleton.mp hrun
      simp at hc
  | cons first rest ih =>
      cases hfirst : isAlphanumeric first with
      | false =>
          simp only [runs, hfirst] at hrun
          rcases List.mem_cons.mp hrun with rfl | hrest
          · simp at hc
          · exact ih hrest hc
      | true =>
          simp only [runs, hfirst, if_true] at hrun
          cases hruns : runs rest with
          | nil =>
              simp only [hruns, List.mem_singleton] at hrun
              subst hrun
              rwa [List.mem_singleton.mp hc]
          | cons head tail =>
              simp only [hruns, List.mem_cons] at hrun
              rcases hrun with rfl | htail
              · rcases List.mem_cons.mp hc with rfl | hhead
                · exact hfirst
                · exact ih (hruns ▸ List.mem_cons_self) hhead
              · exact ih (hruns ▸ List.mem_cons_of_mem head htail) hc

section

variable {mark : Char} (hmark : IsMark mark)

include hmark

theorem mem_of_mem_normalizeWord {word : List Char} (hmem : mark ∈ normalizeWord word) :
    mark ∈ word := by
  unfold normalizeWord at hmem
  split at hmem
  · exact hmem
  · exact mem_of_mem_lowerAfter hmark hmem

theorem mem_of_mem_capitalize {word : List Char} (hmem : mark ∈ capitalize word) :
    mark ∈ word := by
  cases word with
  | nil => exact hmem
  | cons first rest =>
      rcases List.mem_append.mp hmem with hfirst | hrest
      · rw [eq_of_mem_upperCase hmark hfirst]
        exact List.mem_cons_self
      · exact List.mem_cons_of_mem first hrest

theorem mem_of_mem_decapitalize {word : List Char} (hmem : mark ∈ decapitalize word) :
    mark ∈ word := by
  cases word with
  | nil => exact hmem
  | cons first rest =>
      rcases List.mem_append.mp hmem with hfirst | hrest
      · rw [eq_of_mem_lowerCase hmark hfirst]
        exact List.mem_cons_self
      · exact List.mem_cons_of_mem first hrest

theorem mem_of_mem_safeIdentifier {name : List Char} (hmem : mark ∈ safeIdentifier name) :
    mark ∈ name := by
  unfold safeIdentifier at hmem
  split at hmem
  · rcases List.mem_cons.mp hmem with rfl | hrest
    · exact absurd hmark (by decide)
    · exact hrest
  · exact hmem

/-- A mark between words is in none of them. -/
theorem not_mem_of_mem_words (hpunctuation : isAlphanumeric mark = false) {name word : List Char}
    (hword : word ∈ words name) : mark ∉ word := by
  intro hmem
  unfold words at hword
  obtain ⟨run, hrun, rfl⟩ := List.mem_map.mp hword
  have halphanumeric := isAlphanumeric_of_mem_runs (List.mem_filter.mp hrun).1
    (mem_of_mem_normalizeWord hmark hmem)
  rw [hpunctuation] at halphanumeric
  exact absurd halphanumeric Bool.false_ne_true

/-- A mark that is neither letter nor number is in no type name. -/
theorem not_mem_typeName (hpunctuation : isAlphanumeric mark = false) (name : String) :
    mark ∉ (typeName name).toList := by
  intro hmem
  rw [typeName, String.toList_ofList] at hmem
  obtain ⟨word, hword, hcapital⟩ := List.mem_flatMap.mp (mem_of_mem_safeIdentifier hmark hmem)
  exact not_mem_of_mem_words hmark hpunctuation hword (mem_of_mem_capitalize hmark hcapital)

/-- A mark that is neither letter nor number is in no field name. -/
theorem not_mem_fieldName (hpunctuation : isAlphanumeric mark = false) (name : String) :
    mark ∉ (fieldName name).toList := by
  intro hmem
  rw [fieldName, String.toList_ofList] at hmem
  have hcamel := mem_of_mem_safeIdentifier hmark hmem
  have hwords (word : List Char) (hword : word ∈ words name.toList) : mark ∉ word :=
    not_mem_of_mem_words hmark hpunctuation hword
  cases hparts : words name.toList with
  | nil =>
      rw [hparts] at hcamel
      exact nomatch hcamel
  | cons first rest =>
      rw [hparts] at hcamel hwords
      rcases List.mem_append.mp hcamel with hfirst | hrest
      · exact hwords first List.mem_cons_self (mem_of_mem_decapitalize hmark hfirst)
      · obtain ⟨word, hword, hcapital⟩ := List.mem_flatMap.mp hrest
        exact hwords word (List.mem_cons_of_mem first hword)
          (mem_of_mem_capitalize hmark hcapital)

end

theorem safeIdentifier_ne_nil (name : List Char) : safeIdentifier name ≠ [] := by
  unfold safeIdentifier
  split
  · exact List.cons_ne_nil _ _
  · rename_i hsafe
    rintro rfl
    exact hsafe rfl

/-- Repair makes a name even from nothing. -/
theorem typeName_ne_empty (name : String) : typeName name ≠ "" := by
  intro hempty
  have hnil := congrArg String.toList hempty
  simp only [typeName, String.toList_ofList] at hnil
  exact safeIdentifier_ne_nil _ hnil

theorem fieldName_ne_empty (name : String) : fieldName name ≠ "" := by
  intro hempty
  have hnil := congrArg String.toList hempty
  simp only [fieldName, String.toList_ofList] at hnil
  exact safeIdentifier_ne_nil _ hnil

end TableScribe.Java
