/-
Texts in which nothing closes a comment.  Writing the slash of each `*/` as an entity
changes neither the line breaks of a text nor the white space at its end.
-/
import TableScribe.Java.Comment
import TableScribe.Proofs.Java.Lexis
import TableScribe.Proofs.Text.Segments
import TableScribe.Proofs.Text.Trimming

namespace TableScribe.Java

theorem closeSafe_cons_of_ne {c : Char} (hc : c ≠ '*') (rest : List Char) :
    closeSafe (c :: rest) = c :: closeSafe rest := by
  rw [closeSafe]
  rintro tail rfl
  exact absurd rfl hc

theorem closeSafe_star_of_ne {rest : List Char} (hrest : rest.head? ≠ some '/') :
    closeSafe ('*' :: rest) = '*' :: closeSafe rest := by
  rw [closeSafe]
  rintro tail - rfl
  exact hrest rfl

theorem closeSafe_eq_nil_iff {text : List Char} : closeSafe text = [] ↔ text = [] := by
  rw [← List.head?_eq_none_iff, head?_closeSafe, List.head?_eq_none_iff]

/-- A text begins with what its first line begins with, if that is not empty. -/
theorem head?_eq_of_segments_eq {text first : List Char} {others : List (List Char)} {c : Char}
    (hsegments : Text.segments '\n' text = (c :: first) :: others) : text.head? = some c := by
  cases text with
  | nil => simp [Text.segments] at hsegments
  | cons d rest =>
      obtain ⟨head, tail, hrest⟩ := List.exists_cons_of_ne_nil (Text.segments_ne_nil '\n' rest)
      rw [Text.segments, hrest] at hsegments
      split at hsegments
      · exact absurd (List.cons.inj hsegments).1.symm (List.cons_ne_nil c first)
      · exact congrArg some (List.cons.inj (List.cons.inj hsegments).1).1

/-- The lines of a text are made safe one by one. -/
theorem segments_closeSafe (text : List Char) :
    Text.segments '\n' (closeSafe text) = (Text.segments '\n' text).map closeSafe := by
  fun_induction closeSafe text with
  | case1 rest ih =>
      obtain ⟨head, others, hrest⟩ := List.exists_cons_of_ne_nil (Text.segments_ne_nil '\n' rest)
      rw [hrest, List.map_cons] at ih
      have hpair : Text.segments '\n' (['*', '/'] ++ rest) = (['*', '/'] ++ head) :: others :=
        Text.segments_append_of_not_mem (by decide) hrest
      rw [Text.segments_append_of_not_mem (by decide) ih]
      change _ = (Text.segments '\n' (['*', '/'] ++ rest)).map closeSafe
      rw [hpair]
      rfl
  | case2 c rest hopen ih =>
      obtain ⟨head, others, hrest⟩ := List.exists_cons_of_ne_nil (Text.segments_ne_nil '\n' rest)
      have hhead : closeSafe (c :: head) = c :: closeSafe head := by
        rw [closeSafe]
        rintro tail rfl rfl
        obtain ⟨next, rfl⟩ := List.head?_eq_some_iff.mp (head?_eq_of_segments_eq hrest)
        exact hopen next rfl rfl
      rw [Text.segments, Text.segments, ih, hrest]
      split
      · rfl
      · rw [List.map_cons, List.map_cons, hhead]
  | case3 => rfl

theorem endsBlank_cons_of_ne_nil {c : Char} {rest : List Char} (hrest : rest ≠ []) :
    Text.EndsBlank (c :: rest) ↔ Text.EndsBlank rest := by
  rw [Text.EndsBlank, Text.EndsBlank, List.getLast?_cons_of_ne_nil hrest]

/-- Making a text safe leaves white space at its end, and brings none there. -/
theorem endsBlank_closeSafe_iff {text : List Char} :
    Text.EndsBlank (closeSafe text) ↔ Text.EndsBlank text := by
  fun_induction closeSafe text with
  | case1 rest ih =>
      by_cases hrest : rest = []
      · subst hrest
        decide
      · have hsafe := mt closeSafe_eq_nil_iff.mp hrest
        simp [endsBlank_cons_of_ne_nil, hrest, hsafe, ih]
  | case2 c rest hopen ih =>
      by_cases hrest : rest = []
      · rw [hrest, closeSafe]
      · have hsafe := mt closeSafe_eq_nil_iff.mp hrest
        rw [endsBlank_cons_of_ne_nil hrest, endsBlank_cons_of_ne_nil hsafe, ih]
  | case3 => rfl

end TableScribe.Java
