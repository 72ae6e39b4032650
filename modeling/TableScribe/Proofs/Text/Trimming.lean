/-
The white space at the ends of a text.  It is cut off where the text is trimmed, and
nothing else is.
-/
import Mathlib.Data.List.DropRight
import TableScribe.Text.Blank

namespace TableScribe.Text

/-- A text has white space at its end. -/
def EndsBlank (text : List Char) : Prop := ∃ c ∈ text.getLast?, isBlank c = true

instance (text : List Char) : Decidable (EndsBlank text) :=
  Option.decidableExistsMem text.getLast?

theorem trimEnd_eq_rdropWhile (text : List Char) : trimEnd text = text.rdropWhile isBlank := by
  induction text with
  | nil => rfl
  | cons c rest ih =>
      rw [trimEnd, ih, List.rdropWhile, List.rdropWhile, List.reverse_cons, List.dropWhile_append]
      cases hkept : rest.reverse.dropWhile isBlank with
      | nil => cases hblank : isBlank c <;> simp [hblank]
      | cons last kept => simp

theorem not_endsBlank_trimEnd (text : List Char) : ¬ EndsBlank (trimEnd text) := by
  rintro ⟨c, hc, hblank⟩
  rw [trimEnd_eq_rdropWhile] at hc
  obtain ⟨hne, rfl⟩ := List.mem_getLast?_eq_getLast hc
  exact List.rdropWhile_last_not isBlank text hne hblank

/-- A text is its trimmed form and white space after it. -/
theorem exists_eq_trimEnd_append (text : List Char) :
    ∃ blanks, text = trimEnd text ++ blanks ∧ ∀ c ∈ blanks, isBlank c = true := by
  refine ⟨text.rtakeWhile isBlank, ?_, fun c => List.mem_rtakeWhile_imp⟩
  rw [trimEnd_eq_rdropWhile, List.rdropWhile_append_rtakeWhile]

section

variable {blanks : List Char} (hblanks : ∀ c ∈ blanks, isBlank c = true) (text : List Char)

include hblanks

theorem trimEnd_append : trimEnd (text ++ blanks) = trimEnd text := by
  rw [trimEnd_eq_rdropWhile, trimEnd_eq_rdropWhile, List.rdropWhile, List.rdropWhile,
    List.reverse_append, List.dropWhile_append_of_pos (by simpa using hblanks)]

/-- White space before a text is cut off. -/
theorem trim_append_left : trim (blanks ++ text) = trim text := by
  rw [trim, trimStart, List.dropWhile_append_of_pos hblanks]
  rfl

/-- White space after a text is cut off. -/
theorem trim_append_right : trim (text ++ blanks) = trim text := by
  induction text with
  | nil => simpa using trim_append_left hblanks []
  | cons c rest ih =>
      by_cases hc : isBlank c = true
      · simpa [trim, trimStart, hc] using ih
      · simpa [trim, trimStart, hc] using trimEnd_append hblanks (c :: rest)

end

end TableScribe.Text
