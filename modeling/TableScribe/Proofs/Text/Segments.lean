/-
The pieces between the marks of a text.
-/
import TableScribe.Text.Segments

namespace TableScribe.Text

theorem segments_eq_splitOn (mark : Char) (text : List Char) :
    segments mark text = text.splitOn mark := by
  induction text with
  | nil => rfl
  | cons c rest ih =>
      rw [segments, ih, List.splitOn_cons_eq_if_modifyHead]
      by_cases hc : c = mark
      · simp [hc]
      · cases hsegments : rest.splitOn mark with
        | nil => exact absurd hsegments (List.splitOn_ne_nil mark rest)
        | cons head tail => simp [hc]

theorem segments_ne_nil (mark : Char) (text : List Char) : segments mark text ≠ [] := by
  rw [segments_eq_splitOn]
  exact List.splitOn_ne_nil mark text

/-- A text is its pieces with the mark between them. -/
theorem intercalate_segments (mark : Char) (text : List Char) :
    [mark].intercalate (segments mark text) = text := by
  rw [segments_eq_splitOn]
  exact List.intercalate_splitOn mark

theorem segments_append (mark : Char) (front rest : List Char) :
    segments mark (front ++ mark :: rest) = segments mark front ++ segments mark rest := by
  simp only [segments_eq_splitOn]
  exact List.splitOn_append_cons_self front rest

/-- No piece of a text holds the mark that the text is cut at. -/
theorem not_mem_of_mem_segments {mark : Char} {text piece : List Char}
    (hpiece : piece ∈ segments mark text) : mark ∉ piece := by
  induction text generalizing piece with
  | nil =>
      obtain rfl := List.mem_singleton.mp hpiece
      exact List.not_mem_nil
  | cons c rest ih =>
      rw [segments] at hpiece
      by_cases hc : c = mark
      · rw [if_pos hc] at hpiece
        rcases List.mem_cons.mp hpiece with rfl | hpiece
        · exact List.not_mem_nil
        · exact ih hpiece
      · obtain ⟨first, others, hsegments⟩ :=
          List.exists_cons_of_ne_nil (segments_ne_nil mark rest)
        rw [hsegments] at ih
        simp only [if_neg hc, hsegments] at hpiece
        rcases List.mem_cons.mp hpiece with rfl | hpiece
        · rw [List.mem_cons, not_or]
          exact ⟨Ne.symm hc, ih List.mem_cons_self⟩
        · exact ih (List.mem_cons_of_mem first hpiece)

/-- A character of a text is the mark, or it is in a piece. -/
theorem eq_or_exists_of_mem (mark : Char) {c : Char} {text : List Char} (hc : c ∈ text) :
    c = mark ∨ ∃ piece ∈ segments mark text, c ∈ piece := by
  induction text with
  | nil => exact nomatch hc
  | cons first rest ih =>
      obtain ⟨head, others, hsegments⟩ := List.exists_cons_of_ne_nil (segments_ne_nil mark rest)
      rw [segments]
      by_cases hfirst : first = mark
      · rw [if_pos hfirst]
        rcases List.mem_cons.mp hc with rfl | hrest
        · exact Or.inl hfirst
        · rcases ih hrest with hmark | ⟨piece, hpiece, hmem⟩
          · exact Or.inl hmark
          · exact Or.inr ⟨piece, List.mem_cons_of_mem _ hpiece, hmem⟩
      · rw [hsegments] at ih
        simp only [if_neg hfirst, hsegments]
        rcases List.mem_cons.mp hc with rfl | hrest
        · exact Or.inr ⟨_, List.mem_cons_self, List.mem_cons_self⟩
        · rcases ih hrest with hmark | ⟨piece, hpiece, hmem⟩
          · exact Or.inl hmark
          · rcases List.mem_cons.mp hpiece with rfl | hpiece
            · exact Or.inr ⟨_, List.mem_cons_self, List.mem_cons_of_mem _ hmem⟩
            · exact Or.inr ⟨piece, List.mem_cons_of_mem _ hpiece, hmem⟩

/-- What has no mark belongs to the first piece of what follows it. -/
theorem segments_append_of_not_mem {mark : Char} {front : List Char} (hfront : mark ∉ front)
    {rest first : List Char} {others : List (List Char)}
    (hrest : segments mark rest = first :: others) :
    segments mark (front ++ rest) = (front ++ first) :: others := by
  induction front with
  | nil => exact hrest
  | cons c front ih =>
      obtain ⟨hc, hfront⟩ := not_or.mp (mt List.mem_cons.mpr hfront)
      rw [List.cons_append, segments, if_neg (Ne.symm hc), ih hfront]
      rfl

/-- Where the marks of a text are replaced by marks that it does not have, it is cut at these. -/
theorem segments_map_replace {mark other : Char} {text : List Char} (htext : mark ∉ text) :
    segments mark (text.map fun c => if c = other then mark else c) = segments other text := by
  induction text with
  | nil => rfl
  | cons c rest ih =>
      obtain ⟨hc, hrest⟩ := not_or.mp (mt List.mem_cons.mpr htext)
      rw [List.map_cons, segments, segments, ih hrest]
      by_cases hother : c = other
      · simp [hother]
      · simp [hother, Ne.symm hc]

end TableScribe.Text
