/-
Indentation keeps the lines of a text.  Where lines end at line feeds alone, each
level puts four spaces before every line that is not empty, so the text can be
read back from any depth, and texts below each other are indented one by one.
-/
import TableScribe.Proofs.Text.Spans

namespace TableScribe.Text

/-- The lines of a text are the pieces between its line feeds: no carriage return
comes before one of them, and none of them is at the end. -/
structure HasPlainEnds (text : String) : Prop where
  no_return : ¬ ['\r', '\n'] <:+: text.toList
  no_feed : text.toList.getLast? ≠ some '\n'

/-- A text without the first characters of each line, as many as the width. -/
def outdent (width : Nat) (text : String) : String :=
  String.ofList (join ['\n'] ((segments '\n' text.toList).map (List.drop width)))

/-- Pieces that are read as lines without a change.  They are those of an empty
text, or the last one is not empty and none before it has a carriage return at
its end. -/
def AreLines (rows : List (List Char)) : Prop :=
  rows = [[]] ∨ ∃ front last, rows = front ++ [last] ∧ last ≠ [] ∧
    ∀ row ∈ front, row.getLast? ≠ some '\r'

theorem eq_of_segments_eq {mark : Char} {text last : List Char} {front : List (List Char)}
    (hsegments : segments mark text = front ++ [last]) :
    text = front.flatMap (· ++ [mark]) ++ last := by
  have htext := intercalate_segments mark text
  rw [hsegments, intercalate_append_cons] at htext
  simpa using htext.symm

theorem HasPlainEnds.areLines {text : String} (htext : HasPlainEnds text) :
    AreLines (segments '\n' text.toList) := by
  obtain hnil | ⟨front, last, hsegments⟩ := List.eq_nil_or_concat' (segments '\n' text.toList)
  · exact absurd hnil (segments_ne_nil '\n' text.toList)
  have hjoined := eq_of_segments_eq hsegments
  rw [hsegments]
  by_cases hlast : last = []
  · -- Whatever comes before an empty last piece ends in a line feed.
    cases front using List.reverseRecOn with
    | nil => exact Or.inl (by rw [hlast]; rfl)
    | append_singleton front row _ =>
        refine absurd ?_ htext.no_feed
        rw [hjoined, hlast]
        simp
  · refine Or.inr ⟨front, last, rfl, hlast, ?_⟩
    intro row hrow hreturn
    obtain ⟨start, rfl⟩ := List.getLast?_eq_some_iff.mp hreturn
    obtain ⟨before, after, rfl⟩ := List.append_of_mem hrow
    refine htext.no_return ⟨before.flatMap (· ++ ['\n']) ++ start,
      after.flatMap (· ++ ['\n']) ++ last, ?_⟩
    rw [hjoined]
    simp

theorem getLast?_indentLine (line : List Char) : (indentLine line).getLast? = line.getLast? := by
  cases line with
  | nil => rfl
  | cons c rest => exact List.getLast?_append_of_ne_nil indentStep (List.cons_ne_nil c rest)

theorem AreLines.map_indentLine {rows : List (List Char)} (hrows : AreLines rows) :
    AreLines (rows.map indentLine) := by
  obtain rfl | ⟨front, last, rfl, hlast, hfront⟩ := hrows
  · exact Or.inl rfl
  · refine Or.inr ⟨front.map indentLine, indentLine last, by simp, ?_, ?_⟩
    · simp [indentLine, hlast]
    · intro row hrow
      obtain ⟨line, hline, rfl⟩ := List.mem_map.mp hrow
      rw [getLast?_indentLine]
      exact hfront line hline

section

variable {text other : List Char}

theorem segments_indentChars_of_areLines (hrows : AreLines (segments '\n' text)) :
    segments '\n' (indentChars text) = (segments '\n' text).map indentLine := by
  obtain hempty | ⟨front, last, hsegments, hlast, hfront⟩ := hrows
  · rw [indentChars, lines, hempty]
    rfl
  · have hlines : lines text = segments '\n' text := by
      rw [lines, hsegments, linesOfSegments_append (List.cons_ne_nil _ _),
        List.map_congr_left fun row hrow => dropReturn_eq_self (hfront row hrow), List.map_id']
      simp [linesOfSegments, hlast]
    rw [segments_indentChars (hlines ▸ segments_ne_nil '\n' text), hlines]

/-- A text of lines is indented line by line, however often. -/
theorem segments_iterate_indentChars (hrows : AreLines (segments '\n' text)) (levels : Nat) :
    segments '\n' (indentChars^[levels] text) = (segments '\n' text).map indentLine^[levels] := by
  induction levels generalizing text with
  | zero => simp
  | succ levels ih =>
      -- The rows of the indented text are lines again, which carries the induction.
      have hdeeper := segments_indentChars_of_areLines hrows
      rw [Function.iterate_succ_apply, ih (hdeeper ▸ hrows.map_indentLine), hdeeper,
        List.map_map, Function.iterate_succ]

theorem iterate_indentLine (levels : Nat) (line : List Char) :
    indentLine^[levels] line =
      if line = [] then [] else List.replicate (4 * levels) ' ' ++ line := by
  induction levels with
  | zero => simp
  | succ levels ih =>
      rw [Function.iterate_succ_apply', ih]
      split
      case isTrue => rfl
      case isFalse hline =>
        rw [Nat.mul_succ, Nat.add_comm, List.replicate_add]
        simp [indentLine, hline, indentStep]

theorem getLast?_ne_of_mem_segments (hrows : AreLines (segments '\n' text))
    (hreturn : text.getLast? ≠ some '\r') {row : List Char} (hrow : row ∈ segments '\n' text) :
    row.getLast? ≠ some '\r' := by
  obtain hempty | ⟨front, last, hsegments, hlast, hfront⟩ := hrows
  · rw [hempty, List.mem_singleton] at hrow
    simp [hrow]
  · rw [hsegments] at hrow
    rcases List.mem_append.mp hrow with hrow | hrow
    · exact hfront row hrow
    · obtain rfl := List.mem_singleton.mp hrow
      rwa [eq_of_segments_eq hsegments, List.getLast?_append_of_ne_nil _ hlast] at hreturn

/-- Two texts below each other, where the first one does not end in a carriage
return and the second one is not empty. -/
theorem AreLines.append (hrows : AreLines (segments '\n' text))
    (hreturn : text.getLast? ≠ some '\r') (hother : AreLines (segments '\n' other))
    (hne : other ≠ []) : AreLines (segments '\n' (text ++ '\n' :: other)) := by
  rw [segments_append]
  obtain hempty | ⟨front, last, hsegments, hlast, hfront⟩ := hother
  · have hjoined := intercalate_segments '\n' other
    rw [hempty] at hjoined
    exact absurd hjoined.symm hne
  · refine Or.inr ⟨segments '\n' text ++ front, last, by simp [hsegments], hlast, ?_⟩
    rw [List.forall_mem_append]
    exact ⟨fun row hrow => getLast?_ne_of_mem_segments hrows hreturn hrow, hfront⟩

/-- Texts below each other are indented one by one. -/
theorem indentChars_append (hrows : AreLines (segments '\n' text))
    (hreturn : text.getLast? ≠ some '\r') (hother : AreLines (segments '\n' other))
    (hne : other ≠ []) :
    indentChars (text ++ '\n' :: other) = indentChars text ++ '\n' :: indentChars other := by
  have hboth := segments_indentChars_of_areLines (hrows.append hreturn hother hne)
  rw [segments_append, List.map_append, ← segments_indentChars_of_areLines hrows,
    ← segments_indentChars_of_areLines hother, ← segments_append] at hboth
  rw [← intercalate_segments '\n' (indentChars _), hboth, intercalate_segments]

end

/-- Each level of indentation puts four spaces before every line that is not
empty and leaves the empty ones alone, so the text is found again below the
spaces.  Texts below each other are indented one by one. -/
theorem indentation_keeps_lines {text : String} (htext : HasPlainEnds text) :
    (∀ levels, segments '\n' (indent^[levels] text).toList =
        (segments '\n' text.toList).map fun line =>
          if line = [] then [] else List.replicate (4 * levels) ' ' ++ line) ∧
    (∀ levels, outdent (4 * levels) (indent^[levels] text) = text) ∧
    ∀ other, HasPlainEnds other → other ≠ "" → text.toList.getLast? ≠ some '\r' →
      indent (text ++ "\n" ++ other) = indent text ++ "\n" ++ indent other := by
  have hlevels (levels : Nat) : segments '\n' (indent^[levels] text).toList =
      (segments '\n' text.toList).map fun line =>
        if line = [] then [] else List.replicate (4 * levels) ' ' ++ line := by
    rw [toList_iterate_indent, segments_iterate_indentChars htext.areLines]
    exact List.map_congr_left fun line _ => iterate_indentLine levels line
  refine ⟨hlevels, ?_, ?_⟩
  · intro levels
    have hback (line : List Char) : List.drop (4 * levels)
        (if line = [] then [] else List.replicate (4 * levels) ' ' ++ line) = line := by
      split
      case isTrue hline => rw [hline, List.drop_nil]
      case isFalse => exact List.drop_left' List.length_replicate
    rw [outdent, hlevels, List.map_map, Function.comp_def]
    simp only [hback, List.map_id', join, intercalate_segments, String.ofList_toList]
  · intro other hother hne hreturn
    have hchars := indentChars_append htext.areLines hreturn hother.areLines
      (String.toList_eq_nil_iff.not.mpr hne)
    simp [indent, ← String.toList_inj, hchars]

/-- An empty line at the start, one of white space, and a carriage return inside a line. -/
theorem indentation_keeps_blank_lines :
    HasPlainEnds "\n \na\rb" ∧
      segments '\n' (indent^[2] "\n \na\rb").toList =
        ["".toList, "         ".toList, "        a\rb".toList] ∧
      outdent 8 (indent^[2] "\n \na\rb") = "\n \na\rb" ∧
      indent ("\n \na\rb" ++ "\n" ++ "\nc") = "\n     \n    a\rb" ++ "\n" ++ "\n    c" := by
  have hends : HasPlainEnds "\n \na\rb" := ⟨by decide, by decide⟩
  have hother : HasPlainEnds "\nc" := ⟨by decide, by decide⟩
  obtain ⟨hlines, hback, hjoined⟩ := indentation_keeps_lines hends
  refine ⟨hends, (hlines 2).trans (by decide), hback 2, ?_⟩
  rw [hjoined "\nc" hother (by decide) (by decide)]
  decide

end TableScribe.Text
