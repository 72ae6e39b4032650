/-
Lines of a text inside a larger one.  Where a text stands on lines of its own,
indenting the larger text shifts each of them; only the last line of all may be
read differently, and a line that closes a member is not.
-/
import Mathlib.Data.List.Basic
import Mathlib.Data.List.Infix
import TableScribe.Proofs.Text.Segments
import TableScribe.Text.Indent

namespace TableScribe.Text

/-- A line of a text once the text is indented. -/
def deeper (line : List Char) : List Char := indentLine (dropReturn line)

/-- Rows are lines of a text, one after the other. -/
def Shows (text : String) (rows : List (List Char)) : Prop := rows <:+: segments '\n' text.toList

/-- Rows end in one that is not empty and has no carriage return at its end. -/
def Closed (rows : List (List Char)) : Prop :=
  ∃ front last c, rows = front ++ [last ++ [c]] ∧ c ≠ '\r'

theorem dropReturn_eq_self {line : List Char} (hline : line.getLast? ≠ some '\r') :
    dropReturn line = line :=
  if_neg hline

theorem dropReturn_append_singleton {c : Char} (hc : c ≠ '\r') (line : List Char) :
    dropReturn (line ++ [c]) = line ++ [c] :=
  dropReturn_eq_self (by simpa using hc)

theorem Closed.map_deeper {rows : List (List Char)} (hclosed : Closed rows) :
    Closed (rows.map deeper) := by
  obtain ⟨front, last, c, rfl, hc⟩ := hclosed
  refine ⟨front.map deeper, indentStep ++ last, c, ?_, hc⟩
  simp [deeper, dropReturn_append_singleton hc, indentLine]

theorem closed_segments {c : Char} (hfeed : c ≠ '\n') (hreturn : c ≠ '\r') (text : List Char) :
    Closed (segments '\n' (text ++ [c])) := by
  induction text with
  | nil => exact ⟨[], [], c, by simp [segments, hfeed], hreturn⟩
  | cons first text ih =>
      obtain ⟨front, last, d, hsegments, hd⟩ := ih
      rw [List.cons_append, segments]
      split
      case isTrue => exact ⟨[] :: front, last, d, by rw [hsegments]; rfl, hd⟩
      case isFalse =>
        cases front with
        | nil => exact ⟨[], first :: last, d, by rw [hsegments]; rfl, hd⟩
        | cons head front => exact ⟨(first :: head) :: front, last, d, by rw [hsegments]; rfl, hd⟩

theorem linesOfSegments_append {pieces : List (List Char)} (hpieces : pieces ≠ [])
    (front : List (List Char)) :
    linesOfSegments (front ++ pieces) = front.map dropReturn ++ linesOfSegments pieces := by
  induction front with
  | nil => rfl
  | cons line front ih =>
      obtain ⟨next, rest, hrest⟩ :=
        List.exists_cons_of_ne_nil (List.append_ne_nil_of_right_ne_nil front hpieces)
      rw [List.cons_append, hrest, linesOfSegments, ← hrest, ih]
      rfl

theorem linesOfSegments_of_closed {rows : List (List Char)} (hclosed : Closed rows) :
    linesOfSegments rows = rows.map dropReturn := by
  obtain ⟨front, last, c, rfl, hc⟩ := hclosed
  rw [linesOfSegments_append (List.cons_ne_nil _ _)]
  simp [linesOfSegments, dropReturn_append_singleton hc]

/-- Rows inside a text are among the lines that it is read as. -/
theorem infix_lines {text : List Char} {rows : List (List Char)} (hclosed : Closed rows)
    (hrows : rows <:+: segments '\n' text) : rows.map dropReturn <:+: lines text := by
  obtain ⟨front, back, hsegments⟩ := hrows
  rw [lines, ← hsegments]
  -- Only the last segment of a text is read in another way, so it matters whether
  -- anything follows the rows.
  by_cases hback : back = []
  · have hne : rows ≠ [] := by
      rintro rfl
      obtain ⟨others, last, c, hnil, -⟩ := hclosed
      simp at hnil
    rw [hback, List.append_nil, linesOfSegments_append hne, linesOfSegments_of_closed hclosed]
    exact (List.suffix_append _ _).isInfix
  · rw [linesOfSegments_append hback, List.map_append]
    exact List.infix_append _ _ _

theorem newline_not_mem_indentLine {line : List Char} (hline : '\n' ∉ line) :
    '\n' ∉ indentLine line := by
  unfold indentLine
  split
  case isTrue => exact List.not_mem_nil
  case isFalse => simp [indentStep, hline]

theorem dropReturn_prefix (line : List Char) : dropReturn line <+: line := by
  unfold dropReturn
  split
  case isTrue => exact List.dropLast_prefix line
  case isFalse => exact List.prefix_refl line

/-- Every line is the start of a segment. -/
theorem exists_prefix_of_mem_linesOfSegments {pieces : List (List Char)} {line : List Char}
    (hline : line ∈ linesOfSegments pieces) : ∃ piece ∈ pieces, line <+: piece := by
  induction pieces using linesOfSegments.induct with
  | case1 => exact nomatch hline
  | case2 last hempty => simp [linesOfSegments, hempty] at hline
  | case3 last hempty =>
      rw [linesOfSegments, if_neg hempty] at hline
      exact ⟨line, hline, List.prefix_refl line⟩
  | case4 first next rest ih =>
      rw [linesOfSegments] at hline
      rcases List.mem_cons.mp hline with rfl | hrest
      · exact ⟨first, List.mem_cons_self, dropReturn_prefix first⟩
      · obtain ⟨piece, hpiece, hprefix⟩ := ih hrest
        exact ⟨piece, List.mem_cons_of_mem first hpiece, hprefix⟩

theorem segments_indentChars {text : List Char} (hlines : lines text ≠ []) :
    segments '\n' (indentChars text) = (lines text).map indentLine := by
  rw [segments_eq_splitOn, indentChars, join, List.splitOn_intercalate]
  · intro row hrow
    obtain ⟨line, hline, rfl⟩ := List.mem_map.mp hrow
    obtain ⟨piece, hpiece, hprefix⟩ := exists_prefix_of_mem_linesOfSegments hline
    exact newline_not_mem_indentLine (mt hprefix.mem (not_mem_of_mem_segments hpiece))
  · simpa using hlines

namespace Shows

variable {text : String} {rows : List (List Char)}

theorem append_left (hshows : Shows text rows) (front : String) :
    Shows (front ++ "\n" ++ text) rows := by
  have hsegments := segments_append '\n' front.toList text.toList
  unfold Shows
  rw [String.toList_append, String.toList_append, List.append_assoc]
  exact hsegments ▸ hshows.trans (List.suffix_append _ _).isInfix

theorem append_right (hshows : Shows text rows) (back : String) :
    Shows (text ++ "\n" ++ back) rows := by
  have hsegments := segments_append '\n' text.toList back.toList
  unfold Shows
  rw [String.toList_append, String.toList_append, List.append_assoc]
  exact hsegments ▸ hshows.trans (List.prefix_append _ _).isInfix

/-- Rows inside a text are shifted when the text is indented. -/
theorem indent (hshows : Shows text rows) (hclosed : Closed rows) :
    Shows (indent text) (rows.map deeper) := by
  have hlines := (infix_lines hclosed hshows).map indentLine
  unfold Shows Text.indent
  rw [String.toList_ofList, segments_indentChars]
  · rwa [List.map_map] at hlines
  · intro hnil
    obtain ⟨front, last, c, rfl, -⟩ := hclosed
    simp [hnil] at hlines

/-- Rows inside one of some texts, where the separator starts and ends with a line feed. -/
theorem intercalate_of_feeds {separator : String} {texts : List String}
    (hshows : Shows text rows) (htext : text ∈ texts) (front back : String)
    (hback : separator = "\n" ++ back) (hfront : separator = front ++ "\n") :
    Shows (String.intercalate separator texts) rows := by
  induction texts with
  | nil => exact absurd htext List.not_mem_nil
  | cons first rest ih =>
      by_cases hrest : rest = []
      · subst hrest
        obtain rfl := List.mem_singleton.mp htext
        simpa using hshows
      · rw [String.intercalate_cons_of_ne_nil hrest]
        rcases List.mem_cons.mp htext with rfl | hmem
        · rw [hback, ← String.append_assoc, String.append_assoc]
          exact hshows.append_right _
        · have hrows := (ih hmem).append_left (first ++ front)
          rwa [@String.append_assoc first, ← hfront] at hrows

/-- Rows inside one of some texts with blank lines between them. -/
theorem intercalate {texts : List String} (hshows : Shows text rows) (htext : text ∈ texts) :
    Shows (String.intercalate "\n\n" texts) rows :=
  hshows.intercalate_of_feeds htext "\n" "\n" rfl rfl

/-- Rows inside one of some texts that stand below each other. -/
theorem intercalate_feed {texts : List String} (hshows : Shows text rows) (htext : text ∈ texts) :
    Shows (String.intercalate "\n" texts) rows :=
  hshows.intercalate_of_feeds htext "" "" rfl rfl

end Shows

end TableScribe.Text
