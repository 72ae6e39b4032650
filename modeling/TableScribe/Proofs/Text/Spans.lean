/-
Spans of a text: pieces within one line.  Indenting the text leaves a span as it
is, and what comes of the text before it and after it does not depend on the span.
-/
import Mathlib.Data.List.Basic
import Mathlib.Logic.Function.Iterate
import TableScribe.Proofs.Text.Rows

namespace TableScribe.Text

/-- A piece of a line that is not empty and has no carriage return at its end. -/
def IsSpan (piece : List Char) : Prop :=
  '\n' ∉ piece ∧ ∃ front c, piece = front ++ [c] ∧ c ≠ '\r'

/-- What indenting a text makes of the part before a span. -/
def indentBefore (before : List Char) : List Char :=
  ((segments '\n' before).dropLast.flatMap fun row => deeper row ++ ['\n']) ++
    indentStep ++ (segments '\n' before).getLastD []

/-- What indenting a text makes of the part after a span. -/
def indentAfter (after : List Char) : List Char :=
  match segments '\n' after with
  | [] => []
  | [rest] => rest
  | rest :: next :: rows =>
    dropReturn rest ++ (linesOfSegments (next :: rows)).flatMap fun row => '\n' :: indentLine row

theorem dropReturn_append {front : List Char} {c : Char} (hc : c ≠ '\r') (rest : List Char) :
    dropReturn (front ++ [c] ++ rest) = front ++ [c] ++ dropReturn rest := by
  cases rest using List.reverseRecOn with
  | nil => simpa [dropReturn] using dropReturn_append_singleton hc front
  | append_singleton rest last _ =>
      rw [← List.append_assoc]
      simp only [dropReturn, List.getLast?_concat, List.dropLast_concat]
      split
      · rfl
      · rw [List.append_assoc]

theorem intercalate_cons_eq_flatMap (separator row : List Char) (back : List (List Char)) :
    separator.intercalate (row :: back) = row ++ back.flatMap (separator ++ ·) := by
  induction back generalizing row with
  | nil => simp
  | cons next back ih => simp [ih]

theorem intercalate_append_cons (separator row : List Char) (front back : List (List Char)) :
    separator.intercalate (front ++ row :: back) =
      front.flatMap (· ++ separator) ++ row ++ back.flatMap (separator ++ ·) := by
  induction front with
  | nil => simp [intercalate_cons_eq_flatMap]
  | cons first front ih =>
      obtain ⟨next, rest, hrest⟩ := List.exists_cons_of_ne_nil
        (List.append_ne_nil_of_right_ne_nil front (List.cons_ne_nil row back))
      rw [List.cons_append, hrest, List.intercalate_cons_cons, ← hrest, ih]
      simp

theorem infix_of_mem_segments {mark : Char} {text piece : List Char}
    (hpiece : piece ∈ segments mark text) : piece <:+: text := by
  obtain ⟨front, back, hsegments⟩ := List.append_of_mem hpiece
  have htext := intercalate_segments mark text
  rw [hsegments, intercalate_append_cons] at htext
  exact ⟨_, _, htext⟩

theorem infix_of_mem_lines {text line : List Char} (hline : line ∈ lines text) :
    line <:+: text := by
  obtain ⟨piece, hpiece, hprefix⟩ := exists_prefix_of_mem_linesOfSegments hline
  exact hprefix.isInfix.trans (infix_of_mem_segments hpiece)

/-- The last piece of one text and the first piece of the next one become one piece. -/
theorem segments_append_eq {mark : Char} {rest first : List Char} {others : List (List Char)}
    (hrest : segments mark rest = first :: others) (before : List Char) :
    segments mark (before ++ rest) = (segments mark before).dropLast ++
      ((segments mark before).getLastD [] ++ first) :: others := by
  induction before with
  | nil => simpa [segments] using hrest
  | cons c before ih =>
      obtain ⟨head, tail, hsegments⟩ := List.exists_cons_of_ne_nil (segments_ne_nil mark before)
      rw [hsegments] at ih
      rw [List.cons_append, segments, segments, hsegments]
      by_cases hc : c = mark
      · rw [if_pos hc, if_pos hc, ih]
        rfl
      · rw [if_neg hc, if_neg hc, ih]
        cases tail <;> rfl

/-- Of the line that a span stands in, only the end depends on what follows. -/
theorem exists_linesOfSegments_span {piece after first : List Char} {others : List (List Char)}
    (hpiece : IsSpan piece) (hafter : segments '\n' after = first :: others) (last : List Char) :
    ∃ rest rows, linesOfSegments ((last ++ (piece ++ first)) :: others) =
        (last ++ piece ++ rest) :: rows ∧
      indentAfter after = rest ++ rows.flatMap fun row => '\n' :: indentLine row := by
  obtain ⟨-, front, c, rfl, hc⟩ := hpiece
  cases others with
  | nil => exact ⟨first, [], by simp [linesOfSegments], by simp [indentAfter, hafter]⟩
  | cons next others =>
      refine ⟨dropReturn first, linesOfSegments (next :: others), ?_, by simp [indentAfter, hafter]⟩
      have hdrop := @dropReturn_append (last ++ front) c hc first
      simp only [List.append_assoc] at hdrop ⊢
      rw [linesOfSegments, hdrop]

/-- Indenting leaves a span as it is. -/
theorem indentChars_span {piece : List Char} (hpiece : IsSpan piece) (before after : List Char) :
    indentChars (before ++ piece ++ after) =
      indentBefore before ++ piece ++ indentAfter after := by
  obtain ⟨first, others, hafter⟩ := List.exists_cons_of_ne_nil (segments_ne_nil '\n' after)
  have hsegments := segments_append_eq (segments_append_of_not_mem hpiece.1 hafter) before
  obtain ⟨rest, rows, hlines, hrest⟩ := exists_linesOfSegments_span hpiece hafter
    ((segments '\n' before).getLastD [])
  have hline (last : List Char) :
      indentLine (last ++ piece ++ rest) = indentStep ++ last ++ piece ++ rest := by
    obtain ⟨-, front, c, rfl, -⟩ := hpiece
    simp [indentLine]
  rw [indentChars, join, lines, List.append_assoc, hsegments,
    linesOfSegments_append (List.cons_ne_nil _ _), hlines, List.map_append, List.map_cons,
    intercalate_append_cons, hline, hrest, indentBefore, List.map_map, List.flatMap_map,
    List.flatMap_map]
  simp [deeper]

/-- However often a text is indented, a span in it stays as it is. -/
theorem iterate_indentChars_span {piece : List Char} (hpiece : IsSpan piece) (times : Nat)
    (before after : List Char) :
    indentChars^[times] (before ++ piece ++ after) =
      indentBefore^[times] before ++ piece ++ indentAfter^[times] after := by
  induction times generalizing before after with
  | zero => rfl
  | succ times ih =>
      rw [Function.iterate_succ_apply, indentChars_span hpiece, ih]
      rfl

theorem toList_iterate_indent (times : Nat) (text : String) :
    (indent^[times] text).toList = indentChars^[times] text.toList := by
  have hindent : Function.Semiconj String.toList indent indentChars :=
    fun _ => String.toList_ofList
  exact hindent.iterate_right times text

theorem iterate_indentBefore_nil (times : Nat) :
    indentBefore^[times] [] = List.replicate (4 * times) ' ' := by
  induction times with
  | zero => rfl
  | succ times ih =>
      have hempty : segments '\n' [] = [[]] := rfl
      have hfeed : '\n' ∉ List.replicate (4 * times) ' ' := by simp
      have hsegments := segments_append_of_not_mem hfeed hempty
      rw [List.append_nil] at hsegments
      rw [Function.iterate_succ_apply', ih, indentBefore, hsegments, Nat.mul_succ,
        Nat.add_comm, List.replicate_add]
      rfl

theorem iterate_indentAfter_nil (times : Nat) : indentAfter^[times] [] = [] :=
  Function.iterate_fixed rfl times

end TableScribe.Text
