/-
Source that is made of plain characters, of literals and of documentation
comments.  A reader finds just these literals and comments in it, and they are
the same after the lines have been indented, as long as there is no comment.
-/
import Mathlib.Data.List.Forall2
import TableScribe.Proofs.Java.Lexis
import TableScribe.Proofs.Text.Segments
import TableScribe.Text.Indent

namespace TableScribe.Java

/-- A text is made of plain characters and of the literals and comments in a
list.  After a literal the line goes on. -/
inductive Reads : List Char → List Token → Prop
  | nil : Reads [] []
  | char {c : Char} {text : List Char} {notes : List Token} (hc : IsPlain c)
      (htext : Reads text notes) : Reads (c :: text) notes
  | literal (value : List Char) {c : Char} {text : List Char} {notes : List Token}
      (hc : IsPlain c) (hline : c ≠ '\n') (htext : Reads text notes) :
      Reads ('"' :: escape value ++ '"' :: c :: text) (.literal value :: notes)
  | comment (javadoc : Javadoc) {text : List Char} {notes : List Token}
      (htext : Reads text notes) :
      Reads (comment javadoc ++ text) (.comment (comment javadoc) :: notes)

namespace Reads

variable {text rest : List Char} {notes others : List Token}

theorem of_isPlain (htext : ∀ c ∈ text, IsPlain c) : Reads text [] := by
  induction text with
  | nil => exact .nil
  | cons c text ih =>
      obtain ⟨hc, htext⟩ := List.forall_mem_cons.mp htext
      exact .char hc (ih htext)

theorem append (htext : Reads text notes) (hrest : Reads rest others) :
    Reads (text ++ rest) (notes ++ others) := by
  induction htext with
  | nil => exact hrest
  | char hc htext ih => exact .char hc ih
  | literal value hc hline htext ih =>
      rw [List.append_assoc]
      exact .literal value hc hline ih
  | comment javadoc htext ih =>
      rw [List.append_assoc]
      exact .comment javadoc ih

theorem eq_nil (htext : Reads [] notes) : notes = [] := by
  generalize hempty : ([] : List Char) = text at htext
  cases htext with
  | nil => rfl
  | char hc htext => exact nomatch hempty
  | literal value hc hline htext => exact nomatch hempty
  | comment javadoc htext => exact nomatch hempty

/-- Pieces with plain characters between them. -/
theorem intercalate {separator : List Char} (hseparator : ∀ c ∈ separator, IsPlain c)
    {pieces : List (List Char)} {parts : List (List Token)}
    (hpieces : List.Forall₂ Reads pieces parts) :
    Reads (separator.intercalate pieces) parts.flatten := by
  induction hpieces with
  | nil => exact .nil
  | @cons piece part pieces parts hpiece hpieces ih =>
      cases hpieces with
      | nil => simpa using hpiece
      | cons hnext hothers =>
          rw [List.intercalate_cons_cons, List.append_assoc]
          exact hpiece.append ((of_isPlain hseparator).append ih)

/-- A reader of code finds the literals and comments, and otherwise plain
characters. -/
theorem exists_run_eq (htext : Reads text notes) :
    ∃ tokens, run .code text = some (tokens, .code) ∧ tokens.filter Token.isNote = notes ∧
      ∀ c, .code c ∈ tokens → IsPlain c := by
  induction htext with
  | nil => exact ⟨[], rfl, rfl, nofun⟩
  | @char c text notes hc htext ih =>
      obtain ⟨tokens, hrun, hnotes, hplain⟩ := ih
      refine ⟨.code c :: tokens, ?_, hnotes, ?_⟩
      · simp [run, step, stepCode_of_isPlain hc, hrun]
      · intro other hother
        rcases List.mem_cons.mp hother with hsame | hmem
        · cases hsame
          exact hc
        · exact hplain other hmem
  | @literal value c text notes hc hline htext ih =>
      obtain ⟨tokens, hrun, rfl, hplain⟩ := ih
      have hsplit : '"' :: escape value ++ '"' :: c :: text =
          ('"' :: escape value ++ ['"', c]) ++ text := by simp
      refine ⟨_, hsplit ▸ run_append_of_eq (run_literal value hc) hrun, rfl, ?_⟩
      intro other hother
      rcases List.mem_append.mp hother with hmem | hmem
      · obtain rfl : other = c := by simpa using hmem
        exact hc
      · exact hplain other hmem
  | @comment javadoc text notes htext ih =>
      obtain ⟨tokens, hrun, rfl, hplain⟩ := ih
      refine ⟨_, run_append_of_eq (run_comment javadoc) hrun, rfl, ?_⟩
      intro other hother
      exact hplain other (by simpa using hother)

/-- A text that is all of a source can be read, and its literals and comments
are found. -/
theorem exists_scan_eq (htext : Reads text notes) :
    ∃ tokens, scan text = some tokens ∧ tokens.filter Token.isNote = notes ∧
      ∀ c, .code c ∈ tokens → IsPlain c := by
  obtain ⟨tokens, hrun, htokens⟩ := htext.exists_run_eq
  refine ⟨tokens, ?_, htokens⟩
  simp [scan, hrun, Mode.finish]

example : scan "a /* \" */ \"\\\"/*\\61\" // b".toList =
    some [.code 'a', .code ' ', .comment "/* \" */".toList, .code ' ', .literal "\"/*1".toList,
      .code ' ', .comment "// b".toList] := by
  decide

end Reads

/-- A list of pieces without comments. -/
def NoComment (notes : List Token) : Prop := ∀ source, .comment source ∉ notes

theorem not_mem_escapeChar (c : Char) : '\n' ∉ escapeChar c ∧ '\r' ∉ escapeChar c := by
  unfold escapeChar
  split_ifs with hquote hbackslash hfeed hreturn htab
  · decide
  · decide
  · decide
  · decide
  · decide
  · simp [Ne.symm hfeed, Ne.symm hreturn]

/-- A literal has its ends of lines escaped. -/
theorem not_mem_escape (text : List Char) : '\n' ∉ escape text ∧ '\r' ∉ escape text := by
  constructor
  · intro hmem
    obtain ⟨c, -, hc⟩ := List.mem_flatMap.mp hmem
    exact (not_mem_escapeChar c).1 hc
  · intro hmem
    obtain ⟨c, -, hc⟩ := List.mem_flatMap.mp hmem
    exact (not_mem_escapeChar c).2 hc

namespace Reads

variable {text : List Char} {notes : List Token}

/-- Only a comment can bring a carriage return in. -/
theorem return_not_mem (htext : Reads text notes) (hnotes : NoComment notes) : '\r' ∉ text := by
  induction htext with
  | nil => exact List.not_mem_nil
  | char hc htext ih =>
      rw [List.mem_cons, not_or]
      refine ⟨?_, ih hnotes⟩
      rintro rfl
      exact absurd hc (by decide)
  | @literal value c text notes hc hline htext ih =>
      have hrest := ih fun source hsource => hnotes source (List.mem_cons_of_mem _ hsource)
      have hescape := (not_mem_escape value).2
      have hreturn : '\r' ≠ c := by
        rintro rfl
        exact absurd hc (by decide)
      simp [hescape, hreturn, hrest]
  | comment javadoc htext ih => exact absurd List.mem_cons_self (hnotes _)

/-- The lines of a text share out its literals. -/
theorem exists_segments (htext : Reads text notes) (hnotes : NoComment notes) :
    ∃ parts, List.Forall₂ Reads (Text.segments '\n' text) parts ∧ parts.flatten = notes := by
  induction htext with
  | nil => exact ⟨[[]], .cons .nil .nil, rfl⟩
  | @char c text notes hc htext ih =>
      obtain ⟨parts, hparts, rfl⟩ := ih hnotes
      by_cases hfeed : c = '\n'
      · refine ⟨[] :: parts, ?_, rfl⟩
        rw [Text.segments, if_pos hfeed]
        exact .cons .nil hparts
      · obtain ⟨first, others, hsegments⟩ :=
          List.exists_cons_of_ne_nil (Text.segments_ne_nil '\n' text)
        rw [hsegments] at hparts
        obtain ⟨part, rest, hfirst, hrest, rfl⟩ := List.forall₂_cons_left_iff.mp hparts
        refine ⟨part :: rest, ?_, rfl⟩
        rw [Text.segments, if_neg hfeed, hsegments]
        exact .cons (.char hc hfirst) hrest
  | @literal value c text notes hc hline htext ih =>
      obtain ⟨parts, hparts, rfl⟩ :=
        ih fun source hsource => hnotes source (List.mem_cons_of_mem _ hsource)
      obtain ⟨first, others, hsegments⟩ :=
        List.exists_cons_of_ne_nil (Text.segments_ne_nil '\n' text)
      -- The literal and the character after it hold no line feed, so they stay in one line.
      have hescape := (not_mem_escape value).1
      have hfront : '\n' ∉ '"' :: escape value ++ ['"', c] := by
        simp [hescape, Ne.symm hline]
      have hwhole := Text.segments_append_of_not_mem hfront hsegments
      rw [hsegments] at hparts
      obtain ⟨part, rest, hfirst, hrest, rfl⟩ := List.forall₂_cons_left_iff.mp hparts
      refine ⟨(.literal value :: part) :: rest, ?_, rfl⟩
      have hliteral := Reads.literal value hc hline hfirst
      simp only [List.append_assoc, List.cons_append, List.nil_append] at hwhole hliteral ⊢
      rw [hwhole]
      exact .cons hliteral hrest
  | comment javadoc htext ih => exact absurd List.mem_cons_self (hnotes _)

/-- Reading segments as lines loses no literals. -/
theorem exists_linesOfSegments {segments : List (List Char)} {parts : List (List Token)}
    (hparts : List.Forall₂ Reads segments parts) (hnotes : NoComment parts.flatten) :
    ∃ kept, List.Forall₂ Reads (Text.linesOfSegments segments) kept ∧
      kept.flatten = parts.flatten := by
  induction hparts with
  | nil => exact ⟨[], .nil, rfl⟩
  | @cons line part segments parts hline hparts ih =>
      have hfirst : '\r' ∉ line :=
        hline.return_not_mem fun source hsource => hnotes source (List.mem_append_left _ hsource)
      have hothers : NoComment parts.flatten :=
        fun source hsource => hnotes source (List.mem_append_right part hsource)
      cases hparts with
      | nil =>
          cases line with
          | nil =>
              obtain rfl := hline.eq_nil
              exact ⟨[], .nil, rfl⟩
          | cons c line => exact ⟨[part], .cons hline .nil, rfl⟩
      | cons hnext hrest =>
          obtain ⟨kept, hkept, hflatten⟩ := ih hothers
          refine ⟨part :: kept, ?_, by rw [List.flatten_cons, hflatten]; rfl⟩
          have hdrop : Text.dropReturn line = line :=
            if_neg fun hlast => hfirst (List.mem_of_getLast? hlast)
          rw [Text.linesOfSegments, hdrop]
          exact .cons hline hkept

theorem indentLine {line : List Char} (hline : Reads line notes) :
    Reads (Text.indentLine line) notes := by
  unfold Text.indentLine
  by_cases hempty : line.isEmpty = true
  · rw [if_pos hempty]
    rw [List.isEmpty_iff.mp hempty] at hline
    exact hline
  · rw [if_neg hempty]
    exact (of_isPlain (by decide)).append hline

/-- Indenting a text leaves its literals as they are. -/
theorem indentChars (htext : Reads text notes) (hnotes : NoComment notes) :
    Reads (Text.indentChars text) notes := by
  obtain ⟨parts, hparts, rfl⟩ := htext.exists_segments hnotes
  obtain ⟨kept, hkept, hflatten⟩ := exists_linesOfSegments hparts hnotes
  rw [← hflatten]
  refine .intercalate (by decide) ?_
  rw [List.forall₂_map_left_iff]
  exact hkept.imp fun line part hline => hline.indentLine

end Reads

end TableScribe.Java
