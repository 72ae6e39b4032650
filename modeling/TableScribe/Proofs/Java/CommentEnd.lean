/-
The end of a documentation comment.  The two characters that close it are its last
ones and stand nowhere else, also after it has been indented.
-/
import TableScribe.Java.Views
import TableScribe.Proofs.Java.Lexis
import TableScribe.Proofs.Render.Descent
import TableScribe.Proofs.Text.Spans

namespace TableScribe.Java

namespace Unclosed

theorem indentLine {line : List Char} (hline : Unclosed line) :
    Unclosed (Text.indentLine line) := by
  unfold Text.indentLine
  split
  case isTrue => exact .nil
  case isFalse => exact Unclosed.append (by decide) hline (Or.inl (by decide))

/-- A line feed keeps a star at the end of a row from a slash in the next one. -/
theorem intercalate {rows : List (List Char)} (hrows : ∀ row ∈ rows, Unclosed row) :
    Unclosed (['\n'].intercalate rows) := by
  induction rows with
  | nil => exact .nil
  | cons row rest ih =>
      obtain ⟨hrow, hrest⟩ := List.forall_mem_cons.mp hrows
      cases rest with
      | nil => simpa using hrow
      | cons next rest =>
          rw [List.intercalate_cons_cons]
          have hfeed : Unclosed (row ++ ['\n']) := hrow.append (by decide) (Or.inr (by decide))
          exact hfeed.append (ih hrest) (Or.inl (by simp))

theorem indentChars {text : List Char} (htext : Unclosed text) :
    Unclosed (Text.indentChars text) := by
  apply intercalate
  intro row hrow
  obtain ⟨line, hline, rfl⟩ := List.mem_map.mp hrow
  have hunclosed : Unclosed line := List.IsChain.infix htext (Text.infix_of_mem_lines hline)
  exact hunclosed.indentLine

theorem iterate_indentChars {text : List Char} (htext : Unclosed text) (times : Nat) :
    Unclosed (Text.indentChars^[times] text) := by
  induction times with
  | zero => exact htext
  | succ times ih =>
      rw [Function.iterate_succ_apply']
      exact ih.indentChars

end Unclosed

/-- A text ends with `*/` and has it nowhere else. -/
def ClosesAtEnd (text : String) : Prop :=
  (∃ inner, text = inner ++ "*/") ∧ ∀ front back, text = front ++ "*/" ++ back → back = ""

theorem closesAtEnd_of_unclosed {text : String} {inner : List Char}
    (htext : text.toList = inner ++ ['*', '/']) (hinner : Unclosed (inner ++ ['*'])) :
    ClosesAtEnd text := by
  refine ⟨⟨String.ofList inner, String.toList_inj.mp (by simp [htext])⟩, ?_⟩
  rintro front back rfl
  have hclose : "*/".toList = ['*', '/'] := rfl
  rw [String.toList_append, String.toList_append, hclose] at htext
  -- Anything behind the mark would put the mark before the last slash.
  cases hback : back.toList using List.reverseRecOn with
  | nil => exact String.toList_inj.mp hback
  | append_singleton rest last _ =>
      rw [hback] at htext
      have hlast : (front.toList ++ ['*', '/'] ++ rest) ++ [last] = (inner ++ ['*']) ++ ['/'] := by
        simpa using htext
      rw [← List.append_inj_left' hlast rfl] at hinner
      have hmark : Unclosed ['*', '/'] := List.IsChain.infix hinner (List.infix_append _ _ _)
      exact absurd hmark (by decide)

section

variable (javadoc : Javadoc) (times : Nat)

theorem closesAtEnd_iterate_indent :
    ClosesAtEnd (Text.indent^[times] (String.ofList (comment javadoc))) := by
  obtain ⟨inner, hcomment, hunclosed⟩ := exists_comment_eq javadoc
  have hspan (piece : List Char) (hpiece : Text.IsSpan piece) :
      Text.indentChars^[times] (['/', '*', '*'] ++ inner ++ piece) =
        Text.indentBefore^[times] (['/', '*', '*'] ++ inner) ++ piece := by
    have hwhole := Text.iterate_indentChars_span hpiece times (['/', '*', '*'] ++ inner) []
    simpa [Text.iterate_indentAfter_nil] using hwhole
  have hstar : Text.IsSpan ['*'] := ⟨by decide, [], '*', rfl, by decide⟩
  have hclose : Text.IsSpan ['*', '/'] := ⟨by decide, ['*'], '/', rfl, by decide⟩
  have hinner := hunclosed.iterate_indentChars times
  rw [hspan ['*'] hstar] at hinner
  refine closesAtEnd_of_unclosed ?_ hinner
  rw [Text.toList_iterate_indent, String.toList_ofList, hcomment, hspan ['*', '/'] hclose]

theorem exists_iterate_indent_eq :
    ∃ rest, Text.indent^[times] (String.ofList (comment javadoc)) =
      String.ofList (List.replicate (4 * times) ' ') ++ "/**" ++ rest := by
  obtain ⟨inner, hcomment, -⟩ := exists_comment_eq javadoc
  have hopen : Text.IsSpan ['/', '*', '*'] := ⟨by decide, ['/', '*'], '*', rfl, by decide⟩
  have hwhole := Text.iterate_indentChars_span hopen times [] (inner ++ ['*', '/'])
  refine ⟨String.ofList (Text.indentAfter^[times] (inner ++ ['*', '/'])), String.toList_inj.mp ?_⟩
  rw [Text.toList_iterate_indent, String.toList_ofList, hcomment]
  simpa [Text.iterate_indentBefore_nil] using hwhole

end

/-- A documentation comment is closed by its last two characters and not before, also
after it has been indented any number of times, which puts spaces before its start. -/
theorem comment_closes_at_end :
    (∀ (generator : Generator) (model : Model) (javadoc : Javadoc),
      generator.registry.get? .javadoc = some (Java.view .javadoc) →
        model.node = .javadoc javadoc →
          generator.render model = some (.ok (String.ofList (comment javadoc)), generator)) ∧
    ∀ javadoc times,
      (∃ rest, Text.indent^[times] (String.ofList (comment javadoc)) =
        String.ofList (List.replicate (4 * times) ' ') ++ "/**" ++ rest) ∧
      ClosesAtEnd (Text.indent^[times] (String.ofList (comment javadoc))) := by
  refine ⟨?_, fun javadoc times =>
    ⟨exists_iterate_indent_eq javadoc times, closesAtEnd_iterate_indent javadoc times⟩⟩
  rintro generator ⟨node, place⟩ javadoc hview hnode
  obtain rfl : node = .javadoc javadoc := hnode
  exact Generator.render_of_run_eq_done hview rfl

/-- Stars and slashes at the end of a text and of a tag. -/
theorem stars_and_slashes_close_at_end :
    (Generator.new Registry.java).render
        (Model.root 0 (.javadoc ⟨"a*/b **//\n*", [⟨"see", "*/\n/"⟩]⟩)) =
      some (.ok "/**\n * a*&#47;b **&#47;/\n * *\n *\n * @see *&#47;\n/\n */",
        Generator.new Registry.java) ∧
    ClosesAtEnd (Text.indent^[2]
      "/**\n * a*&#47;b **&#47;/\n * *\n *\n * @see *&#47;\n/\n */") := by
  have hcomment : String.ofList (comment ⟨"a*/b **//\n*", [⟨"see", "*/\n/"⟩]⟩) =
      "/**\n * a*&#47;b **&#47;/\n * *\n *\n * @see *&#47;\n/\n */" := by decide
  obtain ⟨hrender, hcloses⟩ := comment_closes_at_end
  rw [← hcomment]
  exact ⟨hrender _ _ _ rfl rfl, (hcloses _ 2).2⟩

/-- Spaces come before the start of a comment once it is indented. -/
theorem indented_comment_starts_with_spaces :
    (Generator.new Registry.java).render (Model.root 0 (.javadoc (.ofText "a"))) =
      some (.ok "/**\n * a\n */", Generator.new Registry.java) ∧
    ¬ ∃ rest, Text.indent "/**\n * a\n */" = "/**" ++ rest := by
  have hcomment : String.ofList (comment (.ofText "a")) = "/**\n * a\n */" := by decide
  have hindent : Text.indent "/**\n * a\n */" = "    /**\n     * a\n     */" := by decide
  refine ⟨?_, ?_⟩
  · rw [← hcomment]
    exact Generator.render_of_run_eq_done rfl rfl
  · rintro ⟨rest, hrest⟩
    have hhead := congrArg (fun text => text.toList.head?) (hindent.symm.trans hrest)
    simp at hhead

end TableScribe.Java
