/-
The literal of a text.  It stands in one line, no quote in it ends it early, a
reader finds the text in it, and it stays as it is when a text around it is indented.
-/
import Mathlib.Algebra.Ring.Parity
import Mathlib.Data.List.DropRight
import TableScribe.Java.Views
import TableScribe.Proofs.Java.Reading
import TableScribe.Proofs.Render.Descent
import TableScribe.Proofs.Text.Spans

namespace TableScribe.Java

/-- The backslashes that a text ends in. -/
def backslashesAtEnd (text : List Char) : Nat := (text.rtakeWhile fun c => c == '\\').length

theorem backslashesAtEnd_append_backslash (text : List Char) :
    backslashesAtEnd (text ++ ['\\']) = backslashesAtEnd text + 1 := by
  simp [backslashesAtEnd]

theorem backslashesAtEnd_append_of_ne {c : Char} (hc : c ≠ '\\') (text : List Char) :
    backslashesAtEnd (text ++ [c]) = 0 := by
  simp [backslashesAtEnd, hc]

/-- Only an escaped backslash ends in a backslash. -/
theorem exists_escapeChar_eq_of_ne {c : Char} (hc : c ≠ '\\') :
    ∃ front last, escapeChar c = front ++ [last] ∧ last ≠ '\\' := by
  unfold escapeChar
  split_ifs
  · exact ⟨['\\'], '"', rfl, by decide⟩
  · exact ⟨['\\'], 'n', rfl, by decide⟩
  · exact ⟨['\\'], 'r', rfl, by decide⟩
  · exact ⟨['\\'], 't', rfl, by decide⟩
  · exact ⟨[], c, rfl, hc⟩

/-- Backslashes come in pairs where they end an escaped text. -/
theorem even_backslashesAtEnd_escape (text : List Char) :
    Even (backslashesAtEnd (escape text)) := by
  induction text using List.reverseRecOn with
  | nil => decide
  | append_singleton text c ih =>
      have hescape : escape (text ++ [c]) = escape text ++ escapeChar c := by simp [escape]
      rw [hescape]
      by_cases hc : c = '\\'
      · subst hc
        have hchar : escapeChar '\\' = ['\\'] ++ ['\\'] := rfl
        rw [hchar, ← List.append_assoc, backslashesAtEnd_append_backslash,
          backslashesAtEnd_append_backslash]
        exact ih.add_one.add_one
      · obtain ⟨front, last, hchar, hlast⟩ := exists_escapeChar_eq_of_ne hc
        rw [hchar, ← List.append_assoc, backslashesAtEnd_append_of_ne hlast]
        exact Even.zero

theorem eq_of_escapeChar_eq {c : Char} {front back : List Char}
    (hchar : escapeChar c = front ++ '"' :: back) : c = '"' ∧ front = ['\\'] := by
  have hquote : c = '"' := by
    have hmem : '"' ∈ escapeChar c := by simp [hchar]
    unfold escapeChar at hmem
    split_ifs at hmem with hquote
    · exact hquote
    all_goals simp_all [eq_comm]
  subst hquote
  have hpair : ['\\', '"'] = front ++ '"' :: back := hchar
  rcases front with _ | ⟨first, _ | ⟨second, front⟩⟩
  · simp at hpair
  · obtain ⟨rfl, -⟩ := List.cons.inj hpair
    exact ⟨rfl, rfl⟩
  · simp at hpair

/-- A quote in an escaped text is a quote of the text, after its backslash. -/
theorem exists_of_escape_eq {text front back : List Char}
    (hescape : escape text = front ++ '"' :: back) :
    ∃ before after, text = before ++ '"' :: after ∧ front = escape before ++ ['\\'] := by
  induction text generalizing front with
  | nil => simp [escape] at hescape
  | cons c rest ih =>
      have hcons : escapeChar c ++ escape rest = front ++ '"' :: back := hescape
      rcases List.append_eq_append_iff.mp hcons with ⟨front, rfl, hrest⟩ | ⟨tail, hchar, hback⟩
      · obtain ⟨before, after, rfl, rfl⟩ := ih hrest
        exact ⟨c :: before, after, rfl, by simp [escape]⟩
      · cases tail with
        | nil =>
            -- What follows an escape does not start with a quote.
            obtain ⟨before, after, -, hempty⟩ := @ih [] hback.symm
            simp at hempty
        | cons quote tail =>
            obtain ⟨rfl, -⟩ := List.cons.inj hback
            obtain ⟨rfl, rfl⟩ := eq_of_escapeChar_eq hchar
            exact ⟨[], rest, rfl, rfl⟩

/-- Every quote in an escaped text follows an odd run of backslashes. -/
theorem odd_backslashesAtEnd {text front back : List Char}
    (hescape : escape text = front ++ '"' :: back) : Odd (backslashesAtEnd front) := by
  obtain ⟨before, after, -, rfl⟩ := exists_of_escape_eq hescape
  rw [backslashesAtEnd_append_backslash]
  exact (even_backslashesAtEnd_escape before).add_one

theorem toList_quote (text : String) :
    (quote text).toList = '"' :: escape text.toList ++ ['"'] := String.toList_ofList

/-- A literal is read as its text, also where the source ends. -/
theorem scan_quote (text : String) :
    scan (quote text).toList = some [.literal text.toList] := by
  have hopen : run .code ['"'] = some ([], .literal []) := rfl
  have hclose : run (.literal text.toList) ['"'] =
      some ([.literal text.toList], if text.toList.isEmpty then .emptyLiteral else .code) := rfl
  have hrun := run_append_of_eq hopen (run_append_of_eq (run_escape [] text.toList) hclose)
  have hwhole : (quote text).toList = ['"'] ++ (escape text.toList ++ ['"']) := toList_quote text
  rw [scan, hwhole, hrun]
  cases text.toList.isEmpty <;> rfl

theorem quote_injective : Function.Injective quote := by
  intro text other hquote
  have hscan := scan_quote text
  rw [hquote, scan_quote other] at hscan
  simpa [String.toList_inj] using hscan.symm

theorem isSpan_quote (text : String) : Text.IsSpan (quote text).toList := by
  have hfeed := (not_mem_escape text.toList).1
  rw [toList_quote]
  exact ⟨by simp [hfeed], _, '"', rfl, by decide⟩

/-- What the literal of a text is like. -/
structure IsLiteralOf (text literal : String) : Prop where
  /-- No line ends between the quotes around it, and each quote between them is escaped. -/
  quoted : ∃ interior, literal = "\"" ++ String.ofList interior ++ "\"" ∧ '\n' ∉ interior ∧
    '\r' ∉ interior ∧ ∀ front back, interior = front ++ '"' :: back → Odd (backslashesAtEnd front)
  read : scan literal.toList = some [.literal text.toList]
  unique : ∀ other, Java.literal (.text other) = .ok literal → other = text

theorem isLiteralOf_quote (text : String) : IsLiteralOf text (quote text) where
  quoted := by
    refine ⟨escape text.toList, ?_, (not_mem_escape text.toList).1, (not_mem_escape text.toList).2,
      fun front back => odd_backslashesAtEnd⟩
    apply String.toList_inj.mp
    simp [toList_quote]
  read := scan_quote text
  unique other hother := quote_injective (Except.ok.inj hother)

/-- A text is rendered as a literal that is read back as the text.  However often a
larger text is indented, the literals in it stay as they are, and what comes of the rest
does not depend on them. -/
theorem text_literals_read_back :
    (∀ (generator : Generator) (model : Model) (text : String),
      generator.registry.get? .value = some (Java.view .value) → model.node = .value (.text text) →
        generator.render model = some (.ok (quote text), generator)) ∧
    (∀ text, IsLiteralOf text (quote text)) ∧
    ∀ times before after, ∃ front back, ∀ text,
      Text.indent^[times] (before ++ quote text ++ after) = front ++ quote text ++ back := by
  refine ⟨?_, isLiteralOf_quote, ?_⟩
  · rintro generator ⟨node, place⟩ text hview hnode
    obtain rfl : node = .value (.text text) := hnode
    exact Generator.render_of_run_eq_done hview rfl
  · intro times before after
    refine ⟨String.ofList (Text.indentBefore^[times] before.toList),
      String.ofList (Text.indentAfter^[times] after.toList), fun text => ?_⟩
    apply String.toList_inj.mp
    simp only [Text.toList_iterate_indent, String.toList_append, String.toList_ofList,
      Text.iterate_indentChars_span (isSpan_quote text)]

/-- Quotes and backslashes next to each other and at both ends. -/
theorem quotes_and_backslashes_read_back :
    (Generator.new Registry.java).render (Model.root 0 (.value (.text "\"\\\\\"\n\\"))) =
        some (.ok "\"\\\"\\\\\\\\\\\"\\n\\\\\"", Generator.new Registry.java) ∧
      scan "\"\\\"\\\\\\\\\\\"\\n\\\\\"".toList = some [.literal "\"\\\\\"\n\\".toList] := by
  have hquote : quote "\"\\\\\"\n\\" = "\"\\\"\\\\\\\\\\\"\\n\\\\\"" := by decide
  obtain ⟨hrender, hliteral, -⟩ := text_literals_read_back
  rw [← hquote]
  exact ⟨hrender _ _ _ rfl rfl, (hliteral _).read⟩

end TableScribe.Java
