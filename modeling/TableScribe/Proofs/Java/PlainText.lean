/-
Texts put together from plain texts and from texts with literals and comments.
Whatever the views do to put a source together leaves the literals and comments
in it, in their order.
-/
import TableScribe.Java.Members
import TableScribe.Proofs.Java.Reading

namespace TableScribe.Java

/-- A text of plain characters. -/
def Plain (text : String) : Prop := ∀ c ∈ text.toList, IsPlain c

instance (text : String) : Decidable (Plain text) :=
  inferInstanceAs (Decidable (∀ c ∈ text.toList, IsPlain c))

/-- A text has the literals and comments in a list. -/
def Says (text : String) (notes : List Token) : Prop := Reads text.toList notes

/-- A text has the literals and comments in a list once the line goes on. -/
def Precedes (text : String) (notes : List Token) : Prop :=
  ∀ c, IsPlain c → c ≠ '\n' → Reads (text.toList ++ [c]) notes

section

variable {text rest separator : String} {notes others : List Token} {texts : List String}
  {parts : List (List Token)}

theorem Plain.append (htext : Plain text) (hrest : Plain rest) : Plain (text ++ rest) := by
  intro c hc
  rw [String.toList_append, List.mem_append] at hc
  exact hc.elim (htext c) (hrest c)

theorem Plain.says_nil (htext : Plain text) : Says text [] := Reads.of_isPlain htext

theorem plain_join (htexts : ∀ text ∈ texts, Plain text) : Plain (String.join texts) := by
  intro c hc
  rw [String.toList_join] at hc
  obtain ⟨text, htext, hmem⟩ := List.mem_flatMap.mp hc
  exact htexts text htext c hmem

theorem plain_intercalate (hseparator : Plain separator) (htexts : ∀ text ∈ texts, Plain text) :
    Plain (separator.intercalate texts) := by
  induction texts with
  | nil => exact nofun
  | cons text rest ih =>
      obtain ⟨htext, hrest⟩ := List.forall_mem_cons.mp htexts
      cases rest with
      | nil => rwa [String.intercalate_singleton]
      | cons next others =>
          rw [String.intercalate_cons_cons]
          exact (htext.append hseparator).append (ih hrest)

namespace Says

theorem append (htext : Says text notes) (hrest : Says rest others) :
    Says (text ++ rest) (notes ++ others) := by
  rw [Says, String.toList_append]
  exact Reads.append htext hrest

theorem append_plain (htext : Says text notes) (hrest : Plain rest) :
    Says (text ++ rest) notes := by
  simpa using htext.append hrest.says_nil

theorem plain_append (htext : Plain text) (hrest : Says rest notes) :
    Says (text ++ rest) notes :=
  htext.says_nil.append hrest

theorem eq_nil (htext : Says text notes) (hempty : text.isEmpty = true) : notes = [] := by
  obtain rfl := String.isEmpty_iff.mp hempty
  exact Reads.eq_nil htext

theorem precedes (htext : Says text notes) : Precedes text notes := by
  intro c hc _
  simpa using Reads.append htext (.char hc .nil)

/-- Leaving out what is empty loses nothing. -/
theorem exists_filter (htexts : List.Forall₂ Says texts parts) :
    ∃ kept, List.Forall₂ Says (texts.filter fun text => !text.isEmpty) kept ∧
      kept.flatten = parts.flatten := by
  induction htexts with
  | nil => exact ⟨[], .nil, rfl⟩
  | @cons text part texts parts htext htexts ih =>
      obtain ⟨kept, hkept, hflatten⟩ := ih
      cases hempty : text.isEmpty with
      | true =>
          refine ⟨kept, by simpa [hempty] using hkept, ?_⟩
          rw [List.flatten_cons, htext.eq_nil hempty, List.nil_append, hflatten]
      | false =>
          refine ⟨part :: kept, by simpa [hempty] using List.Forall₂.cons htext hkept, ?_⟩
          rw [List.flatten_cons, List.flatten_cons, hflatten]

theorem intercalate (hseparator : Plain separator) (htexts : List.Forall₂ Says texts parts) :
    Says (separator.intercalate texts) parts.flatten := by
  rw [Says, String.toList_intercalate]
  exact Reads.intercalate hseparator (List.forall₂_map_left_iff.mpr htexts)

theorem join (htexts : List.Forall₂ Says texts parts) : Says (String.join texts) parts.flatten := by
  induction htexts with
  | nil => exact Reads.nil
  | cons htext htexts ih =>
      rw [String.join_cons]
      exact htext.append ih

/-- Leaving out the empty texts of a list leaves out nothing that is said. -/
theorem joinNonEmpty (hseparator : Plain separator) (htexts : List.Forall₂ Says texts parts) :
    Says (ViewM.joinNonEmpty separator texts) parts.flatten := by
  obtain ⟨kept, hkept, hflatten⟩ := exists_filter htexts
  rw [← hflatten]
  exact .intercalate hseparator hkept

/-- Texts that are changed one by one keep what they say. -/
theorem map {f : String → String} (hf : ∀ {text notes}, Says text notes → Says (f text) notes)
    (htexts : List.Forall₂ Says texts parts) : List.Forall₂ Says (texts.map f) parts :=
  List.forall₂_map_left_iff.mpr (htexts.imp fun _ _ => hf)

/-- What ends a text is left out after an empty text. -/
theorem ended {ending : String} (hending : Plain ending) (htext : Says text notes) :
    Says (if text.isEmpty then "" else text ++ ending) notes := by
  by_cases hempty : text.isEmpty = true
  · rw [if_pos hempty, htext.eq_nil hempty]
    exact Reads.nil
  · rw [if_neg hempty]
    exact htext.append_plain hending

theorem ownLine (htext : Says text notes) : Says (ownLine text) notes :=
  htext.ended (by decide : Plain "\n")

theorem inlineText (htext : Says text notes) : Says (inlineText text) notes :=
  htext.ended (by decide : Plain " ")

/-- Indentation touches no literal, as none goes over a line, but it would
change a comment. -/
theorem indent (htext : Says text notes) (hnotes : NoComment notes) :
    Says (Text.indent text) notes := by
  rw [Says, Text.indent, String.toList_ofList]
  exact Reads.indentChars htext hnotes

theorem body (htexts : List.Forall₂ Says texts parts) (hnotes : NoComment parts.flatten) :
    Says (body texts) parts.flatten := by
  obtain ⟨kept, hkept, hflatten⟩ := exists_filter htexts
  rw [← hflatten] at hnotes ⊢
  simp only [Java.body]
  by_cases hempty : (texts.filter fun text => !text.isEmpty).isEmpty = true
  · rw [if_pos hempty]
    rw [List.isEmpty_iff.mp hempty] at hkept
    cases hkept
    exact Plain.says_nil (by decide)
  · rw [if_neg hempty]
    have hinner := (Says.intercalate (by decide : Plain "\n\n") hkept).indent hnotes
    exact (Says.plain_append (by decide) hinner).append_plain (by decide)

end Says

namespace Precedes

theorem plain_append (htext : Plain text) (hrest : Precedes rest notes) :
    Precedes (text ++ rest) notes := by
  intro c hc hline
  rw [String.toList_append, List.append_assoc]
  exact Reads.append htext.says_nil (hrest c hc hline)

/-- The parenthesis after a list of values ends the last of them. -/
theorem closed (htext : Precedes text notes) : Says (text ++ ")") notes := by
  rw [Says, String.toList_append]
  exact htext ')' (by decide) (by decide)

/-- Texts with commas between them. -/
theorem intercalate (htexts : List.Forall₂ Precedes texts parts) :
    Precedes (", ".intercalate texts) parts.flatten := by
  induction htexts with
  | nil => exact Says.precedes Reads.nil
  | @cons text part texts parts htext htexts ih =>
      cases htexts with
      | nil => simpa using htext
      | cons hnext hothers =>
          intro c hc hline
          have hfront := htext ',' (by decide) (by decide)
          have hgap : Reads [' '] [] := .of_isPlain (by decide)
          have hwhole := hfront.append (hgap.append (ih c hc hline))
          rw [String.intercalate_cons_cons]
          simpa using hwhole

end Precedes

/-- A literal is read as its text. -/
theorem precedes_quote (content : String) : Precedes (quote content) [.literal content.toList] := by
  intro c hc hline
  have hliteral := Reads.literal content.toList hc hline .nil
  rw [quote, String.toList_ofList]
  simpa using hliteral

theorem plain_render (modifiers : List Modifier) : Plain (Modifier.render modifiers) := by
  apply plain_join
  intro text htext
  obtain ⟨modifier, -, rfl⟩ := List.mem_map.mp htext
  cases modifier <;> decide

end

end TableScribe.Java
