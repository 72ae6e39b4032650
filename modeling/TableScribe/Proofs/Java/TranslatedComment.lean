/-
Documentation comments under Unicode escapes.  What closes a comment is looked for after
the escapes have been replaced, while a comment is made safe before that: it stays open
exactly if no part of it writes a star or a slash of `*/` as an escape.
-/
import TableScribe.Proofs.Java.CommentRows
import TableScribe.Proofs.Java.UnicodeEscapes

namespace TableScribe.Java

/-- The texts that a comment is made of. -/
def commentParts (javadoc : Javadoc) : List (List Char) :=
  javadoc.text.toList :: javadoc.tags.flatMap fun tag => [tag.name.toList, tag.text.toList]

/-- The codes of a source once its escapes have been replaced. -/
def translate (source : List Char) : List Nat := (glyphs false source).map Glyph.code

/-- The end of a comment. -/
def closing : List Nat := ['*'.toNat, '/'.toNat]

/-- A translated source ends with what closes a comment and has it nowhere else. -/
def ClosesOnlyAtEnd (source : List Nat) : Prop :=
  (∃ inner, source = inner ++ closing) ∧ ∀ front back, source = front ++ closing ++ back → back = []

/-- A star with a slash after it, in the codes of a source. -/
def Glyph.Closes (glyph next : Glyph) : Prop := glyph.code = '*'.toNat ∧ next.code = '/'.toNat

instance : DecidableRel Glyph.Closes :=
  fun glyph next => inferInstanceAs (Decidable (glyph.code = '*'.toNat ∧ next.code = '/'.toNat))

/-- Nothing in a text closes a comment. -/
def StaysOpen (text : List Char) : Prop :=
  (glyphs false text).IsChain fun glyph next => ¬ glyph.Closes next

/-- Nothing in a text closes a comment but what is written as `*/`, without escapes. -/
def KeepsOpen (text : List Char) : Prop :=
  (glyphs false text).IsChain fun glyph next =>
    glyph.Closes next → glyph = .plain '*' ∧ next = .plain '/'

instance (text : List Char) : Decidable (KeepsOpen text) :=
  inferInstanceAs (Decidable (List.IsChain _ (glyphs false text)))

theorem Glyph.not_closes_of_ne {c : Char} (hc : c ≠ '*') (next : Glyph) :
    ¬ (Glyph.plain c).Closes next :=
  fun hcloses => hc (Char.toNat_inj.mp hcloses.1)

theorem Glyph.not_closes_plain_of_ne {c : Char} (hc : c ≠ '/') (glyph : Glyph) :
    ¬ glyph.Closes (.plain c) :=
  fun hcloses => hc (Char.toNat_inj.mp hcloses.2)

theorem head?_safeGlyphs (text : List Glyph) : (safeGlyphs text).head? = text.head? := by
  fun_cases safeGlyphs text <;> rfl

/-- A text is made safe by parting each `*/` that is written as such, so what can still close a
comment has an escape in it. -/
theorem isChain_safeGlyphs_iff {text : List Glyph} :
    ((safeGlyphs text).IsChain fun glyph next => ¬ glyph.Closes next) ↔
      text.IsChain fun glyph next =>
        glyph.Closes next → glyph = .plain '*' ∧ next = .plain '/' := by
  fun_induction safeGlyphs text with
  | case1 rest ih =>
      simp [List.isChain_cons, Glyph.not_closes_of_ne, Glyph.not_closes_plain_of_ne, ih]
  | case2 glyph rest hopen ih =>
      rw [List.isChain_cons, List.isChain_cons, head?_safeGlyphs, ih]
      refine and_congr_left fun _ => forall₂_congr fun next hnext => ?_
      refine ⟨fun hcloses hclose => absurd hclose hcloses, fun hplain hclose => ?_⟩
      obtain ⟨rfl, rfl⟩ := hplain hclose
      obtain ⟨tail, rfl⟩ := List.head?_eq_some_iff.mp hnext
      exact hopen tail rfl rfl
  | case3 => simp

/-- A text that was made safe stays open exactly if it keeps open as it was given. -/
theorem staysOpen_closeSafe_iff {text : List Char} :
    StaysOpen (closeSafe text) ↔ KeepsOpen text := by
  rw [StaysOpen, glyphs_closeSafe, isChain_safeGlyphs_iff, KeepsOpen]

/-- Making a text safe neither breaks an escape nor repairs one. -/
theorem hasMalformedEscape_closeSafe_iff {text : List Char} :
    HasMalformedEscape (closeSafe text) ↔ HasMalformedEscape text := by
  rw [hasMalformedEscape_iff, glyphs_closeSafe, hasMalformedEscape_iff]
  generalize glyphs false text = read
  fun_induction safeGlyphs read <;> simp_all

/-- A character that is in no escape and does not close a comment. -/
def IsBreak (c : Char) : Prop := IsOutside c ∧ c ≠ '\\' ∧ c ≠ '*' ∧ c ≠ '/'

instance (c : Char) : Decidable (IsBreak c) :=
  inferInstanceAs (Decidable (IsOutside c ∧ c ≠ '\\' ∧ c ≠ '*' ∧ c ≠ '/'))

/-- White space has no part in an escape and closes nothing. -/
theorem isBreak_of_isBlank {c : Char} (hc : Text.isBlank c = true) : IsBreak c := by
  have hne (other : Char) (hother : Text.isBlank other = false) : c ≠ other := by
    rintro rfl
    exact nomatch hc.symm.trans hother
  have hdigits : ∀ digit ∈ Json.hexDigits, Text.isBlank digit.1 = false := by decide
  have hvalue : Json.hexValue? c = none := by
    refine Option.eq_none_iff_forall_not_mem.mpr fun value hvalue => ?_
    have hdigit := hdigits (c, value) (Json.hexValue?_eq_some_iff.mp hvalue)
    exact hne c hdigit rfl
  exact ⟨⟨hne 'u' (by decide), hvalue⟩, hne '\\' (by decide), hne '*' (by decide),
    hne '/' (by decide)⟩

/-- What holds of a text exactly if it holds of the pieces between breaks. -/
structure Splits (P : List Char → Prop) : Prop where
  nil : P []
  append_iff : ∀ {c}, IsBreak c → ∀ front rest, P (front ++ c :: rest) ↔ P front ∧ P rest

/-- What is asked of neighbours is asked on either side of a break, provided that a break next to
anything is in order. -/
theorem splits_isChain {R : Glyph → Glyph → Prop}
    (hbreak : ∀ c, c ≠ '*' → c ≠ '/' → ∀ glyph, R glyph (.plain c) ∧ R (.plain c) glyph) :
    Splits fun text => (glyphs false text).IsChain R where
  nil := by simp [glyphs]
  append_iff hc front rest := by
    obtain ⟨houtside, hbackslash, hstar, hslash⟩ := hc
    simp [glyphs_append_cons houtside hbackslash, List.isChain_append, List.isChain_cons,
      hbreak _ hstar hslash]

theorem splits_staysOpen : Splits StaysOpen :=
  splits_isChain fun _ hstar hslash glyph =>
    ⟨glyph.not_closes_plain_of_ne hslash, Glyph.not_closes_of_ne hstar glyph⟩

theorem splits_keepsOpen : Splits KeepsOpen :=
  splits_isChain fun _ hstar hslash glyph =>
    ⟨fun hcloses => absurd hcloses (glyph.not_closes_plain_of_ne hslash),
      fun hcloses => absurd hcloses (Glyph.not_closes_of_ne hstar glyph)⟩

/-- An escape does not go over a break, so it is malformed on one side of it. -/
theorem splits_not_hasMalformedEscape : Splits fun text => ¬ HasMalformedEscape text where
  nil := by simp [hasMalformedEscape_iff, glyphs]
  append_iff hc front rest := by
    simp [hasMalformedEscape_iff, glyphs_append_cons hc.1 hc.2.1]

namespace Splits

variable {P Q : List Char → Prop}

theorem cons_iff (hP : Splits P) {c : Char} (hc : IsBreak c) (rest : List Char) :
    P (c :: rest) ↔ P rest := by
  have hwhole := hP.append_iff hc [] rest
  rwa [and_iff_right hP.nil] at hwhole

theorem append_breaks_iff (hP : Splits P) {breaks : List Char} (hbreaks : ∀ c ∈ breaks, IsBreak c)
    (text : List Char) : P (text ++ breaks) ↔ P text := by
  induction breaks generalizing text with
  | nil => rw [List.append_nil]
  | cons c breaks ih =>
      obtain ⟨hc, hrest⟩ := List.forall_mem_cons.mp hbreaks
      have hempty : P breaks := (ih hrest []).mpr hP.nil
      rw [hP.append_iff hc, and_iff_left hempty]

theorem trimEnd_iff (hP : Splits P) (text : List Char) : P (Text.trimEnd text) ↔ P text := by
  obtain ⟨blanks, htext, hblanks⟩ := Text.exists_eq_trimEnd_append text
  have hbreaks := hP.append_breaks_iff (fun c hc => isBreak_of_isBlank (hblanks c hc))
    (Text.trimEnd text)
  rw [← htext] at hbreaks
  exact hbreaks.symm

theorem dropReturn_iff (hP : Splits P) (line : List Char) : P (Text.dropReturn line) ↔ P line := by
  unfold Text.dropReturn
  split
  case isTrue hlast =>
    obtain ⟨front, rfl⟩ := List.getLast?_eq_some_iff.mp hlast
    rw [List.dropLast_concat, hP.append_breaks_iff (List.forall_mem_singleton.mpr (by decide))]
  case isFalse => exact Iff.rfl

theorem linesOfSegments_iff (hP : Splits P) (pieces : List (List Char)) :
    (∀ line ∈ Text.linesOfSegments pieces, P line) ↔ ∀ piece ∈ pieces, P piece := by
  induction pieces using Text.linesOfSegments.induct with
  | case1 => rfl
  | case2 last hempty =>
      obtain rfl := List.isEmpty_iff.mp hempty
      simp [Text.linesOfSegments, hP.nil]
  | case3 last hempty => rw [Text.linesOfSegments, if_neg hempty]
  | case4 line next rest ih =>
      rw [Text.linesOfSegments, List.forall_mem_cons, ih, hP.dropReturn_iff,
        ← List.forall_mem_cons]

theorem intercalate_iff (hP : Splits P) (pieces : List (List Char)) :
    P (['\n'].intercalate pieces) ↔ ∀ piece ∈ pieces, P piece := by
  induction pieces with
  | nil => simpa using hP.nil
  | cons piece rest ih =>
      cases rest with
      | nil => simp
      | cons next rest =>
          rw [List.intercalate_cons_cons, List.append_assoc, List.singleton_append,
            hP.append_iff (by decide), ih, ← List.forall_mem_cons]

theorem lines_iff (hP : Splits P) (text : List Char) :
    (∀ line ∈ Text.lines text, P line) ↔ P text := by
  rw [Text.lines, hP.linesOfSegments_iff, ← hP.intercalate_iff, Text.intercalate_segments]

theorem tagText_iff (hP : Splits P) (tag : JavadocTag) :
    P (tagText tag) ↔ P tag.name.toList ∧ P tag.text.toList := by
  have hat : IsBreak '@' := by decide
  have hspace : IsBreak ' ' := by decide
  calc P (tagText tag)
      ↔ P (tag.name.toList ++ ' ' :: tag.text.toList) := hP.cons_iff hat _
    _ ↔ P tag.name.toList ∧ P tag.text.toList := hP.append_iff hspace _ _

/-- The items of a comment have a property exactly if the texts that it is made of have
the one that making them safe turns into it. -/
theorem commentItems_iff (hP : Splits P) (hQ : Splits Q)
    (hsafe : ∀ text, P (closeSafe text) ↔ Q text) (javadoc : Javadoc) :
    (∀ item ∈ commentItems javadoc, P item) ↔ ∀ part ∈ commentParts javadoc, Q part := by
  have hlines : (∀ line ∈ Text.lines javadoc.text.toList, P (closeSafe (Text.trimEnd line))) ↔
      Q javadoc.text.toList := by
    simp only [hsafe, hQ.trimEnd_iff, hQ.lines_iff]
  have htags : (∀ tag ∈ javadoc.tags, P (closeSafe (Text.trimEnd (tagText tag)))) ↔
      ∀ tag ∈ javadoc.tags, Q tag.name.toList ∧ Q tag.text.toList := by
    simp only [hsafe, hQ.trimEnd_iff, hQ.tagText_iff]
  have hgap (condition : Bool) : ∀ item ∈ if condition then [] else [[]], P item := by
    cases condition
    · exact List.forall_mem_singleton.mpr hP.nil
    · exact List.forall_mem_nil _
  simp only [commentItems, commentParts, List.forall_mem_append, List.forall_mem_map, hlines, htags,
    and_iff_left (hgap _), List.forall_mem_cons, List.forall_mem_flatMap,
    and_iff_left (List.forall_mem_nil Q)]

theorem commentLine_iff (hP : Splits P) (hstar : P ['*']) (item rest : List Char) :
    P (commentLine item ++ rest) ↔ P item ∧ P rest := by
  have hfeed : IsBreak '\n' := by decide
  have hspace : IsBreak ' ' := by decide
  have hrow {c : Char} (hc : IsBreak c) (text : List Char) :
      P (' ' :: '*' :: c :: text) ↔ P text := by
    rw [hP.cons_iff hspace]
    exact (hP.append_iff hc ['*'] text).trans (and_iff_right hstar)
  rw [commentLine]
  split
  case isTrue hempty =>
    obtain rfl := List.isEmpty_iff.mp hempty
    exact (hrow hfeed rest).trans (and_iff_right hP.nil).symm
  case isFalse =>
    rw [List.append_assoc, List.append_assoc]
    exact (hrow hspace _).trans (hP.append_iff hfeed item rest)

/-- What is in a comment stands between breaks. -/
theorem opened_iff (hP : Splits P) (hopen : P ['/', '*', '*']) (hstar : P ['*'])
    (items : List (List Char)) (rest : List Char) :
    P (['/', '*', '*', '\n'] ++ items.flatMap commentLine ++ ' ' :: rest) ↔
      (∀ item ∈ items, P item) ∧ P rest := by
  have hfeed : IsBreak '\n' := by decide
  have hspace : IsBreak ' ' := by decide
  have hlines : P (items.flatMap commentLine ++ ' ' :: rest) ↔
      (∀ item ∈ items, P item) ∧ P rest := by
    induction items with
    | nil => simpa using hP.cons_iff hspace rest
    | cons item items ih =>
        rw [List.flatMap_cons, List.append_assoc, hP.commentLine_iff hstar, ih,
          List.forall_mem_cons, and_assoc]
  have hfirst := hP.append_iff hfeed ['/', '*', '*'] (items.flatMap commentLine ++ ' ' :: rest)
  rw [and_iff_right hopen, hlines] at hfirst
  simpa using hfirst

end Splits

/-- What ends a comment is nowhere else exactly if it is not among the codes up to its own
star. -/
theorem closesOnlyAtEnd_append_iff {codes : List Nat} :
    ClosesOnlyAtEnd (codes ++ closing) ↔
      (codes ++ ['*'.toNat]).IsChain fun code next => ¬ (code = '*'.toNat ∧ next = '/'.toNat) := by
  have hclosing : codes ++ closing = (codes ++ ['*'.toNat]) ++ ['/'.toNat] := by simp [closing]
  rw [List.isChain_iff_forall_rel_of_append_cons_cons]
  constructor
  · rintro ⟨-, hends⟩ code next front back hcodes ⟨rfl, rfl⟩
    have hback : back ++ ['/'.toNat] = [] := by
      refine hends front _ ?_
      rw [hclosing, hcodes]
      simp [closing]
    simp at hback
  · refine fun hopen => ⟨⟨codes, rfl⟩, fun front back hcodes => ?_⟩
    -- Anything behind the mark would put the mark before the last slash.
    cases back using List.reverseRecOn with
    | nil => rfl
    | append_singleton back last _ =>
        rw [hclosing, ← List.append_assoc] at hcodes
        have hfront := (List.append_inj' hcodes rfl).1
        rw [List.append_assoc] at hfront
        exact absurd ⟨rfl, rfl⟩ (hopen hfront)

/-- The end of a comment is read as it is written, whatever stands before it. -/
theorem glyphs_append_closing (inner : List Char) :
    glyphs false (inner ++ ['*']) = glyphs false inner ++ [.plain '*'] ∧
      glyphs false (inner ++ ['*', '/']) = glyphs false inner ++ [.plain '*', .plain '/'] := by
  have hslash : glyphs false ['/'] = [.plain '/'] := by
    rw [glyphs_cons_of_ne (by decide), glyphs]
  rw [glyphs_append_cons (by decide) (by decide), glyphs_append_cons (by decide) (by decide),
    hslash, glyphs]
  exact ⟨rfl, rfl⟩

/-- A source that ends in a mark has it nowhere else if what comes before stays open. -/
theorem closesOnlyAtEnd_translate_iff {inner : List Char} :
    ClosesOnlyAtEnd (translate (inner ++ ['*', '/'])) ↔ StaysOpen (inner ++ ['*']) := by
  obtain ⟨hstar, hslash⟩ := glyphs_append_closing inner
  have hcodes : translate (inner ++ ['*', '/']) = translate inner ++ closing := by
    rw [translate, hslash, List.map_append]
    rfl
  have hmap : translate inner ++ ['*'.toNat] =
      (glyphs false inner ++ [Glyph.plain '*']).map Glyph.code := by
    rw [List.map_append]
    rfl
  rw [hcodes, closesOnlyAtEnd_append_iff, hmap, List.isChain_map, StaysOpen, hstar]
  rfl

/-- Without backslashes a text has no escapes in it, and its `*/` are seen as they are. -/
theorem keepsOpen_of_not_mem {text : List Char} (htext : '\\' ∉ text) :
    KeepsOpen text ∧ ¬ HasMalformedEscape text := by
  rw [KeepsOpen, hasMalformedEscape_iff, glyphs_of_not_mem htext]
  refine ⟨(List.isChain_map _).mpr (List.Pairwise.isChain (List.pairwise_of_forall ?_)), by simp⟩
  rintro c next ⟨hstar, hslash⟩
  exact ⟨congrArg Glyph.plain (Char.toNat_inj.mp hstar),
    congrArg Glyph.plain (Char.toNat_inj.mp hslash)⟩

/-- A comment is closed at its end only, exactly if all the texts that it is made of keep it
open. -/
theorem closesOnlyAtEnd_comment_iff (javadoc : Javadoc) :
    ClosesOnlyAtEnd (translate (comment javadoc)) ↔
      ∀ part ∈ commentParts javadoc, KeepsOpen part := by
  have hcomment : comment javadoc = (['/', '*', '*', '\n'] ++
      (commentItems javadoc).flatMap commentLine ++ [' ']) ++ ['*', '/'] := by
    simp [comment]
  have hopen : StaysOpen ['/', '*', '*'] := by
    rw [StaysOpen, glyphs_of_not_mem (by decide)]
    simp [Glyph.Closes, Glyph.code]
  have hstar : StaysOpen ['*'] := by
    rw [StaysOpen, glyphs_of_not_mem (by decide)]
    simp
  rw [hcomment, closesOnlyAtEnd_translate_iff, List.append_assoc, List.singleton_append,
    splits_staysOpen.opened_iff hopen hstar, and_iff_left hstar,
    splits_staysOpen.commentItems_iff splits_keepsOpen fun text => staysOpen_closeSafe_iff]

/-- A comment has no malformed escape exactly if none of the texts that it is made of has one. -/
theorem hasMalformedEscape_comment_iff (javadoc : Javadoc) :
    ¬ HasMalformedEscape (comment javadoc) ↔
      ∀ part ∈ commentParts javadoc, ¬ HasMalformedEscape part := by
  have hplain : ∀ text, '\\' ∉ text → ¬ HasMalformedEscape text := fun text htext =>
    (keepsOpen_of_not_mem htext).2
  have hsplits := splits_not_hasMalformedEscape
  have hitems := hsplits.opened_iff (hplain _ (by decide)) (hplain _ (by decide))
    (commentItems javadoc) ['*', '/']
  rw [and_iff_left (hplain _ (by decide)), hsplits.commentItems_iff hsplits fun text =>
    not_congr hasMalformedEscape_closeSafe_iff] at hitems
  exact hitems

/-- What a comment is closed by stays its end under Unicode escapes exactly if no text in
it writes a star or a slash of `*/` as an escape, and its escapes are complete exactly if
those of its texts are. -/
theorem translated_comment_closes_at_end_iff {generator : Generator} {model : Model}
    {javadoc : Javadoc} (hview : generator.registry.get? .javadoc = some (Java.view .javadoc))
    (hnode : model.node = .javadoc javadoc) :
    generator.render model = some (.ok (String.ofList (comment javadoc)), generator) ∧
      (ClosesOnlyAtEnd (translate (comment javadoc)) ↔
        ∀ part ∈ commentParts javadoc, KeepsOpen part) ∧
      (¬ HasMalformedEscape (comment javadoc) ↔
        ∀ part ∈ commentParts javadoc, ¬ HasMalformedEscape part) ∧
      ∀ part ∈ commentParts javadoc, '\\' ∉ part → KeepsOpen part ∧ ¬ HasMalformedEscape part :=
  ⟨render_javadoc hview hnode, closesOnlyAtEnd_comment_iff javadoc,
    hasMalformedEscape_comment_iff javadoc, fun _ _ => keepsOpen_of_not_mem⟩

/-- Stars and slashes beside escapes, and a pair of backslashes before a `u`. -/
theorem translated_comment_closes_at_end_with_escapes :
    (Generator.new Registry.java).render
        (Model.root 0 (.javadoc ⟨"a*/ \\u0041", [⟨"see", "\\\\u /"⟩]⟩)) =
      some (.ok "/**\n * a*&#47; \\u0041\n *\n * @see \\\\u /\n */", Generator.new Registry.java) ∧
    (∀ part ∈ commentParts ⟨"a*/ \\u0041", [⟨"see", "\\\\u /"⟩]⟩,
      KeepsOpen part ∧ ¬ HasMalformedEscape part) ∧
    ClosesOnlyAtEnd (translate "/**\n * a*&#47; \\u0041\n *\n * @see \\\\u /\n */".toList) ∧
    ¬ HasMalformedEscape "/**\n * a*&#47; \\u0041\n *\n * @see \\\\u /\n */".toList := by
  have hcomment : comment ⟨"a*/ \\u0041", [⟨"see", "\\\\u /"⟩]⟩ =
      "/**\n * a*&#47; \\u0041\n *\n * @see \\\\u /\n */".toList := by decide
  have hparts : ∀ part ∈ commentParts ⟨"a*/ \\u0041", [⟨"see", "\\\\u /"⟩]⟩,
      KeepsOpen part ∧ ¬ HasMalformedEscape part := by decide +kernel
  obtain ⟨hrender, hcloses, hescapes, -⟩ :=
    @translated_comment_closes_at_end_iff (Generator.new Registry.java)
      (Model.root 0 (.javadoc _)) ⟨"a*/ \\u0041", [⟨"see", "\\\\u /"⟩]⟩ rfl rfl
  rw [hcomment] at hcloses hescapes
  refine ⟨?_, hparts, hcloses.mpr fun part hpart => (hparts part hpart).1,
    hescapes.mpr fun part hpart => (hparts part hpart).2⟩
  rw [hrender, hcomment, String.ofList_toList]

/-- A slash that is written as an escape closes the comment, and a name that follows a
backslash makes an escape that is not complete. -/
theorem escapes_left_in_comment :
    (Generator.new Registry.java).render (Model.root 0 (.javadoc (.ofText "*\\u002f"))) =
      some (.ok "/**\n * *\\u002f\n */", Generator.new Registry.java) ∧
    ¬ ClosesOnlyAtEnd (translate "/**\n * *\\u002f\n */".toList) ∧
    (Generator.new Registry.java).render (Model.root 0 (.javadoc (.ofText "\\user"))) =
      some (.ok "/**\n * \\user\n */", Generator.new Registry.java) ∧
    HasMalformedEscape "/**\n * \\user\n */".toList := by
  have hslash : String.ofList (comment (.ofText "*\\u002f")) = "/**\n * *\\u002f\n */" := by decide
  have hname : String.ofList (comment (.ofText "\\user")) = "/**\n * \\user\n */" := by decide
  refine ⟨?_, ?_, ?_, by decide +kernel⟩
  · rw [← hslash]
    exact render_javadoc rfl rfl
  · rintro ⟨-, hends⟩
    have hclosed : translate "/**\n * *\\u002f\n */".toList =
        translate "/**\n * ".toList ++ closing ++ translate "\n */".toList := by decide +kernel
    exact absurd (hends _ _ hclosed) (by decide +kernel)
  · rw [← hname]
    exact render_javadoc rfl rfl

end TableScribe.Java
