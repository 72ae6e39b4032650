/-
The lines of a documentation comment.  Each line of its text stands behind a star; a tag
is written behind one star, so a line break in it starts a line as the tag has it.
-/
import TableScribe.Java.Views
import TableScribe.Proofs.Java.SafeText
import TableScribe.Proofs.Render.Descent
import TableScribe.Proofs.Text.Rows

namespace TableScribe.Java

/-- A line inside a comment: a star alone, or a star and a text behind a space, without
white space at its end. -/
def IsCommentRow (row : List Char) : Prop :=
  row = [' ', '*'] ∨ [' ', '*', ' '] <+: row ∧ ¬ Text.EndsBlank row

instance (row : List Char) : Decidable (IsCommentRow row) :=
  inferInstanceAs (Decidable (row = [' ', '*'] ∨ [' ', '*', ' '] <+: row ∧ ¬ Text.EndsBlank row))

/-- The lines of a tag are lines of a comment: behind the first one stands what the tag
has, trimmed at its end, and the tag brings the stars of the others itself. -/
def KeepsRows (tag : JavadocTag) : Prop :=
  ∀ row ∈ Text.segments '\n' ([' ', '*', ' '] ++ Text.trimEnd (tagText tag)), IsCommentRow row

instance (tag : JavadocTag) : Decidable (KeepsRows tag) :=
  List.decidableBAll IsCommentRow _

/-- An item of a comment behind its star, without the end of the line. -/
def itemText (item : List Char) : List Char :=
  if item.isEmpty then [' ', '*'] else [' ', '*', ' '] ++ item

theorem commentLine_eq (item : List Char) : commentLine item = itemText item ++ ['\n'] := by
  unfold commentLine itemText
  split <;> rfl

theorem segments_flatMap_commentLine (items : List (List Char)) (rest : List Char) :
    Text.segments '\n' (items.flatMap commentLine ++ rest) =
      (items.flatMap fun item => Text.segments '\n' (itemText item)) ++
        Text.segments '\n' rest := by
  induction items with
  | nil => rfl
  | cons item items ih =>
      rw [List.flatMap_cons, List.flatMap_cons, commentLine_eq, List.append_assoc,
        List.append_assoc, List.append_assoc, List.singleton_append, Text.segments_append, ih]

/-- The lines of a comment are those of its items, between the opening and the closing
one. -/
theorem segments_comment (javadoc : Javadoc) :
    Text.segments '\n' (comment javadoc) = ['/', '*', '*'] ::
      ((commentItems javadoc).flatMap fun item => Text.segments '\n' (itemText item)) ++
        [[' ', '*', '/']] := by
  have hopen : comment javadoc = ['/', '*', '*'] ++
      '\n' :: ((commentItems javadoc).flatMap commentLine ++ [' ', '*', '/']) := by
    simp [comment]
  rw [hopen, Text.segments_append, segments_flatMap_commentLine]
  rfl

theorem singleton_prefix_iff {c : Char} {text : List Char} :
    [c] <+: text ↔ text.head? = some c := by
  cases text <;> simp [eq_comm]

theorem closeSafe_star_iff {rest : List Char} :
    (closeSafe ('*' :: rest) = ['*'] ↔ rest = []) ∧
      (['*', ' '] <+: closeSafe ('*' :: rest) ↔ [' '] <+: rest) := by
  by_cases hslash : rest.head? = some '/'
  · obtain ⟨tail, rfl⟩ := List.head?_eq_some_iff.mp hslash
    simp [closeSafe]
  · rw [closeSafe_star_of_ne hslash]
    simp [singleton_prefix_iff, head?_closeSafe, closeSafe_eq_nil_iff]

/-- A row that is made safe is a line of a comment if it was one. -/
theorem isCommentRow_closeSafe_iff {row : List Char} :
    IsCommentRow (closeSafe row) ↔ IsCommentRow row := by
  unfold IsCommentRow
  rw [endsBlank_closeSafe_iff]
  rcases row with _ | ⟨c, rest⟩
  · rw [closeSafe]
  · by_cases hspace : c = ' '
    · subst hspace
      rw [closeSafe_cons_of_ne (by decide)]
      rcases rest with _ | ⟨d, rest⟩
      · rw [closeSafe]
      · by_cases hstar : d = '*'
        · subst hstar
          simp [closeSafe_star_iff]
        · simp [closeSafe_cons_of_ne hstar, hstar, Ne.symm hstar]
    · obtain ⟨tail, htail⟩ := List.head?_eq_some_iff.mp (head?_closeSafe (c :: rest))
      simp [htail, hspace, Ne.symm hspace]

/-- The lines that an item takes are lines of a comment. -/
def FitsRows (item : List Char) : Prop :=
  ∀ row ∈ Text.segments '\n' (itemText item), IsCommentRow row

theorem fitsRows_nil : FitsRows [] := by
  intro row hrow
  obtain rfl := List.mem_singleton.mp hrow
  exact Or.inl rfl

theorem fitsRows_closeSafe_iff {item : List Char} (hitem : item ≠ []) :
    FitsRows (closeSafe item) ↔
      ∀ row ∈ Text.segments '\n' ([' ', '*', ' '] ++ item), IsCommentRow row := by
  have hsafe : itemText (closeSafe item) = closeSafe ([' ', '*', ' '] ++ item) := by
    rw [itemText, List.isEmpty_eq_false_iff.mpr (mt closeSafe_eq_nil_iff.mp hitem)]
    rfl
  rw [FitsRows, hsafe, segments_closeSafe, List.forall_mem_map]
  exact forall₂_congr fun row _ => isCommentRow_closeSafe_iff

/-- What has no line breaks takes one line once it is trimmed. -/
theorem forall_isCommentRow_trimEnd {item : List Char} (hfeed : '\n' ∉ item)
    (hitem : Text.trimEnd item ≠ []) :
    ∀ row ∈ Text.segments '\n' ([' ', '*', ' '] ++ Text.trimEnd item), IsCommentRow row := by
  obtain ⟨blanks, htrim, -⟩ := Text.exists_eq_trimEnd_append item
  have hline : '\n' ∉ [' ', '*', ' '] ++ Text.trimEnd item := by
    rw [htrim] at hfeed
    simpa using fun hmem => hfeed (List.mem_append_left blanks hmem)
  have hempty : Text.segments '\n' [] = [[]] := rfl
  have hsegments := Text.segments_append_of_not_mem hline hempty
  rw [List.append_nil] at hsegments
  rw [hsegments]
  intro row hrow
  obtain rfl := List.mem_singleton.mp hrow
  refine Or.inr ⟨by simp, ?_⟩
  simpa [endsBlank_cons_of_ne_nil, hitem] using Text.not_endsBlank_trimEnd item

theorem fitsRows_line {line : List Char} (hline : '\n' ∉ line) :
    FitsRows (closeSafe (Text.trimEnd line)) := by
  by_cases hempty : Text.trimEnd line = []
  · rw [hempty]
    exact fitsRows_nil
  · rw [fitsRows_closeSafe_iff hempty]
    exact forall_isCommentRow_trimEnd hline hempty

theorem trimEnd_tagText_ne_nil (tag : JavadocTag) : Text.trimEnd (tagText tag) ≠ [] := by
  rw [Text.trimEnd_eq_rdropWhile, ne_eq, List.rdropWhile_eq_nil_iff]
  intro hblank
  exact absurd (hblank '@' (by simp [tagText])) (by decide)

/-- The lines of a text fit, so only those of the tags matter. -/
theorem forall_fitsRows_iff {javadoc : Javadoc} :
    (∀ item ∈ commentItems javadoc, FitsRows item) ↔ ∀ tag ∈ javadoc.tags, KeepsRows tag := by
  have hlines : ∀ line ∈ Text.lines javadoc.text.toList,
      FitsRows (closeSafe (Text.trimEnd line)) := by
    intro line hline
    obtain ⟨piece, hpiece, hprefix⟩ := Text.exists_prefix_of_mem_linesOfSegments hline
    exact fitsRows_line (mt hprefix.mem (Text.not_mem_of_mem_segments hpiece))
  have htags : (∀ tag ∈ javadoc.tags, FitsRows (closeSafe (Text.trimEnd (tagText tag)))) ↔
      ∀ tag ∈ javadoc.tags, KeepsRows tag :=
    forall₂_congr fun tag _ => fitsRows_closeSafe_iff (trimEnd_tagText_ne_nil tag)
  simp only [commentItems, List.forall_mem_append, List.forall_mem_map, htags]
  constructor
  · exact And.right
  · refine fun hkeeps => ⟨⟨hlines, ?_⟩, hkeeps⟩
    split
    · exact List.forall_mem_nil _
    · exact List.forall_mem_singleton.mpr fitsRows_nil

/-- A tag without line breaks takes one line. -/
theorem keepsRows_of_not_mem {tag : JavadocTag} (hname : '\n' ∉ tag.name.toList)
    (htext : '\n' ∉ tag.text.toList) : KeepsRows tag := by
  have hfeed : '\n' ∉ tagText tag := by simp [tagText, hname, htext]
  exact forall_isCommentRow_trimEnd hfeed (trimEnd_tagText_ne_nil tag)

section

variable {generator : Generator} {model : Model} {javadoc : Javadoc}

theorem render_javadoc (hview : generator.registry.get? .javadoc = some (Java.view .javadoc))
    (hnode : model.node = .javadoc javadoc) :
    generator.render model = some (.ok (String.ofList (comment javadoc)), generator) := by
  obtain ⟨node, place⟩ := model
  obtain rfl : node = .javadoc javadoc := hnode
  exact Generator.render_of_run_eq_done hview rfl

/-- A documentation comment starts and ends with lines of its own, and each line between
them is one of a comment exactly if the line breaks in the tags are followed by stars and
spaces as those of a comment are. -/
theorem comment_rows_prefixed_iff
    (hview : generator.registry.get? .javadoc = some (Java.view .javadoc))
    (hnode : model.node = .javadoc javadoc) :
    generator.render model = some (.ok (String.ofList (comment javadoc)), generator) ∧
      (∃ rows,
        Text.segments '\n' (comment javadoc) = ['/', '*', '*'] :: rows ++ [[' ', '*', '/']] ∧
          ((∀ row ∈ rows, IsCommentRow row) ↔ ∀ tag ∈ javadoc.tags, KeepsRows tag)) ∧
      ∀ tag ∈ javadoc.tags, '\n' ∉ tag.name.toList → '\n' ∉ tag.text.toList → KeepsRows tag := by
  refine ⟨render_javadoc hview hnode, ⟨_, segments_comment javadoc, ?_⟩,
    fun tag _ => keepsRows_of_not_mem⟩
  rw [List.forall_mem_flatMap]
  exact forall_fitsRows_iff

end

/-- Lines of a text with white space at their ends, and a tag in two lines that brings the
star of the second one. -/
theorem comment_rows_prefixed_with_star_in_tag :
    (Generator.new Registry.java).render
        (Model.root 0 (.javadoc ⟨"a \r\n\r\n b", [⟨"see", "c\n * d\n"⟩]⟩)) =
      some (.ok "/**\n * a\n *\n *  b\n *\n * @see c\n * d\n */",
        Generator.new Registry.java) ∧
    KeepsRows ⟨"see", "c\n * d\n"⟩ ∧
    ∃ rows, Text.segments '\n' "/**\n * a\n *\n *  b\n *\n * @see c\n * d\n */".toList =
        ['/', '*', '*'] :: rows ++ [[' ', '*', '/']] ∧ ∀ row ∈ rows, IsCommentRow row := by
  have hcomment : comment ⟨"a \r\n\r\n b", [⟨"see", "c\n * d\n"⟩]⟩ =
      "/**\n * a\n *\n *  b\n *\n * @see c\n * d\n */".toList := by decide
  have hkeeps : KeepsRows ⟨"see", "c\n * d\n"⟩ := by decide
  obtain ⟨hrender, ⟨rows, hsegments, hiff⟩, -⟩ :=
    @comment_rows_prefixed_iff (Generator.new Registry.java) (Model.root 0 (.javadoc _))
      ⟨"a \r\n\r\n b", [⟨"see", "c\n * d\n"⟩]⟩ rfl rfl
  refine ⟨?_, hkeeps, rows, hcomment ▸ hsegments, hiff.mpr (by simpa using hkeeps)⟩
  rw [hrender, hcomment, String.ofList_toList]

/-- The second line of a tag has no star before it. -/
theorem tag_line_without_star :
    (Generator.new Registry.java).render (Model.root 0 (.javadoc ⟨"", [⟨"param", "a\nb"⟩]⟩)) =
      some (.ok "/**\n * @param a\nb\n */", Generator.new Registry.java) ∧
    ['b'] ∈ Text.segments '\n' "/**\n * @param a\nb\n */".toList ∧ ¬ IsCommentRow ['b'] := by
  have hcomment : String.ofList (comment ⟨"", [⟨"param", "a\nb"⟩]⟩) =
      "/**\n * @param a\nb\n */" := by decide
  refine ⟨?_, by decide, by decide⟩
  rw [← hcomment]
  exact render_javadoc rfl rfl

end TableScribe.Java
