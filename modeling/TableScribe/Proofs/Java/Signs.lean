/-
At signs in Java source.  Laying a source out adds none and drops none, so a
file, a class and a field have the at signs of their own words and those of the
texts of their children.
-/
import Mathlib.Algebra.GroupWithZero.Nat
import TableScribe.Proofs.Java.Likeness
import TableScribe.Proofs.Java.Spelling

namespace TableScribe

/-- The number of at signs in a text. -/
def signs (text : String) : Nat := text.toList.count '@'

def totalSigns (texts : List String) : Nat := (texts.map signs).sum

/-- The number of at signs in a reply; an error has none. -/
def Rendered.signs : Rendered → Nat
  | .ok text => TableScribe.signs text
  | .error _ => 0

/-- The number of at signs in the replies for the children in one part. -/
def Model.signsIn (reply : Call → Rendered) (model : Model) (part : Part) : Nat :=
  ((model.replies reply part).map Rendered.signs).sum

namespace Text

theorem count_segments (text : List Char) :
    (segments '\n' text).flatten.count '@' = text.count '@' := by
  induction text with
  | nil => rfl
  | cons c rest ih =>
      unfold segments
      split
      case isTrue hc => simp [hc, ih]
      case isFalse =>
        cases hrest : segments '\n' rest with
        | nil =>
            simp only [hrest, List.flatten_nil, List.count_nil] at ih
            simp [List.count_cons, ← ih]
        | cons head tail =>
            simp only [hrest, List.flatten_cons, List.count_append] at ih
            simp only [List.flatten_cons, List.count_append, List.count_cons, ← ih]
            omega

theorem count_dropReturn (line : List Char) : (dropReturn line).count '@' = line.count '@' := by
  unfold dropReturn
  split
  case isTrue hlast =>
    obtain ⟨front, rfl⟩ := List.getLast?_eq_some_iff.mp hlast
    simp
  case isFalse => rfl

theorem count_linesOfSegments (pieces : List (List Char)) :
    (linesOfSegments pieces).flatten.count '@' = pieces.flatten.count '@' := by
  induction pieces using linesOfSegments.induct with
  | case1 => rfl
  | case2 last hempty => simp [linesOfSegments, List.isEmpty_iff.mp hempty]
  | case3 last hempty => simp [linesOfSegments, hempty]
  | case4 line next rest ih =>
      rw [linesOfSegments, List.flatten_cons, List.count_append, count_dropReturn, ih,
        List.flatten_cons (l := line), List.count_append]

theorem count_indentLine (line : List Char) : (indentLine line).count '@' = line.count '@' := by
  unfold indentLine
  split
  case isTrue hempty => simp [List.isEmpty_iff.mp hempty]
  case isFalse => simp [indentStep]

theorem count_join (pieces : List (List Char)) :
    (join ['\n'] pieces).count '@' = pieces.flatten.count '@' := by
  induction pieces with
  | nil => rfl
  | cons piece rest ih =>
      cases rest with
      | nil => simp [join]
      | cons next others =>
          rw [join] at ih
          rw [join, List.intercalate_cons_cons, List.count_append, List.count_append, ih]
          simp

/-- Indentation adds spaces and drops ends of lines, none of which is an at
sign. -/
theorem count_indentChars (text : List Char) : (indentChars text).count '@' = text.count '@' := by
  have hindent (pieces : List (List Char)) :
      (pieces.map indentLine).flatten.count '@' = pieces.flatten.count '@' := by
    induction pieces with
    | nil => rfl
    | cons piece rest ih => simp [count_indentLine, ih]
  rw [indentChars, count_join, hindent, lines, count_linesOfSegments, count_segments]

end Text

section

variable {texts : List String} {separator : String}

theorem signs_append (first second : String) : signs (first ++ second) =
    signs first + signs second := by
  simp [signs]

theorem totalSigns_nil : totalSigns [] = 0 := rfl

theorem totalSigns_cons (text : String) (texts : List String) :
    totalSigns (text :: texts) = signs text + totalSigns texts := List.sum_cons

theorem signs_join (texts : List String) : signs (String.join texts) = totalSigns texts := by
  induction texts with
  | nil => rfl
  | cons text rest ih =>
      rw [String.join_cons, signs_append, ih, totalSigns_cons]

/-- A separator without at signs adds none. -/
theorem signs_intercalate (hseparator : signs separator = 0) (texts : List String) :
    signs (separator.intercalate texts) = totalSigns texts := by
  induction texts with
  | nil => simp [totalSigns, signs]
  | cons text rest ih =>
      cases rest with
      | nil => simp [totalSigns]
      | cons next others =>
          rw [String.intercalate_cons_cons, signs_append, signs_append, ih, hseparator,
            totalSigns_cons text, Nat.add_zero]

theorem totalSigns_filter (texts : List String) :
    totalSigns (texts.filter fun text => !text.isEmpty) = totalSigns texts := by
  induction texts with
  | nil => rfl
  | cons text rest ih =>
      cases hempty : text.isEmpty with
      | true =>
          obtain rfl := String.isEmpty_iff.mp hempty
          have hcount : signs "" = 0 := rfl
          rw [List.filter_cons_of_neg (by simp), ih, totalSigns_cons, hcount, Nat.zero_add]
      | false =>
          rw [List.filter_cons_of_pos (by simp [hempty]), totalSigns_cons, totalSigns_cons, ih]

theorem totalSigns_append (first second : List String) :
    totalSigns (first ++ second) = totalSigns first + totalSigns second := by
  simp [totalSigns]

theorem totalSigns_map {write : String → String} (hwrite : ∀ text, signs (write text) = signs text)
    (texts : List String) : totalSigns (texts.map write) = totalSigns texts := by
  simp [totalSigns, Function.comp_def, hwrite]

theorem signs_joinNonEmpty (hseparator : signs separator = 0) (texts : List String) :
    signs (ViewM.joinNonEmpty separator texts) = totalSigns texts := by
  rw [ViewM.joinNonEmpty, signs_intercalate hseparator, totalSigns_filter]

theorem signs_indent (text : String) : signs (Text.indent text) = signs text := by
  simp [signs, Text.indent, Text.count_indentChars]

end

namespace Java

theorem signs_ownLine (text : String) : signs (ownLine text) = signs text := by
  unfold ownLine
  split
  case isTrue hempty => simp [String.isEmpty_iff.mp hempty]
  case isFalse => simp [signs]

/-- The braces of a body and the lines between its sections have no at signs. -/
theorem signs_body (sections : List String) : signs (body sections) = totalSigns sections := by
  rw [← totalSigns_filter]
  simp only [body]
  split
  case isTrue hempty => simp [List.isEmpty_iff.mp hempty, totalSigns, signs]
  case isFalse =>
    rw [signs_append, signs_append, signs_indent, signs_intercalate rfl]
    simp [signs]

section

variable {answer : (query : Query) → query.Answer} {reply : Call → Rendered} {model : Model}

theorem signs_children (part : Part) :
    ((model.children part).mapM ViewM.render).Ensures answer reply fun texts =>
      totalSigns texts = model.signsIn reply part := by
  intro texts htexts
  simp only [ViewM.eval_mapM, ViewM.eval_render, Model.mapM_reply, mapM_eq_ok_iff, id] at htexts
  unfold Model.signsIn totalSigns
  generalize model.replies reply part = replies at htexts ⊢
  induction htexts with
  | nil => rfl
  | cons hreply _ ih => simp [hreply, Rendered.signs, ih]

theorem signs_renderAll (part : Part) {separator : String} (hseparator : signs separator = 0) :
    (ViewM.renderAll (model.children part) separator).Ensures answer reply fun text =>
      signs text = model.signsIn reply part := by
  refine .bind (signs_children part) fun texts htexts => .pure ?_
  rw [signs_joinNonEmpty hseparator, htexts]

theorem signs_preamble :
    (preamble model).Ensures answer reply fun text =>
      signs text = model.signsIn reply .javadoc + model.signsIn reply .annotations := by
  refine .bind (signs_children .javadoc) fun comments hcomments => ?_
  refine .bind (signs_children .annotations) fun annotations hannotations => .pure ?_
  rw [signs_join, totalSigns_map signs_ownLine, totalSigns_append, hcomments, hannotations]

theorem signs_typeClause {keyword : String} (hkeyword : signs keyword = 0) (part : Part) :
    (typeClause keyword (model.children part)).Ensures answer reply fun text =>
      signs text = model.signsIn reply part := by
  refine .ite (fun hempty => .pure ?_) fun _ => ?_
  · simp [Model.signsIn, Model.replies, List.isEmpty_iff.mp hempty, signs]
  · refine .bind (signs_renderAll part rfl) fun text htext => .pure ?_
    rw [signs_append, hkeyword, htext, Nat.zero_add]

theorem signs_fieldLines :
    (fieldLines model).Ensures answer reply fun text =>
      signs text = model.signsIn reply .fields := by
  have hended (text : String) : signs (text ++ ";") = signs text := by simp [signs]
  refine .bind (signs_children .fields) fun fields hfields => .pure ?_
  rw [signs_intercalate rfl, totalSigns_map hended, hfields]

end

/-- The number of at signs in the texts of the children of a model in some
parts. -/
def signsBelow (above : List Model) (model : Model) (parts : List Part) : Nat :=
  (parts.map (model.signsIn (Registry.java.reply (model :: above)))).sum

section

variable {above : List Model} {model : Model} {text : String}

theorem signsBelow_nil : signsBelow above model [] = 0 := rfl

theorem signsBelow_cons (part : Part) (parts : List Part) :
    signsBelow above model (part :: parts) =
      model.signsIn (Registry.java.reply (model :: above)) part + signsBelow above model parts :=
  List.sum_cons

theorem signs_of_ensures {node : Node} {count : Nat} (hnode : model.node = node)
    (hview : (view node.kind model).Ensures (answersIn (model :: above))
      (Registry.java.reply (model :: above)) fun text => signs text = count)
    (htext : Registry.java.text above model = .ok text) : signs text = count :=
  of_text_eq_ok hnode hview text htext

/-- A file has the at signs of its package line and of its children. -/
theorem signs_file {file : File} (hnode : model.node = .file file)
    (htext : Registry.java.text above model = .ok text) :
    signs text = totalSigns (file.package.toList.map packageLine) +
      signsBelow above model [.javadoc, .imports, .declarations] := by
  refine signs_of_ensures hnode (.expect_bind hnode rfl ?_) htext
  refine .bind (signs_children .javadoc) fun comments hcomments => ?_
  refine .bind (signs_renderAll .imports rfl) fun imports himports => ?_
  refine .bind (signs_renderAll .declarations rfl) fun declarations hdeclarations => .pure ?_
  have hsections : totalSigns [imports, declarations] =
      model.signsIn (Registry.java.reply (model :: above)) .imports +
        model.signsIn (Registry.java.reply (model :: above)) .declarations := by
    rw [totalSigns_cons, totalSigns_cons, totalSigns_nil, himports, hdeclarations, Nat.add_zero]
  rw [signs_append, signs_joinNonEmpty rfl, totalSigns_append, totalSigns_append, hcomments,
    hsections]
  simp only [signsBelow_cons, signsBelow_nil]
  have hend : signs "\n" = 0 := rfl
  omega

/-- A class has the at signs of the words in its head and of its children. -/
theorem signs_class {head : ClassHead} {nested : List Declaration}
    (hnode : model.node = .declaration (.ofClass head nested))
    (htext : Registry.java.text above model = .ok text) :
    signs text = signs (Modifier.render head.modifiers) + signs head.name +
      signs (genericList head.generics) + signsBelow above model
        [.javadoc, .annotations, .parents, .interfaces, .fields, .constructors, .methods,
          .nested] := by
  have hextends (text : String) : signs (" extends " ++ text) = signs text := by simp [signs]
  refine signs_of_ensures hnode (.expect_bind hnode rfl ?_) htext
  refine .andThen fun _ => .bind signs_preamble fun before hbefore => ?_
  refine .bind (signs_children .parents) fun parent hparent => ?_
  refine .bind (signs_typeClause rfl .interfaces) fun interfaces hinterfaces => ?_
  refine .bind signs_fieldLines fun fields hfields => ?_
  refine .bind (signs_renderAll .constructors rfl) fun constructors hconstructors => ?_
  refine .bind (signs_renderAll .methods rfl) fun methods hmethods => ?_
  refine .bind (signs_renderAll .nested rfl) fun nested hnested => .pure ?_
  have hsections : totalSigns [fields, constructors, methods, nested] =
      signs fields + signs constructors + signs methods + signs nested := by
    simp only [totalSigns_cons, totalSigns_nil]
    omega
  simp only [signs_append, signs_body, signs_join, totalSigns_map hextends, hsections, hbefore,
    hparent, hinterfaces, hfields, hconstructors, hmethods, hnested, signsBelow_cons,
    signsBelow_nil]
  have hkeyword : signs "class " = 0 := rfl
  have hspace : signs " " = 0 := rfl
  omega

/-- A field that is no parameter has the at signs of its modifiers, of its name
and of its children. -/
theorem signs_field {field : Field} (hnode : model.node = .field field)
    (hparameter : standsAsParameter above model = false)
    (htext : Registry.java.text above model = .ok text) :
    signs text = signs (Modifier.render field.modifiers) + signs field.name +
      signsBelow above model [.javadoc, .annotations, .type, .value] := by
  have hkind : model.kind = .field := congrArg Node.kind hnode
  have hequals (text : String) : signs (" = " ++ text) = signs text := by simp [signs]
  have hanswer : (isParameter model).Ensures (answersIn (model :: above))
      (Registry.java.reply (model :: above)) fun result => result = false := by
    intro result hresult
    rw [eval_isParameter hkind, hparameter] at hresult
    exact (Except.ok.inj hresult).symm
  refine signs_of_ensures hnode (.expect_bind hnode rfl ?_) htext
  refine .ite (fun _ => .throw _) fun _ => .bind hanswer fun isParameter hfalse => ?_
  subst hfalse
  refine .bind signs_preamble fun before hbefore => ?_
  refine .bind (signs_children .type) fun type htype => ?_
  refine .bind (signs_children .value) fun value hvalue => .pure ?_
  simp only [signs_append, signs_join, totalSigns_map hequals, hbefore, htype, hvalue,
    signsBelow_cons, signsBelow_nil]
  have hspace : signs " " = 0 := rfl
  omega

theorem signs_importLine {line : Import} (hnode : model.node = .importLine line)
    (htext : Registry.java.text above model = .ok text) : signs text = signs line.path := by
  refine signs_of_ensures hnode (.expect_bind hnode rfl ?_) htext
  refine .ite (fun _ => .throw _) fun _ => .pure ?_
  rw [signs_append, signs_append]
  have hend : signs ";" = 0 := rfl
  have hkeyword : signs (if line.isStatic then "import static " else "import ") = 0 := by
    cases line.isStatic <;> rfl
  omega

/-- An annotation with its name written in a given way. -/
def markText (mark : Annotation) (name : String) : Rendered := do
  let unnamed ← mark.value.toList.mapM literal
  let values ← mark.params.mapM fun param => literal param.2
  return annotationText name (argumentTexts mark unnamed values)

/-- Replies that depend on the nodes of the children alone. -/
theorem replies_eq_map {reply : Call → Rendered} {part : Part} {α : Type} {items : List α}
    {wrap : α → Node} {write : α → Rendered}
    (hpart : model.node.children part = items.map wrap)
    (hreply : ∀ child ∈ model.children part, ∀ item ∈ items, child.node = wrap item →
      reply (.render child) = write item) :
    model.replies reply part = items.map write := by
  rw [← Model.map_node_children] at hpart
  unfold Model.replies
  apply List.ext_getElem
  · simpa using congrArg List.length hpart
  · intro position hchild hitem
    simp only [List.length_map] at hchild hitem
    have hnode : (model.children part)[position].node = wrap items[position] := by
      have hget := List.getElem_of_eq hpart (by simpa using hchild)
      simpa using hget
    simpa using hreply _ (List.getElem_mem hchild) _ (List.getElem_mem hitem) hnode

theorem mapM_text_values {part : Part} {values : List Value}
    (hpart : model.node.children part = values.map .value) :
    (model.children part).mapM (Registry.java.text (model :: above)) = values.mapM literal := by
  have hreplies : model.replies (Registry.java.reply (model :: above)) part =
      values.map literal := by
    refine replies_eq_map hpart fun child _ value _ hnode => ?_
    exact text_value hnode
  change ((model.children part).mapM fun child =>
    Registry.java.reply (model :: above) (.render child)) = _
  rw [Model.mapM_reply, hreplies, List.mapM_map]
  rfl

/-- The text of an annotation depends on where it stands only by its name. -/
theorem text_eq_markText {mark : Annotation} (hnode : model.node = .annotationUse mark)
    (hname : printedName above mark.name ≠ "") :
    Registry.java.text above model = markText mark (printedName above mark.name) := by
  have hvalue : model.node.children .value = mark.value.toList.map .value := hnode ▸ rfl
  have hparams : model.node.children .params = (mark.params.map Prod.snd).map .value := by
    simp [hnode, Node.children]
  rw [text_annotationUse hnode hname]
  simp only [spelling, hnode, mapM_text_values hvalue, mapM_text_values hparams, List.mapM_map]
  rfl

/-- The at signs of annotations depend on where they stand only by the names as
printed there. -/
theorem signsIn_annotations {marks : List Annotation}
    (hmarks : model.node.children .annotations = marks.map .annotationUse)
    (hnames : ∀ mark ∈ marks, printedName (model :: above) mark.name ≠ "") :
    model.signsIn (Registry.java.reply (model :: above)) .annotations =
      (marks.map fun mark =>
        (markText mark (printedName (model :: above) mark.name)).signs).sum := by
  have hreplies : model.replies (Registry.java.reply (model :: above)) .annotations =
      marks.map fun mark => markText mark (printedName (model :: above) mark.name) := by
    refine replies_eq_map hmarks fun child _ mark hmark hnode => ?_
    exact text_eq_markText hnode (hnames mark hmark)
  rw [Model.signsIn, hreplies, List.map_map]
  rfl

/-- Children of the same nodes have as many at signs, if their surroundings are
alike. -/
theorem signsIn_congr {other : Model} {above' : List Model} {part : Part}
    (hstack : List.Forall₂ Alike (model :: above) (other :: above'))
    (hpart : model.node.children part = other.node.children part) :
    model.signsIn (Registry.java.reply (model :: above)) part =
      other.signsIn (Registry.java.reply (other :: above')) part := by
  have hplace := (List.forall₂_cons.mp hstack).1.place
  have hchildren : model.children part = other.children part := by
    have hchild : model.child part = other.child part := by
      funext position node
      rw [Model.child, Model.child, hplace]
    rw [Model.children, Model.children, hpart, hchild]
  unfold Model.signsIn Model.replies
  rw [hchildren]
  congr 2
  exact List.map_congr_left fun child _ => text_congr hstack child

end

end Java

end TableScribe
