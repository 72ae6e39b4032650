/-
The text of plain nodes.  It has the comments and the literals of the comments
and values below the node, in their order, and no others.
-/
import TableScribe.Proofs.Java.PlainNodes
import TableScribe.Proofs.Java.Writing
import TableScribe.Proofs.Model.SimpleName
import TableScribe.Proofs.Render.Ensuring

namespace TableScribe.Java

theorem plain_simpleName {name : String} (hname : Plain name) : Plain (simpleName name) := by
  intro c hc
  exact hname c (mem_of_mem_simpleName hc)

theorem plain_printedName {name : String} (hname : Plain name) (above : List Model) :
    Plain (printedName above name) := by
  unfold printedName
  by_cases htaken : takes above (simpleName name) = true
  · rw [if_pos htaken]
    exact hname
  · rw [if_neg htaken]
    exact plain_simpleName hname

/-- A value is a literal that has yet to be ended, or else it is plain. -/
theorem precedes_literal {value : Value} (hvalue : PlainValue value) {text : String}
    (htext : literal value = .ok text) : Precedes text (valueNotes value) := by
  cases value with
  | text content =>
      obtain rfl := Except.ok.inj htext
      exact precedes_quote content
  | _ => exact (hvalue text htext).says_nil.precedes

/-- Named values keep the literals of the values. -/
theorem precedes_zipWith_namedArgument {params : List (String × Value)} {texts : List String}
    (hkeys : ∀ param ∈ params, Plain param.1)
    (htexts : List.Forall₂ Precedes texts (params.map fun param => valueNotes param.2)) :
    List.Forall₂ Precedes (List.zipWith namedArgument params texts)
      (params.map fun param => valueNotes param.2) := by
  induction params generalizing texts with
  | nil => simp
  | cons param params ih =>
      obtain ⟨hkey, hkeys⟩ := List.forall_mem_cons.mp hkeys
      obtain ⟨text, others, htext, hothers, rfl⟩ := List.forall₂_cons_right_iff.mp htexts
      have hargument : Precedes (namedArgument param text) (valueNotes param.2) :=
        Precedes.plain_append (hkey.append (by decide)) htext
      exact .cons hargument (ih hkeys hothers)

/-- An annotation says what the literals in it say: each of them is ended by a
comma or the parenthesis. -/
theorem says_annotationText {name : String} {texts : List String} {parts : List (List Token)}
    (hname : Plain name) (htexts : List.Forall₂ Precedes texts parts) :
    Says (annotationText name texts) parts.flatten := by
  have hmark : Plain ("@" ++ name) := Plain.append (by decide) hname
  unfold annotationText
  by_cases hempty : texts.isEmpty = true
  · rw [if_pos hempty]
    rw [List.isEmpty_iff.mp hempty] at htexts
    cases htexts
    exact hmark.says_nil
  · rw [if_neg hempty]
    exact ((Precedes.intercalate htexts).plain_append (hmark.append (by decide))).closed

theorem plain_brackets (dims : Nat) : Plain (brackets dims) := by
  apply plain_join
  intro text htext
  rw [List.eq_of_mem_replicate htext]
  decide

/-- The statements of a body are plain, and so are the lines around them. -/
theorem says_bodyText {body : Option (List String)}
    (hbody : ∀ lines ∈ body, ∀ line ∈ lines, Plain line) : Says (bodyText body) [] := by
  cases body with
  | none => exact Plain.says_nil (by decide)
  | some lines =>
      simp only [bodyText]
      by_cases hempty : lines.isEmpty = true
      · rw [if_pos hempty]
        exact Plain.says_nil (by decide)
      · rw [if_neg hempty]
        have hlines : Plain ("\n".intercalate lines) :=
          plain_intercalate (by decide) (hbody lines rfl)
        have hinner := hlines.says_nil.indent fun _ => List.not_mem_nil
        have hopen : Plain " \x7b\n" := by decide
        have hclose : Plain "\n\x7d" := by decide
        exact (hinner.plain_append hopen).append_plain hclose

section

variable {above : List Model} {model : Model}

/-- In the view of a model, inside given models, a program has results of one sort
only. -/
abbrev EnsuresIn {α : Type} (above : List Model) (model : Model) (program : ViewM α)
    (post : α → Prop) : Prop :=
  program.Ensures (answersIn (model :: above)) (Registry.java.reply (model :: above)) post

/-- The text of a model, if there is one, has the literals and comments of the
model. -/
def Speaks (above : List Model) (model : Model) : Prop :=
  ∀ text, Registry.java.text above model = .ok text → Says text (notes model.node)

theorem speaks_of_ensures {node : Node} (hnode : model.node = node)
    (hview : EnsuresIn above model (view node.kind model) fun text => Says text (notes node)) :
    Speaks above model := by
  unfold Speaks
  rw [hnode]
  exact of_text_eq_ok hnode hview

/-- The texts of the children in a part are of the sort that their own texts are
of. -/
theorem ensures_parts {α : Type} (sort : String → List Token → Prop) {part : Part}
    {items : List α} {wrap : α → Node} (hpart : model.node.children part = items.map wrap)
    (hitems : ∀ item ∈ items, ∀ child : Model, child.node = wrap item → ∀ text,
      Registry.java.text (model :: above) child = .ok text → sort text (notes child.node)) :
    EnsuresIn above model ((model.children part).mapM ViewM.render) fun texts =>
      List.Forall₂ sort texts (items.map fun item => notes (wrap item)) := by
  have hmap : (model.node.children part).map notes = items.map fun item => notes (wrap item) := by
    rw [hpart, List.map_map]
    rfl
  rw [← hmap]
  apply ViewM.Ensures.children
  intro child hchild
  have hmem := Model.node_mem_of_mem_children hchild
  rw [hpart] at hmem
  obtain ⟨item, hitem, hnode⟩ := List.mem_map.mp hmem
  exact hitems item hitem child hnode.symm

/-- What the children in a part say comes one after the other, since the
separator says nothing. -/
theorem ensures_renderAll {α : Type} {part : Part} {items : List α} {wrap : α → Node}
    {separator : String} (hseparator : Plain separator)
    (hpart : model.node.children part = items.map wrap)
    (hitems : ∀ item ∈ items, ∀ child : Model, child.node = wrap item →
      Speaks (model :: above) child) :
    EnsuresIn above model (ViewM.renderAll (model.children part) separator) fun text =>
      Says text (items.map fun item => notes (wrap item)).flatten :=
  (ensures_parts Says hpart hitems).bind fun _ htexts => .pure (.joinNonEmpty hseparator htexts)

theorem ensures_typeClause_nil (keyword : String) :
    EnsuresIn above model (typeClause keyword []) fun text => text = "" :=
  .pure rfl

theorem ensures_visibleName {name : String} (hname : Plain name) :
    EnsuresIn above model (visibleName name) Plain := by
  intro text htext
  rw [eval_visibleName] at htext
  obtain rfl := Except.ok.inj htext
  exact plain_printedName hname _

theorem precedes_of_text_eq_ok {value : Value} (hnode : model.node = .value value)
    (hvalue : PlainValue value) : ∀ text, Registry.java.text above model = .ok text →
      Precedes text (notes model.node) := by
  rw [hnode]
  refine of_text_eq_ok hnode (.expect_bind hnode rfl (.ofExcept ?_))
  intro source hsource
  exact precedes_literal hvalue hsource

theorem speaks_javadoc {javadoc : Javadoc} (hnode : model.node = .javadoc javadoc) :
    Speaks above model := by
  refine speaks_of_ensures hnode (.expect_bind hnode rfl (.pure ?_))
  rw [Says, String.toList_ofList, notes]
  simpa using Reads.comment javadoc .nil

/-- An annotation says its literals: its unnamed value first, then its
parameters. -/
theorem speaks_annotation {mark : Annotation} (hnode : model.node = .annotationUse mark)
    (hmark : PlainMark mark) : Speaks above model := by
  refine speaks_of_ensures hnode (.expect_bind hnode rfl ?_)
  refine (ensures_visibleName hmark.name).bind fun name hname => ?_
  refine .ite (fun _ => .throw _) fun _ => ?_
  have hvalue : model.node.children .value = mark.value.toList.map .value := hnode ▸ rfl
  have hparams : model.node.children .params = mark.params.map fun param => .value param.2 :=
    hnode ▸ rfl
  refine (ensures_parts Precedes hvalue ?_).bind fun unnamed hunnamed => ?_
  · intro value hvalue child hchild
    exact precedes_of_text_eq_ok hchild (hmark.value value (Option.mem_toList.mp hvalue))
  refine (ensures_parts Precedes hparams ?_).bind fun values hvalues => .pure ?_
  · intro param hparam child hchild
    exact precedes_of_text_eq_ok hchild (hmark.params param hparam)
  have hnamed := precedes_zipWith_namedArgument hmark.keys hvalues
  have hfirst : List.Forall₂ Precedes
      (if mark.params.isEmpty then unnamed else unnamed.map ("value = " ++ ·))
      (mark.value.toList.map valueNotes) := by
    split
    · exact hunnamed
    · apply List.forall₂_map_left_iff.mpr
      exact hunnamed.imp fun text part htext => htext.plain_append (by decide)
  have hall := says_annotationText hname (List.rel_append hfirst hnamed)
  rwa [List.flatten_append] at hall

theorem speaks_type {type : TypeRef} (hnode : model.node = .typeRef type) (htype : PlainType type) :
    Speaks above model := by
  refine speaks_of_ensures hnode (.expect_bind hnode rfl ?_)
  refine .ite (fun _ => .throw _) fun _ => ?_
  refine (ensures_visibleName htype.name).bind fun name hname => ?_
  rw [htype.generics]
  exact .pure (hname.append (plain_brackets type.dims)).says_nil

theorem ensures_preamble {javadoc : Option Javadoc} {marks : List Annotation}
    (hjavadoc : model.node.children .javadoc = javadoc.toList.map .javadoc)
    (hannotations : model.node.children .annotations = marks.map .annotationUse)
    (hmarks : ∀ mark ∈ marks, PlainMark mark) :
    EnsuresIn above model (preamble model) fun text =>
      Says text ((javadoc.toList.map fun javadoc => .comment (comment javadoc)) ++
        (marks.map markNotes).flatten) := by
  refine (ensures_parts Says hjavadoc ?_).bind fun comments hcomments => ?_
  · intro javadoc _ child hchild
    exact speaks_javadoc hchild
  refine (ensures_parts Says hannotations ?_).bind fun annotations hannotations => .pure ?_
  · intro mark hmark child hchild
    exact speaks_annotation hchild (hmarks mark hmark)
  have hall := Says.join (Says.map Says.ownLine (List.rel_append hcomments hannotations))
  rw [List.flatten_append] at hall
  cases javadoc <;> exact hall

/-- A field says its annotations, on one line or on several. -/
theorem speaks_field {field : Field} (hnode : model.node = .field field)
    (hfield : PlainField field) : Speaks above model := by
  have htype : model.node.children .type = [field.type].map .typeRef := hnode ▸ rfl
  have hvalue : model.node.children .value = [].map Node.value := by
    rw [hnode, Node.children, hfield.value]
    rfl
  have hjavadoc : model.node.children .javadoc = field.javadoc.toList.map .javadoc := hnode ▸ rfl
  have hannotations : model.node.children .annotations = field.annotations.map .annotationUse :=
    hnode ▸ rfl
  -- A parameter differs from another field only in how its annotations are laid out, so
  -- what follows them is dealt with once.
  have hrest (before : String) (hbefore : Says before (fieldNotes field)) :
      EnsuresIn above model (do
        let type ← (model.children .type).mapM ViewM.render
        let value ← (model.children .value).mapM ViewM.render
        return before ++ Modifier.render field.modifiers ++ String.join type ++ " " ++ field.name
          ++ String.join (value.map (" = " ++ ·))) fun text => Says text (fieldNotes field) := by
    refine (ensures_parts Says htype ?_).bind fun type hsays => ?_
    · intro type hmem child hchild
      rw [List.mem_singleton.mp hmem] at hchild
      exact speaks_type hchild hfield.type
    refine (ensures_parts Says hvalue (List.forall_mem_nil _)).bind fun value hempty => .pure ?_
    cases hempty
    have hfront := (hbefore.append_plain (plain_render field.modifiers)).append (Says.join hsays)
    have hwhole := (hfront.append_plain (by decide : Plain " ")).append_plain hfield.name
    simpa [notes] using hwhole
  refine speaks_of_ensures hnode (.expect_bind hnode rfl ?_)
  refine .ite (fun _ => .throw _) fun _ => ?_
  refine .andThen fun isParameter => .ite (fun _ => ?_) fun _ => ?_
  · refine (ensures_parts Says hannotations ?_).bind fun texts htexts => ?_
    · intro mark hmark child hchild
      exact speaks_annotation hchild (hfield.annotations mark hmark)
    exact hrest _ (Says.join (Says.map Says.inlineText htexts))
  · refine (ensures_preamble hjavadoc hannotations hfield.annotations).bind fun before hbefore => ?_
    rw [hfield.javadoc] at hbefore
    exact hrest before hbefore

theorem ensures_methodName {method : Method} (hmethod : PlainMethod method)
    (hreturns : model.node.children .returns = [method.returns].map .typeRef) :
    EnsuresIn above model (methodName method model) fun text => Says text [] := by
  unfold methodName
  simp only [hmethod.isConstructor, Bool.false_eq_true, if_false]
  refine .ite (fun _ => .throw _) fun _ => ?_
  refine (ensures_parts Says hreturns ?_).bind fun returns hsays => .pure ?_
  · intro type hmem child hchild
    rw [List.mem_singleton.mp hmem] at hchild
    exact speaks_type hchild hmethod.returns
  exact ((Says.join hsays).append_plain (by decide : Plain " ")).append_plain hmethod.name

theorem speaks_method {method : Method} (hnode : model.node = .method method)
    (hmethod : PlainMethod method) : Speaks above model := by
  have hreturns : model.node.children .returns = [method.returns].map .typeRef := hnode ▸ rfl
  have hjavadoc : model.node.children .javadoc = (none : Option Javadoc).toList.map .javadoc := by
    rw [hnode, Node.children, hmethod.javadoc]
  have hannotations : model.node.children .annotations = [].map .annotationUse := by
    rw [hnode, Node.children, hmethod.annotations]
  have hparams : model.node.children .params = method.params.map .field := hnode ▸ rfl
  have hthrows : model.children .throws = [] := by
    rw [Model.children, hnode, Node.children, hmethod.throws]
    rfl
  refine speaks_of_ensures hnode (.expect_bind hnode rfl ?_)
  refine (ensures_preamble hjavadoc hannotations (List.forall_mem_nil _)).bind
    fun before hbefore => ?_
  refine (ensures_methodName hmethod hreturns).bind fun name hname => ?_
  have hnotes : (method.params.map fun param => notes (.field param)).flatten = [] := by
    apply List.flatten_eq_nil_iff.mpr
    intro part hpart
    obtain ⟨param, hparam, rfl⟩ := List.mem_map.mp hpart
    simp [notes, fieldNotes, (hmethod.params param hparam).2]
  refine (ensures_renderAll (by decide) hparams ?_).bind fun params hsays => ?_
  · intro param hparam child hchild
    exact speaks_field hchild (hmethod.params param hparam).1
  rw [hnotes] at hsays
  rw [hthrows]
  refine (ensures_typeClause_nil _).bind fun throws hempty => .pure ?_
  subst hempty
  have hhead := (hbefore.append_plain (plain_render method.modifiers)).append hname
  have hfront := (hhead.append_plain (by decide : Plain "(")).append hsays
  have hwhole := ((hfront.append_plain (by decide : Plain ")")).append_plain
    (by decide : Plain "")).append (says_bodyText hmethod.body)
  exact hwhole

theorem ensures_fieldLines {fields : List Field}
    (hpart : model.node.children .fields = fields.map .field)
    (hfields : ∀ field ∈ fields, PlainField field) :
    EnsuresIn above model (fieldLines model) fun text =>
      Says text (fields.map fieldNotes).flatten := by
  refine (ensures_parts Says hpart ?_).bind fun texts htexts => .pure ?_
  · intro field hfield child hchild
    exact speaks_field hchild (hfields field hfield)
  have hlines := Says.map (fun htext => htext.append_plain (by decide : Plain ";")) htexts
  exact .intercalate (by decide) hlines

/-- The body of a class whose fields have the only literals in it. -/
theorem says_classBody {fields : List Field} {lines constructors methods nested : String}
    (hlines : Says lines (fields.map fieldNotes).flatten) (hconstructors : Says constructors [])
    (hmethods : Says methods []) (hnested : Says nested []) :
    Says (body [lines, constructors, methods, nested]) (fields.map fieldNotes).flatten := by
  have hsections : List.Forall₂ Says [lines, constructors, methods, nested]
      [(fields.map fieldNotes).flatten, [], [], []] :=
    .cons hlines (.cons hconstructors (.cons hmethods (.cons hnested .nil)))
  have hnotes := noComment_flatten_map noComment_fieldNotes fields
  have hbody := Says.body hsections (by simpa using hnotes)
  simpa using hbody

/-- A class says its comment, its annotations and its fields. -/
theorem speaks_class {head : ClassHead} (hnode : model.node = .declaration (.ofClass head []))
    (hclass : PlainClass head) : Speaks above model := by
  have hjavadoc : model.node.children .javadoc = head.javadoc.toList.map .javadoc := hnode ▸ rfl
  have hannotations : model.node.children .annotations = head.annotations.map .annotationUse :=
    hnode ▸ rfl
  have hparents : model.node.children .parents = [].map Node.typeRef := by
    rw [hnode, Node.children, ClassHead.children, hclass.parent]
    rfl
  have hinterfaces : model.children .interfaces = [] := by
    rw [Model.children, hnode, Node.children, ClassHead.children, hclass.interfaces]
    rfl
  have hfields : model.node.children .fields = head.fields.map .field := hnode ▸ rfl
  have hconstructors : model.node.children .constructors = [].map Node.method := by
    rw [hnode, Node.children, ClassHead.children, hclass.constructors]
  have hmethods : model.node.children .methods = head.methods.map .method := hnode ▸ rfl
  have hnested : model.node.children .nested = [].map Node.declaration := hnode ▸ rfl
  refine speaks_of_ensures hnode (.expect_bind hnode rfl (.andThen fun _ => ?_))
  refine (ensures_preamble hjavadoc hannotations hclass.annotations).bind fun before hbefore => ?_
  refine (ensures_parts Says hparents (List.forall_mem_nil _)).bind fun parent hparent => ?_
  cases hparent
  rw [hinterfaces]
  refine (ensures_typeClause_nil _).bind fun interfaces hempty => ?_
  subst hempty
  refine (ensures_fieldLines hfields hclass.fields).bind fun fields hfields => ?_
  refine (ensures_renderAll (by decide) hconstructors (List.forall_mem_nil _)).bind
    fun constructors hconstructors => ?_
  refine (ensures_renderAll (by decide) hmethods ?_).bind fun methods hmethods => ?_
  · intro method hmethod child hchild
    exact speaks_method hchild (hclass.methods method hmethod)
  refine (ensures_renderAll (by decide) hnested (List.forall_mem_nil _)).bind
    fun nested hnested => .pure ?_
  have hsilent : (head.methods.map fun method => notes (.method method)).flatten = [] := by
    simp [notes]
  rw [hsilent] at hmethods
  have hbody := says_classBody hfields hconstructors hmethods hnested
  rw [hclass.generics]
  have hkeyword := (hbefore.append_plain (plain_render head.modifiers)).append_plain
    (by decide : Plain "class ")
  have hname := (hkeyword.append_plain hclass.name).append_plain (by decide : Plain "")
  have hhead := hname.append_plain (by decide : Plain " ")
  have hwhole := hhead.append hbody
  simpa [genericList, notes, declarationNotes, classNotes] using hwhole

theorem speaks_import {line : Import} (hnode : model.node = .importLine line)
    (hline : Plain line.path) : Speaks above model := by
  refine speaks_of_ensures hnode (.expect_bind hnode rfl ?_)
  refine .ite (fun _ => .throw _) fun _ => .pure ?_
  have hkeyword : Plain (if line.isStatic then "import static " else "import ") := by
    split <;> decide
  exact ((hkeyword.append hline).append (by decide)).says_nil

/-- A file says its comment and its declarations; the lines between them are
plain. -/
theorem speaks_file {file : File} (hnode : model.node = .file file) (hfile : PlainFile file) :
    Speaks above model := by
  have hjavadoc : model.node.children .javadoc = file.javadoc.toList.map .javadoc := hnode ▸ rfl
  have himports : model.node.children .imports = file.imports.map .importLine := hnode ▸ rfl
  have hdeclarations : model.node.children .declarations = file.declarations.map .declaration :=
    hnode ▸ rfl
  refine speaks_of_ensures hnode (.expect_bind hnode rfl ?_)
  refine (ensures_parts Says hjavadoc ?_).bind fun comments hcomments => ?_
  · intro javadoc _ child hchild
    exact speaks_javadoc hchild
  refine (ensures_renderAll (by decide) himports ?_).bind fun imports hsays => ?_
  · intro line hline child hchild
    exact speaks_import hchild (hfile.imports line hline)
  refine (ensures_renderAll (by decide) hdeclarations ?_).bind fun declarations hclasses => .pure ?_
  · intro declaration hdeclaration child hchild
    obtain ⟨head, hclass, rfl⟩ := hfile.declarations declaration hdeclaration
    exact speaks_class hchild hclass
  have hpackage : List.Forall₂ Says (file.package.toList.map packageLine)
      (file.package.toList.map fun _ => []) := by
    refine List.forall₂_map_left_iff.mpr (List.forall₂_map_right_iff.mpr ?_)
    refine List.forall₂_same.mpr fun name hname => ?_
    have hplain := hfile.package name (Option.mem_toList.mp hname)
    exact ((Plain.append (by decide) hplain).append (by decide)).says_nil
  have hsections := List.rel_append (List.rel_append hcomments hpackage)
    (.cons hsays (.cons hclasses .nil))
  have hwhole := (Says.joinNonEmpty (by decide : Plain "\n\n") hsections).append_plain
    (by decide : Plain "\n")
  cases hcomment : file.javadoc <;> simpa [notes, fileNotes, hcomment] using hwhole

end

end TableScribe.Java
