/-
Fields and parameters.  They are nodes of one kind, and the view tells them apart by asking
whether the field is a parameter of the innermost method being rendered.  In a tree that is so
exactly if the field was reached as one, whatever equal nodes stand elsewhere.
-/
import TableScribe.Proofs.Java.Constructors
import TableScribe.Proofs.Java.Likeness

namespace TableScribe

namespace Java

/-- Texts on one line, each with a space after it. -/
def onOneLine (texts : List String) : String := String.join (texts.map (· ++ " "))

/-- Texts on lines of their own. -/
def onOwnLines (texts : List String) : String := String.join (texts.map (· ++ "\n"))

/-- The text of the comment of a field, if it has one. -/
def commentTexts (field : Field) : List String :=
  field.javadoc.toList.map fun javadoc => String.ofList (comment javadoc)

/-- A field without its comment and its annotations. -/
def declaratorText (above : List Model) (model : Model) (field : Field) : Rendered := do
  let type ← partTexts above model .type
  let value ← partTexts above model .value
  return Modifier.render field.modifiers ++ String.join type ++ " " ++ field.name ++
    String.join (value.map (" = " ++ ·))

/-- What is written before a field: the annotations of a parameter, and otherwise the lines of
the comment and the annotations. -/
def leadText (above : List Model) (model : Model) : Rendered :=
  if standsAsParameter above model then
    (fun marks => String.join (marks.map inlineText)) <$> partTexts above model .annotations
  else precedingLines above model

/-- The node was reached as a parameter of a method. -/
def IsParameter (above : List Model) (model : Model) : Prop :=
  ∃ owner ∈ above.head?, (∃ method, owner.node = .method method) ∧
    model ∈ owner.children .params

section

variable {comments marks : List String}

/-- The two layouts differ if there is anything to lay out. -/
theorem onOneLine_ne_onOwnLines (hne : comments ++ marks ≠ []) :
    onOneLine marks ≠ onOwnLines (comments ++ marks) := by
  intro hsame
  cases comments with
  | nil =>
      obtain ⟨mark, others, rfl⟩ := List.exists_cons_of_ne_nil hne
      simp [onOneLine, onOwnLines, String.join_cons, ← String.toList_inj] at hsame
  | cons comment comments =>
      have hlength := congrArg (fun text => text.toList.length) hsame
      simp [onOneLine, onOwnLines, String.toList_join, Function.comp_def] at hlength
      omega

end

section

variable {above : List Model} {model : Model}

theorem text_javadoc {javadoc : Javadoc} (hnode : model.node = .javadoc javadoc) :
    Registry.java.text above model = .ok (String.ofList (comment javadoc)) := by
  have hkind : model.kind = .javadoc := congrArg Node.kind hnode
  rw [Registry.text_eq java_descends (get?_java model.kind), hkind]
  simp [view, javadocView, hnode, Node.javadoc?]

theorem text_annotationUse_ne_empty {mark : Annotation} (hnode : model.node = .annotationUse mark)
    {text : String} (htext : Registry.java.text above model = .ok text) : text ≠ "" := by
  have hspelling := text_of_referredName? (by rw [hnode]; rfl) htext
  simp only [spelling, hnode, Except.bind_eq_ok_iff] at hspelling
  obtain ⟨unnamed, -, values, -, hresult⟩ := hspelling
  rw [← Except.ok.inj hresult, annotationText]
  split <;> simp [String.append_eq_empty_iff]

variable {field : Field}

theorem partTexts_javadoc (hnode : model.node = .field field) :
    partTexts above model .javadoc = .ok (commentTexts field) := by
  cases hjavadoc : field.javadoc with
  | none =>
      simp [partTexts, commentTexts, Model.children, hnode, Node.children, hjavadoc]
      rfl
  | some javadoc =>
      have htext := @text_javadoc (model :: above) (model.child .javadoc 0 (.javadoc javadoc)) _ rfl
      simp [partTexts, commentTexts, Model.children, hnode, Node.children, hjavadoc, htext]

/-- Parameters and other fields differ only in what is written before them. -/
theorem text_field (hnode : model.node = .field field) (hname : field.name ≠ "") :
    Registry.java.text above model = (do
      let lead ← leadText above model
      let declarator ← declaratorText above model field
      return lead ++ declarator) := by
  have hkind : model.kind = .field := congrArg Node.kind hnode
  rw [Registry.text_eq java_descends (get?_java model.kind), hkind]
  simp only [view, fieldView, hnode, Node.field?, ViewM.eval_bind, ViewM.eval_expect,
    Option.elim_some, ViewM.ok_bind, String.isEmpty_iff, hname, if_false, eval_isParameter hkind,
    ViewM.eval_ite, ViewM.eval_mapM, ViewM.eval_pure, eval_preamble_eq, leadText, declaratorText,
    ViewM.eval_render, partTexts, bind_assoc, pure_bind]
  cases standsAsParameter above model with
  | true =>
      simp only [if_true, map_eq_pure_bind, bind_assoc, pure_bind, String.append_assoc]
      rfl
  | false =>
      simp only [Bool.false_eq_true, if_false, String.append_assoc]
      rfl

end

end Java

/-- A child lies in the part it was reached through, and its owner is told by the place. -/
theorem Model.liesIn_iff_of_mem_children {owner model outer : Model} {part other : Part}
    (hmodel : model ∈ owner.children part) :
    model.liesIn other outer = true ↔ part = other ∧ outer.place = owner.place := by
  obtain ⟨position, hposition, rfl⟩ := List.mem_mapIdx.mp hmodel
  simp [liesIn, child]

namespace Java

/-- Fields are held by declarations, and by methods as parameters. -/
theorem holder_of_field {owner child : Node} {part : Part} (hchild : child ∈ owner.children part)
    (hkind : child.kind = .field) :
    (∃ declaration, owner = .declaration declaration ∧ part = .fields) ∨
      ∃ method, owner = .method method ∧ part = .params := by
  cases child with
  | field node =>
      cases owner with
      | declaration node =>
          cases node <;> cases part <;> simp_all [Node.children, ClassHead.children,
            InterfaceHead.children, EnumHead.children]
      | _ => cases part <;> simp_all [Node.children]
  | declaration node => cases node <;> simp [Node.kind] at hkind
  | _ => simp [Node.kind] at hkind

/-- The field was reached through the fields of a declaration, or is the root. -/
def IsOnItsOwn (above : List Model) (model : Model) : Prop :=
  ∀ owner ∈ above.head?, (∃ declaration, owner.node = .declaration declaration) ∧
    model ∈ owner.children .fields

section

variable {root model : Model} {above : List Model} {field : Field}

/-- In a tree the view's question has the right answer. -/
theorem isParameter_or_isOnItsOwn (hlineage : Lineage Writes root above model)
    (hnode : model.node = .field field) :
    IsParameter above model ∧ standsAsParameter above model = true ∨
      IsOnItsOwn above model ∧ standsAsParameter above model = false := by
  cases hlineage with
  | root => exact Or.inr ⟨nofun, rfl⟩
  | @child above owner model part howner hpart hmodel =>
      have hkind : model.node.kind = .field := by rw [hnode, Node.kind]
      rcases holder_of_field (Model.node_mem_of_mem_children hmodel) hkind with
        ⟨declaration, hholder, rfl⟩ | ⟨method, hholder, rfl⟩
      · right
        constructor
        · rintro outer ⟨⟩
          exact ⟨⟨declaration, hholder⟩, hmodel⟩
        · rw [standsAsParameter, Option.any_eq_false]
          intro outer _
          rw [Bool.eq_false_iff, ne_eq, Model.liesIn_iff_of_mem_children hmodel]
          exact fun hlies => absurd hlies.1 (by decide)
      · left
        have hmethod : owner.kind = .method := by rw [Model.kind, hholder, Node.kind]
        have hlies := (Model.liesIn_iff_of_mem_children hmodel).mpr ⟨rfl, rfl⟩
        exact ⟨⟨owner, rfl, ⟨method, hholder⟩, hmodel⟩, by simp [standsAsParameter, hmethod, hlies]⟩

theorem not_isParameter_of_isOnItsOwn (halone : IsOnItsOwn above model) :
    ¬ IsParameter above model := by
  rintro ⟨owner, howner, ⟨method, hmethod⟩, -⟩
  obtain ⟨⟨declaration, hdeclaration⟩, -⟩ := halone owner howner
  rw [hdeclaration] at hmethod
  exact nomatch hmethod

end

open Text (Closed Shows deeper)

section

variable {answer : (query : Query) → query.Answer} {reply : Call → Rendered} {model : Model}

/-- The replies to a view with a semicolon after each text. -/
def endedBySemicolon (reply : Call → Rendered) (call : Call) : Rendered :=
  (· ++ ";") <$> reply call

theorem places_fieldLines :
    (fieldLines model).Ensures answer reply
      (Places (endedBySemicolon reply) model id .fields) := by
  intro text htext child hchild inner rows hinner hclosed hshows
  simp only [fieldLines, ViewM.eval_bind, ViewM.eval_mapM, ViewM.eval_render, ViewM.eval_pure,
    Except.bind_eq_ok_iff] at htext
  obtain ⟨texts, htexts, hresult⟩ := htext
  obtain ⟨field, hfield, rfl⟩ := Except.map_eq_ok_iff.mp hinner
  rw [← Except.ok.inj hresult, List.map_id]
  exact hshows.intercalate_feed (List.mem_map_of_mem (mem_of_mapM_eq_ok htexts hchild hfield))

theorem placesFields_classView {head : ClassHead} {nested : List Declaration}
    (hnode : model.node = .declaration (.ofClass head nested)) :
    (classView model).Ensures answer reply
      (Places (endedBySemicolon reply) model deeper .fields) := by
  refine .expect_bind hnode rfl ?_
  refine .andThen fun _ => .andThen fun _ => .andThen fun _ => .andThen fun _ => ?_
  refine .bind places_fieldLines fun fields hfields => ?_
  exact .andThen fun _ => .andThen fun _ => .andThen fun _ => .pure (hfields.body (by simp) _)

theorem placesFields_interfaceView {head : InterfaceHead} {nested : List Declaration}
    (hnode : model.node = .declaration (.ofInterface head nested)) :
    (interfaceView model).Ensures answer reply
      (Places (endedBySemicolon reply) model deeper .fields) := by
  refine .expect_bind hnode rfl ?_
  refine .andThen fun _ => .andThen fun _ => .andThen fun _ => ?_
  refine .bind places_fieldLines fun fields hfields => ?_
  exact .andThen fun _ => .andThen fun _ => .pure (hfields.body (by simp) _)

theorem placesFields_enumView {head : EnumHead} {nested : List Declaration}
    (hnode : model.node = .declaration (.ofEnum head nested)) :
    (enumView model).Ensures answer reply
      (Places (endedBySemicolon reply) model deeper .fields) := by
  refine .expect_bind hnode rfl ?_
  refine .andThen fun _ => .andThen fun _ => .andThen fun _ => ?_
  refine .bind places_fieldLines fun fields hfields => ?_
  exact .andThen fun _ => .andThen fun _ => .andThen fun _ => .andThen fun _ =>
    .pure (hfields.body (by simp) _)

end

section

variable {above : List Model} {model : Model}

/-- A declaration of any sort writes its fields one level deeper, with a semicolon after each. -/
theorem placesFields_of_declaration {declaration : Declaration}
    (hnode : model.node = .declaration declaration) :
    ∀ text, Registry.java.text above model = .ok text →
      Places (endedBySemicolon (Registry.java.reply (model :: above))) model deeper .fields
        text := by
  cases declaration with
  | ofClass head nested => exact of_text_eq_ok hnode (placesFields_classView hnode)
  | ofInterface head nested => exact of_text_eq_ok hnode (placesFields_interfaceView hnode)
  | ofEnum head nested => exact of_text_eq_ok hnode (placesFields_enumView hnode)

/-- The text of a parameter is one of those between the parentheses of its method. -/
def InParentheses (above : List Model) (text : String) : Prop :=
  ∃ owner further whole front texts back, above = owner :: further ∧
    Registry.java.text further owner = .ok whole ∧ partTexts further owner .params = .ok texts ∧
    text ∈ texts ∧ whole = front ++ "(" ++ ViewM.joinNonEmpty ", " texts ++ ")" ++ back

/-- A method writes its parameters in parentheses, with commas between them. -/
theorem exists_params_of_method {method : Method} (hnode : model.node = .method method) :
    ∀ text, Registry.java.text above model = .ok text → ∃ front texts back,
      partTexts above model .params = .ok texts ∧
        text = front ++ "(" ++ ViewM.joinNonEmpty ", " texts ++ ")" ++ back := by
  refine of_text_eq_ok hnode (.expect_bind hnode rfl ?_)
  refine .andThen fun before => .andThen fun name => ?_
  refine .bind (.renderAll .params ", ") fun params hparams => ?_
  obtain ⟨texts, htexts, rfl⟩ := hparams
  refine .andThen fun throws => .pure
    ⟨before ++ Modifier.render method.modifiers ++ name, texts, throws ++ bodyText method.body,
      htexts, ?_⟩
  simp only [String.append_assoc]

end

/-- What a declaration writes after a field. -/
def fieldEnd (above : List Model) : String := if above.isEmpty then "" else ";"

/-- The lines of a field on its own: those of its comment, those of each of its annotations, and
those of the rest. -/
def fieldRows (above : List Model) (texts : List String) (declarator : String) :
    List (List Char) :=
  texts.flatMap (fun text => Text.segments '\n' text.toList) ++
    Text.segments '\n' (declarator ++ fieldEnd above).toList

theorem segments_onOwnLines (texts : List String) (rest : String) :
    Text.segments '\n' (onOwnLines texts ++ rest).toList =
      texts.flatMap (fun text => Text.segments '\n' text.toList) ++
        Text.segments '\n' rest.toList := by
  induction texts with
  | nil => simp [onOwnLines]
  | cons text texts ih =>
      have hfeed : ("\n" : String).toList = ['\n'] := rfl
      rw [onOwnLines, List.map_cons, String.join_cons, String.append_assoc, String.append_assoc,
        String.toList_append, String.toList_append, hfeed, List.singleton_append,
        Text.segments_append, List.flatMap_cons, List.append_assoc, ← ih]
      rfl

section

variable {root model : Model} {above : List Model} {whole : String}

/-- The lines of a field that is no parameter are lines of the whole. -/
theorem shows_field (hwhole : Registry.java.text [] root = .ok whole)
    (hlineage : Lineage Writes root above model) (halone : IsOnItsOwn above model) {text : String}
    (htext : Registry.java.text above model = .ok text) :
    Shows whole ((Text.segments '\n' (text ++ fieldEnd above).toList).map
      deeper^[above.countP fun outer => outer.kind ∈ Kind.declarations]) := by
  cases hlineage with
  | root =>
      obtain rfl := Except.ok.inj (hwhole.symm.trans htext)
      simp [fieldEnd, Shows]
  | @child above owner model part howner hpart hmodel =>
      obtain ⟨⟨declaration, hholder⟩, hfield⟩ := halone owner rfl
      have hkind := kind_mem_declarations hholder
      -- With the semicolon after it the last line of a field has an end, whatever its value is.
      have hend : fieldEnd (owner :: above) = ";" := rfl
      obtain ⟨⟨ownerText, hownerText⟩, -⟩ :=
        Moment.leads_view java_descends java_covers hwhole howner (get?_java owner.kind)
      have hclosed : Closed (Text.segments '\n' (text ++ ";").toList) := by
        rw [String.toList_append]
        exact Text.closed_segments (by decide) (by decide) text.toList
      have hreply : endedBySemicolon (Registry.java.reply (owner :: above)) (.render model) =
          .ok (text ++ ";") := by
        simp [endedBySemicolon, Registry.reply, htext]
      have hplaced := placesFields_of_declaration hholder _ hownerText model hfield _ _ hreply
        hclosed List.infix_rfl
      have hlines : owner.kind ∈ lineKinds :=
        List.mem_cons_of_mem _ (List.mem_cons_of_mem _ hkind)
      have hrows := shows_root hwhole howner hlines hownerText hclosed.map_deeper hplaced
      rw [List.map_map, ← Function.iterate_succ] at hrows
      rw [hend, List.countP_cons_of_pos (by simpa using hkind)]
      exact hrows

/-- The text of a parameter stands in the text of its method. -/
theorem inParentheses (hwhole : Registry.java.text [] root = .ok whole)
    (hlineage : Lineage Writes root above model) (hparameter : IsParameter above model)
    {text : String} (htext : Registry.java.text above model = .ok text) :
    InParentheses above text := by
  cases hlineage with
  | root =>
      obtain ⟨owner, howner, -⟩ := hparameter
      exact nomatch howner
  | @child above owner model part howner hpart hmodel =>
      obtain ⟨_, ⟨⟩, ⟨method, hholder⟩, hparam⟩ := hparameter
      obtain ⟨⟨ownerText, hownerText⟩, -⟩ :=
        Moment.leads_view java_descends java_covers hwhole howner (get?_java owner.kind)
      obtain ⟨front, texts, back, htexts, hresult⟩ := exists_params_of_method hholder _ hownerText
      exact ⟨owner, above, ownerText, front, texts, back, rfl, hownerText, htexts,
        mem_of_mapM_eq_ok htexts hparam htext, hresult⟩

/-- What is written before a field, from the texts of its annotations. -/
theorem leadText_of_marks {field : Field} (hnode : model.node = .field field)
    {marks : List String} (hmarks : partTexts above model .annotations = .ok marks) :
    leadText above model = .ok (if standsAsParameter above model then onOneLine marks
      else onOwnLines (commentTexts field ++ marks)) := by
  have hmark : ∀ text ∈ marks, text ≠ "" := by
    intro text htext
    obtain ⟨child, hchild, hreply⟩ := exists_of_mem_of_mapM_eq_ok hmarks htext
    obtain ⟨mark, -, hmark⟩ : ∃ mark ∈ field.annotations, Node.annotationUse mark = child.node := by
      simpa [hnode, Node.children] using Model.node_mem_of_mem_children hchild
    exact text_annotationUse_ne_empty hmark.symm hreply
  have hlines : ∀ text ∈ commentTexts field ++ marks, text ≠ "" := by
    intro text htext
    rcases List.mem_append.mp htext with hcomment | htext
    · obtain ⟨javadoc, -, rfl⟩ := List.mem_map.mp hcomment
      simp [comment, ← String.toList_inj]
    · exact hmark text htext
  cases hparameter : standsAsParameter above model with
  | true =>
      have hinline : marks.map inlineText = marks.map (· ++ " ") :=
        List.map_congr_left fun text htext => by simp [inlineText, hmark text htext]
      simp [leadText, hparameter, hmarks, hinline, onOneLine]
  | false =>
      have hown : (commentTexts field ++ marks).map ownLine =
          (commentTexts field ++ marks).map (· ++ "\n") :=
        List.map_congr_left fun text htext => by simp [ownLine, hlines text htext]
      simp only [leadText, hparameter, precedingLines, partTexts_javadoc hnode, hmarks, hown,
        ViewM.ok_bind, onOwnLines]
      rfl

/-- How a field of a tree that comes to a text is written. -/
theorem exists_text_field (hwhole : Registry.java.text [] root = .ok whole)
    (hlineage : Lineage Writes root above model) {field : Field}
    (hnode : model.node = .field field) :
    ∃ marks declarator text, partTexts above model .annotations = .ok marks ∧
      declaratorText above model field = .ok declarator ∧
      Registry.java.text above model = .ok text ∧
      text = (if standsAsParameter above model then onOneLine marks
        else onOwnLines (commentTexts field ++ marks)) ++ declarator := by
  obtain ⟨⟨text, htext⟩, -⟩ :=
    Moment.leads_view java_descends java_covers hwhole hlineage (get?_java model.kind)
  obtain ⟨hsound, hchildren⟩ := (exists_text_iff above model).mp ⟨text, htext⟩
  have hname : field.name ≠ "" := by simpa [Sound, hnode] using hsound
  obtain ⟨marks, hmarks⟩ : ∃ marks, partTexts above model .annotations = .ok marks := by
    apply exists_mapM_eq_ok_iff.mpr
    exact hchildren .annotations (by simp [Writes, hnode])
  have hspelled := htext
  rw [text_field hnode hname, leadText_of_marks hnode hmarks, ViewM.ok_bind,
    Except.bind_eq_ok_iff] at hspelled
  obtain ⟨declarator, hdeclarator, hresult⟩ := hspelled
  exact ⟨marks, declarator, text, hmarks, hdeclarator, htext, (Except.ok.inj hresult).symm⟩

end

/-- Parameters and fields are told apart everywhere.  A field that was reached as a parameter is
written behind its annotations on one line, without its comment and in the parentheses of its
method.  Any other is written below the lines of its comment and of each of its annotations, and
these are lines of the whole.  Where there is anything to lay out, the first form means a
parameter. -/
theorem field_on_one_line_iff_parameter {α : Type} {driver : Program α} {before : Moment α}
    (hbefore : Moment.Reached Registry.java driver before)
    (hidle : before.generator.isIdle = true) {root : Model} {whole : String} {after : Generator}
    (hrender : before.generator.render root = some (.ok whole, after)) {above : List Model}
    {model : Model} (hlineage : Lineage Writes root above model) {field : Field}
    (hnode : model.node = .field field) :
    ∃ marks declarator text, partTexts above model .annotations = .ok marks ∧
      declaratorText above model field = .ok declarator ∧
      (∀ other, Moment.HandsOver before.generator root above model other ↔ other = text) ∧
      (IsParameter above model ∧ text = onOneLine marks ++ declarator ∧
          InParentheses above text ∨
        IsOnItsOwn above model ∧ text = onOwnLines (commentTexts field ++ marks) ++ declarator ∧
          Shows whole ((fieldRows above (commentTexts field ++ marks) declarator).map
            deeper^[above.countP fun outer => outer.kind ∈ Kind.declarations])) ∧
      (commentTexts field ++ marks ≠ [] →
        (text = onOneLine marks ++ declarator ↔ IsParameter above model)) := by
  rw [Moment.generator_eq_new hbefore hidle] at hrender ⊢
  rw [Generator.render_new java_descends] at hrender
  obtain ⟨hwhole, -⟩ := Prod.mk.inj (Option.some.inj hrender)
  obtain ⟨marks, declarator, text, hmarks, hdeclarator, htext, hlayout⟩ :=
    exists_text_field hwhole hlineage hnode
  refine ⟨marks, declarator, text, hmarks, hdeclarator, fun other => ?_, ?_⟩
  · rw [handsOver_iff hwhole hlineage, htext, Except.ok.injEq, eq_comm]
  -- The view asks for the place of the field, so equal nodes elsewhere do not matter.
  rcases isParameter_or_isOnItsOwn hlineage hnode with
    ⟨hparameter, hanswer⟩ | ⟨halone, hanswer⟩
  · rw [hanswer, if_pos rfl] at hlayout
    constructor
    · exact Or.inl ⟨hparameter, hlayout, inParentheses hwhole hlineage hparameter htext⟩
    · exact fun _ => iff_of_true hlayout hparameter
  · rw [hanswer, if_neg (by decide)] at hlayout
    constructor
    · have hrows := shows_field hwhole hlineage halone htext
      rw [hlayout, String.append_assoc, segments_onOwnLines] at hrows
      exact Or.inr ⟨halone, hlayout, hrows⟩
    · intro hany
      apply iff_of_false
      · rw [hlayout, String.append_left_inj]
        exact (onOneLine_ne_onOwnLines hany).symm
      · exact not_isParameter_of_isOnItsOwn halone

namespace Twins

/-- A field with a comment and an annotation. -/
def twin : Field :=
  { Field.plain "x" (TypeRef.named "int") with
    javadoc := some (.ofText "t"), annotations := [⟨"Id", none, []⟩] }

/-- A method with an equal field as its parameter. -/
def method : Method := { Method.plain "m" TypeRef.void with params := [twin] }

def root : Model :=
  Model.root 0 (.declaration (.ofClass
    { ClassHead.named "A" with fields := [twin], methods := [method] } []))

def held : Model := root.child .fields 0 (.field twin)

def owner : Model := root.child .methods 0 (.method method)

def parameter : Model := owner.child .params 0 (.field twin)

def text : String :=
  "class A \x7b
    /**
     * t
     */
    @Id
    int x;

    void m(@Id int x) \x7b\x7d
\x7d"

theorem lineage_held : Lineage Writes root [root] held :=
  Lineage.root.child_at .fields 0 trivial rfl

theorem lineage_parameter : Lineage Writes root [owner, root] parameter :=
  (Lineage.root.child_at .methods 0 trivial rfl).child_at .params 0 trivial rfl

end Twins

/-- A field and an equal parameter of one class. -/
theorem equal_field_and_parameter :
    Moment.Reached Registry.java (.done ()) (Moment.start Registry.java (.done ())) ∧
      (Generator.new Registry.java).render Twins.root =
        some (.ok Twins.text, Generator.new Registry.java) ∧
      Moment.HandsOver (Generator.new Registry.java) Twins.root [Twins.root] Twins.held
        "/**\n * t\n */\n@Id\nint x" ∧
      Moment.HandsOver (Generator.new Registry.java) Twins.root [Twins.owner, Twins.root]
        Twins.parameter "@Id int x" := by
  have hbefore : Moment.Reached Registry.java (.done ()) (Moment.start Registry.java (.done ())) :=
    Relation.ReflTransGen.refl
  have hrender : (Generator.new Registry.java).render Twins.root =
      some (.ok Twins.text, Generator.new Registry.java) := by
    rw [Generator.render_new java_descends]
    rfl
  obtain ⟨marks, declarator, text, hmarks, hdeclarator, hhands, hheld, -⟩ :=
    field_on_one_line_iff_parameter hbefore rfl hrender Twins.lineage_held rfl
  obtain ⟨others, rest, line, hothers, hrest, hinline, hparameter, -⟩ :=
    field_on_one_line_iff_parameter hbefore rfl hrender Twins.lineage_parameter rfl
  obtain rfl : ["@Id"] = marks := Except.ok.inj hmarks
  obtain rfl : "int x" = declarator := Except.ok.inj hdeclarator
  obtain rfl : ["@Id"] = others := Except.ok.inj hothers
  obtain rfl : "int x" = rest := Except.ok.inj hrest
  refine ⟨hbefore, hrender, (hhands _).mpr ?_, (hinline _).mpr ?_⟩
  · obtain ⟨-, hlayout, -⟩ := hheld.resolve_left fun hfirst => by
      obtain ⟨owner, ⟨⟩, ⟨method, ⟨⟩⟩, -⟩ := hfirst.1
    exact hlayout.symm
  · obtain ⟨-, hlayout, -⟩ := hparameter.resolve_right fun hsecond => by
      obtain ⟨⟨declaration, ⟨⟩⟩, -⟩ := hsecond.1 Twins.owner rfl
    exact hlayout.symm

end Java

end TableScribe
