/-
The name that a constructor is written with.  It is not handed down to the
constructor but looked up among the renderings in progress; the nearest
declaration among them is the one that holds the constructor, whatever was
rendered before it.
-/
import TableScribe.Proofs.Java.Placement

namespace TableScribe

namespace Java

/-- The texts of the children in a part of a model, inside given models. -/
def partTexts (above : List Model) (model : Model) (part : Part) :
    Except RenderError (List String) :=
  (model.children part).mapM (Registry.java.text (model :: above))

/-- The lines of the comment and the annotations of a model. -/
def precedingLines (above : List Model) (model : Model) : Rendered := do
  let comments ← partTexts above model .javadoc
  let annotations ← partTexts above model .annotations
  return String.join ((comments ++ annotations).map ownLine)

/-- A keyword and the texts after it; nothing without texts. -/
def clauseText (keyword : String) (texts : List String) : String :=
  if texts.isEmpty then "" else keyword ++ ViewM.joinNonEmpty ", " texts

/-- The text of a constructor with a given name. -/
def constructorText (above : List Model) (model : Model) (method : Method) (name : String) :
    Rendered := do
  let before ← precedingLines above model
  let params ← partTexts above model .params
  let throws ← partTexts above model .throws
  return before ++ Modifier.render method.modifiers ++ name ++ "("
    ++ ViewM.joinNonEmpty ", " params ++ ")" ++ clauseText " throws " throws
    ++ bodyText method.body

section

variable {answer : (query : Query) → query.Answer} {reply : Call → Rendered}

theorem eval_typeClause_eq (keyword : String) (types : List Model) :
    (typeClause keyword types).eval answer reply =
      clauseText keyword <$> types.mapM fun type => reply (.render type) := by
  cases types with
  | nil => rfl
  | cons type types =>
      simp only [typeClause, List.isEmpty_cons, Bool.false_eq_true, if_false, ViewM.eval_bind,
        ViewM.eval_renderAll, ViewM.eval_pure, map_eq_pure_bind, List.mapM_cons, bind_assoc]
      cases reply (.render type) <;> cases types.mapM fun type => reply (.render type) <;> rfl

end

variable {above : List Model} {model : Model} {method : Method}

theorem eval_preamble_eq :
    (preamble model).eval (answersIn (model :: above)) (Registry.java.reply (model :: above)) =
      precedingLines above model := by
  simp only [preamble, ViewM.eval_bind, ViewM.eval_mapM, ViewM.eval_render, ViewM.eval_pure]
  rfl

/-- The text of a constructor has the name of the nearest declaration around it,
and there is none without such a declaration. -/
theorem text_constructor (hnode : model.node = .method method)
    (hconstructor : method.isConstructor = true) :
    Registry.java.text above model =
      match above.find? fun outer => Kind.declarations.contains outer.kind with
      | some owner => constructorText above model method (owner.name?.getD "")
      | none =>
        precedingLines above model >>= fun _ => .error (.noAncestorOfAny Kind.declarations) := by
  have hkind : model.kind = .method := congrArg Node.kind hnode
  have hanswer : answersIn (model :: above) (.lastOfAny Kind.declarations) =
      above.find? fun outer => Kind.declarations.contains outer.kind := by
    simp [answersIn, hkind, Kind.declarations]
  rw [Registry.text_eq java_descends (get?_java model.kind), hkind]
  simp only [view, methodView, methodName, hnode, Node.method?, hconstructor, if_true,
    ViewM.eval_bind, ViewM.eval_expect, Option.elim_some, ViewM.ok_bind, eval_preamble_eq,
    ViewM.eval_lastOfAny, hanswer]
  cases above.find? fun outer => Kind.declarations.contains outer.kind with
  | none => rfl
  | some owner =>
      simp only [Option.elim_some, ViewM.ok_bind, ViewM.eval_renderAll, eval_typeClause_eq,
        ViewM.eval_pure, map_eq_pure_bind, bind_assoc, pure_bind]
      rfl

/-- Right inside a declaration, that one is the nearest. -/
theorem text_constructor_held {owner : Model} {declaration : Declaration}
    (howner : owner.node = .declaration declaration) (hnode : model.node = .method method)
    (hconstructor : method.isConstructor = true) :
    Registry.java.text (owner :: above) model =
      constructorText (owner :: above) model method declaration.name := by
  have hname : owner.name?.getD "" = declaration.name := by
    rw [Model.name?, howner]
    rfl
  have hdeclaration := kind_mem_declarations howner
  rw [text_constructor hnode hconstructor, List.find?_cons_of_pos (by simpa), ← hname]

theorem exists_lines {text : String} {name : String}
    (htext : constructorText above model method name = .ok text) :
    ∃ front back, text = front ++ name ++ "(" ++ back ++ bodyText method.body ∧
      ∀ other, constructorText above model method other =
        .ok (front ++ other ++ "(" ++ back ++ bodyText method.body) := by
  simp only [constructorText, Except.bind_eq_ok_iff] at htext
  obtain ⟨lines, hlines, params, hparams, throws, hthrows, hresult⟩ := htext
  refine ⟨lines ++ Modifier.render method.modifiers,
    ViewM.joinNonEmpty ", " params ++ ")" ++ clauseText " throws " throws, ?_, fun other => ?_⟩
  · rw [← Except.ok.inj hresult]
    simp only [String.append_assoc]
  · simp only [constructorText, hlines, hparams, hthrows, ViewM.ok_bind, String.append_assoc]
    rfl

/-- Constructors with different names have different texts. -/
theorem constructorText_eq_ok_iff {text : String} {name : String}
    (htext : constructorText above model method name = .ok text) (other : String) :
    constructorText above model method other = .ok text ↔ other = name := by
  obtain ⟨front, back, rfl, hall⟩ := exists_lines htext
  rw [hall other, Except.ok.injEq]
  constructor
  · intro hsame
    simpa [String.append_assoc] using hsame
  · rintro rfl
    rfl

theorem exists_last_bodyText (body : Option (List String)) :
    ∃ front c, (bodyText body).toList = front ++ [c] ∧ c ≠ '\n' ∧ c ≠ '\r' := by
  cases body with
  | none => exact ⟨[], ';', rfl, by decide, by decide⟩
  | some lines =>
      simp only [bodyText]
      split
      case isTrue => exact ⟨[' ', '\x7b'], '\x7d', rfl, by decide, by decide⟩
      case isFalse =>
        have hclose : ("\n\x7d" : String).toList = ['\n'] ++ ['\x7d'] := rfl
        refine ⟨(" \x7b\n" ++ Text.indent (String.intercalate "\n" lines)).toList ++ ['\n'], '\x7d',
          ?_, by decide, by decide⟩
        rw [String.toList_append, hclose, List.append_assoc]

theorem closed_constructorText {text : String} {name : String}
    (htext : constructorText above model method name = .ok text) :
    Text.Closed (Text.segments '\n' text.toList) := by
  obtain ⟨front, back, rfl, -⟩ := exists_lines htext
  obtain ⟨body, c, hbody, hfeed, hreturn⟩ := exists_last_bodyText method.body
  rw [String.toList_append, hbody, ← List.append_assoc]
  exact Text.closed_segments hfeed hreturn _

theorem exists_text_javadoc {javadoc : Javadoc} (hnode : model.node = .javadoc javadoc) :
    ∃ text, Registry.java.text above model = .ok text := by
  refine (exists_text_iff above model).mpr ⟨by simp [Sound, hnode], fun part _ child hchild => ?_⟩
  simp [Model.children, hnode, Node.children] at hchild

/-- A constructor without a declaration around it has no text, for want of a name
if not for an annotation that is written before the name. -/
theorem text_constructor_outside (hnode : model.node = .method method)
    (hconstructor : method.isConstructor = true)
    (houtside : ∀ outer ∈ above, outer.kind ∉ Kind.declarations) :
    ∃ error, Registry.java.text above model = .error error ∧
      (partTexts above model .annotations = .error error ∨
        error = .noAncestorOfAny Kind.declarations ∧
          ∃ texts, partTexts above model .annotations = .ok texts) := by
  have hnone : above.find? (fun outer => Kind.declarations.contains outer.kind) = none := by
    simpa using houtside
  have hcomments : ∃ comments, partTexts above model .javadoc = .ok comments := by
    refine exists_mapM_eq_ok_iff.mpr fun comment hcomment => ?_
    have hmem := Model.node_mem_of_mem_children hcomment
    rw [hnode, Node.children] at hmem
    obtain ⟨javadoc, -, hjavadoc⟩ := List.mem_map.mp hmem
    exact exists_text_javadoc hjavadoc.symm
  obtain ⟨comments, hcomments⟩ := hcomments
  rw [text_constructor hnode hconstructor, hnone]
  simp only [precedingLines, hcomments, ViewM.ok_bind]
  cases hannotations : partTexts above model .annotations with
  | error error => exact ⟨error, rfl, Or.inl rfl⟩
  | ok texts => exact ⟨_, rfl, Or.inr ⟨rfl, texts, rfl⟩⟩

end Java

/-- Of some models to be rendered one after the other, the first that is not
rendered fails with an error. -/
def Generator.FailsAt (generator : Generator) (models : List Model) (error : RenderError) : Prop :=
  ∃ front model back, models = front ++ model :: back ∧
    (∀ earlier ∈ front, ∃ text, generator.render earlier = some (.ok text, generator)) ∧
    generator.render model = some (.error error, generator)

theorem Generator.failsAt_of_mapM_eq_error {registry : Registry}
    {writes : List Model → Model → Part → Prop} (hdescends : registry.Descends writes)
    {stack models : List Model} {error : RenderError}
    (herror : models.mapM (registry.text stack) = .error error) :
    ((new registry).enterAll stack).FailsAt models error := by
  obtain ⟨front, model, back, hmodels, hfront, hmodel⟩ := mapM_eq_error_iff.mp herror
  refine ⟨front, model, back, hmodels, fun earlier hearlier => ?_, ?_⟩
  · obtain ⟨text, htext⟩ := hfront earlier hearlier
    exact ⟨text, by rw [render_enterAll_new hdescends, htext]⟩
  · rw [render_enterAll_new hdescends, hmodel]

namespace Java

/-- A constructor in a tree that comes to a text is written with the name of its
holder, and its lines stand in the whole. -/
theorem exists_text_held {root owner : Model} {declaration : Declaration} {part : Part}
    {whole : String} (hwhole : Registry.java.text [] root = .ok whole)
    (howner : Lineage Writes root above owner) (hholder : owner.node = .declaration declaration)
    (hmodel : model ∈ owner.children part) (hnode : model.node = .method method)
    (hconstructor : method.isConstructor = true) :
    ∃ text,
      (∀ other, Moment.HandsOver (Generator.new Registry.java) root (owner :: above) model other ↔
        other = text) ∧
      (∀ name, constructorText (owner :: above) model method name = .ok text ↔
        name = declaration.name) ∧
      Text.Shows whole ((Text.segments '\n' text.toList).map
        Text.deeper^[(owner :: above).countP fun outer => outer.kind ∈ Kind.declarations]) := by
  have hlineage : Lineage Writes root (owner :: above) model :=
    .child howner (by simp [Writes, hholder]) hmodel
  obtain ⟨⟨text, htext⟩, -⟩ :=
    Moment.leads_view java_descends java_covers hwhole hlineage (get?_java model.kind)
  have hspelled : constructorText (owner :: above) model method declaration.name = .ok text := by
    rw [← htext, text_constructor_held hholder hnode hconstructor]
  have hkind : model.kind ∈ lineKinds := by
    rw [Model.kind, hnode, Node.kind]
    decide
  refine ⟨text, fun other => ?_, constructorText_eq_ok_iff hspelled, ?_⟩
  · rw [handsOver_iff hwhole hlineage, htext, Except.ok.injEq, eq_comm]
  · exact shows_root hwhole hlineage hkind htext (closed_constructorText hspelled) List.infix_rfl

/-- Outside all declarations the engine fails, and says which annotation it is if
it is one. -/
theorem render_constructor_outside (hnode : model.node = .method method)
    (hconstructor : method.isConstructor = true) {stack : List Model}
    (houtside : ∀ outer ∈ stack, outer.kind ∉ Kind.declarations) :
    ∃ error, ((Generator.new Registry.java).enterAll stack).render model =
        some (.error error, (Generator.new Registry.java).enterAll stack) ∧
      (((Generator.new Registry.java).enterAll (model :: stack)).FailsAt
          (model.children .annotations) error ∨
        error = .noAncestorOfAny Kind.declarations ∧
          ∀ mark ∈ model.children .annotations, ∃ text,
            ((Generator.new Registry.java).enterAll (model :: stack)).render mark =
              some (.ok text, (Generator.new Registry.java).enterAll (model :: stack))) := by
  obtain ⟨error, herror, hcause⟩ := text_constructor_outside hnode hconstructor houtside
  refine ⟨error, by rw [Generator.render_enterAll_new java_descends, herror], ?_⟩
  refine hcause.imp (Generator.failsAt_of_mapM_eq_error java_descends) ?_
  rintro ⟨rfl, hannotations⟩
  refine ⟨rfl, fun mark hmark => ?_⟩
  obtain ⟨text, htext⟩ := exists_mapM_eq_ok_iff.mp hannotations mark hmark
  exact ⟨text, by rw [Generator.render_enterAll_new java_descends, htext]⟩

/-- A constructor in a tree that is rendered has the name of the declaration that
holds it, however deep that one is nested and whatever was rendered before.  A
constructor outside all declarations is refused for want of a name, or for the
first annotation that cannot be written before the name. -/
theorem constructor_named_after_holder {α : Type} {driver : Program α} {before : Moment α}
    (hbefore : Moment.Reached Registry.java driver before) :
    (before.generator.isIdle = true → ∀ root whole after,
      before.generator.render root = some (.ok whole, after) →
      ∀ above owner declaration part model method, Lineage Writes root above owner →
        owner.node = .declaration declaration → model ∈ owner.children part →
        model.node = .method method → method.isConstructor = true →
          ∃ text,
            (∀ other, Moment.HandsOver before.generator root (owner :: above) model other ↔
              other = text) ∧
            (∀ name, constructorText (owner :: above) model method name = .ok text ↔
              name = declaration.name) ∧
            Text.Shows whole ((Text.segments '\n' text.toList).map
              Text.deeper^[(owner :: above).countP fun outer => outer.kind ∈ Kind.declarations])) ∧
    ((∀ kind ∈ Kind.declarations, before.generator.depth kind = 0) →
      ∀ model method, model.node = .method method → method.isConstructor = true →
        ∃ error, before.generator.render model = some (.error error, before.generator) ∧
          ((before.generator.enter model).FailsAt (model.children .annotations) error ∨
            error = .noAncestorOfAny Kind.declarations ∧
              ∀ mark ∈ model.children .annotations, ∃ text,
                (before.generator.enter model).render mark =
                  some (.ok text, before.generator.enter model))) := by
  constructor
  · intro hidle root whole after hrender above owner declaration part model method howner hholder
      hmodel hnode hconstructor
    rw [Moment.generator_eq_new hbefore hidle] at hrender ⊢
    rw [Generator.render_new java_descends] at hrender
    obtain ⟨hwhole, -⟩ := Prod.mk.inj (Option.some.inj hrender)
    exact exists_text_held hwhole howner hholder hmodel hnode hconstructor
  · intro hnone model method hnode hconstructor
    have hgenerator := Moment.generator_of_reached hbefore
    have houtside : ∀ outer ∈ before.stack, outer.kind ∉ Kind.declarations := by
      intro outer houter hdeclaration
      have hzero := hnone outer.kind hdeclaration
      rw [hgenerator, Generator.depth_enterAll_new, List.countP_eq_zero] at hzero
      exact hzero outer houter (by simp)
    rw [hgenerator]
    exact render_constructor_outside hnode hconstructor houtside

namespace Nesting

/-- A class in an interface, with a constructor. -/
def first : Declaration := .ofClass { ClassHead.named "B" with constructors := [.constructor] } []

/-- An enum after it, with a constructor among its methods. -/
def second : Declaration := .ofEnum ⟨"C", [], [], [], [], [], [.constructor], none, []⟩ []

def outer : Model :=
  Model.root 0 (.declaration (.ofInterface ⟨"A", [], [], [], [], [], none, []⟩ [first, second]))

def holder : Model := outer.child .nested 1 (.declaration second)

def constructor : Model := holder.child .methods 0 (.method .constructor)

def text : String :=
  "interface A \x7b
    class B \x7b
        B() \x7b\x7d
    \x7d

    enum C \x7b
        ;

        C() \x7b\x7d
    \x7d
\x7d"

/-- A constructor outside all declarations, with an annotation without a name. -/
def marked : Model :=
  Model.root 0 (.method { Method.constructor with annotations := [⟨"", none, []⟩] })

end Nesting

theorem constructor_named_after_enum_in_interface :
    Moment.Reached Registry.java (.done ()) (Moment.start Registry.java (.done ())) ∧
      (Moment.start Registry.java (.done ())).generator.isIdle = true ∧
      (Generator.new Registry.java).render Nesting.outer =
        some (.ok Nesting.text, Generator.new Registry.java) ∧
      ∃ text, Moment.HandsOver (Generator.new Registry.java) Nesting.outer
          [Nesting.holder, Nesting.outer] Nesting.constructor text ∧
        constructorText [Nesting.holder, Nesting.outer] Nesting.constructor .constructor "C" =
          .ok text ∧
        Text.Shows Nesting.text ((Text.segments '\n' text.toList).map Text.deeper^[2]) := by
  have hbefore : Moment.Reached Registry.java (.done ()) (Moment.start Registry.java (.done ())) :=
    Relation.ReflTransGen.refl
  have hrender : (Generator.new Registry.java).render Nesting.outer =
      some (.ok Nesting.text, Generator.new Registry.java) := by
    rw [Generator.render_new java_descends]
    rfl
  have hholder : Lineage Writes Nesting.outer [Nesting.outer] Nesting.holder :=
    Lineage.root.child_at .nested 1 trivial rfl
  obtain ⟨text, hhands, hname, hshows⟩ := (constructor_named_after_holder hbefore).1 rfl _ _ _
    hrender _ _ Nesting.second .methods Nesting.constructor .constructor hholder rfl
    (Model.child_mem_children rfl) rfl rfl
  exact ⟨hbefore, rfl, hrender, text, (hhands text).mpr rfl, (hname "C").mpr rfl, hshows⟩

/-- The annotations come first, so their errors do. -/
theorem constructor_outside_refused_for_annotation :
    (∀ kind ∈ Kind.declarations, (Generator.new Registry.java).depth kind = 0) ∧
      (Generator.new Registry.java).render Nesting.marked =
        some (.error (.invalidModel .annotationUse "annotation has no name"),
          Generator.new Registry.java) ∧
      ∀ after, (Generator.new Registry.java).render Nesting.marked ≠
        some (.error (.noAncestorOfAny Kind.declarations), after) := by
  have hrender : (Generator.new Registry.java).render Nesting.marked =
      some (.error (.invalidModel .annotationUse "annotation has no name"),
        Generator.new Registry.java) := by
    rw [Generator.render_new java_descends]
    rfl
  refine ⟨by decide, hrender, fun after => ?_⟩
  rw [hrender]
  simp

end Java

end TableScribe
