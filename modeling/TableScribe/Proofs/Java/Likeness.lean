/-
What the Java views read.  A view reads its own node apart from the children,
the texts of the children, and of the models around it no more than names and
places.  Where texts are put on lines or joined, an empty text is as good as no
child.
-/
import TableScribe.Proofs.Java.Writing
import TableScribe.Proofs.Render.Ensuring

namespace TableScribe

/-- A node apart from its children. -/
def Node.bare : Node → Node
  | .file node => .file { node with javadoc := none, imports := [], declarations := [] }
  | .declaration (.ofClass head _) =>
    .declaration (.ofClass { ClassHead.named head.name with
      modifiers := head.modifiers, generics := head.generics } [])
  | .declaration (.ofInterface head _) =>
    .declaration (.ofInterface
      ⟨head.name, head.modifiers, head.generics, [], [], [], none, []⟩ [])
  | .declaration (.ofEnum head _) =>
    .declaration (.ofEnum ⟨head.name, head.modifiers, [], [], [], [], [], none, []⟩ [])
  | .constant node => .constant { node with values := [] }
  | .annotationUse node =>
    .annotationUse ⟨node.name, none, node.params.map fun param => (param.1, .null)⟩
  | .field node =>
    .field { Field.plain node.name TypeRef.void with modifiers := node.modifiers }
  | .method node =>
    .method { node with
      returns := TypeRef.void, params := [], throws := [], javadoc := none, annotations := [] }
  | .typeRef node => .typeRef { node with generics := [] }
  | node => node

theorem Node.kind_bare (node : Node) : node.bare.kind = node.kind := by
  cases node with
  | declaration node => cases node <;> rfl
  | _ => rfl

theorem Node.name?_bare (node : Node) : node.bare.name? = node.name? := by
  cases node with
  | declaration node => cases node <;> rfl
  | _ => rfl

theorem Model.isEmpty_children (model : Model) (part : Part) :
    (model.children part).isEmpty = (model.node.children part).isEmpty := by
  rw [← Model.map_node_children, List.isEmpty_map]

/-- Whether a reply shows in a place where empty texts do not. -/
def Rendered.isShown : Rendered → Bool
  | .ok text => !text.isEmpty
  | .error _ => true

/-- The replies to the requests for the children in one part. -/
def Model.replies (reply : Call → Rendered) (model : Model) (part : Part) : List Rendered :=
  (model.children part).map fun child => reply (.render child)

theorem Model.mapM_reply (reply : Call → Rendered) (model : Model) (part : Part) :
    ((model.children part).mapM fun child => reply (.render child)) =
      (model.replies reply part).mapM id := by
  rw [replies, List.mapM_map]
  rfl

theorem mapM_filter_isShown (replies : List Rendered) :
    (replies.filter Rendered.isShown).mapM id =
      List.filter (fun text => !text.isEmpty) <$> replies.mapM id := by
  induction replies with
  | nil => rfl
  | cons reply rest ih =>
      cases reply with
      | error error => rfl
      | ok text =>
          cases hempty : text.isEmpty with
          | true =>
              rw [List.filter_cons_of_neg (by simp [Rendered.isShown, hempty]), ih]
              cases hrest : rest.mapM id <;> simp [List.mapM_cons, hrest, hempty]
          | false =>
              rw [List.filter_cons_of_pos (by simp [Rendered.isShown, hempty]), List.mapM_cons, ih]
              cases hrest : rest.mapM id <;> simp [List.mapM_cons, hrest, hempty]

/-- A step that goes on with texts regardless of empty ones comes to the same
from replies that show the same. -/
theorem bind_eq_of_shown {β : Type} {replies others : List Rendered}
    {next : List String → Except RenderError β}
    (hshown : replies.filter Rendered.isShown = others.filter Rendered.isShown)
    (hnext : ∀ texts, next (texts.filter fun text => !text.isEmpty) = next texts) :
    replies.mapM id >>= next = others.mapM id >>= next := by
  have hfilter (replies : List Rendered) :
      replies.mapM id >>= next = (replies.filter Rendered.isShown).mapM id >>= next := by
    rw [mapM_filter_isShown]
    cases replies.mapM id with
    | error error => rfl
    | ok texts => exact (hnext texts).symm
  rw [hfilter, hshown, ← hfilter]

/-- Texts that are put together as they are leave no trace of empty ones. -/
theorem join_map_filter {write : String → String} (hwrite : write "" = "") (texts : List String) :
    String.join ((texts.filter fun text => !text.isEmpty).map write) =
      String.join (texts.map write) := by
  induction texts with
  | nil => rfl
  | cons text rest ih =>
      cases hempty : text.isEmpty with
      | true =>
          have htext : text = "" := String.isEmpty_iff.mp hempty
          rw [List.filter_cons_of_neg (by simp [hempty]), ih, List.map_cons, String.join_cons,
            htext, hwrite, String.empty_append]
      | false =>
          rw [List.filter_cons_of_pos (by simp [hempty]), List.map_cons, List.map_cons,
            String.join_cons, String.join_cons, ih]

namespace Java

/-- The parts whose children leave no trace when their text is empty. -/
def tracelessParts : List Part :=
  [.javadoc, .annotations, .imports, .constants, .constructors, .methods]

/-- Two models that make no difference to what is written inside them. -/
structure Alike (model other : Model) : Prop where
  bare : model.node.bare = other.node.bare
  place : model.place = other.place
  declaresAtTop : ∀ name, declaresAtTop name model.node = declaresAtTop name other.node

/-- The replies for the children of two models agree; in the traceless parts
those do that show. -/
structure Agree (reply reply' : Call → Rendered) (model other : Model) : Prop where
  shown : ∀ part ∈ tracelessParts, (model.replies reply part).filter Rendered.isShown =
    (other.replies reply' part).filter Rendered.isShown
  exact : ∀ part ∉ tracelessParts, model.replies reply part = other.replies reply' part

namespace Alike

variable {model other : Model} {above above' : List Model}

theorem refl (model : Model) : Alike model model := ⟨rfl, rfl, fun _ => rfl⟩

theorem kind_eq (halike : Alike model other) : model.kind = other.kind := by
  have hkind := congrArg Node.kind halike.bare
  rwa [Node.kind_bare, Node.kind_bare] at hkind

theorem name?_eq (halike : Alike model other) : model.name? = other.name? := by
  have hname := congrArg Node.name? halike.bare
  rwa [Node.name?_bare, Node.name?_bare] at hname

/-- What is looked up by kind in alike surroundings is alike. -/
theorem find? (habove : List.Forall₂ Alike above above') (wanted : Kind → Bool) :
    Option.Rel Alike (above.find? fun model => wanted model.kind)
      (above'.find? fun model => wanted model.kind) := by
  induction habove with
  | nil => exact .none
  | @cons model other rest rest' halike _ ih =>
      cases hwanted : wanted model.kind with
      | true =>
          have hother : wanted other.kind = true := halike.kind_eq ▸ hwanted
          simpa [hwanted, hother] using Option.Rel.some halike
      | false =>
          have hother : wanted other.kind = false := halike.kind_eq ▸ hwanted
          simpa [hwanted, hother] using ih

theorem any_eq {first second : Option Model} {p q : Model → Bool}
    (hrel : Option.Rel Alike first second)
    (hsame : ∀ model other, Alike model other → p model = q other) :
    first.any p = second.any q := by
  cases hrel with
  | some halike => exact hsame _ _ halike
  | none => rfl

/-- Models that are alike take the same names. -/
theorem takes_eq (habove : List.Forall₂ Alike above above') : takes above = takes above' := by
  funext simple
  have hname {kind : Kind} :
      (above.find? fun model => model.kind = kind).any (fun owner => owner.name? == some simple) =
        (above'.find? fun model => model.kind = kind).any fun owner =>
          owner.name? == some simple :=
    any_eq (find? habove fun found => found = kind) fun model other halike => by
      rw [halike.name?_eq]
  have hfile : (above.find? fun model => model.kind = .file).any
        (fun file => Java.declaresAtTop simple file.node) =
      (above'.find? fun model => model.kind = .file).any fun file =>
        Java.declaresAtTop simple file.node :=
    any_eq (find? habove fun found => found = .file) fun model other halike =>
      halike.declaresAtTop simple
  simp only [takes, hfile, hname]

theorem printedName_eq (habove : List.Forall₂ Alike above above') :
    printedName above = printedName above' := by
  funext name
  rw [printedName, takes_eq habove, printedName]

/-- A field is a parameter by its place, and models that are alike have the same
places. -/
theorem standsAsParameter_eq (hplace : model.place = other.place)
    (habove : List.Forall₂ Alike above above') :
    standsAsParameter above model = standsAsParameter above' other := by
  refine any_eq (find? habove fun found => found = .method) fun owner owner' howner => ?_
  simp only [Model.liesIn, hplace, howner.place]

/-- What goes on with the name of the model around is the same in alike
surroundings. -/
theorem eval_lastOfAny_bind {α : Type} {reply reply' : Call → Rendered} (kinds : List Kind)
    (habove : List.Forall₂ Alike above above') (next : Option String → Except RenderError α) :
    ((ViewM.lastOfAny kinds).eval (answersIn above) reply >>= fun owner => next owner.name?) =
      (ViewM.lastOfAny kinds).eval (answersIn above') reply' >>= fun owner => next owner.name? := by
  have hfound := find? habove kinds.contains
  simp only [ViewM.eval_lastOfAny, answersIn]
  generalize above.find? (fun model => kinds.contains model.kind) = first at hfound ⊢
  generalize above'.find? (fun model => kinds.contains model.kind) = second at hfound ⊢
  cases hfound with
  | some halike => exact congrArg next halike.name?_eq
  | none => rfl

end Alike

theorem eval_requireName {answer : (query : Query) → query.Answer} {reply : Call → Rendered}
    (kind : Kind) (name : String) :
    (requireName kind name).eval answer reply =
      if name.isEmpty then .error (.invalidModel kind "declaration has no name") else .ok () := by
  unfold requireName
  split <;> rfl

/-- The innermost method that the view of a field finds is the one around the
field. -/
theorem eval_isParameter {above : List Model} {model : Model} {reply : Call → Rendered}
    (hkind : model.kind = .field) :
    (isParameter model).eval (answersIn (model :: above)) reply =
      .ok (standsAsParameter above model) := by
  have hfind : (model :: above).find? (fun outer => outer.kind = .method) =
      above.find? fun outer => outer.kind = .method := by
    simp [hkind]
  unfold standsAsParameter
  rw [← hfind]
  rfl

section

variable {answer answer' : (query : Query) → query.Answer} {reply reply' : Call → Rendered}
  {model other : Model}

theorem eval_importView {line : Import} (hnode : model.node = .importLine line)
    (hother : other.node = .importLine line) :
    (importView model).eval answer reply = (importView other).eval answer' reply' := by
  simp only [importView, ViewM.eval_bind, ViewM.eval_expect, hnode, hother, Node.importLine?,
    Option.elim_some, ViewM.ok_bind, ViewM.eval_ite, ViewM.eval_throw, ViewM.eval_pure]

theorem eval_javadocView {javadoc : Javadoc} (hnode : model.node = .javadoc javadoc)
    (hother : other.node = .javadoc javadoc) :
    (javadocView model).eval answer reply = (javadocView other).eval answer' reply' := by
  simp only [javadocView, ViewM.eval_bind, ViewM.eval_expect, hnode, hother, Node.javadoc?,
    Option.elim_some, ViewM.ok_bind, ViewM.eval_pure]

theorem eval_valueView {value : Value} (hnode : model.node = .value value)
    (hother : other.node = .value value) :
    (valueView model).eval answer reply = (valueView other).eval answer' reply' := by
  simp only [valueView, ViewM.eval_bind, ViewM.eval_expect, hnode, hother, Node.value?,
    Option.elim_some, ViewM.ok_bind, ViewM.eval_ofExcept]

end

namespace Agree

variable {reply reply' : Call → Rendered} {model other : Model}

section

variable (answer answer' : (query : Query) → query.Answer)

theorem eval_children (hagree : Agree reply reply' model other) {part : Part}
    (hpart : part ∉ tracelessParts) :
    ((model.children part).mapM ViewM.render).eval answer reply =
      ((other.children part).mapM ViewM.render).eval answer' reply' := by
  simp only [ViewM.eval_mapM, ViewM.eval_render, Model.mapM_reply, hagree.exact part hpart]

/-- In every part the replies that show are the same. -/
theorem filter_replies (hagree : Agree reply reply' model other) (part : Part) :
    (model.replies reply part).filter Rendered.isShown =
      (other.replies reply' part).filter Rendered.isShown := by
  by_cases hpart : part ∈ tracelessParts
  · exact hagree.shown part hpart
  · rw [hagree.exact part hpart]

/-- A list of children is written alike in every part, as empty texts are left
out of it. -/
theorem eval_renderAll (hagree : Agree reply reply' model other) (part : Part)
    (separator : String) :
    (ViewM.renderAll (model.children part) separator).eval answer reply =
      (ViewM.renderAll (other.children part) separator).eval answer' reply' := by
  have hnext (texts : List String) :
      ViewM.joinNonEmpty separator (texts.filter fun text => !text.isEmpty) =
        ViewM.joinNonEmpty separator texts := by
    simp [ViewM.joinNonEmpty, List.filter_filter]
  simp only [ViewM.eval_renderAll, Model.mapM_reply, map_eq_pure_bind]
  exact bind_eq_of_shown (hagree.filter_replies part) fun texts => by rw [hnext]

theorem eval_preamble (hagree : Agree reply reply' model other) :
    (preamble model).eval answer reply = (preamble other).eval answer' reply' := by
  have hjoin (comments annotations : List String) :
      String.join ((comments ++ annotations).map ownLine) =
        String.join ((comments.filter fun text => !text.isEmpty).map ownLine) ++
          String.join ((annotations.filter fun text => !text.isEmpty).map ownLine) := by
    rw [join_map_filter rfl, join_map_filter rfl, List.map_append, String.join_append]
  simp only [preamble, ViewM.eval_bind, ViewM.eval_mapM, ViewM.eval_render, ViewM.eval_pure,
    Model.mapM_reply, hjoin]
  rw [bind_eq_of_shown (hagree.filter_replies .javadoc) fun texts => by simp [List.filter_filter]]
  congr 1
  funext comments
  exact bind_eq_of_shown (hagree.filter_replies .annotations) fun texts => by
    simp [List.filter_filter]

/-- A part that leaves traces has children in both models or in neither. -/
theorem isEmpty_children (hagree : Agree reply reply' model other) {part : Part}
    (hpart : part ∉ tracelessParts) :
    (model.node.children part).isEmpty = (other.node.children part).isEmpty := by
  have hreplies := congrArg List.isEmpty (hagree.exact part hpart)
  simpa only [Model.replies, List.isEmpty_map, Model.isEmpty_children] using hreplies

theorem eval_typeClause (hagree : Agree reply reply' model other) (keyword : String) {part : Part}
    (hpart : part ∉ tracelessParts) :
    (typeClause keyword (model.children part)).eval answer reply =
      (typeClause keyword (other.children part)).eval answer' reply' := by
  simp only [typeClause, Model.isEmpty_children, hagree.isEmpty_children hpart]
  split
  · rfl
  · simp only [ViewM.eval_bind, hagree.eval_renderAll answer answer', ViewM.eval_pure]

theorem eval_fieldLines (hagree : Agree reply reply' model other) :
    (fieldLines model).eval answer reply = (fieldLines other).eval answer' reply' := by
  have hfields : Part.fields ∉ tracelessParts := by decide
  simp only [fieldLines, ViewM.eval_bind, ViewM.eval_pure,
    hagree.eval_children answer answer' hfields]

end

section

variable (answer answer' : (query : Query) → query.Answer)

theorem eval_fileView (hagree : Agree reply reply' model other) {file file' : File}
    (hnode : model.node = .file file) (hother : other.node = .file file')
    (hbare : model.node.bare = other.node.bare) :
    (fileView model).eval answer reply = (fileView other).eval answer' reply' := by
  simp only [hnode, hother, Node.bare, Node.file.injEq, File.mk.injEq] at hbare
  obtain ⟨-, hpackage, -⟩ := hbare
  simp only [fileView, ViewM.eval_bind, ViewM.eval_expect, hnode, hother, Node.file?,
    Option.elim_some, ViewM.ok_bind, hagree.eval_renderAll answer answer', hpackage]
  simp only [ViewM.eval_mapM, ViewM.eval_render, ViewM.eval_pure, Model.mapM_reply]
  refine bind_eq_of_shown (hagree.filter_replies .javadoc) fun texts => ?_
  simp only [ViewM.joinNonEmpty, List.filter_append, List.filter_filter, Bool.and_self]

theorem eval_classView (hagree : Agree reply reply' model other) {head head' : ClassHead}
    {nested nested' : List Declaration}
    (hnode : model.node = .declaration (.ofClass head nested))
    (hother : other.node = .declaration (.ofClass head' nested'))
    (hbare : model.node.bare = other.node.bare) :
    (classView model).eval answer reply = (classView other).eval answer' reply' := by
  have hparents : Part.parents ∉ tracelessParts := by decide
  have hinterfaces : Part.interfaces ∉ tracelessParts := by decide
  simp only [hnode, hother, Node.bare, ClassHead.named, Node.declaration.injEq,
    Declaration.ofClass.injEq, ClassHead.mk.injEq, and_true] at hbare
  obtain ⟨hname, hmodifiers, hgenerics⟩ := hbare
  simp only [classView, memberSection, ViewM.eval_bind, ViewM.eval_expect, hnode, hother,
    Node.class?, Option.elim_some, ViewM.ok_bind, eval_requireName,
    hagree.eval_preamble answer answer', hagree.eval_children answer answer' hparents,
    hagree.eval_typeClause answer answer' _ hinterfaces, hagree.eval_fieldLines answer answer',
    hagree.eval_renderAll answer answer', hmodifiers, hgenerics, hname, ViewM.eval_pure]

theorem eval_interfaceView (hagree : Agree reply reply' model other) {head head' : InterfaceHead}
    {nested nested' : List Declaration}
    (hnode : model.node = .declaration (.ofInterface head nested))
    (hother : other.node = .declaration (.ofInterface head' nested'))
    (hbare : model.node.bare = other.node.bare) :
    (interfaceView model).eval answer reply = (interfaceView other).eval answer' reply' := by
  have hparents : Part.parents ∉ tracelessParts := by decide
  simp only [hnode, hother, Node.bare, Node.declaration.injEq, Declaration.ofInterface.injEq,
    InterfaceHead.mk.injEq, and_true] at hbare
  obtain ⟨hname, hmodifiers, hgenerics⟩ := hbare
  simp only [interfaceView, memberSection, ViewM.eval_bind, ViewM.eval_expect, hnode, hother,
    Node.interface?, Option.elim_some, ViewM.ok_bind, eval_requireName,
    hagree.eval_preamble answer answer', hagree.eval_typeClause answer answer' _ hparents,
    hagree.eval_fieldLines answer answer', hagree.eval_renderAll answer answer', hmodifiers,
    hgenerics, hname, ViewM.eval_pure]

theorem eval_enumView (hagree : Agree reply reply' model other) {head head' : EnumHead}
    {nested nested' : List Declaration}
    (hnode : model.node = .declaration (.ofEnum head nested))
    (hother : other.node = .declaration (.ofEnum head' nested'))
    (hbare : model.node.bare = other.node.bare) :
    (enumView model).eval answer reply = (enumView other).eval answer' reply' := by
  have hinterfaces : Part.interfaces ∉ tracelessParts := by decide
  simp only [hnode, hother, Node.bare, Node.declaration.injEq, Declaration.ofEnum.injEq,
    EnumHead.mk.injEq, and_true] at hbare
  obtain ⟨hname, hmodifiers⟩ := hbare
  simp only [enumView, memberSection, ViewM.eval_bind, ViewM.eval_expect, hnode, hother,
    Node.enum?, Option.elim_some, ViewM.ok_bind, eval_requireName,
    hagree.eval_preamble answer answer', hagree.eval_typeClause answer answer' _ hinterfaces,
    hagree.eval_fieldLines answer answer', hagree.eval_renderAll answer answer', hmodifiers,
    hname, ViewM.eval_pure]

theorem eval_constantView (hagree : Agree reply reply' model other) {constant constant' : Constant}
    (hnode : model.node = .constant constant) (hother : other.node = .constant constant')
    (hbare : model.node.bare = other.node.bare) :
    (constantView model).eval answer reply = (constantView other).eval answer' reply' := by
  have hpart : Part.values ∉ tracelessParts := by decide
  have hvalues : constant.values.isEmpty = constant'.values.isEmpty := by
    simpa [Node.children, hnode, hother] using hagree.isEmpty_children hpart
  simp only [hnode, hother, Node.bare, Node.constant.injEq, Constant.mk.injEq, and_true] at hbare
  simp only [constantView, ViewM.eval_bind, ViewM.eval_expect, hnode, hother, Node.constant?,
    Option.elim_some, ViewM.ok_bind, ViewM.eval_ite, ViewM.eval_throw, ViewM.eval_pure,
    hagree.eval_renderAll answer answer', hvalues, hbare]

end

section

variable {above above' : List Model}

theorem eval_annotationView (hagree : Agree reply reply' model other) {mark mark' : Annotation}
    (hnode : model.node = .annotationUse mark) (hother : other.node = .annotationUse mark')
    (hbare : model.node.bare = other.node.bare)
    (hstack : List.Forall₂ Alike (model :: above) (other :: above')) :
    (annotationView model).eval (answersIn (model :: above)) reply =
      (annotationView other).eval (answersIn (other :: above')) reply' := by
  have hvalue : Part.value ∉ tracelessParts := by decide
  have hparams : Part.params ∉ tracelessParts := by decide
  simp only [hnode, hother, Node.bare, Node.annotationUse.injEq, Annotation.mk.injEq,
    true_and] at hbare
  obtain ⟨hname, hkeys⟩ := hbare
  have hempty : mark.params.isEmpty = mark'.params.isEmpty := by
    simpa only [List.isEmpty_map] using congrArg List.isEmpty hkeys
  have hnamed (values : List String) : List.zipWith namedArgument mark.params values =
      List.zipWith namedArgument mark'.params values := by
    -- An argument is named by the key alone, whatever value stands beside it.
    have hkey (params : List (String × Value)) : List.zipWith namedArgument params values =
        List.zipWith namedArgument (params.map fun param => (param.1, .null)) values := by
      rw [List.zipWith_map_left]
      rfl
    rw [hkey, hkeys, ← hkey]
  simp only [annotationView, ViewM.eval_bind, ViewM.eval_expect, hnode, hother,
    Node.annotationUse?, Option.elim_some, ViewM.ok_bind, ViewM.eval_ite, ViewM.eval_throw,
    ViewM.eval_pure, eval_visibleName, Alike.printedName_eq hstack, hname, hempty, hnamed,
    hagree.eval_children _ (answersIn (other :: above')) hvalue,
    hagree.eval_children _ (answersIn (other :: above')) hparams]

theorem eval_typeView (hagree : Agree reply reply' model other) {type type' : TypeRef}
    (hnode : model.node = .typeRef type) (hother : other.node = .typeRef type')
    (hbare : model.node.bare = other.node.bare)
    (hstack : List.Forall₂ Alike (model :: above) (other :: above')) :
    (typeView model).eval (answersIn (model :: above)) reply =
      (typeView other).eval (answersIn (other :: above')) reply' := by
  have hpart : Part.generics ∉ tracelessParts := by decide
  have hgenerics : type.generics.isEmpty = type'.generics.isEmpty := by
    simpa [Node.children, hnode, hother] using hagree.isEmpty_children hpart
  simp only [hnode, hother, Node.bare, Node.typeRef.injEq, TypeRef.mk.injEq, true_and] at hbare
  obtain ⟨hname, hdims⟩ := hbare
  simp only [typeView, ViewM.eval_bind, ViewM.eval_expect, hnode, hother, Node.typeRef?,
    Option.elim_some, ViewM.ok_bind, ViewM.eval_ite, ViewM.eval_throw, ViewM.eval_pure,
    eval_visibleName, Alike.printedName_eq hstack, hname, hdims, hgenerics,
    hagree.eval_renderAll _ (answersIn (other :: above'))]

/-- A field is written alike once it stands in the same place. -/
theorem eval_fieldView (hagree : Agree reply reply' model other) {field field' : Field}
    (hnode : model.node = .field field) (hother : other.node = .field field')
    (hbare : model.node.bare = other.node.bare) (hplace : model.place = other.place)
    (habove : List.Forall₂ Alike above above') :
    (fieldView model).eval (answersIn (model :: above)) reply =
      (fieldView other).eval (answersIn (other :: above')) reply' := by
  have hkind : model.kind = .field := congrArg Node.kind hnode
  have hkind' : other.kind = .field := congrArg Node.kind hother
  have htype : Part.type ∉ tracelessParts := by decide
  have hvalue : Part.value ∉ tracelessParts := by decide
  have hinline : inlineText "" = "" := rfl
  have hparameter : standsAsParameter above model = standsAsParameter above' other :=
    Alike.standsAsParameter_eq hplace habove
  simp only [hnode, hother, Node.bare, Field.plain, Node.field.injEq, Field.mk.injEq, true_and,
    and_true] at hbare
  obtain ⟨hname, hmodifiers⟩ := hbare
  simp only [fieldView, ViewM.eval_bind, ViewM.eval_expect, hnode, hother, Node.field?,
    Option.elim_some, ViewM.ok_bind, ViewM.eval_ite, ViewM.eval_throw, ViewM.eval_pure,
    eval_isParameter hkind, eval_isParameter hkind', hparameter, hname, hmodifiers,
    hagree.eval_preamble _ (answersIn (other :: above')),
    hagree.eval_children _ (answersIn (other :: above')) htype,
    hagree.eval_children _ (answersIn (other :: above')) hvalue]
  split
  case isTrue => rfl
  case isFalse =>
    split
    case isTrue =>
      simp only [ViewM.eval_mapM, ViewM.eval_render, Model.mapM_reply]
      exact bind_eq_of_shown (hagree.filter_replies .annotations) fun texts => by
        simp only [join_map_filter hinline]
    case isFalse => rfl

/-- A constructor is named alike, after declarations of one name. -/
theorem eval_methodName (hagree : Agree reply reply' model other) {method method' : Method}
    (hname : method.name = method'.name)
    (hconstructor : method.isConstructor = method'.isConstructor)
    (hstack : List.Forall₂ Alike (model :: above) (other :: above')) :
    (methodName method model).eval (answersIn (model :: above)) reply =
      (methodName method' other).eval (answersIn (other :: above')) reply' := by
  have hreturns : Part.returns ∉ tracelessParts := by decide
  simp only [methodName, hname, hconstructor]
  split
  · simp only [ViewM.eval_bind, ViewM.eval_pure]
    exact Alike.eval_lastOfAny_bind Kind.declarations hstack fun owner => .ok (owner.getD "")
  · split
    · rfl
    · simp only [ViewM.eval_bind, ViewM.eval_pure,
        hagree.eval_children _ (answersIn (other :: above')) hreturns]

theorem eval_methodView (hagree : Agree reply reply' model other) {method method' : Method}
    (hnode : model.node = .method method) (hother : other.node = .method method')
    (hbare : model.node.bare = other.node.bare)
    (hstack : List.Forall₂ Alike (model :: above) (other :: above')) :
    (methodView model).eval (answersIn (model :: above)) reply =
      (methodView other).eval (answersIn (other :: above')) reply' := by
  have hthrows : Part.throws ∉ tracelessParts := by decide
  simp only [hnode, hother, Node.bare, Node.method.injEq, Method.mk.injEq, true_and,
    and_true] at hbare
  obtain ⟨hname, hconstructor, hmodifiers, hbody⟩ := hbare
  simp only [methodView, ViewM.eval_bind, ViewM.eval_expect, hnode, hother, Node.method?,
    Option.elim_some, ViewM.ok_bind, ViewM.eval_pure, hmodifiers, hbody,
    hagree.eval_preamble _ (answersIn (other :: above')),
    hagree.eval_methodName hname hconstructor hstack,
    hagree.eval_renderAll _ (answersIn (other :: above')),
    hagree.eval_typeClause _ (answersIn (other :: above')) _ hthrows]

/-- In alike surroundings a view comes to the same on alike models, if the
replies for their children agree. -/
theorem eval_view (hagree : Agree reply reply' model other) (halike : Alike model other)
    (habove : List.Forall₂ Alike above above') :
    (view model.kind model).eval (answersIn (model :: above)) reply =
      (view other.kind other).eval (answersIn (other :: above')) reply' := by
  have hstack : List.Forall₂ Alike (model :: above) (other :: above') := .cons halike habove
  have hbare := halike.bare
  have hplace := halike.place
  obtain ⟨node, place⟩ := model
  obtain ⟨node', place'⟩ := other
  cases node with
  | file file =>
      cases node' with
      | file file' => exact hagree.eval_fileView _ _ rfl rfl hbare
      | declaration declaration => cases declaration <;> cases hbare
      | _ => cases hbare
  | importLine line =>
      cases node' with
      | importLine line' =>
          cases hbare
          exact eval_importView rfl rfl
      | declaration declaration => cases declaration <;> cases hbare
      | _ => cases hbare
  | declaration declaration =>
      cases node' with
      | declaration declaration' =>
          cases declaration with
          | ofClass head nested =>
              cases declaration' with
              | ofClass head' nested' => exact hagree.eval_classView _ _ rfl rfl hbare
              | _ => cases hbare
          | ofInterface head nested =>
              cases declaration' with
              | ofInterface head' nested' => exact hagree.eval_interfaceView _ _ rfl rfl hbare
              | _ => cases hbare
          | ofEnum head nested =>
              cases declaration' with
              | ofEnum head' nested' => exact hagree.eval_enumView _ _ rfl rfl hbare
              | _ => cases hbare
      | _ => cases declaration <;> cases hbare
  | constant constant =>
      cases node' with
      | constant constant' => exact hagree.eval_constantView _ _ rfl rfl hbare
      | declaration declaration => cases declaration <;> cases hbare
      | _ => cases hbare
  | annotationUse mark =>
      cases node' with
      | annotationUse mark' => exact hagree.eval_annotationView rfl rfl hbare hstack
      | declaration declaration => cases declaration <;> cases hbare
      | _ => cases hbare
  | javadoc javadoc =>
      cases node' with
      | javadoc javadoc' =>
          cases hbare
          exact eval_javadocView rfl rfl
      | declaration declaration => cases declaration <;> cases hbare
      | _ => cases hbare
  | field field =>
      cases node' with
      | field field' => exact hagree.eval_fieldView rfl rfl hbare hplace habove
      | declaration declaration => cases declaration <;> cases hbare
      | _ => cases hbare
  | method method =>
      cases node' with
      | method method' => exact hagree.eval_methodView rfl rfl hbare hstack
      | declaration declaration => cases declaration <;> cases hbare
      | _ => cases hbare
  | typeRef type =>
      cases node' with
      | typeRef type' => exact hagree.eval_typeView rfl rfl hbare hstack
      | declaration declaration => cases declaration <;> cases hbare
      | _ => cases hbare
  | value value =>
      cases node' with
      | value value' =>
          cases hbare
          exact eval_valueView rfl rfl
      | declaration declaration => cases declaration <;> cases hbare
      | _ => cases hbare

end

end Agree

/-- The text of a model depends on the models around it no more than alike
models differ. -/
theorem text_congr {above above' : List Model} (habove : List.Forall₂ Alike above above')
    (model : Model) :
    Registry.java.text above model = Registry.java.text above' model := by
  induction hheight : model.node.height using Nat.strongRecOn generalizing above above' model with
  | ind height ih =>
      have hreplies (part : Part) :
          model.replies (Registry.java.reply (model :: above)) part =
            model.replies (Registry.java.reply (model :: above')) part := by
        refine List.map_congr_left fun child hchild => ?_
        have hlt := Model.height_lt_of_mem_children hchild
        exact ih _ (hheight ▸ hlt) (.cons (.refl model) habove) child rfl
      have hagree : Agree (Registry.java.reply (model :: above))
          (Registry.java.reply (model :: above')) model model :=
        ⟨fun part _ => by rw [hreplies], fun part _ => hreplies part⟩
      rw [Registry.text_eq java_descends (get?_java model.kind),
        Registry.text_eq java_descends (get?_java model.kind)]
      exact hagree.eval_view (.refl model) habove

end Java

end TableScribe
