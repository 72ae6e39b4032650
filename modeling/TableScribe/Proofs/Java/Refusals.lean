/-
The errors of the Java views.  A model is refused as invalid, or because it is a
constructor without a declaration around it; the reasons are known one by one,
and a mix-up of kinds is none of them.
-/
import TableScribe.Proofs.Java.Writing
import TableScribe.Proofs.Render.Failing

namespace TableScribe

namespace Java

/-- The errors of the Java views. -/
def Refuses (error : RenderError) : Prop :=
  (∃ kind reason, error = .invalidModel kind reason) ∨ error = .noAncestorOfAny Kind.declarations

/-- What the Java views can find wrong with a model. -/
inductive IsReason : Kind → String → Prop
  | importPath : IsReason .importLine "import has no path"
  | declarationName {kind : Kind} (hkind : kind ∈ Kind.declarations) :
      IsReason kind "declaration has no name"
  | constantName : IsReason .constant "enum constant has no name"
  | annotationName : IsReason .annotationUse "annotation has no name"
  | fieldName : IsReason .field "field has no name"
  | methodName : IsReason .method "method has no name"
  | typeName : IsReason .typeRef "type has no name"
  | literalForm (number : Decimal.Binary64) :
      IsReason .value (number.nonFiniteName ++ " has no literal form")

/-- The errors of the Java views, with their reasons. -/
def Complains (error : RenderError) : Prop :=
  (∃ kind reason, IsReason kind reason ∧ error = .invalidModel kind reason) ∨
    error = .noAncestorOfAny Kind.declarations

theorem IsReason.complains {kind : Kind} {reason : String} (hreason : IsReason kind reason) :
    Complains (.invalidModel kind reason) :=
  Or.inl ⟨kind, reason, hreason, rfl⟩

theorem Complains.refuses {error : RenderError} (hcomplains : Complains error) : Refuses error :=
  hcomplains.imp_left fun ⟨kind, reason, _, herror⟩ => ⟨kind, reason, herror⟩

section

variable {answer : (query : Query) → query.Answer} {model : Model}

theorem failsBy_preamble : (preamble model).FailsBy answer model Complains :=
  (ViewM.FailsBy.children .javadoc).bind fun _ =>
    (ViewM.FailsBy.children .annotations).bind fun _ => .pure _

theorem failsBy_fieldLines : (fieldLines model).FailsBy answer model Complains :=
  (ViewM.FailsBy.children .fields).bind fun _ => .pure _

theorem failsBy_typeClause (keyword : String) (part : Part) :
    (typeClause keyword (model.children part)).FailsBy answer model Complains :=
  .ite (.pure _) ((ViewM.FailsBy.renderAll part ", ").bind fun _ => .pure _)

theorem failsBy_requireName {kind : Kind} (hkind : kind ∈ Kind.declarations) (name : String) :
    (requireName kind name).FailsBy answer model Complains :=
  .ite (.throw (IsReason.declarationName hkind).complains) (.pure ())

theorem failsBy_visibleName (stack : List Model) (name : String) :
    (visibleName name).FailsBy (answersIn stack) model Complains := by
  intro reply hreply error herror
  rw [eval_visibleName] at herror
  exact nomatch herror

theorem failsBy_isParameter : (isParameter model).FailsBy answer model Complains :=
  (ViewM.FailsBy.ask _).bind fun _ => .pure _

theorem failsBy_lastOfAny :
    (ViewM.lastOfAny Kind.declarations).FailsBy answer model Complains := by
  refine ViewM.FailsBy.bind (.ask _) ?_
  intro owner
  cases owner with
  | none => exact .throw (Or.inr rfl)
  | some owner => exact .pure owner

theorem failsBy_methodName (method : Method) :
    (methodName method model).FailsBy answer model Complains := by
  refine .ite ?_ (.ite (.throw IsReason.methodName.complains)
    ((ViewM.FailsBy.children .returns).bind fun _ => .pure _))
  exact failsBy_lastOfAny.bind fun _ => .pure _

/-- Only a number that is not finite has no literal. -/
theorem complains_of_literal_eq_error {value : Value} {error : RenderError}
    (herror : literal value = .error error) : Complains error := by
  cases value with
  | float number =>
      rw [literal] at herror
      split at herror
      · exact nomatch herror
      · exact Except.error.inj herror ▸ (IsReason.literalForm number).complains
  | _ => exact nomatch herror

/-- A declaration fails by its own name or by one of its children, whatever sort
it is of. -/
theorem failsBy_declarationView {declaration : Declaration}
    (hnode : model.node = .declaration declaration) :
    (view model.kind model).FailsBy answer model Complains := by
  have hmembers (part : Part) : (memberSection model part).FailsBy answer model Complains :=
    .renderAll part _
  cases declaration with
  | ofClass head nested =>
      have hkind : model.kind = .classDecl := by rw [Model.kind, hnode, Node.kind]
      rw [hkind]
      refine .expect_bind (congrArg Node.class? hnode) ?_
      exact (failsBy_requireName (by decide) _).bind fun _ => failsBy_preamble.bind fun _ =>
        (ViewM.FailsBy.children .parents).bind fun _ =>
        (failsBy_typeClause _ .interfaces).bind fun _ => failsBy_fieldLines.bind fun _ =>
        (hmembers .constructors).bind fun _ => (hmembers .methods).bind fun _ =>
        (hmembers .nested).bind fun _ => .pure _
  | ofInterface head nested =>
      have hkind : model.kind = .interfaceDecl := by rw [Model.kind, hnode, Node.kind]
      rw [hkind]
      refine .expect_bind (congrArg Node.interface? hnode) ?_
      exact (failsBy_requireName (by decide) _).bind fun _ => failsBy_preamble.bind fun _ =>
        (failsBy_typeClause _ .parents).bind fun _ => failsBy_fieldLines.bind fun _ =>
        (hmembers .methods).bind fun _ => (hmembers .nested).bind fun _ => .pure _
  | ofEnum head nested =>
      have hkind : model.kind = .enumDecl := by rw [Model.kind, hnode, Node.kind]
      rw [hkind]
      refine .expect_bind (congrArg Node.enum? hnode) ?_
      exact (failsBy_requireName (by decide) _).bind fun _ => failsBy_preamble.bind fun _ =>
        (failsBy_typeClause _ .interfaces).bind fun _ => failsBy_fieldLines.bind fun _ =>
        (hmembers .constructors).bind fun _ => (hmembers .methods).bind fun _ =>
        (hmembers .nested).bind fun _ => (ViewM.FailsBy.renderAll .constants _).bind fun _ =>
        .pure _

theorem failsBy_fieldView {field : Field} (hnode : model.node = .field field) :
    (fieldView model).FailsBy answer model Complains := by
  refine .expect_bind (congrArg Node.field? hnode) ?_
  refine .ite (.throw IsReason.fieldName.complains) ?_
  exact failsBy_isParameter.bind fun _ => .ite
    ((ViewM.FailsBy.children .annotations).bind fun _ => (ViewM.FailsBy.pure _).bind fun _ =>
      (ViewM.FailsBy.children .type).bind fun _ => (ViewM.FailsBy.children .value).bind fun _ =>
      .pure _)
    (failsBy_preamble.bind fun _ => (ViewM.FailsBy.children .type).bind fun _ =>
      (ViewM.FailsBy.children .value).bind fun _ => .pure _)

/-- A method fails by its children or by its name, which a constructor takes
from elsewhere. -/
theorem failsBy_methodView {method : Method} (hnode : model.node = .method method) :
    (methodView model).FailsBy answer model Complains := by
  refine .expect_bind (congrArg Node.method? hnode) ?_
  exact failsBy_preamble.bind fun _ => (failsBy_methodName method).bind fun _ =>
    (ViewM.FailsBy.renderAll .params _).bind fun _ =>
    (failsBy_typeClause _ .throws).bind fun _ => .pure _

end

/-- The Java views throw no other errors than these. -/
theorem failsBy_view (stack : List Model) (model : Model) :
    (view model.kind model).FailsBy (answersIn stack) model Complains := by
  obtain ⟨node, place⟩ := model
  cases node with
  | file node =>
      refine .expect_bind rfl ?_
      exact (ViewM.FailsBy.children .javadoc).bind fun _ =>
        (ViewM.FailsBy.renderAll .imports _).bind fun _ =>
        (ViewM.FailsBy.renderAll .declarations _).bind fun _ => .pure _
  | importLine node =>
      refine .expect_bind rfl ?_
      exact .ite (.throw IsReason.importPath.complains) (.pure _)
  | declaration node => exact failsBy_declarationView rfl
  | constant node =>
      refine .expect_bind rfl ?_
      exact .ite (.throw IsReason.constantName.complains) (.ite (.pure _)
        ((ViewM.FailsBy.renderAll .values _).bind fun _ => .pure _))
  | annotationUse node =>
      refine .expect_bind rfl ?_
      refine (failsBy_visibleName stack _).bind fun _ => ?_
      exact .ite (.throw IsReason.annotationName.complains)
        ((ViewM.FailsBy.children .value).bind fun _ =>
          (ViewM.FailsBy.children .params).bind fun _ => .pure _)
  | javadoc node => exact .expect_bind rfl (.pure _)
  | field node => exact failsBy_fieldView rfl
  | method node => exact failsBy_methodView rfl
  | typeRef node =>
      refine .expect_bind rfl ?_
      exact .ite (.throw IsReason.typeName.complains) ((failsBy_visibleName stack _).bind fun _ =>
        .ite (.pure _) ((ViewM.FailsBy.renderAll .generics _).bind fun _ => .pure _))
  | value node => exact .expect_bind rfl (.ofExcept fun _ => complains_of_literal_eq_error)

/-- A model without a text is refused, by its own view or by one below it, for
one of the known reasons. -/
theorem complains_of_text_eq_error {above : List Model} {model : Model} {error : RenderError}
    (herror : Registry.java.text above model = .error error) : Complains error := by
  induction hheight : model.node.height using Nat.strongRecOn
    generalizing above model error with
  | ind height ih =>
      rw [Registry.text_eq java_descends (get?_java model.kind)] at herror
      refine failsBy_view (model :: above) model _ ?_ error herror
      intro part child hchild reason hreason
      exact ih _ (hheight ▸ Model.height_lt_of_mem_children hchild) hreason rfl

/-- A model without a text is refused as invalid, or for want of a declaration
around it. -/
theorem refuses_of_text_eq_error {above : List Model} {model : Model} {error : RenderError}
    (herror : Registry.java.text above model = .error error) : Refuses error :=
  (complains_of_text_eq_error herror).refuses

theorem IsReason.head?_ne {kind : Kind} {reason : String} (hreason : IsReason kind reason) :
    reason.toList.head? ≠ some 'v' := by
  cases hreason with
  | literalForm number =>
      rw [Decimal.Binary64.nonFiniteName]
      split
      · decide
      · split <;> decide
  | _ => decide

/-- No Java view takes a model for one of another kind. -/
theorem not_complains_mismatch (expected actual : Kind) :
    ¬ Complains (.mismatch expected actual) := by
  rintro (⟨kind, reason, hreason, herror⟩ | herror)
  · obtain ⟨-, rfl⟩ := RenderError.invalidModel.inj herror
    apply hreason.head?_ne
    simp [String.toList_append]
  · exact nomatch herror

end Java

end TableScribe
