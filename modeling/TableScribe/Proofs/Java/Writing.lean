/-
What the Java views need.  Each of them has the children of its own model
rendered, in every part but two: a constructor has no return type, and the
comment of a parameter is dropped.
-/
import TableScribe.Proofs.Java.Naming
import TableScribe.Proofs.Render.Coverage
import TableScribe.Proofs.Render.Ensuring

namespace TableScribe.Java

/-- Whether a field is a parameter of the method around it. -/
def standsAsParameter (above : List Model) (model : Model) : Bool :=
  (above.find? fun outer => outer.kind = .method).any (model.liesIn .params)

/-- Whether the children in a part of a model are written, inside given
models. -/
def Writes (above : List Model) (model : Model) (part : Part) : Prop :=
  match model.node, part with
  | .method method, .returns => method.isConstructor = false
  | .field _, .javadoc => standsAsParameter above model = false
  | _, _ => True

theorem writes_of_ne {part : Part} (hreturns : part ≠ .returns) (hjavadoc : part ≠ .javadoc)
    (above : List Model) (model : Model) : Writes above model part := by
  unfold Writes
  split
  · exact absurd rfl hreturns
  · exact absurd rfl hjavadoc
  · trivial

theorem get?_java (kind : Kind) : Registry.java.get? kind = some (view kind) := by
  cases kind <;> rfl

/-- Whether a model can be written inside given models, apart from its
children. -/
def Sound (above : List Model) (model : Model) : Prop :=
  match model.node with
  | .importLine line => line.path ≠ ""
  | .declaration declaration => declaration.name ≠ ""
  | .constant constant => constant.name ≠ ""
  | .annotationUse mark => printedName above mark.name ≠ ""
  | .field field => field.name ≠ ""
  | .method method =>
    if method.isConstructor then ∃ owner ∈ above, owner.kind ∈ Kind.declarations
    else method.name ≠ ""
  | .typeRef type => type.name ≠ ""
  | .value value => ∃ text, literal value = .ok text
  | _ => True

section

variable {answer : (query : Query) → query.Answer} {model : Model} {condition : Prop}
  {parts : List Part} {α : Type}

theorem needs_requireName (kind : Kind) (name : String) :
    (requireName kind name).Needs answer model (name ≠ "") [] :=
  ((ViewM.Needs.pure ()).guard).of_iff (by simp [String.isEmpty_iff])

theorem needs_preamble :
    (preamble model).Needs answer model True [.javadoc, .annotations] :=
  ((ViewM.Needs.children .javadoc).bind fun _ => (ViewM.Needs.children .annotations).bind fun _ =>
    ViewM.Needs.pure _).of_iff (by simp)

theorem needs_fieldLines : (fieldLines model).Needs answer model True [.fields] :=
  ((ViewM.Needs.children .fields).bind fun _ => ViewM.Needs.pure _).of_iff (by simp)

/-- A text that is only rendered if a part is not empty. -/
theorem needs_unless_empty {part : Part} {empty : α} {program : ViewM α} {nothing : Bool}
    (hnothing : nothing = true → model.children part = [])
    (hprogram : program.Needs answer model True [part]) :
    (if nothing then Pure.pure empty else program).Needs answer model True [part] := by
  cases nothing with
  | true => exact ⟨.pure _, by simp [hnothing rfl]⟩
  | false => exact hprogram

theorem needs_typeClause (keyword : String) (part : Part) :
    (typeClause keyword (model.children part)).Needs answer model True [part] :=
  needs_unless_empty List.isEmpty_iff.mp
    (((ViewM.Needs.renderAll part ", ").bind fun _ => ViewM.Needs.pure _).of_iff (by simp))

theorem needs_fileView {file : File} (hnode : model.node = .file file) :
    (fileView model).Needs answer model True [.javadoc, .imports, .declarations] := by
  refine .expect_bind hnode rfl ?_
  exact ((ViewM.Needs.children .javadoc).bind fun _ =>
    (ViewM.Needs.renderAll .imports _).bind fun _ =>
    (ViewM.Needs.renderAll .declarations _).bind fun _ => ViewM.Needs.pure _).of_iff (by simp)

theorem needs_importView {line : Import} (hnode : model.node = .importLine line) :
    (importView model).Needs answer model (line.path ≠ "") [] := by
  refine .expect_bind hnode rfl ?_
  exact ((ViewM.Needs.pure _).guard).of_iff (by simp [String.isEmpty_iff])

/-- A class needs a name, and the texts of all its children. -/
theorem needs_classView {head : ClassHead} {nested : List Declaration}
    (hnode : model.node = .declaration (.ofClass head nested)) :
    (classView model).Needs answer model (head.name ≠ "")
      [.javadoc, .annotations, .parents, .interfaces, .fields, .constructors, .methods,
        .nested] := by
  refine .expect_bind hnode rfl ?_
  exact ((needs_requireName _ _).bind fun _ => needs_preamble.bind fun _ =>
    (ViewM.Needs.children .parents).bind fun _ =>
    (needs_typeClause _ .interfaces).bind fun _ => needs_fieldLines.bind fun _ =>
    (ViewM.Needs.renderAll .constructors _).bind fun _ =>
    (ViewM.Needs.renderAll .methods _).bind fun _ =>
    (ViewM.Needs.renderAll .nested _).bind fun _ => ViewM.Needs.pure _).of_iff (by simp)

theorem needs_interfaceView {head : InterfaceHead} {nested : List Declaration}
    (hnode : model.node = .declaration (.ofInterface head nested)) :
    (interfaceView model).Needs answer model (head.name ≠ "")
      [.javadoc, .annotations, .parents, .fields, .methods, .nested] := by
  refine .expect_bind hnode rfl ?_
  exact ((needs_requireName _ _).bind fun _ => needs_preamble.bind fun _ =>
    (needs_typeClause _ .parents).bind fun _ => needs_fieldLines.bind fun _ =>
    (ViewM.Needs.renderAll .methods _).bind fun _ =>
    (ViewM.Needs.renderAll .nested _).bind fun _ => ViewM.Needs.pure _).of_iff (by simp)

theorem needs_enumView {head : EnumHead} {nested : List Declaration}
    (hnode : model.node = .declaration (.ofEnum head nested)) :
    (enumView model).Needs answer model (head.name ≠ "")
      [.javadoc, .annotations, .interfaces, .fields, .constructors, .methods, .nested,
        .constants] := by
  refine .expect_bind hnode rfl ?_
  exact ((needs_requireName _ _).bind fun _ => needs_preamble.bind fun _ =>
    (needs_typeClause _ .interfaces).bind fun _ => needs_fieldLines.bind fun _ =>
    (ViewM.Needs.renderAll .constructors _).bind fun _ =>
    (ViewM.Needs.renderAll .methods _).bind fun _ =>
    (ViewM.Needs.renderAll .nested _).bind fun _ =>
    (ViewM.Needs.renderAll .constants _).bind fun _ => ViewM.Needs.pure _).of_iff (by simp)

theorem needs_constantView {constant : Constant} (hnode : model.node = .constant constant) :
    (constantView model).Needs answer model (constant.name ≠ "") [.values] := by
  refine .expect_bind hnode rfl ?_
  refine (ViewM.Needs.guard (needs_unless_empty ?_
    (((ViewM.Needs.renderAll .values _).bind fun _ => ViewM.Needs.pure _).of_iff
      (by simp)))).of_iff (by simp [String.isEmpty_iff])
  intro hempty
  simp [Model.children, Node.children, hnode, List.isEmpty_iff.mp hempty]

theorem needs_javadocView {javadoc : Javadoc} (hnode : model.node = .javadoc javadoc) :
    (javadocView model).Needs answer model True [] :=
  .expect_bind hnode rfl (.pure _)

theorem needs_valueView {value : Value} (hnode : model.node = .value value) :
    (valueView model).Needs answer model (∃ text, literal value = .ok text) [] :=
  .expect_bind hnode rfl (.ofExcept _)

end

section

variable {above : List Model} {model : Model}

/-- An annotation is refused for its name as printed, not for the name as
given. -/
theorem needs_annotationView {mark : Annotation} (hnode : model.node = .annotationUse mark) :
    (annotationView model).Needs (answersIn (model :: above)) model
      (printedName above mark.name ≠ "") [.value, .params] := by
  have hkind : model.kind = .annotationUse := congrArg Node.kind hnode
  refine .expect_bind hnode rfl ?_
  apply needs_visibleName_bind
  rw [printedName_cons (by simp [hkind]) (by simp [hkind, Kind.declarations])]
  exact (((ViewM.Needs.children .value).bind fun _ => (ViewM.Needs.children .params).bind fun _ =>
    ViewM.Needs.pure _).guard).of_iff (by simp [String.isEmpty_iff])

/-- A type is refused for its name as given, not for the name as printed. -/
theorem needs_typeView {type : TypeRef} (hnode : model.node = .typeRef type) :
    (typeView model).Needs (answersIn (model :: above)) model (type.name ≠ "") [.generics] := by
  refine .expect_bind hnode rfl ?_
  refine (ViewM.Needs.guard (needs_visibleName_bind (needs_unless_empty ?_
    (((ViewM.Needs.renderAll .generics _).bind fun _ => ViewM.Needs.pure _).of_iff
      (by simp))))).of_iff (by simp [String.isEmpty_iff])
  intro hempty
  simp [Model.children, Node.children, hnode, List.isEmpty_iff.mp hempty]

theorem needs_isParameter_bind {α : Type} {next : Bool → ViewM α} {condition : Prop}
    {parts : List Part} (hkind : model.kind = .field)
    (hnext : (next (standsAsParameter above model)).Needs (answersIn (model :: above)) model
      condition parts) :
    (isParameter model >>= next).Needs (answersIn (model :: above)) model condition parts := by
  have hfind : (model :: above).find? (fun outer => outer.kind = .method) =
      above.find? fun outer => outer.kind = .method := by
    simp [hkind]
  unfold standsAsParameter at hnext
  rw [← hfind] at hnext
  exact ⟨hnext.requests, hnext.succeeds⟩

/-- A field needs a name, and the text of its comment unless it is a
parameter. -/
theorem needs_fieldView {field : Field} (hnode : model.node = .field field) :
    (fieldView model).Needs (answersIn (model :: above)) model (field.name ≠ "")
      ((if standsAsParameter above model then [.annotations] else [.javadoc, .annotations]) ++
        [.type, .value]) := by
  have hkind : model.kind = .field := congrArg Node.kind hnode
  refine .expect_bind hnode rfl ?_
  refine ViewM.Needs.of_iff (show ViewM.Needs _ _ (¬ field.name.isEmpty = true ∧ True) _ _ from
    ViewM.Needs.guard (needs_isParameter_bind hkind ?_)) (by simp [String.isEmpty_iff])
  cases standsAsParameter above model with
  | true =>
      exact ((ViewM.Needs.children .annotations).bind fun _ => (ViewM.Needs.pure _).bind fun _ =>
        (ViewM.Needs.children .type).bind fun _ =>
        (ViewM.Needs.children .value).bind fun _ => ViewM.Needs.pure _).of_iff (by simp)
  | false =>
      exact (needs_preamble.bind fun _ => (ViewM.Needs.children .type).bind fun _ =>
        (ViewM.Needs.children .value).bind fun _ => ViewM.Needs.pure _).of_iff (by simp)

theorem needs_lastOfAny (kinds : List Kind) (stack : List Model) :
    (ViewM.lastOfAny kinds).Needs (answersIn stack) model
      (∃ owner ∈ stack, owner.kind ∈ kinds) [] := by
  have hfound : (stack.find? fun owner => kinds.contains owner.kind).isSome ↔
      ∃ owner ∈ stack, owner.kind ∈ kinds := by
    simp [List.find?_isSome]
  change (answersIn stack (.lastOfAny kinds)).isSome ↔ _ at hfound
  apply ViewM.Needs.ask_bind
  cases howner : answersIn stack (.lastOfAny kinds) with
  | none => exact (ViewM.Needs.throw _).of_iff (by simpa [howner] using hfound)
  | some owner => exact (ViewM.Needs.pure _).of_iff (by simpa [howner] using hfound)

/-- A constructor needs a declaration to be named after, and no return type;
another method needs both a name and the text of its return type. -/
theorem needs_methodName {method : Method} :
    (methodName method model).Needs (answersIn (model :: above)) model
      (if method.isConstructor then ∃ owner ∈ model :: above, owner.kind ∈ Kind.declarations
        else method.name ≠ "") (if method.isConstructor then [] else [.returns]) := by
  unfold methodName
  cases method.isConstructor with
  | true => exact ((needs_lastOfAny _ _).bind fun _ => ViewM.Needs.pure _).of_iff (by simp)
  | false =>
      exact (((ViewM.Needs.children .returns).bind fun _ => ViewM.Needs.pure _).guard).of_iff
        (by simp [String.isEmpty_iff])

/-- What a method needs.  The method is in the stack itself, but it is no
declaration. -/
theorem needs_methodView {method : Method} (hnode : model.node = .method method) :
    (methodView model).Needs (answersIn (model :: above)) model
      (if method.isConstructor then ∃ owner ∈ above, owner.kind ∈ Kind.declarations
        else method.name ≠ "")
      ([.javadoc, .annotations] ++ (if method.isConstructor then [] else [.returns]) ++
        [.params, .throws]) := by
  have hkind : model.kind = .method := congrArg Node.kind hnode
  refine .expect_bind hnode rfl ?_
  rw [List.append_assoc]
  exact (needs_preamble.bind fun _ => needs_methodName.bind fun _ =>
    (ViewM.Needs.renderAll .params _).bind fun _ =>
    (needs_typeClause _ .throws).bind fun _ => ViewM.Needs.pure _).of_iff
      (by simp [hkind, Kind.declarations])

/-- Inside given models, the view of a model needs the model to be sound and the
children in the parts that are written. -/
theorem exists_needs_view (above : List Model) (model : Model) :
    ∃ parts, (view model.kind model).Needs (answersIn (model :: above)) model (Sound above model)
      parts ∧ ∀ part, model.node.children part ≠ [] →
        (part ∈ parts ↔ Writes above model part) := by
  obtain ⟨node, place⟩ := model
  cases node with
  | file node =>
      refine ⟨_, needs_fileView rfl, ?_⟩
      intro part hpart
      cases part <;> simp_all [Node.children, Writes]
  | importLine node =>
      exact ⟨_, needs_importView rfl, fun part hpart => absurd rfl hpart⟩
  | declaration node =>
      cases node with
      | ofClass head nested =>
          refine ⟨_, needs_classView rfl, ?_⟩
          intro part hpart
          cases part <;> simp_all [Node.children, ClassHead.children, Writes]
      | ofInterface head nested =>
          refine ⟨_, needs_interfaceView rfl, ?_⟩
          intro part hpart
          cases part <;> simp_all [Node.children, InterfaceHead.children, Writes]
      | ofEnum head nested =>
          refine ⟨_, needs_enumView rfl, ?_⟩
          intro part hpart
          cases part <;> simp_all [Node.children, EnumHead.children, Writes]
  | constant node =>
      refine ⟨_, needs_constantView rfl, ?_⟩
      intro part hpart
      cases part <;> simp_all [Node.children, Writes]
  | annotationUse node =>
      refine ⟨_, needs_annotationView rfl, ?_⟩
      intro part hpart
      cases part <;> simp_all [Node.children, Writes]
  | javadoc node =>
      exact ⟨_, needs_javadocView rfl, fun part hpart => absurd rfl hpart⟩
  | field node =>
      refine ⟨_, needs_fieldView rfl, ?_⟩
      intro part hpart
      cases hparameter : standsAsParameter above ⟨.field node, place⟩ <;>
        cases part <;> simp_all [Node.children, Writes]
  | method node =>
      refine ⟨_, needs_methodView rfl, ?_⟩
      intro part hpart
      cases part <;> simp_all [Node.children, Writes]
  | typeRef node =>
      refine ⟨_, needs_typeView rfl, ?_⟩
      intro part hpart
      cases part <;> simp_all [Node.children, Writes]
  | value node =>
      exact ⟨_, needs_valueView rfl, fun part hpart => absurd rfl hpart⟩

/-- The Java views request the children in the written parts. -/
theorem java_descends : Registry.java.Descends Writes := by
  intro above model outer houter
  obtain rfl : view model.kind = outer := by
    rw [get?_java] at houter
    exact Option.some.inj houter
  obtain ⟨parts, hneeds, hparts⟩ := exists_needs_view above model
  apply hneeds.requests.mono
  intro call hcall
  cases call with
  | render child =>
      obtain ⟨part, hpart, hchild⟩ := hcall
      exact ⟨part, (hparts part (Model.children_ne_nil hchild)).mp hpart, hchild⟩
  | view kind model => exact hcall

/-- What the view of a model ensures is so for the text of the model. -/
theorem of_text_eq_ok {above : List Model} {model : Model} {node : Node} {post : String → Prop}
    (hnode : model.node = node)
    (hview : (view node.kind model).Ensures (answersIn (model :: above))
      (Registry.java.reply (model :: above)) post) :
    ∀ text, Registry.java.text above model = .ok text → post text := by
  subst hnode
  intro text htext
  rw [Registry.text_eq java_descends (get?_java model.node.kind)] at htext
  exact hview text htext

/-- A view returns a text exactly if its model is sound and all the children
that are written have texts. -/
theorem exists_eval_view_iff (above : List Model) (model : Model) (reply : Call → Rendered) :
    (∃ text, (view model.kind model).eval (answersIn (model :: above)) reply = .ok text) ↔
      Sound above model ∧ ∀ part, Writes above model part → ∀ child ∈ model.children part,
        ∃ text, reply (.render child) = .ok text := by
  obtain ⟨parts, hneeds, hparts⟩ := exists_needs_view above model
  rw [hneeds.succeeds]
  refine and_congr_right fun _ => forall_congr' fun part => ?_
  constructor
  · intro hall hwrites child hchild
    exact hall ((hparts part (Model.children_ne_nil hchild)).mpr hwrites) child hchild
  · intro hall hpart child hchild
    exact hall ((hparts part (Model.children_ne_nil hchild)).mp hpart) child hchild

/-- A Java view that returns a text was given one for every child it writes. -/
theorem java_covers : Registry.java.Covers Writes := by
  intro above model outer reply text houter heval
  obtain rfl : view model.kind = outer := by
    rw [get?_java] at houter
    exact Option.some.inj houter
  exact ((exists_eval_view_iff above model reply).mp ⟨text, heval⟩).2

/-- A model has a text inside given models exactly if it is sound there and all
the children that are written have texts. -/
theorem exists_text_iff (above : List Model) (model : Model) :
    (∃ text, Registry.java.text above model = .ok text) ↔
      Sound above model ∧ ∀ part, Writes above model part → ∀ child ∈ model.children part,
        ∃ text, Registry.java.text (model :: above) child = .ok text := by
  rw [Registry.text_eq java_descends (get?_java model.kind)]
  exact exists_eval_view_iff above model _

end

/-- A tree can be rendered exactly if everything that is written in it is
sound. -/
theorem exists_text_iff_forall_sound (root : Model) :
    (∃ text, Registry.java.text [] root = .ok text) ↔
      ∀ above model, Lineage Writes root above model → Sound above model := by
  constructor
  · rintro ⟨whole, hwhole⟩ above model hlineage
    obtain ⟨htext, -⟩ := Moment.leads_view java_descends java_covers hwhole hlineage
      (get?_java model.kind)
    exact ((exists_text_iff above model).mp htext).1
  · intro hsound
    have hall : ∀ limit above model, model.node.height ≤ limit → Lineage Writes root above model →
        ∃ text, Registry.java.text above model = .ok text := by
      intro limit
      induction limit with
      | zero =>
          intro above model hlimit
          have hpos := model.node.height_pos
          omega
      | succ limit ih =>
          intro above model hlimit hlineage
          refine (exists_text_iff above model).mpr ⟨hsound above model hlineage, ?_⟩
          intro part hpart child hchild
          have hlt := Model.height_lt_of_mem_children hchild
          exact ih (model :: above) child (by omega) (.child hlineage hpart hchild)
    exact hall root.node.height [] root (Nat.le_refl _) .root

/-- A node is written somewhere in the tree below a root. -/
def Stands (root : Model) (node : Node) : Prop :=
  ∃ above model, model.node = node ∧ Lineage Writes root above model

/-- What stands below a node that is written is written too, apart from two
parts. -/
theorem Stands.child {root : Model} {node inner : Node} (hstands : Stands root node) (part : Part)
    (hreturns : part ≠ .returns) (hjavadoc : part ≠ .javadoc)
    (hinner : inner ∈ node.children part) : Stands root inner := by
  obtain ⟨above, owner, rfl, hlineage⟩ := hstands
  obtain ⟨model, -, hmodel, hbelow⟩ := hlineage.exists_child
    (writes_of_ne hreturns hjavadoc above owner) hinner
  exact ⟨owner :: above, model, hmodel, hbelow⟩

end TableScribe.Java
