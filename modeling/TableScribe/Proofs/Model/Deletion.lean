/-
Trees without the nodes of one kind.  Of the kinds that a tree can do without
wherever they stand, the nodes are the only ones in the parts they stand in, so
deleting them empties these parts and leaves all others in place.
-/
import TableScribe.Model.Node

namespace TableScribe

variable {kind : Kind}

namespace Kind

/-- The kinds whose nodes are optional wherever they stand. -/
def optionals : List Kind := [javadoc, annotationUse, importLine, constant, method]

/-- Items of one kind when those of a kind are deleted. -/
def keep {α : Type} (kind own : Kind) (items : List α) : List α :=
  if own = kind then [] else items

end Kind

/-- The optional kind that the nodes in a part are of. -/
def Part.optionalKind? : Part → Option Kind
  | .javadoc => some .javadoc
  | .annotations => some .annotationUse
  | .imports => some .importLine
  | .constants => some .constant
  | .constructors => some .method
  | .methods => some .method
  | _ => none

def Field.without (kind : Kind) (field : Field) : Field :=
  { field with
    javadoc := if .javadoc = kind then none else field.javadoc
    annotations := kind.keep .annotationUse field.annotations }

def Method.without (kind : Kind) (method : Method) : Method :=
  { method with
    params := method.params.map (Field.without kind)
    javadoc := if .javadoc = kind then none else method.javadoc
    annotations := kind.keep .annotationUse method.annotations }

def ClassHead.without (kind : Kind) (head : ClassHead) : ClassHead :=
  { head with
    fields := head.fields.map (Field.without kind)
    constructors := kind.keep .method (head.constructors.map (Method.without kind))
    methods := kind.keep .method (head.methods.map (Method.without kind))
    javadoc := if .javadoc = kind then none else head.javadoc
    annotations := kind.keep .annotationUse head.annotations }

def InterfaceHead.without (kind : Kind) (head : InterfaceHead) : InterfaceHead :=
  { head with
    fields := head.fields.map (Field.without kind)
    methods := kind.keep .method (head.methods.map (Method.without kind))
    javadoc := if .javadoc = kind then none else head.javadoc
    annotations := kind.keep .annotationUse head.annotations }

def EnumHead.without (kind : Kind) (head : EnumHead) : EnumHead :=
  { head with
    constants := kind.keep .constant head.constants
    fields := head.fields.map (Field.without kind)
    constructors := kind.keep .method (head.constructors.map (Method.without kind))
    methods := kind.keep .method (head.methods.map (Method.without kind))
    javadoc := if .javadoc = kind then none else head.javadoc
    annotations := kind.keep .annotationUse head.annotations }

mutual

/-- A declaration without the nodes of an optional kind, at every level. -/
def Declaration.without (kind : Kind) : Declaration → Declaration
  | .ofClass head nested => .ofClass (head.without kind) (Declaration.withoutAll kind nested)
  | .ofInterface head nested =>
    .ofInterface (head.without kind) (Declaration.withoutAll kind nested)
  | .ofEnum head nested => .ofEnum (head.without kind) (Declaration.withoutAll kind nested)

def Declaration.withoutAll (kind : Kind) : List Declaration → List Declaration
  | [] => []
  | declaration :: rest => declaration.without kind :: Declaration.withoutAll kind rest

end

def File.without (kind : Kind) (file : File) : File :=
  { file with
    javadoc := if .javadoc = kind then none else file.javadoc
    imports := kind.keep .importLine file.imports
    declarations := Declaration.withoutAll kind file.declarations }

/-- A tree without the nodes of an optional kind below its root. -/
def Node.without (kind : Kind) : Node → Node
  | .file node => .file (node.without kind)
  | .declaration node => .declaration (node.without kind)
  | .field node => .field (node.without kind)
  | .method node => .method (node.without kind)
  | node => node

/-- A model without the nodes of an optional kind below it. -/
def Model.without (kind : Kind) (model : Model) : Model :=
  { model with node := model.node.without kind }

theorem Declaration.withoutAll_eq_map (kind : Kind) (declarations : List Declaration) :
    withoutAll kind declarations = declarations.map (without kind) := by
  induction declarations with
  | nil => rfl
  | cons declaration rest ih => rw [withoutAll, ih, List.map_cons]

theorem Declaration.kind_not_mem_optionals (declaration : Declaration) :
    (Node.declaration declaration).kind ∉ Kind.optionals := by
  cases declaration <;> simp [Node.kind, Kind.optionals]

/-- The nodes in a part are of its optional kind; in a part without one they
are of no optional kind. -/
theorem Node.optionalKind?_of_mem_children {node child : Node} {part : Part}
    (hchild : child ∈ node.children part) :
    part.optionalKind? = some child.kind ∨
      part.optionalKind? = none ∧ child.kind ∉ Kind.optionals := by
  cases node with
  | file node =>
      cases part with
      | javadoc | imports =>
          obtain ⟨inner, -, rfl⟩ := List.mem_map.mp hchild
          exact Or.inl rfl
      | declarations =>
          obtain ⟨inner, -, rfl⟩ := List.mem_map.mp hchild
          exact Or.inr ⟨rfl, inner.kind_not_mem_optionals⟩
      | _ => exact absurd hchild List.not_mem_nil
  | declaration node =>
      cases node with
      | ofClass head nested =>
          cases part with
          | javadoc | annotations | constructors | methods =>
              obtain ⟨inner, -, rfl⟩ := List.mem_map.mp hchild
              exact Or.inl rfl
          | parents | interfaces | fields =>
              obtain ⟨inner, -, rfl⟩ := List.mem_map.mp hchild
              exact Or.inr ⟨rfl, by simp [Node.kind, Kind.optionals]⟩
          | nested =>
              obtain ⟨inner, -, rfl⟩ := List.mem_map.mp hchild
              exact Or.inr ⟨rfl, inner.kind_not_mem_optionals⟩
          | _ => exact absurd hchild List.not_mem_nil
      | ofInterface head nested =>
          cases part with
          | javadoc | annotations | methods =>
              obtain ⟨inner, -, rfl⟩ := List.mem_map.mp hchild
              exact Or.inl rfl
          | parents | fields =>
              obtain ⟨inner, -, rfl⟩ := List.mem_map.mp hchild
              exact Or.inr ⟨rfl, by simp [Node.kind, Kind.optionals]⟩
          | nested =>
              obtain ⟨inner, -, rfl⟩ := List.mem_map.mp hchild
              exact Or.inr ⟨rfl, inner.kind_not_mem_optionals⟩
          | _ => exact absurd hchild List.not_mem_nil
      | ofEnum head nested =>
          cases part with
          | javadoc | annotations | constants | constructors | methods =>
              obtain ⟨inner, -, rfl⟩ := List.mem_map.mp hchild
              exact Or.inl rfl
          | interfaces | fields =>
              obtain ⟨inner, -, rfl⟩ := List.mem_map.mp hchild
              exact Or.inr ⟨rfl, by simp [Node.kind, Kind.optionals]⟩
          | nested =>
              obtain ⟨inner, -, rfl⟩ := List.mem_map.mp hchild
              exact Or.inr ⟨rfl, inner.kind_not_mem_optionals⟩
          | _ => exact absurd hchild List.not_mem_nil
  | constant node =>
      cases part with
      | values =>
          obtain ⟨inner, -, rfl⟩ := List.mem_map.mp hchild
          exact Or.inr ⟨rfl, by simp [Node.kind, Kind.optionals]⟩
      | _ => exact absurd hchild List.not_mem_nil
  | annotationUse node =>
      cases part with
      | value | params =>
          obtain ⟨inner, -, rfl⟩ := List.mem_map.mp hchild
          exact Or.inr ⟨rfl, by simp [Node.kind, Kind.optionals]⟩
      | _ => exact absurd hchild List.not_mem_nil
  | field node =>
      cases part with
      | type =>
          obtain rfl := List.mem_singleton.mp hchild
          exact Or.inr ⟨rfl, by simp [Node.kind, Kind.optionals]⟩
      | javadoc | annotations =>
          obtain ⟨inner, -, rfl⟩ := List.mem_map.mp hchild
          exact Or.inl rfl
      | value =>
          obtain ⟨inner, -, rfl⟩ := List.mem_map.mp hchild
          exact Or.inr ⟨rfl, by simp [Node.kind, Kind.optionals]⟩
      | _ => exact absurd hchild List.not_mem_nil
  | method node =>
      cases part with
      | returns =>
          obtain rfl := List.mem_singleton.mp hchild
          exact Or.inr ⟨rfl, by simp [Node.kind, Kind.optionals]⟩
      | javadoc | annotations =>
          obtain ⟨inner, -, rfl⟩ := List.mem_map.mp hchild
          exact Or.inl rfl
      | params | throws =>
          obtain ⟨inner, -, rfl⟩ := List.mem_map.mp hchild
          exact Or.inr ⟨rfl, by simp [Node.kind, Kind.optionals]⟩
      | _ => exact absurd hchild List.not_mem_nil
  | typeRef node =>
      cases part with
      | generics =>
          obtain ⟨inner, -, rfl⟩ := List.mem_map.mp hchild
          exact Or.inr ⟨rfl, by simp [Node.kind, Kind.optionals]⟩
      | _ => exact absurd hchild List.not_mem_nil
  | _ => exact absurd hchild List.not_mem_nil

theorem Node.kind_eq_iff_of_mem_children (hkind : kind ∈ Kind.optionals) {node child : Node}
    {part : Part} (hchild : child ∈ node.children part) :
    child.kind = kind ↔ part.optionalKind? = some kind := by
  rcases optionalKind?_of_mem_children hchild with hsome | ⟨hnone, hother⟩
  · rw [hsome, Option.some.injEq]
  · rw [hnone]
    simp only [reduceCtorEq, iff_false]
    rintro rfl
    exact hother hkind

theorem Node.children_without_of_eq (node : Node) {part : Part}
    (hpart : part.optionalKind? = some kind) : (node.without kind).children part = [] := by
  cases node with
  | declaration node =>
      cases node <;> cases part <;>
        simp_all [Part.optionalKind?, Node.without, Declaration.without, Node.children,
          ClassHead.children, InterfaceHead.children, EnumHead.children, ClassHead.without,
          InterfaceHead.without, EnumHead.without, Kind.keep]
  | _ =>
      cases part <;>
        simp_all [Part.optionalKind?, Node.without, Node.children, File.without, Field.without,
          Method.without, Kind.keep]

theorem Node.children_without_of_ne (node : Node) {part : Part}
    (hpart : part.optionalKind? ≠ some kind) :
    (node.without kind).children part = (node.children part).map (Node.without kind) := by
  cases node with
  | declaration node =>
      cases node <;> cases part <;>
        simp_all [Part.optionalKind?, Node.without, Declaration.without, Node.children,
          ClassHead.children, InterfaceHead.children, EnumHead.children, ClassHead.without,
          InterfaceHead.without, EnumHead.without, Kind.keep, Declaration.withoutAll_eq_map]
  | _ =>
      cases part <;>
        simp_all [Part.optionalKind?, Node.without, Node.children, File.without, Field.without,
          Method.without, Kind.keep, Declaration.withoutAll_eq_map]

theorem Model.children_without_of_eq (model : Model) {part : Part}
    (hpart : part.optionalKind? = some kind) : (model.without kind).children part = [] := by
  simp [children, without, model.node.children_without_of_eq hpart]

theorem Model.children_without_of_ne (model : Model) {part : Part}
    (hpart : part.optionalKind? ≠ some kind) :
    (model.without kind).children part = (model.children part).map (Model.without kind) := by
  have hnodes := model.node.children_without_of_ne hpart
  apply List.ext_getElem <;> simp [children, without, child, hnodes]

end TableScribe
