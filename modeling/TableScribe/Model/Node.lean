/-
Nodes of a source tree and their children.  A `Model` is a node together with
its place in the tree it was reached in, so two occurrences of equal nodes
stay apart.
-/
import TableScribe.Model.File
import TableScribe.Model.Kind

namespace TableScribe

inductive Node
  | file (node : File)
  | importLine (node : Import)
  | declaration (node : Declaration)
  | constant (node : Constant)
  | annotationUse (node : Annotation)
  | javadoc (node : Javadoc)
  | field (node : Field)
  | method (node : Method)
  | typeRef (node : TypeRef)
  | value (node : Value)
deriving BEq, Inhabited

/-- The parts of a node that hold other nodes. -/
inductive Part
  | javadoc
  | imports
  | declarations
  | annotations
  | parents
  | interfaces
  | fields
  | constructors
  | methods
  | nested
  | constants
  | values
  | value
  | params
  | type
  | returns
  | throws
  | generics
deriving DecidableEq, Repr

namespace Part

def name : Part → String
  | javadoc => "javadoc"
  | imports => "imports"
  | declarations => "declarations"
  | annotations => "annotations"
  | parents => "extends"
  | interfaces => "implements"
  | fields => "fields"
  | constructors => "constructors"
  | methods => "methods"
  | nested => "nested"
  | constants => "constants"
  | values => "values"
  | value => "value"
  | params => "params"
  | type => "type"
  | returns => "returns"
  | throws => "throws"
  | generics => "generics"

def all : List Part :=
  [javadoc, imports, declarations, annotations, parents, interfaces, fields, constructors,
    methods, nested, constants, values, value, params, type, returns, throws, generics]

def ofName? (text : String) : Option Part :=
  all.find? fun part => part.name == text

end Part

def ClassHead.children (head : ClassHead) (nested : List Declaration) : Part → List Node
  | .javadoc => head.javadoc.toList.map .javadoc
  | .annotations => head.annotations.map .annotationUse
  | .parents => head.parent.toList.map .typeRef
  | .interfaces => head.interfaces.map .typeRef
  | .fields => head.fields.map .field
  | .constructors => head.constructors.map .method
  | .methods => head.methods.map .method
  | .nested => nested.map .declaration
  | _ => []

def InterfaceHead.children (head : InterfaceHead) (nested : List Declaration) : Part → List Node
  | .javadoc => head.javadoc.toList.map .javadoc
  | .annotations => head.annotations.map .annotationUse
  | .parents => head.parents.map .typeRef
  | .fields => head.fields.map .field
  | .methods => head.methods.map .method
  | .nested => nested.map .declaration
  | _ => []

def EnumHead.children (head : EnumHead) (nested : List Declaration) : Part → List Node
  | .javadoc => head.javadoc.toList.map .javadoc
  | .annotations => head.annotations.map .annotationUse
  | .interfaces => head.interfaces.map .typeRef
  | .constants => head.constants.map .constant
  | .fields => head.fields.map .field
  | .constructors => head.constructors.map .method
  | .methods => head.methods.map .method
  | .nested => nested.map .declaration
  | _ => []

namespace Node

def kind : Node → Kind
  | file _ => .file
  | importLine _ => .importLine
  | declaration (.ofClass _ _) => .classDecl
  | declaration (.ofInterface _ _) => .interfaceDecl
  | declaration (.ofEnum _ _) => .enumDecl
  | constant _ => .constant
  | annotationUse _ => .annotationUse
  | javadoc _ => .javadoc
  | field _ => .field
  | method _ => .method
  | typeRef _ => .typeRef
  | value _ => .value

/-- The name of a node; comments and values have none, and an import goes by
its path. -/
def name? : Node → Option String
  | file node => some node.name
  | importLine node => some node.path
  | declaration node => some node.name
  | constant node => some node.name
  | annotationUse node => some node.name
  | javadoc _ => none
  | field node => some node.name
  | method node => some node.name
  | typeRef node => some node.name
  | value _ => none

def file? : Node → Option File
  | file node => some node
  | _ => none

def importLine? : Node → Option Import
  | importLine node => some node
  | _ => none

def class? : Node → Option ClassHead
  | declaration (.ofClass head _) => some head
  | _ => none

def interface? : Node → Option InterfaceHead
  | declaration (.ofInterface head _) => some head
  | _ => none

def enum? : Node → Option EnumHead
  | declaration (.ofEnum head _) => some head
  | _ => none

def constant? : Node → Option Constant
  | constant node => some node
  | _ => none

def annotationUse? : Node → Option Annotation
  | annotationUse node => some node
  | _ => none

def javadoc? : Node → Option Javadoc
  | javadoc node => some node
  | _ => none

def field? : Node → Option Field
  | field node => some node
  | _ => none

def method? : Node → Option Method
  | method node => some node
  | _ => none

def typeRef? : Node → Option TypeRef
  | typeRef node => some node
  | _ => none

def value? : Node → Option Value
  | value node => some node
  | _ => none

/-- The children a node holds in one of its parts, in order; none in a part
it does not have.  The parameters of an annotation are their values. -/
def children : Node → Part → List Node
  | file node, .javadoc => node.javadoc.toList.map javadoc
  | file node, .imports => node.imports.map importLine
  | file node, .declarations => node.declarations.map declaration
  | declaration (.ofClass head nested), part => head.children nested part
  | declaration (.ofInterface head nested), part => head.children nested part
  | declaration (.ofEnum head nested), part => head.children nested part
  | constant node, .values => node.values.map value
  | annotationUse node, .value => node.value.toList.map value
  | annotationUse node, .params => node.params.map fun param => value param.2
  | field node, .type => [typeRef node.type]
  | field node, .value => node.value.toList.map value
  | field node, .javadoc => node.javadoc.toList.map javadoc
  | field node, .annotations => node.annotations.map annotationUse
  | method node, .returns => [typeRef node.returns]
  | method node, .params => node.params.map field
  | method node, .throws => node.throws.map typeRef
  | method node, .javadoc => node.javadoc.toList.map javadoc
  | method node, .annotations => node.annotations.map annotationUse
  | typeRef node, .generics => node.generics.map typeRef
  | _, _ => []

end Node

/-- A place in one of several trees: the tree, and the way from its root,
last step first. -/
structure Place where
  tree : Nat
  steps : List (Part × Nat)
deriving DecidableEq, Repr, Inhabited

/-- A node at its place. -/
structure Model where
  node : Node
  place : Place
deriving Inhabited

namespace Model

def root (tree : Nat) (node : Node) : Model := ⟨node, ⟨tree, []⟩⟩

def kind (model : Model) : Kind := model.node.kind

def name? (model : Model) : Option String := model.node.name?

/-- Whether two models are one occurrence of one node: they have the same
kind and the same place. -/
def sameNode (a b : Model) : Bool :=
  a.kind == b.kind && a.place == b.place

/-- The child with the given number in a part. -/
def child (model : Model) (part : Part) (position : Nat) (node : Node) : Model :=
  ⟨node, { model.place with steps := (part, position) :: model.place.steps }⟩

/-- Whether a model lies directly below another one, in a given part. -/
def liesIn (part : Part) (model owner : Model) : Bool :=
  match model.place.steps with
  | [] => false
  | step :: above => step.1 == part && owner.place == { model.place with steps := above }

/-- The children in one part, each at its place. -/
def children (model : Model) (part : Part) : List Model :=
  (model.node.children part).mapIdx (model.child part)

end Model

end TableScribe
