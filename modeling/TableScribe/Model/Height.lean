/-
The number of levels of nodes in a tree, which bounds how deep a walk over it
goes.
-/
import TableScribe.Model.Node

namespace TableScribe

def maxHeight (heights : List Nat) : Nat :=
  heights.foldr max 0

/-- An annotation stands above its values. -/
def Annotation.height (mark : Annotation) : Nat :=
  if mark.value.isSome || !mark.params.isEmpty then 2 else 1

def Field.height (field : Field) : Nat :=
  maxHeight (field.type.height :: 1 :: field.annotations.map Annotation.height) + 1

def Method.height (method : Method) : Nat :=
  maxHeight (method.returns.height :: 1 :: method.params.map Field.height
    ++ method.throws.map TypeRef.height ++ method.annotations.map Annotation.height) + 1

def ClassHead.height (head : ClassHead) : Nat :=
  maxHeight (1 :: head.parent.toList.map TypeRef.height ++ head.interfaces.map TypeRef.height
    ++ head.fields.map Field.height ++ head.constructors.map Method.height
    ++ head.methods.map Method.height ++ head.annotations.map Annotation.height)

def InterfaceHead.height (head : InterfaceHead) : Nat :=
  maxHeight (1 :: head.parents.map TypeRef.height ++ head.fields.map Field.height
    ++ head.methods.map Method.height ++ head.annotations.map Annotation.height)

def EnumHead.height (head : EnumHead) : Nat :=
  maxHeight (2 :: head.interfaces.map TypeRef.height ++ head.fields.map Field.height
    ++ head.constructors.map Method.height ++ head.methods.map Method.height
    ++ head.annotations.map Annotation.height)

mutual

/-- A declaration stands above what its head holds and above the declarations
nested in it. -/
def Declaration.height : Declaration → Nat
  | .ofClass head nested => max head.height (Declaration.heightAll nested) + 1
  | .ofInterface head nested => max head.height (Declaration.heightAll nested) + 1
  | .ofEnum head nested => max head.height (Declaration.heightAll nested) + 1

def Declaration.heightAll : List Declaration → Nat
  | [] => 0
  | declaration :: rest => max declaration.height (Declaration.heightAll rest)

end

/-- A bound on the number of levels of nodes, the node itself included. -/
def Node.height : Node → Nat
  | .file node => max 1 (Declaration.heightAll node.declarations) + 1
  | .importLine _ => 1
  | .declaration node => node.height
  | .constant _ => 2
  | .annotationUse node => node.height
  | .javadoc _ => 1
  | .field node => node.height
  | .method node => node.height
  | .typeRef node => node.height
  | .value _ => 1

end TableScribe
