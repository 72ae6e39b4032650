/-
Java views of the small pieces: annotations, comments, types and values.
-/
import TableScribe.Java.Comment
import TableScribe.Java.Literal
import TableScribe.Java.Scope

namespace TableScribe.Java

def annotationText (name : String) (arguments : List String) : String :=
  if arguments.isEmpty then "@" ++ name
  else "@" ++ name ++ "(" ++ String.intercalate ", " arguments ++ ")"

def namedArgument (param : String × Value) (value : String) : String :=
  param.1 ++ " = " ++ value

/-- `@Name`, `@Name(value)` or `@Name(key = value, ...)`; next to named values
the unnamed one is called `value`. -/
def annotationView : View := fun model => do
  let annotation ← ViewM.expect .annotationUse Node.annotationUse? model
  let name ← visibleName annotation.name
  if name.isEmpty then
    throw (.invalidModel .annotationUse "annotation has no name")
  let unnamed ← (model.children .value).mapM ViewM.render
  let values ← (model.children .params).mapM ViewM.render
  let first := if annotation.params.isEmpty then unnamed else unnamed.map ("value = " ++ ·)
  let named := List.zipWith namedArgument annotation.params values
  return annotationText name (first ++ named)

def javadocView : View := fun model => do
  let javadoc ← ViewM.expect .javadoc Node.javadoc? model
  return String.ofList (comment javadoc)

def brackets (dims : Nat) : String :=
  String.join (List.replicate dims "[]")

/-- The visible name of a type, its arguments and its array brackets. -/
def typeView : View := fun model => do
  let type ← ViewM.expect .typeRef Node.typeRef? model
  if type.name.isEmpty then
    throw (.invalidModel .typeRef "type has no name")
  let name ← visibleName type.name
  if type.generics.isEmpty then
    return name ++ brackets type.dims
  else
    let arguments ← ViewM.renderAll (model.children .generics) ", "
    return name ++ "<" ++ arguments ++ ">" ++ brackets type.dims

def valueView : View := fun model => do
  let value ← ViewM.expect .value Node.value? model
  ViewM.ofExcept (literal value)

end TableScribe.Java
