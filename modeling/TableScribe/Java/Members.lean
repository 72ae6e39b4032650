/-
Java views of fields and methods.
-/
import TableScribe.Java.Layout
import TableScribe.Java.Scope

namespace TableScribe.Java

/-- Whether a model is one of the parameters of the method being rendered. -/
def isParameter (model : Model) : ViewM Bool := do
  let method ← innermost? .method
  return method.any (model.liesIn .params)

def inlineText (text : String) : String :=
  if text.isEmpty then "" else text ++ " "

/-- `private Type name = value`, without a semicolon.  The annotations of a
parameter stay on its line and its comment is dropped. -/
def fieldView : View := fun model => do
  let field ← ViewM.expect .field Node.field? model
  if field.name.isEmpty then
    throw (.invalidModel .field "field has no name")
  let before ←
    if ← isParameter model then do
      let annotations ← (model.children .annotations).mapM ViewM.render
      pure (String.join (annotations.map inlineText))
    else
      preamble model
  let type ← (model.children .type).mapM ViewM.render
  let value ← (model.children .value).mapM ViewM.render
  return before ++ Modifier.render field.modifiers ++ String.join type ++ " " ++ field.name
    ++ String.join (value.map (" = " ++ ·))

/-- What follows the parameters of a method: its body, or a semicolon. -/
def bodyText : Option (List String) → String
  | none => ";"
  | some lines =>
    if lines.isEmpty then " \x7b\x7d"
    else " \x7b\n" ++ Text.indent (String.intercalate "\n" lines) ++ "\n\x7d"

/-- The return type and the name of a method; a constructor has the name of
the nearest declaration around it and no type. -/
def methodName (method : Method) (model : Model) : ViewM String := do
  if method.isConstructor then
    let owner ← ViewM.lastOfAny Kind.declarations
    return owner.name?.getD ""
  else if method.name.isEmpty then
    throw (.invalidModel .method "method has no name")
  else
    let returns ← (model.children .returns).mapM ViewM.render
    return String.join returns ++ " " ++ method.name

/-- A method or constructor; without a body it is a declaration that ends in
a semicolon. -/
def methodView : View := fun model => do
  let method ← ViewM.expect .method Node.method? model
  let before ← preamble model
  let name ← methodName method model
  let params ← ViewM.renderAll (model.children .params) ", "
  let throws ← typeClause " throws " (model.children .throws)
  return before ++ Modifier.render method.modifiers ++ name ++ "(" ++ params ++ ")" ++ throws
    ++ bodyText method.body

end TableScribe.Java
