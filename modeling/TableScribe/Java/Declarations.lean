/-
Java views of classes, interfaces, enums and enum constants.
-/
import TableScribe.Java.Layout

namespace TableScribe.Java

/-- Fields, one to a line, each ended by a semicolon. -/
def fieldLines (model : Model) : ViewM String := do
  let fields ← (model.children .fields).mapM ViewM.render
  return String.intercalate "\n" (fields.map (· ++ ";"))

def requireName (kind : Kind) (name : String) : ViewM Unit :=
  if name.isEmpty then throw (.invalidModel kind "declaration has no name") else pure ()

def memberSection (model : Model) (part : Part) : ViewM String :=
  ViewM.renderAll (model.children part) "\n\n"

/-- `class Name<T> extends Base implements A, B { ... }` -/
def classView : View := fun model => do
  let head ← ViewM.expect .classDecl Node.class? model
  requireName .classDecl head.name
  let before ← preamble model
  let parent ← (model.children .parents).mapM ViewM.render
  let interfaces ← typeClause " implements " (model.children .interfaces)
  let fields ← fieldLines model
  let constructors ← memberSection model .constructors
  let methods ← memberSection model .methods
  let nested ← memberSection model .nested
  return before ++ Modifier.render head.modifiers ++ "class " ++ head.name
    ++ genericList head.generics ++ String.join (parent.map (" extends " ++ ·)) ++ interfaces
    ++ " " ++ body [fields, constructors, methods, nested]

/-- `interface Name<T> extends A, B { ... }` -/
def interfaceView : View := fun model => do
  let head ← ViewM.expect .interfaceDecl Node.interface? model
  requireName .interfaceDecl head.name
  let before ← preamble model
  let parents ← typeClause " extends " (model.children .parents)
  let fields ← fieldLines model
  let methods ← memberSection model .methods
  let nested ← memberSection model .nested
  return before ++ Modifier.render head.modifiers ++ "interface " ++ head.name
    ++ genericList head.generics ++ parents ++ " " ++ body [fields, methods, nested]

/-- The section of the constants of an enum, ended by a semicolon if members
follow it. -/
def constantSection (constants : String) (members : List String) : String :=
  if members.any fun text => !text.isEmpty then constants ++ ";" else constants

/-- `enum Name implements A { CONSTANT, ...; members }` -/
def enumView : View := fun model => do
  let head ← ViewM.expect .enumDecl Node.enum? model
  requireName .enumDecl head.name
  let before ← preamble model
  let interfaces ← typeClause " implements " (model.children .interfaces)
  let fields ← fieldLines model
  let constructors ← memberSection model .constructors
  let methods ← memberSection model .methods
  let nested ← memberSection model .nested
  let constants ← ViewM.renderAll (model.children .constants) ",\n"
  let members := [fields, constructors, methods, nested]
  return before ++ Modifier.render head.modifiers ++ "enum " ++ head.name ++ interfaces ++ " "
    ++ body (constantSection constants members :: members)

/-- `NAME` or `NAME(value, ...)` -/
def constantView : View := fun model => do
  let constant ← ViewM.expect .constant Node.constant? model
  if constant.name.isEmpty then
    throw (.invalidModel .constant "enum constant has no name")
  if constant.values.isEmpty then
    return constant.name
  else
    let values ← ViewM.renderAll (model.children .values) ", "
    return constant.name ++ "(" ++ values ++ ")"

end TableScribe.Java
