/-
Layout shared by the Java views: braced bodies, and the lines that precede a
declaration.
-/
import TableScribe.Render.View
import TableScribe.Text.Indent

namespace TableScribe.Java

/-- A braced body of sections, the non-empty ones separated by blank lines.
Without any it is `{}`. -/
def body (sections : List String) : String :=
  let present := sections.filter fun text => !text.isEmpty
  if present.isEmpty then
    "\x7b\x7d"
  else
    "\x7b\n" ++ Text.indent (String.intercalate "\n\n" present) ++ "\n\x7d"

/-- A text on a line of its own; an empty text takes no line. -/
def ownLine (text : String) : String :=
  if text.isEmpty then "" else text ++ "\n"

/-- The comment and the annotations of a model, each on lines of its own. -/
def preamble (model : Model) : ViewM String := do
  let comments ← (model.children .javadoc).mapM ViewM.render
  let annotations ← (model.children .annotations).mapM ViewM.render
  return String.join ((comments ++ annotations).map ownLine)

def genericList (generics : List String) : String :=
  if generics.isEmpty then "" else "<" ++ String.intercalate ", " generics ++ ">"

/-- A keyword and a list of types after it; nothing without types. -/
def typeClause (keyword : String) (types : List Model) : ViewM String :=
  if types.isEmpty then
    return ""
  else do
    let names ← ViewM.renderAll types ", "
    return keyword ++ names

end TableScribe.Java
