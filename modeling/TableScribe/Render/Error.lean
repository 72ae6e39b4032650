/-
Why a model is not rendered.
-/
import TableScribe.Model.Kind

namespace TableScribe

inductive RenderError
  /-- No view is registered for a kind. -/
  | dispatch (kind : Kind)
  /-- No model of a kind is being rendered. -/
  | noAncestor (kind : Kind)
  /-- No model of any of some kinds is being rendered. -/
  | noAncestorOfAny (kinds : List Kind)
  /-- A model cannot be written. -/
  | invalidModel (kind : Kind) (reason : String)
  /-- A database name cannot be formed. -/
  | naming (reason : String)
deriving DecidableEq, Repr

namespace RenderError

/-- A view made for one kind was handed a model of another. -/
def mismatch (expected actual : Kind) : RenderError :=
  .invalidModel actual ("view for " ++ expected.name ++ " received a " ++ actual.name ++ " model")

def message : RenderError → String
  | dispatch kind => "no view registered for " ++ kind.name ++ " models"
  | noAncestor kind => "no " ++ kind.name ++ " is being rendered"
  | noAncestorOfAny kinds => "no " ++ Kind.nameList kinds ++ " is being rendered"
  | invalidModel kind reason => "invalid " ++ kind.name ++ " model: " ++ reason
  | naming reason => "naming error: " ++ reason

end RenderError

end TableScribe
