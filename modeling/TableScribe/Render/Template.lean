/-
Templates: views written as data.  A template is a sequence of snippets, each
of which appends a text; the error of the first snippet that fails is the
view's error, unless the snippet stands in an attempt.
-/
import TableScribe.Document.Naming
import TableScribe.Java.Views

namespace TableScribe

/-- One step of a template. -/
inductive Snippet
  | text (content : String)
  /-- The children in a part, rendered and joined. -/
  | each (part : Part) (separator : String)
  /-- The name of the model. -/
  | name
  /-- The kind of the model. -/
  | kind
  /-- How many renderings of a kind are in progress. -/
  | depth (kind : Kind)
  /-- Whether no rendering is in progress. -/
  | idle
  /-- The name of the innermost model of a kind. -/
  | last (kind : Kind)
  /-- The same, with the kind of that model checked once more. -/
  | lastChecked (kind : Kind)
  /-- Whether the innermost model of a kind is the model itself. -/
  | same (kind : Kind)
  /-- The name of the innermost model of several kinds. -/
  | lastOfAny (kinds : List Kind)
  /-- Nothing, but the model has to be of a kind. -/
  | require (kind : Kind)
  /-- The Java view of a kind on the model. -/
  | java (kind : Kind)
  /-- The registered view of a kind on the model. -/
  | registered (kind : Kind)
  /-- The model rendered once more, unless so many renderings of its kind are
  in progress. -/
  | again (limit : Nat)
  /-- The name of the model as an identifier of a dialect. -/
  | dialect (name : String)
  /-- A failure with a given reason. -/
  | fail (reason : String)

/-- A sequence of snippets and attempts. -/
inductive Template
  | done
  | snippet (first : Snippet) (rest : Template)
  /-- A part whose failure is shown between angle brackets and followed by
  another part in its place. -/
  | attempt (body : Template) (otherwise : Template) (rest : Template)

def Model.shownName (model : Model) : String := model.name?.getD "<none>"

def boolWord (flag : Bool) : String := if flag then "true" else "false"

def Snippet.view : Snippet → View
  | text content, _ => return content
  | each part separator, model => ViewM.renderAll (model.children part) separator
  | name, model => return model.shownName
  | kind, model => return model.kind.name
  | depth wanted, _ => do
    let count ← ViewM.depth wanted
    return toString count
  | idle, _ => do
    let flag ← ViewM.isIdle
    return boolWord flag
  | last wanted, _ => do
    let found ← ViewM.last wanted
    return found.shownName
  | lastChecked wanted, _ => do
    let found ← ViewM.lastChecked wanted
    return found.shownName
  | same wanted, model => do
    let found ← ViewM.last wanted
    return boolWord (found.sameNode model)
  | lastOfAny wanted, _ => do
    let found ← ViewM.lastOfAny wanted
    return found.shownName
  | require wanted, model =>
    if model.kind = wanted then return "" else throw (.mismatch wanted model.kind)
  | java wanted, model => Java.view wanted model
  | registered wanted, model => ViewM.call (.view wanted model)
  | again limit, model => do
    let count ← ViewM.depth model.kind
    if count < limit then ViewM.render model else return ""
  | dialect dialectName, model =>
    match NamingConvention.ofDialect dialectName with
    | .ok convention => return convention.encloseField model.shownName
    | .error error => throw (.naming error.message)
  | fail reason, model => throw (.invalidModel model.kind reason)

/-- Appends the texts of a template to a text. -/
def Template.append (model : Model) : Template → String → ViewM String
  | done, text => return text
  | snippet first rest, text => do
    let piece ← first.view model
    rest.append model (text ++ piece)
  | attempt body otherwise rest, text => do
    let piece ← tryCatch (body.append model "") fun error =>
      otherwise.append model ("<" ++ error.message ++ ">")
    rest.append model (text ++ piece)

/-- The view that a template describes. -/
def Template.view (template : Template) : View := fun model => template.append model ""

end TableScribe
