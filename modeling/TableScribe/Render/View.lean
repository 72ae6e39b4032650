/-
Views.  A view turns a model into text and may, on the way, have other models
rendered and ask what is being rendered around it.  It is written as a
program whose only effects are those requests, so it cannot touch the
generator in any other way.
-/
import TableScribe.Model.Node
import TableScribe.Render.Error

namespace TableScribe

/-- What a rendering comes to: text or an error. -/
abbrev Rendered := Except RenderError String

/-- A question about the renderings in progress. -/
inductive Query
  /-- The innermost model of a kind. -/
  | last (kind : Kind)
  /-- The innermost model whose kind is one of several. -/
  | lastOfAny (kinds : List Kind)
  /-- How many renderings of a kind are in progress. -/
  | depth (kind : Kind)
  /-- Whether none is. -/
  | idle

abbrev Query.Answer : Query → Type
  | last _ => Option Model
  | lastOfAny _ => Option Model
  | depth _ => Nat
  | idle => Bool

inductive Call
  /-- Render a model with the view of its kind. -/
  | render (model : Model)
  /-- Run the view of a kind on a model as part of the current rendering. -/
  | view (kind : Kind) (model : Model)

/-- A program that asks questions and requests texts until it is done. -/
inductive Program (α : Type) : Type
  | done (result : α)
  | ask (query : Query) (next : query.Answer → Program α)
  | call (request : Call) (next : Rendered → Program α)

namespace Program

variable {α β : Type}

def bind : Program α → (α → Program β) → Program β
  | done result, next => next result
  | ask query answer, next => ask query fun a => (answer a).bind next
  | call request answer, next => call request fun r => (answer r).bind next

instance : Monad Program where
  pure := done
  bind := bind

end Program

/-- A program that may fail with a render error. -/
abbrev ViewM := ExceptT RenderError Program

/-- A view writes a model as text. -/
abbrev View := Model → ViewM String

namespace ViewM

variable {α : Type}

def ask (query : Query) : ViewM query.Answer :=
  ExceptT.mk (Program.ask query fun answer => .done (.ok answer))

/-- Requests a text; the error of a failed request is this program's. -/
def call (request : Call) : ViewM String :=
  ExceptT.mk (Program.call request .done)

/-- A result that is there without asking or requesting anything. -/
def ofExcept (result : Except RenderError α) : ViewM α := ExceptT.mk (.done result)

/-- Has a model rendered with the view of its kind. -/
def render (model : Model) : ViewM String := call (.render model)

/-- Joins texts with a separator, leaving out the empty ones. -/
def joinNonEmpty (separator : String) (texts : List String) : String :=
  String.intercalate separator (texts.filter fun text => !text.isEmpty)

/-- Has models rendered in order, up to the first failure, and joins what is
not empty. -/
def renderAll (models : List Model) (separator : String) : ViewM String := do
  let texts ← models.mapM render
  return joinNonEmpty separator texts

/-- The innermost model of a kind that is being rendered; in the view of that
kind, the view's own model. -/
def last (kind : Kind) : ViewM Model := do
  match ← ask (.last kind) with
  | some model => return model
  | none => throw (.noAncestor kind)

/-- The innermost model of a kind, once more checked to be of that kind. -/
def lastChecked (kind : Kind) : ViewM Model := do
  let model ← last kind
  if model.kind = kind then
    return model
  else
    throw (.invalidModel kind ("context holds a " ++ model.kind.name ++ " model"))

/-- The innermost model whose kind is listed. -/
def lastOfAny (kinds : List Kind) : ViewM Model := do
  match ← ask (.lastOfAny kinds) with
  | some model => return model
  | none => throw (.noAncestorOfAny kinds)

def depth (kind : Kind) : ViewM Nat := ask (.depth kind)

def isIdle : ViewM Bool := ask .idle

/-- The node of a model as a view of one kind needs it. -/
def expect (kind : Kind) (pick : Node → Option α) (model : Model) : ViewM α :=
  match pick model.node with
  | some node => return node
  | none => throw (.mismatch kind model.kind)

end ViewM

end TableScribe
