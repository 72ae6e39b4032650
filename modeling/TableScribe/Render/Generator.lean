/-
The rendering engine.  While a view runs on a model, the model lies on top of
the context of its kind, so views inside it find the nearest enclosing node of
any kind without being handed it.
-/
import TableScribe.Model.Height
import TableScribe.Render.Context
import TableScribe.Render.Registry

namespace TableScribe

/-- A registry and the renderings in progress, each in the context of its
kind. -/
structure Generator where
  registry : Registry
  contexts : PerKind Context
  active : Nat

namespace Generator

variable {α : Type}

/-- A generator at rest. -/
def new (registry : Registry) : Generator := ⟨registry, PerKind.fill .empty, 0⟩

def kindCount (generator : Generator) : Nat := generator.contexts.slots.size

def top? (generator : Generator) (kind : Kind) : Option Entry :=
  (generator.contexts.get kind).top?

def depth (generator : Generator) (kind : Kind) : Nat :=
  (generator.contexts.get kind).size

def isIdle (generator : Generator) : Bool :=
  Kind.all.all fun kind => (generator.contexts.get kind).isEmpty

/-- The later of two renderings; the second one if they began together. -/
def laterOf (best : Option Entry) (entry : Entry) : Option Entry :=
  match best with
  | none => some entry
  | some other => if other.depth ≤ entry.depth then some entry else some other

/-- The innermost rendering whose kind is listed: of the tops of the contexts
the one that began last. -/
def topOfAny? (generator : Generator) (kinds : List Kind) : Option Entry :=
  (kinds.filterMap generator.top?).foldl laterOf none

def answer (generator : Generator) : (query : Query) → query.Answer
  | .last kind => (generator.top? kind).map Entry.model
  | .lastOfAny kinds => (generator.topOfAny? kinds).map Entry.model
  | .depth kind => generator.depth kind
  | .idle => generator.isIdle

/-- The generator with a rendering begun. -/
def enter (generator : Generator) (model : Model) : Generator :=
  let active := generator.active + 1
  let context := (generator.contexts.get model.kind).push ⟨model, active⟩
  { generator with contexts := generator.contexts.set model.kind context, active }

/-- The generator with the innermost rendering of a kind ended. -/
def leave (generator : Generator) (kind : Kind) : Generator :=
  { generator with
    contexts := generator.contexts.set kind (generator.contexts.get kind).pop
    active := generator.active - 1 }

end Generator

/-- Runs a program from a state of the generator, given how requests are
carried out.  There is no result if some request has none. -/
def Program.run {α : Type} (carryOut : Call → Generator → Option (Rendered × Generator)) :
    Program α → Generator → Option (α × Generator)
  | .done result, generator => some (result, generator)
  | .ask query next, generator => (next (generator.answer query)).run carryOut generator
  | .call request next, generator =>
    match carryOut request generator with
    | some (rendered, after) => (next rendered).run carryOut after
    | none => none

namespace Generator

variable {α : Type}

/-- Carries out a request, following requests nested less than `limit` deep.
There is no result if they nest deeper, as those of a view that renders its
own model without end. -/
def carryOut : Nat → Call → Generator → Option (Rendered × Generator)
  | 0, _, _ => none
  | limit + 1, .render model, generator =>
    match generator.registry.get? model.kind with
    | none => some (.error (.dispatch model.kind), generator)
    | some view =>
      match (view model).run.run (carryOut limit) (generator.enter model) with
      | some (rendered, after) => some (rendered, after.leave model.kind)
      | none => none
  | limit + 1, .view kind model, generator =>
    match generator.registry.get? kind with
    | none => some (.error (.dispatch kind), generator)
    | some view => (view model).run.run (carryOut limit) generator

/-- How much deeper than the tree itself requests may nest: deeper than they
can without running out of memory. -/
def headroom : Nat := 0x100000000

/-- Runs a program that works on some models. -/
def perform (generator : Generator) (models : List Model) (program : ViewM α) :
    Option (Except RenderError α × Generator) :=
  let limit := maxHeight (models.map fun model => model.node.height) + headroom
  program.run.run (carryOut limit) generator

def render (generator : Generator) (model : Model) : Option (Rendered × Generator) :=
  generator.perform [model] (ViewM.render model)

/-- Renders models in order and joins what is not empty. -/
def renderAll (generator : Generator) (models : List Model) (separator : String) :
    Option (Rendered × Generator) :=
  generator.perform models (ViewM.renderAll models separator)

end Generator

end TableScribe
