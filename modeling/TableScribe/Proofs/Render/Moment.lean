/-
A run of the engine, one step at a time.  A moment holds the program in
control and everything that waits for it, so each state that the generator
passes through belongs to a moment, whether or not the run ever ends.
-/
import Mathlib.Logic.Relation
import TableScribe.Render.Generator

namespace TableScribe

/-- A view at work on a model. -/
structure Activation where
  /-- The kind whose view it is. -/
  kind : Kind
  model : Model
  /-- Whether the view was called to render the model; a view that another
  one calls directly has no rendering of its own. -/
  renders : Bool

/-- What goes on with the text of a request: the program around all views, or
a view, which in turn has something that waits for its own text. -/
inductive Waiting (α : Type)
  | caller (next : Rendered → Program α)
  | view (activation : Activation) (next : Rendered → Program Rendered) (below : Waiting α)

/-- A moment of a run: control is outside all views, or in a view. -/
inductive Moment (α : Type)
  | outside (program : Program α) (generator : Generator)
  | inside (activation : Activation) (program : Program Rendered) (waiting : Waiting α)
      (generator : Generator)

variable {α : Type}

/-- The generator once a view has returned. -/
def Activation.close (activation : Activation) (generator : Generator) : Generator :=
  if activation.renders then generator.leave activation.model.kind else generator

/-- The moment at which a text, or the error in its place, is handed over. -/
def Waiting.resume : Waiting α → Rendered → Generator → Moment α
  | caller next, rendered, generator => .outside (next rendered) generator
  | view activation next below, rendered, generator =>
    .inside activation (next rendered) below generator

namespace Moment

/-- The moment right after a request was made. -/
def request (waiting : Waiting α) (generator : Generator) : Call → Moment α
  | .render model =>
    match generator.registry.get? model.kind with
    | none => waiting.resume (.error (.dispatch model.kind)) generator
    | some view =>
      .inside ⟨model.kind, model, true⟩ (view model).run waiting (generator.enter model)
  | .view kind model =>
    match generator.registry.get? kind with
    | none => waiting.resume (.error (.dispatch kind)) generator
    | some view => .inside ⟨kind, model, false⟩ (view model).run waiting generator

/-- The next moment; there is none once the program around all views is
done. -/
def next? : Moment α → Option (Moment α)
  | outside (.done _) _ => none
  | outside (.ask query next) generator =>
    some (outside (next (generator.answer query)) generator)
  | outside (.call call next) generator => some (request (.caller next) generator call)
  | inside activation (.done rendered) waiting generator =>
    some (waiting.resume rendered (activation.close generator))
  | inside activation (.ask query next) waiting generator =>
    some (inside activation (next (generator.answer query)) waiting generator)
  | inside activation (.call call next) waiting generator =>
    some (request (.view activation next waiting) generator call)

def generator : Moment α → Generator
  | outside _ generator => generator
  | inside _ _ _ generator => generator

/-- One moment is the next one after another. -/
def Step (first second : Moment α) : Prop := first.next? = some second

/-- What one step can do, by the program in control. -/
inductive Turns : Moment α → Moment α → Prop
  | askOutside (query : Query) (next : query.Answer → Program α) (generator : Generator) :
      Turns (outside (.ask query next) generator)
        (outside (next (generator.answer query)) generator)
  | callOutside (call : Call) (next : Rendered → Program α) (generator : Generator) :
      Turns (outside (.call call next) generator) (request (.caller next) generator call)
  | doneInside (activation : Activation) (rendered : Rendered) (waiting : Waiting α)
      (generator : Generator) :
      Turns (inside activation (.done rendered) waiting generator)
        (waiting.resume rendered (activation.close generator))
  | askInside (activation : Activation) (query : Query) (next : query.Answer → Program Rendered)
      (waiting : Waiting α) (generator : Generator) :
      Turns (inside activation (.ask query next) waiting generator)
        (inside activation (next (generator.answer query)) waiting generator)
  | callInside (activation : Activation) (call : Call) (next : Rendered → Program Rendered)
      (waiting : Waiting α) (generator : Generator) :
      Turns (inside activation (.call call next) waiting generator)
        (request (.view activation next waiting) generator call)

/-- There are no other steps. -/
theorem turns_of_step {first second : Moment α} (hstep : Step first second) :
    Turns first second := by
  cases first with
  | outside program generator =>
      cases program with
      | done result => exact nomatch hstep
      | ask query next => exact Option.some.inj hstep ▸ .askOutside query next generator
      | call call next => exact Option.some.inj hstep ▸ .callOutside call next generator
  | inside activation program waiting generator =>
      cases program with
      | done rendered =>
          exact Option.some.inj hstep ▸ .doneInside activation rendered waiting generator
      | ask query next =>
          exact Option.some.inj hstep ▸ .askInside activation query next waiting generator
      | call call next =>
          exact Option.some.inj hstep ▸ .callInside activation call next waiting generator

/-- One moment comes later in a run than another, or is the same. -/
def Leads : Moment α → Moment α → Prop := Relation.ReflTransGen Step

/-- The first moment of the run of a program with a new generator. -/
def start (registry : Registry) (program : Program α) : Moment α :=
  outside program (Generator.new registry)

/-- The moments of the run of a program with a new generator.  If the program is
carried out, these are the moments from its first to its result,
`Moment.exists_passage_of_run`. -/
def Reached (registry : Registry) (program : Program α) (moment : Moment α) : Prop :=
  Leads (start registry program) moment

/-- The moment a number of steps later, or the last one if the run is over
before. -/
def after (moment : Moment α) : Nat → Moment α
  | 0 => moment
  | steps + 1 =>
    match moment.next? with
    | some next => next.after steps
    | none => moment

theorem leads_after (moment : Moment α) (steps : Nat) : Leads moment (moment.after steps) := by
  induction steps generalizing moment with
  | zero => exact Relation.ReflTransGen.refl
  | succ steps ih =>
      simp only [after]
      cases hnext : moment.next? with
      | none => exact Relation.ReflTransGen.refl
      | some next => exact Relation.ReflTransGen.head hnext (ih next)

end Moment

end TableScribe
