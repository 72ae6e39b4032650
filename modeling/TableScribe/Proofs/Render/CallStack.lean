/-
The stack of the renderings in progress.  It is read off a moment, and at every
moment of a run the generator is the one in which exactly these renderings
have begun; the contexts of the kinds are its projections.
-/
import TableScribe.Proofs.Render.Returning

namespace TableScribe

variable {α : Type}

/-- What is being rendered by a view: its model, or nothing if the view was
called directly. -/
def Activation.opened (activation : Activation) : List Model :=
  if activation.renders then [activation.model] else []

/-- The models being rendered by the views that wait, innermost first. -/
def Waiting.stack : Waiting α → List Model
  | caller _ => []
  | view activation _ below => activation.opened ++ below.stack

/-- The models being rendered at a moment, innermost first. -/
def Moment.stack : Moment α → List Model
  | outside _ _ => []
  | inside activation _ waiting _ => activation.opened ++ waiting.stack

namespace Generator

/-- The generator with renderings begun, those later in the list first. -/
def enterAll (generator : Generator) (models : List Model) : Generator :=
  models.foldr (fun model inner => inner.enter model) generator

/-- The end of a rendering undoes its beginning. -/
@[simp] theorem leave_enter (generator : Generator) (model : Model) :
    (generator.enter model).leave model.kind = generator := by
  simp [enter, leave, PerKind.get_set]

@[simp] theorem enterAll_nil (generator : Generator) : generator.enterAll [] = generator := rfl

@[simp] theorem enterAll_cons (generator : Generator) (model : Model) (models : List Model) :
    generator.enterAll (model :: models) = (generator.enterAll models).enter model := rfl

end Generator

theorem Activation.close_enterAll (activation : Activation) (base : Generator)
    (below : List Model) :
    activation.close (base.enterAll (activation.opened ++ below)) = base.enterAll below := by
  cases hrenders : activation.renders with
  | false => simp [close, opened, hrenders]
  | true => simp [close, opened, hrenders]

namespace Moment

/-- The generator of a moment is a given one with the renderings of the
moment begun. -/
def Rests (base : Generator) (moment : Moment α) : Prop :=
  moment.generator = base.enterAll moment.stack

theorem rests_resume {base : Generator} (waiting : Waiting α) (rendered : Rendered) :
    (waiting.resume rendered (base.enterAll waiting.stack)).Rests base := by
  cases waiting <;> rfl

theorem rests_request {base : Generator} (waiting : Waiting α) (call : Call) :
    (request waiting (base.enterAll waiting.stack) call).Rests base := by
  cases call with
  | render model =>
      simp only [request]
      split
      · exact rests_resume waiting _
      · rfl
  | view kind model =>
      simp only [request]
      split
      · exact rests_resume waiting _
      · rfl

/-- A step begins or ends a rendering in the generator just as it does in the
stack. -/
theorem rests_of_step {base : Generator} {first second : Moment α} (hstep : Step first second)
    (hrests : first.Rests base) : second.Rests base := by
  cases turns_of_step hstep with
  | askOutside query next generator => exact hrests
  | callOutside call next generator =>
      obtain rfl : generator = base.enterAll [] := hrests
      exact rests_request (.caller next) call
  | doneInside activation rendered waiting generator =>
      obtain rfl : generator = base.enterAll (activation.opened ++ waiting.stack) := hrests
      rw [Activation.close_enterAll]
      exact rests_resume waiting rendered
  | askInside activation query next waiting generator => exact hrests
  | callInside activation call next waiting generator =>
      obtain rfl : generator = base.enterAll (activation.opened ++ waiting.stack) := hrests
      exact rests_request (.view activation next waiting) call

/-- What holds of the generator of one moment holds of all later ones. -/
theorem rests_of_leads {base : Generator} {first last : Moment α} (hleads : Leads first last)
    (hrests : first.Rests base) : last.Rests base := by
  induction hleads with
  | refl => exact hrests
  | tail _ hstep ih => exact rests_of_step hstep ih

/-- At every moment of a run with a new generator, the generator is the new one
with the renderings of the moment begun. -/
theorem generator_of_reached {registry : Registry} {program : Program α} {moment : Moment α}
    (hreached : Reached registry program moment) :
    moment.generator = (Generator.new registry).enterAll moment.stack :=
  rests_of_leads hreached rfl

end Moment

namespace Generator

/-- A program that is carried out leaves the generator as it was, whatever it
comes to. -/
theorem run_restores {limit : Nat} {program : Program α} {generator after : Generator}
    {result : α} (hrun : program.run (carryOut limit) generator = some (result, after)) :
    after = generator :=
  Moment.rests_of_leads (Moment.leads_outside hrun) rfl

/-- Carrying out a request leaves the generator as it was. -/
theorem carryOut_restores {limit : Nat} {call : Call} {generator after : Generator}
    {rendered : Rendered} (hcall : carryOut limit call generator = some (rendered, after)) :
    after = generator := by
  have hrun : (Program.call call .done).run (carryOut limit) generator =
      some (rendered, after) := by
    simp only [Program.run, hcall]
  exact run_restores hrun

theorem perform_restores {generator after : Generator} {models : List Model}
    {program : ViewM α} {result : Except RenderError α}
    (hperform : generator.perform models program = some (result, after)) :
    after = generator :=
  run_restores hperform

end Generator

end TableScribe
